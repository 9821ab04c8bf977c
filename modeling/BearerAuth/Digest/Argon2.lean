import BearerAuth.Digest.Blake2b

/-! # Argon2

A password hash that has to fill a memory of blocks of 1024 bytes. The memory is a number of lanes;
each new block of a lane is mixed from the block before it and an earlier block, chosen by the data
(`d`), independently of it (`i`), or first the one and then the other (`id`).
-/

namespace BearerAuth.Digest.Argon2

/-- How earlier blocks are chosen. -/
inductive Variant where
  | d
  | i
  | id
deriving DecidableEq, Repr

/-- The number by which a variant enters the hash. -/
def Variant.code : Variant → Nat
  | d => 0
  | i => 1
  | id => 2

/-- What a hash is computed with: memory in blocks, passes over it, lanes, the version, and data
that is hashed along. -/
structure Params where
  variant : Variant
  version : Nat
  memory : Nat
  passes : Nat
  lanes : Nat
  data : List UInt8
deriving DecidableEq, Repr

/-- A block of memory: eight rows of sixteen words. -/
structure Block where
  r0 : Square
  r1 : Square
  r2 : Square
  r3 : Square
  r4 : Square
  r5 : Square
  r6 : Square
  r7 : Square
deriving Inhabited

/-- The sum of two words and twice the product of their lower halves. -/
@[inline] def blend (a b : UInt64) : UInt64 := a + b + 2 * ((a &&& 0xffffffff) * (b &&& 0xffffffff))

/-- Mixes four words; no message enters. -/
@[inline] def mix (a b c d _x _y : UInt64)
    (next : UInt64 → UInt64 → UInt64 → UInt64 → Square) : Square :=
  let a := blend a b
  let d := rotateRight64 (d ^^^ a) 32
  let c := blend c d
  let b := rotateRight64 (b ^^^ c) 24
  let a := blend a b
  let d := rotateRight64 (d ^^^ a) 16
  let c := blend c d
  let b := rotateRight64 (b ^^^ c) 63
  next a b c d

/-- Mixes one row or one column. -/
def permute (s : Square) : Square := s.mixAll mix s

/-- Word by word exclusive or. -/
def xorSquare (s t : Square) : Square :=
  ⟨s.w0 ^^^ t.w0, s.w1 ^^^ t.w1, s.w2 ^^^ t.w2, s.w3 ^^^ t.w3,
    s.w4 ^^^ t.w4, s.w5 ^^^ t.w5, s.w6 ^^^ t.w6, s.w7 ^^^ t.w7,
    s.w8 ^^^ t.w8, s.w9 ^^^ t.w9, s.w10 ^^^ t.w10, s.w11 ^^^ t.w11,
    s.w12 ^^^ t.w12, s.w13 ^^^ t.w13, s.w14 ^^^ t.w14, s.w15 ^^^ t.w15⟩

namespace Block

/-- The block of zeros. -/
def zero : Block :=
  let row : Square := ⟨0, 0, 0, 0, 0, 0, 0, 0, 0, 0, 0, 0, 0, 0, 0, 0⟩
  ⟨row, row, row, row, row, row, row, row⟩

def xor (a b : Block) : Block :=
  ⟨xorSquare a.r0 b.r0, xorSquare a.r1 b.r1, xorSquare a.r2 b.r2, xorSquare a.r3 b.r3,
    xorSquare a.r4 b.r4, xorSquare a.r5 b.r5, xorSquare a.r6 b.r6, xorSquare a.r7 b.r7⟩

/-- Applies a function to each row. -/
@[inline] def mapRows (f : Square → Square) (b : Block) : Block :=
  ⟨f b.r0, f b.r1, f b.r2, f b.r3, f b.r4, f b.r5, f b.r6, f b.r7⟩

/-- Columns two words wide become rows, and rows become columns. -/
def transpose (b : Block) : Block :=
  ⟨⟨b.r0.w0, b.r0.w1, b.r1.w0, b.r1.w1, b.r2.w0, b.r2.w1, b.r3.w0, b.r3.w1,
      b.r4.w0, b.r4.w1, b.r5.w0, b.r5.w1, b.r6.w0, b.r6.w1, b.r7.w0, b.r7.w1⟩,
    ⟨b.r0.w2, b.r0.w3, b.r1.w2, b.r1.w3, b.r2.w2, b.r2.w3, b.r3.w2, b.r3.w3,
      b.r4.w2, b.r4.w3, b.r5.w2, b.r5.w3, b.r6.w2, b.r6.w3, b.r7.w2, b.r7.w3⟩,
    ⟨b.r0.w4, b.r0.w5, b.r1.w4, b.r1.w5, b.r2.w4, b.r2.w5, b.r3.w4, b.r3.w5,
      b.r4.w4, b.r4.w5, b.r5.w4, b.r5.w5, b.r6.w4, b.r6.w5, b.r7.w4, b.r7.w5⟩,
    ⟨b.r0.w6, b.r0.w7, b.r1.w6, b.r1.w7, b.r2.w6, b.r2.w7, b.r3.w6, b.r3.w7,
      b.r4.w6, b.r4.w7, b.r5.w6, b.r5.w7, b.r6.w6, b.r6.w7, b.r7.w6, b.r7.w7⟩,
    ⟨b.r0.w8, b.r0.w9, b.r1.w8, b.r1.w9, b.r2.w8, b.r2.w9, b.r3.w8, b.r3.w9,
      b.r4.w8, b.r4.w9, b.r5.w8, b.r5.w9, b.r6.w8, b.r6.w9, b.r7.w8, b.r7.w9⟩,
    ⟨b.r0.w10, b.r0.w11, b.r1.w10, b.r1.w11, b.r2.w10, b.r2.w11, b.r3.w10, b.r3.w11,
      b.r4.w10, b.r4.w11, b.r5.w10, b.r5.w11, b.r6.w10, b.r6.w11, b.r7.w10, b.r7.w11⟩,
    ⟨b.r0.w12, b.r0.w13, b.r1.w12, b.r1.w13, b.r2.w12, b.r2.w13, b.r3.w12, b.r3.w13,
      b.r4.w12, b.r4.w13, b.r5.w12, b.r5.w13, b.r6.w12, b.r6.w13, b.r7.w12, b.r7.w13⟩,
    ⟨b.r0.w14, b.r0.w15, b.r1.w14, b.r1.w15, b.r2.w14, b.r2.w15, b.r3.w14, b.r3.w15,
      b.r4.w14, b.r4.w15, b.r5.w14, b.r5.w15, b.r6.w14, b.r6.w15, b.r7.w14, b.r7.w15⟩⟩

/-- The words in order. -/
def toList (b : Block) : List UInt64 :=
  [b.r0, b.r1, b.r2, b.r3, b.r4, b.r5, b.r6, b.r7].flatMap Square.toList

/-- The block of 1024 bytes. -/
def ofBytes (bytes : List UInt8) : Block :=
  let row (i : Nat) : Square := Square.ofBytes (bytes.drop (128 * i))
  ⟨row 0, row 1, row 2, row 3, row 4, row 5, row 6, row 7⟩

/-- The 1024 bytes of the block. -/
def toBytes (b : Block) : List UInt8 := b.toList.flatMap bytesOfWord

/-- Mixes two blocks: the rows and then the columns of their difference, which is added again. -/
def compress (a b : Block) : Block :=
  let difference := a.xor b
  let mixed := ((difference.mapRows permute).transpose.mapRows permute).transpose
  mixed.xor difference

end Block

/-- The four little-endian bytes of a number. -/
def le32 (n : Nat) : List UInt8 :=
  [UInt8.ofNat n, UInt8.ofNat (n / 256), UInt8.ofNat (n / 65536), UInt8.ofNat (n / 16777216)]

/-- Bytes behind their length. -/
def sized (bytes : List UInt8) : List UInt8 := le32 bytes.length ++ bytes

/-- Half of each 64-byte hash in a chain of them, and the last hash as a whole. -/
def stretch (remaining : Nat) (previous : List UInt8) : Nat → List UInt8
  | 0 => []
  | fuel + 1 =>
    if remaining ≤ 64 then Blake2b.hash remaining previous
    else
      let next := Blake2b.hash 64 previous
      next.take 32 ++ stretch (remaining - 32) next fuel

/-- A hash of any length. -/
def longHash (length : Nat) (message : List UInt8) : List UInt8 :=
  let message := le32 length ++ message
  if length ≤ 64 then Blake2b.hash length message
  else
    let first := Blake2b.hash 64 message
    first.take 32 ++ stretch (length - 32) first length

/-- The shape of the memory: blocks per lane come in four slices. -/
structure Layout where
  lanes : Nat
  segment : Nat

def Layout.ofParams (p : Params) : Layout := ⟨p.lanes, p.memory / (4 * p.lanes)⟩

/-- Blocks per lane. -/
def Layout.lane (l : Layout) : Nat := 4 * l.segment

/-- All blocks. -/
def Layout.total (l : Layout) : Nat := l.lanes * l.lane

/-- Where a block is made: the pass, the slice, the lane and the place within the slice. -/
structure Place where
  pass : Nat
  slice : Nat
  lane : Nat
  index : Nat

/-- The earlier blocks are chosen without looking at the data. -/
def dataIndependent (v : Variant) (pass slice : Nat) : Bool :=
  match v with
  | .d => false
  | .i => true
  | .id => pass = 0 && slice < 2

/-- How many blocks of a lane may be chosen at a place. -/
def candidates (l : Layout) (at_ : Place) (sameLane : Bool) : Nat :=
  let finished := if at_.pass = 0 then at_.slice * l.segment else l.lane - l.segment
  if sameLane then finished + at_.index - 1
  else if at_.index = 0 then finished - 1
  else finished

/-- The position in the memory of the earlier block that a 64-bit choice stands for. -/
def chosen (l : Layout) (at_ : Place) (choice : UInt64) : Nat :=
  let low := (choice &&& 0xffffffff).toNat
  let high := (choice >>> 32).toNat
  let lane := if at_.pass = 0 ∧ at_.slice = 0 then at_.lane else high % l.lanes
  let count := candidates l at_ (lane = at_.lane)
  let back := count * (low * low / 4294967296) / 4294967296
  let start := if at_.pass = 0 ∨ at_.slice = 3 then 0 else (at_.slice + 1) * l.segment
  lane * l.lane + (start + (count - 1 - back)) % l.lane

/-- A block of 128 choices, for the places that are chosen for without looking at the data. -/
def choices (p : Params) (l : Layout) (at_ : Place) (counter : Nat) : Array UInt64 :=
  let words : Square :=
    ⟨UInt64.ofNat at_.pass, UInt64.ofNat at_.lane, UInt64.ofNat at_.slice, UInt64.ofNat l.total,
      UInt64.ofNat p.passes, UInt64.ofNat p.variant.code, UInt64.ofNat counter, 0,
      0, 0, 0, 0, 0, 0, 0, 0⟩
  let input := { Block.zero with r0 := words }
  (Block.compress .zero (Block.compress .zero input)).toList.toArray

/-- Makes the block at a place from the block before it and a chosen one. -/
def fillBlock (p : Params) (l : Layout) (memory : Array Block) (at_ : Place)
    (given : Option UInt64) : Array Block :=
  let column := at_.slice * l.segment + at_.index
  let position := at_.lane * l.lane + column
  let before := at_.lane * l.lane + (if column = 0 then l.lane - 1 else column - 1)
  let previous := memory.getD before .zero
  let choice := match given with
    | some choice => choice
    | none => previous.r0.w0
  let mixed := Block.compress previous (memory.getD (chosen l at_ choice) .zero)
  if at_.pass = 0 ∨ p.version = 16 then memory.setIfInBounds position mixed
  else memory.setIfInBounds position (mixed.xor (memory.getD position .zero))

/-- Makes the blocks of one slice of one lane from `index` on; `addresses` are the choices for the
current 128 places. -/
def fillSegment (p : Params) (l : Layout) (pass slice lane : Nat) (independent : Bool)
    (memory : Array Block) (addresses : Array UInt64) (index : Nat) : Nat → Array Block
  | 0 => memory
  | left + 1 =>
    let at_ : Place := ⟨pass, slice, lane, index⟩
    let addresses :=
      if independent && (index % 128 = 0 || addresses.isEmpty) then
        choices p l at_ (index / 128 + 1)
      else addresses
    let given := if independent then some (addresses.getD (index % 128) 0) else none
    fillSegment p l pass slice lane independent (fillBlock p l memory at_ given) addresses
      (index + 1) left

/-- Makes the whole memory, pass by pass, slice by slice and lane by lane. -/
def fill (p : Params) (l : Layout) (memory : Array Block) : Array Block :=
  (List.range p.passes).foldl (fun memory pass =>
    (List.range 4).foldl (fun memory slice =>
      (List.range l.lanes).foldl (fun memory lane =>
        let first := if pass = 0 ∧ slice = 0 then 2 else 0
        fillSegment p l pass slice lane (dataIndependent p.variant pass slice) memory #[] first
          (l.segment - first)) memory) memory) memory

/-- The 64 bytes from which the first blocks of all lanes are made. -/
def seed (p : Params) (length : Nat) (password salt : List UInt8) : List UInt8 :=
  Blake2b.hash 64 (le32 p.lanes ++ le32 length ++ le32 p.memory ++ le32 p.passes ++
    le32 p.version ++ le32 p.variant.code ++ sized password ++ sized salt ++ sized [] ++
    sized p.data)

/-- The memory with the first two blocks of each lane made. -/
def start (l : Layout) (seed : List UInt8) : Array Block :=
  (List.range l.lanes).foldl (fun memory lane =>
    let block (i : Nat) : Block := .ofBytes (longHash 1024 (seed ++ le32 i ++ le32 lane))
    (memory.setIfInBounds (lane * l.lane) (block 0)).setIfInBounds (lane * l.lane + 1) (block 1))
    (Array.replicate l.total .zero)

/-- The hash of a password with a salt, in the given number of bytes. -/
def hash (p : Params) (length : Nat) (password salt : List UInt8) : List UInt8 :=
  let l := Layout.ofParams p
  let memory := fill p l (start l (seed p length password salt))
  let last := (List.range l.lanes).foldl
    (fun sum lane => sum.xor (memory.getD (lane * l.lane + l.lane - 1) .zero)) Block.zero
  longHash length last.toBytes

end BearerAuth.Digest.Argon2
