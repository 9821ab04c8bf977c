/-! # SHA-256

The message is padded to blocks of sixteen words; each block is mixed into eight state words over
64 rounds.
-/

namespace BearerAuth.Digest.Sha256

/-- The eight state words. -/
structure State where
  a : UInt32
  b : UInt32
  c : UInt32
  d : UInt32
  e : UInt32
  f : UInt32
  g : UInt32
  h : UInt32
deriving DecidableEq

def initial : State :=
  ⟨0x6a09e667, 0xbb67ae85, 0x3c6ef372, 0xa54ff53a, 0x510e527f, 0x9b05688c, 0x1f83d9ab, 0x5be0cd19⟩

/-- The constant of each round. -/
def roundConstants : List UInt32 := [
  0x428a2f98, 0x71374491, 0xb5c0fbcf, 0xe9b5dba5, 0x3956c25b, 0x59f111f1, 0x923f82a4, 0xab1c5ed5,
  0xd807aa98, 0x12835b01, 0x243185be, 0x550c7dc3, 0x72be5d74, 0x80deb1fe, 0x9bdc06a7, 0xc19bf174,
  0xe49b69c1, 0xefbe4786, 0x0fc19dc6, 0x240ca1cc, 0x2de92c6f, 0x4a7484aa, 0x5cb0a9dc, 0x76f988da,
  0x983e5152, 0xa831c66d, 0xb00327c8, 0xbf597fc7, 0xc6e00bf3, 0xd5a79147, 0x06ca6351, 0x14292967,
  0x27b70a85, 0x2e1b2138, 0x4d2c6dfc, 0x53380d13, 0x650a7354, 0x766a0abb, 0x81c2c92e, 0x92722c85,
  0xa2bfe8a1, 0xa81a664b, 0xc24b8b70, 0xc76c51a3, 0xd192e819, 0xd6990624, 0xf40e3585, 0x106aa070,
  0x19a4c116, 0x1e376c08, 0x2748774c, 0x34b0bcb5, 0x391c0cb3, 0x4ed8aa4a, 0x5b9cca4f, 0x682e6ff3,
  0x748f82ee, 0x78a5636f, 0x84c87814, 0x8cc70208, 0x90befffa, 0xa4506ceb, 0xbef9a3f7, 0xc67178f2]

/-- The word rotated right by `n` bits, `0 < n < 32`. -/
def rotateRight (x n : UInt32) : UInt32 := (x >>> n) ||| (x <<< (32 - n))

/-- The message words of all rounds, from the latest sixteen: each further word mixes four of the
sixteen before it. -/
def schedule (latest : List UInt32) : Nat → List UInt32
  | 0 => []
  | rounds + 1 =>
    match latest with
    | [w0, w1, w2, w3, w4, w5, w6, w7, w8, w9, w10, w11, w12, w13, w14, w15] =>
      let low := rotateRight w1 7 ^^^ rotateRight w1 18 ^^^ (w1 >>> 3)
      let high := rotateRight w14 17 ^^^ rotateRight w14 19 ^^^ (w14 >>> 10)
      let next := w0 + low + w9 + high
      w0 :: schedule [w1, w2, w3, w4, w5, w6, w7, w8, w9, w10, w11, w12, w13, w14, w15, next] rounds
    | _ => []

/-- One round with its constant and message word. -/
def round (s : State) (constant word : UInt32) : State :=
  let choice := (s.e &&& s.f) ^^^ ((~~~s.e) &&& s.g)
  let majority := (s.a &&& s.b) ^^^ (s.a &&& s.c) ^^^ (s.b &&& s.c)
  let mixE := rotateRight s.e 6 ^^^ rotateRight s.e 11 ^^^ rotateRight s.e 25
  let mixA := rotateRight s.a 2 ^^^ rotateRight s.a 13 ^^^ rotateRight s.a 22
  let t := s.h + mixE + choice + constant + word
  ⟨t + mixA + majority, s.a, s.b, s.c, s.d + t, s.e, s.f, s.g⟩

/-- Mixes one block of sixteen words into the state. -/
def compress (s : State) (block : List UInt32) : State :=
  let r := (roundConstants.zip (schedule block 64)).foldl (fun s kw => round s kw.1 kw.2) s
  ⟨s.a + r.a, s.b + r.b, s.c + r.c, s.d + r.d, s.e + r.e, s.f + r.f, s.g + r.g, s.h + r.h⟩

/-- The words of bytes, the first byte highest. -/
def words : List UInt8 → List UInt32
  | a :: b :: c :: d :: rest =>
    ((a.toUInt32 <<< 24) ||| (b.toUInt32 <<< 16) ||| (c.toUInt32 <<< 8) ||| d.toUInt32) ::
      words rest
  | _ => []

/-- The bytes of a word, the highest first. -/
def wordBytes (w : UInt32) : List UInt8 :=
  [(w >>> 24).toUInt8, (w >>> 16).toUInt8, (w >>> 8).toUInt8, w.toUInt8]

/-- What follows the message: a set bit, zeros, and the length in bits as eight bytes. -/
def padding (length : Nat) : List UInt8 :=
  let zeros := (119 - length % 64) % 64
  let bits := length * 8
  let lengthBytes := (List.range 8).map fun i => UInt8.ofNat (bits >>> (8 * (7 - i)) % 256)
  0x80 :: List.replicate zeros 0 ++ lengthBytes

/-- Mixes the blocks of the words into the state in order. -/
def absorb (s : State) (blocks : Nat) (ws : List UInt32) : State :=
  match blocks with
  | 0 => s
  | blocks + 1 => absorb (compress s (ws.take 16)) blocks (ws.drop 16)

/-- The 32 bytes of the hash of a message. -/
def hash (message : List UInt8) : List UInt8 :=
  let ws := words (message ++ padding message.length)
  let s := absorb initial (ws.length / 16) ws
  [s.a, s.b, s.c, s.d, s.e, s.f, s.g, s.h].flatMap wordBytes

end BearerAuth.Digest.Sha256
