import BearerAuth.Text.Hex
import BearerAuth.Text.Utf8

/-! # Reading JSON

A `Reader` takes a value off the front of the input. A reader that fails says where it stopped, not
where it began, so that a caller who can do without the value carries on behind what was read. Input
is bytes: only text that is kept has to be UTF-8, and values that are passed over are checked for
their grammar alone, at any depth.
-/

namespace BearerAuth.Json

/-- Takes a value off the front of the input; a failure leaves the input where reading stopped. -/
abbrev Reader := EStateM Unit (List UInt8)

namespace Reader

variable {α β : Type}

def fail : Reader α := throw ()

/-- The byte is white space between tokens. -/
def isBlankByte (b : UInt8) : Bool := b = 0x20 || b = 0x0A || b = 0x09 || b = 0x0D

def isDigitByte (b : UInt8) : Bool := 0x30 ≤ b && b ≤ 0x39

/-- The next byte, which stays. -/
def peek : Reader (Option UInt8) := fun s => .ok s.head? s

/-- The next byte after blanks, which stays. -/
def peekToken : Reader (Option UInt8) := fun s =>
  let s := s.dropWhile isBlankByte
  .ok s.head? s

/-- Takes the next byte. -/
def take : Reader UInt8
  | [] => .error () []
  | b :: s => .ok b s

/-- Drops the next byte, if there is one. -/
def drop : Reader Unit := fun s => .ok () s.tail

/-- Takes the bytes of the text, and stops at the first that differs. -/
def literal : List UInt8 → Reader Unit
  | [] => pure ()
  | expected :: rest => do
    let b ← take
    if b = expected then literal rest else fail

/-- Takes one byte after blanks, which has to be the given one. -/
def token (expected : UInt8) : Reader Unit := do
  if (← peekToken) = some expected then drop else fail

/-- The value if reading it succeeds; else reading carries on where it stopped. -/
def attempt (r : Reader α) : Reader (Option α) := fun s =>
  match r s with
  | .ok a s => .ok (some a) s
  | .error _ s => .ok none s

/-- Runs `close` after `r`, also when `r` fails: the end of a list is passed even if an item in it
could not be read. -/
def closing (r : Reader α) (close : Reader Unit) : Reader α := fun s =>
  match r s with
  | .ok a s =>
    match close s with
    | .ok _ s => .ok a s
    | .error e s => .error e s
  | .error e s =>
    match close s with
    | .ok _ s => .error e s
    | .error _ s => .error e s

/-! ## Strings -/

/-- The byte that a one-letter escape stands for. -/
def escaped? (b : UInt8) : Option UInt8 :=
  if b = 0x22 ∨ b = 0x5C ∨ b = 0x2F then some b
  else if b = 0x62 then some 0x08
  else if b = 0x66 then some 0x0C
  else if b = 0x6E then some 0x0A
  else if b = 0x72 then some 0x0D
  else if b = 0x74 then some 0x09
  else none

/-- The number in four hexadecimal digits. -/
def hex4? (a b c d : UInt8) : Option Nat := do
  let a ← Text.hexValue? (Char.ofNat a.toNat)
  let b ← Text.hexValue? (Char.ofNat b.toNat)
  let c ← Text.hexValue? (Char.ofNat c.toNat)
  let d ← Text.hexValue? (Char.ofNat d.toNat)
  some (a * 4096 + b * 256 + c * 16 + d)

def isHighSurrogate (n : Nat) : Bool := 0xD800 ≤ n && n ≤ 0xDBFF

def isLowSurrogate (n : Nat) : Bool := 0xDC00 ≤ n && n ≤ 0xDFFF

/-- The bytes of a string after its opening quote, put in reverse before those already read. Escaped
surrogates have to come in pairs. -/
def stringBytes (sofar : List UInt8) : List UInt8 → EStateM.Result Unit (List UInt8) (List UInt8)
  | [] => .error () []
  | b :: rest =>
    if b = 0x22 then .ok sofar rest
    else if b = 0x5C then
      match rest with
      | [] => .error () []
      | e :: rest =>
        if e = 0x75 then
          match rest with
          | h1 :: h2 :: h3 :: h4 :: rest =>
            match hex4? h1 h2 h3 h4 with
            | none => .error () rest
            | some high =>
              if isLowSurrogate high then .error () rest
              else if isHighSurrogate high then
                match rest with
                | [] => .error () []
                | b :: rest =>
                  if b ≠ 0x5C then .error () rest
                  else
                    match rest with
                    | [] => .error () []
                    | b :: rest =>
                      if b ≠ 0x75 then .error () rest
                      else
                        match rest with
                        | h1 :: h2 :: h3 :: h4 :: rest =>
                          match hex4? h1 h2 h3 h4 with
                          | none => .error () rest
                          | some low =>
                            if isLowSurrogate low then
                              let char :=
                                Char.ofNat ((high - 0xD800) * 1024 + (low - 0xDC00) + 0x10000)
                              stringBytes ((String.utf8EncodeChar char).reverse ++ sofar) rest
                            else .error () rest
                        | _ => .error () []
              else stringBytes ((String.utf8EncodeChar (Char.ofNat high)).reverse ++ sofar) rest
          | _ => .error () []
        else
          match escaped? e with
          | some b => stringBytes (b :: sofar) rest
          | none => .error () rest
    else if b < 0x20 then .error () rest
    else stringBytes (b :: sofar) rest

/-- The text of a string after its opening quote. -/
def stringTail : Reader String := fun s =>
  match stringBytes [] s with
  | .error e s => .error e s
  | .ok reversed s =>
    match Text.ofUtf8? reversed.reverse with
    | some text => .ok text s
    | none => .error () s

/-- Passes over a string after its opening quote; its text need not be UTF-8. -/
def skipStringTail : List UInt8 → EStateM.Result Unit (List UInt8) Unit
  | [] => .error () []
  | b :: rest =>
    if b = 0x22 then .ok () rest
    else if b = 0x5C then
      match rest with
      | [] => .error () []
      | e :: rest =>
        if e = 0x75 then
          match rest with
          | h1 :: h2 :: h3 :: h4 :: rest =>
            if (hex4? h1 h2 h3 h4).isSome then skipStringTail rest else .error () rest
          | _ => .error () []
        else if (escaped? e).isSome then skipStringTail rest
        else .error () rest
    else if b < 0x20 then .error () rest
    else skipStringTail rest

/-! ## Numbers -/

/-- A number as written: a whole one that fits a 64-bit word, signed or not, or any other. -/
inductive Number where
  | whole (n : Int)
  | real (x : Float)

/-- The value of a decimal digit. -/
def digitValue (b : UInt8) : Nat := b.toNat - 48

/-- The largest significand that is kept exactly. -/
def maxSignificand : Nat := 18446744073709551615

/-- A power of ten, rounded. -/
def powerOfTen (n : Nat) : Float := Float.ofScientific 1 false n

/-- `significand * 10 ^ exponent`, by one multiplication or division where a power of ten exists,
and by divisions by `10 ^ 308` before that for smaller numbers. None if it overflows. -/
def scale (fuel : Nat) (x : Float) (exponent : Int) : Option Float :=
  if exponent.natAbs ≤ 308 then
    if 0 ≤ exponent then
      let y := x * powerOfTen exponent.natAbs
      if y.isInf then none else some y
    else some (x / powerOfTen exponent.natAbs)
  else if x == 0.0 then some x
  else if 0 ≤ exponent then none
  else
    match fuel with
    | 0 => some 0.0
    | fuel + 1 => scale fuel (x / powerOfTen 308) (exponent + 308)

/-- The number with that sign, significand and decimal exponent. -/
def real (positive : Bool) (significand : Nat) (exponent : Int) : Reader Float :=
  match scale 8 significand.toUInt64.toFloat exponent with
  | some x => pure (if positive then x else -x)
  | none => fail

/-- The decimal digits at the front of the input. -/
def digitRun : Reader (List Nat) := fun s =>
  .ok ((s.takeWhile isDigitByte).map digitValue) (s.dropWhile isDigitByte)

/-- Leading digits as long as the significand stays exact, how many those are, and the rest. -/
def significandOf (significand count : Nat) : List Nat → Nat × Nat × List Nat
  | [] => (significand, count, [])
  | d :: rest =>
    if significand * 10 + d ≤ maxSignificand then
      significandOf (significand * 10 + d) (count + 1) rest
    else (significand, count, d :: rest)

/-- The largest exponent that is read; the digit that exceeds it ends the reading. -/
def maxExponent : Nat := 2147483647

/-- The value of exponent digits, or the input after the first digit that makes it too large. -/
def exponentDigits (sofar : Nat) : List UInt8 → Except (List UInt8) (Nat × List UInt8)
  | [] => .ok (sofar, [])
  | b :: rest =>
    if isDigitByte b then
      let next := sofar * 10 + digitValue b
      if next ≤ maxExponent then exponentDigits next rest else .error rest
    else .ok (sofar, b :: rest)

/-- The exponent after its letter, and the number it completes. -/
def exponentTail (positive : Bool) (significand : Nat) (exponent : Int) : Reader Float := do
  let sign ← peek
  if sign = some 0x2B ∨ sign = some 0x2D then drop
  let up := sign ≠ some 0x2D
  if (← peek).any isDigitByte then
    match exponentDigits 0 (← get) with
    | .ok (shown, rest) =>
      set rest
      real positive significand (if up then exponent + shown else exponent - shown)
    | .error rest =>
      set rest
      if significand ≠ 0 ∧ up then fail
      else
        let _ ← digitRun
        pure (if positive then 0.0 else -0.0)
  else
    drop
    fail

/-- The fraction after its point, and the number it completes. -/
def fractionTail (positive : Bool) (significand : Nat) (exponent : Int) : Reader Float := do
  let digits ← digitRun
  if digits.isEmpty then fail
  else
    let (significand, count, _) := significandOf significand 0 digits
    let exponent := exponent - count
    let next ← peek
    if next = some 0x65 ∨ next = some 0x45 then
      drop
      exponentTail positive significand exponent
    else real positive significand exponent

/-- A number after its sign. -/
def numberTail (positive : Bool) : Reader Number := do
  let digits ← digitRun
  match digits with
  | [] =>
    drop
    fail
  | 0 :: _ :: _ => fail
  | digits =>
    let (significand, _, dropped) := significandOf 0 0 digits
    let next ← peek
    if next = some 0x2E then
      drop
      return .real (← fractionTail positive significand dropped.length)
    else if next = some 0x65 ∨ next = some 0x45 then
      drop
      return .real (← exponentTail positive significand dropped.length)
    else if dropped.isEmpty then
      if positive then return .whole significand
      else if 1 ≤ significand ∧ significand ≤ 9223372036854775808 then
        return .whole (-(significand : Int))
      else return .real (-significand.toUInt64.toFloat)
    else return .real (← real positive significand dropped.length)

/-- Passes over a number after its sign; its size does not matter. -/
def skipNumberTail : Reader Unit := do
  let digits ← digitRun
  if digits.isEmpty ∨ digits.head? = some 0 ∧ 1 < digits.length then fail
  if (← peek) = some 0x2E then
    drop
    if (← digitRun).isEmpty then fail
  let letter ← peek
  if letter = some 0x65 ∨ letter = some 0x45 then
    drop
    let sign ← peek
    if sign = some 0x2B ∨ sign = some 0x2D then drop
    if (← digitRun).isEmpty then fail

/-! ## Lists and objects -/

/-- Ends a list: its bracket, or a stop behind a comma. -/
def closeList : Reader Unit := do
  match ← peekToken with
  | some 0x5D => drop
  | some 0x2C => do
    drop
    let _ ← peekToken
    fail
  | _ => fail

/-- Ends an object. -/
def closeObject : Reader Unit := token 0x7D

/-- There is another item in a list of which `first` says that none was read yet. -/
def hasItem (first : Bool) : Reader Bool := do
  match ← peekToken with
  | none => fail
  | some 0x5D => pure false
  | some b =>
    if first then pure true
    else if b = 0x2C then
      drop
      match ← peekToken with
      | none | some 0x5D => fail
      | some _ => pure true
    else fail

/-- The next item of a list, which has to have one. -/
def item (first : Bool) (r : Reader α) : Reader α := do
  if ← hasItem first then r else fail

/-- All items up to the end of a list, at most `fuel`. -/
def items (r : Reader α) (first : Bool) : Nat → Reader (List α)
  | 0 => fail
  | fuel + 1 => do
    if ← hasItem first then
      let a ← r
      return a :: (← items r false fuel)
    else return []

/-- A list of any length after its bracket; each item takes at least one byte. -/
def listTail (r : Reader α) : Reader (List α) :=
  closing (do items r true ((← get).length + 1)) closeList

/-- The next key of an object and the colon after it, or none at the end. -/
def key (first : Bool) : Reader (Option String) := do
  let start ← peekToken
  match start with
  | some 0x7D => pure none
  | none => fail
  | some b => do
    if !first then
      if b = 0x2C then drop else fail
    match ← peekToken with
    | some 0x22 =>
      drop
      let name ← stringTail
      token 0x3A
      return some name
    | _ => fail

/-- Folds the members of an object up to its end, at most `fuel`, by a reader for each key. -/
def members (step : β → String → Reader β) (sofar : β) (first : Bool) : Nat → Reader β
  | 0 => fail
  | fuel + 1 => do
    match ← key first with
    | none => return sofar
    | some name => members step (← step sofar name) false fuel

/-- The members of an object after its brace; each takes at least one byte. -/
def objectTail (step : β → String → Reader β) (start : β) : Reader β :=
  closing (do members step start true ((← get).length + 1)) closeObject

/-! ## Values that are passed over -/

mutual

/-- Passes over a value of any depth below `fuel`. -/
def skipValue : Nat → Reader Unit
  | 0 => fail
  | fuel + 1 => do
    match ← peekToken with
    | some 0x6E => literal [0x6E, 0x75, 0x6C, 0x6C]
    | some 0x74 => literal [0x74, 0x72, 0x75, 0x65]
    | some 0x66 => literal [0x66, 0x61, 0x6C, 0x73, 0x65]
    | some 0x22 => drop; skipStringTail
    | some 0x2D => drop; skipNumberTail
    | some 0x5B => drop; skipItems true fuel
    | some 0x7B => drop; skipMembers true fuel
    | some b => if isDigitByte b then skipNumberTail else fail
    | none => fail

/-- Passes over the items of a list and its bracket. -/
def skipItems (first : Bool) : Nat → Reader Unit
  | 0 => fail
  | fuel + 1 => do
    if ← hasItem first then
      skipValue fuel
      skipItems false fuel
    else drop

/-- Passes over the members of an object and its brace. -/
def skipMembers (first : Bool) : Nat → Reader Unit
  | 0 => fail
  | fuel + 1 => do
    match ← peekToken with
    | some 0x7D => drop
    | none => fail
    | some b =>
      if !first then
        if b = 0x2C then drop else fail
      token 0x22
      skipStringTail
      token 0x3A
      skipValue fuel
      skipMembers false fuel

end

/-- Passes over one value, whatever it is. -/
def skip : Reader Unit := do skipValue (2 * (← get).length + 1)

/-! ## Scalars -/

/-- A string. Another scalar is read and refused; a list or an object is refused where it begins. -/
def string : Reader String := do
  match ← peekToken with
  | some 0x22 => drop; stringTail
  | some 0x6E => literal [0x6E, 0x75, 0x6C, 0x6C]; fail
  | some 0x74 => literal [0x74, 0x72, 0x75, 0x65]; fail
  | some 0x66 => literal [0x66, 0x61, 0x6C, 0x73, 0x65]; fail
  | some 0x2D => do
    drop
    let _ ← numberTail false
    fail
  | some b => if isDigitByte b then do let _ ← numberTail true; fail else fail
  | none => fail

/-- A number. -/
def number : Reader Number := do
  match ← peekToken with
  | some 0x2D => drop; numberTail false
  | some b => if isDigitByte b then numberTail true else fail
  | none => fail

/-- A whole number that fits a signed 64-bit word. -/
def int64 : Reader Int := do
  match ← number with
  | .whole n => if -9223372036854775808 ≤ n ∧ n ≤ 9223372036854775807 then pure n else fail
  | .real _ => fail

def bool : Reader Bool := do
  match ← peekToken with
  | some 0x74 => literal [0x74, 0x72, 0x75, 0x65]; pure true
  | some 0x66 => literal [0x66, 0x61, 0x6C, 0x73, 0x65]; pure false
  | _ => fail

/-- A value, or `null` in its place. -/
def optional (r : Reader α) : Reader (Option α) := do
  if (← peekToken) = some 0x6E then
    literal [0x6E, 0x75, 0x6C, 0x6C]
    return none
  else return some (← r)

/-- A list of values. -/
def list (r : Reader α) : Reader (List α) := do
  token 0x5B
  listTail r

/-- One of several names, as a string or as an object that gives the name no content. -/
def named (value? : String → Option α) : Reader α := do
  let pick (name : String) : Reader α :=
    match value? name with
    | some a => pure a
    | none => fail
  match ← peekToken with
  | some 0x22 =>
    drop
    pick (← stringTail)
  | some 0x7B =>
    drop
    token 0x22
    let a ← pick (← stringTail)
    token 0x3A
    token 0x6E
    literal [0x75, 0x6C, 0x6C]
    token 0x7D
    return a
  | _ => fail

/-- Text that has to satisfy a reading of its own. -/
def parsed (value? : String → Option α) : Reader α := do
  match value? (← string) with
  | some a => pure a
  | none => fail

/-- Reads a field of a record whose keys may come in any order but only once each. -/
def field (slot : Option α) (r : Reader α) : Reader (Option α) :=
  match slot with
  | some _ => fail
  | none => do return some (← r)

/-- The value of a field that may not be missing. -/
def required (slot : Option α) : Reader α :=
  match slot with
  | some a => pure a
  | none => fail

/-- A record: an object whose members fill it, or a list of all its fields in order. -/
def record (start : β) (step : β → String → Reader β) (finish : β → Reader α) (inOrder : Reader α) :
    Reader α := do
  match ← peekToken with
  | some 0x7B =>
    drop
    closing (do finish (← members step start true ((← get).length + 1))) closeObject
  | some 0x5B =>
    drop
    closing inOrder closeList
  | _ => fail

/-- The value if it is all of the input, blanks apart. -/
def run (r : Reader α) (input : List UInt8) : Option α :=
  match r input with
  | .ok a rest => if rest.all isBlankByte then some a else none
  | .error _ _ => none

/-- The value if it is all of the text, blanks apart. -/
def runText (r : Reader α) (text : String) : Option α := r.run (Text.utf8 text)

end Reader

end BearerAuth.Json
