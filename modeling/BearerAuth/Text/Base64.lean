/-! # Base 64 without padding

Three bytes are four digits of six bits. Two or one left-over bytes are three or two digits whose
spare bits are zero; reading refuses any other spare bits, so no two texts stand for the same bytes.
-/

namespace BearerAuth.Text.Base64

/-- A digit set: the letters and decimal digits, and two further characters for 62 and 63. -/
structure Alphabet where
  digit62 : Char
  digit63 : Char

/-- The digits of tokens, safe within URLs. -/
def urlSafe : Alphabet := ⟨'-', '_'⟩

/-- The digits of password hashes. -/
def standard : Alphabet := ⟨'+', '/'⟩

/-- The digit for a value below 64. -/
def Alphabet.digit (a : Alphabet) (n : Nat) : Char :=
  if n < 26 then Char.ofNat (65 + n)
  else if n < 52 then Char.ofNat (71 + n)
  else if n < 62 then Char.ofNat (n - 4)
  else if n = 62 then a.digit62
  else a.digit63

/-- The value of a digit. -/
def Alphabet.value? (a : Alphabet) (c : Char) : Option Nat :=
  let n := c.toNat
  if 65 ≤ n ∧ n ≤ 90 then some (n - 65)
  else if 97 ≤ n ∧ n ≤ 122 then some (n - 71)
  else if 48 ≤ n ∧ n ≤ 57 then some (n + 4)
  else if c = a.digit62 then some 62
  else if c = a.digit63 then some 63
  else none

/-- The digits of the bytes. -/
def encode (a : Alphabet) : List UInt8 → List Char
  | x :: y :: z :: rest =>
    a.digit (x.toNat / 4) :: a.digit (x.toNat % 4 * 16 + y.toNat / 16) ::
      a.digit (y.toNat % 16 * 4 + z.toNat / 64) :: a.digit (z.toNat % 64) :: encode a rest
  | [x, y] =>
    [a.digit (x.toNat / 4), a.digit (x.toNat % 4 * 16 + y.toNat / 16), a.digit (y.toNat % 16 * 4)]
  | [x] => [a.digit (x.toNat / 4), a.digit (x.toNat % 4 * 16)]
  | [] => []

/-- The bytes that the digits stand for. -/
def decode? (a : Alphabet) : List Char → Option (List UInt8)
  | c :: d :: e :: f :: rest => do
    let p ← a.value? c
    let q ← a.value? d
    let r ← a.value? e
    let s ← a.value? f
    let bytes ← decode? a rest
    some (UInt8.ofNat (p * 4 + q / 16) :: UInt8.ofNat (q % 16 * 16 + r / 4) ::
      UInt8.ofNat (r % 4 * 64 + s) :: bytes)
  | [c, d, e] => do
    let p ← a.value? c
    let q ← a.value? d
    let r ← a.value? e
    if r % 4 = 0 then some [UInt8.ofNat (p * 4 + q / 16), UInt8.ofNat (q % 16 * 16 + r / 4)]
    else none
  | [c, d] => do
    let p ← a.value? c
    let q ← a.value? d
    if q % 16 = 0 then some [UInt8.ofNat (p * 4 + q / 16)] else none
  | [_] => none
  | [] => some []

end BearerAuth.Text.Base64
