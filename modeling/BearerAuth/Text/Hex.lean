/-! # Hexadecimal digits -/

namespace BearerAuth.Text

/-- The lower-case digit of a value below 16. -/
def hexDigit (n : Nat) : Char := if n < 10 then Char.ofNat (48 + n) else Char.ofNat (87 + n)

/-- The value of a digit of either case. -/
def hexValue? (c : Char) : Option Nat :=
  let n := c.toNat
  if 48 ≤ n ∧ n ≤ 57 then some (n - 48)
  else if 97 ≤ n ∧ n ≤ 102 then some (n - 87)
  else if 65 ≤ n ∧ n ≤ 70 then some (n - 55)
  else none

/-- The two digits of a byte. -/
def hexByte (b : UInt8) : List Char := [hexDigit (b.toNat / 16), hexDigit (b.toNat % 16)]

/-- The digits of all bytes in order. -/
def hex (bytes : List UInt8) : List Char := bytes.flatMap hexByte

/-- The bytes that pairs of digits stand for. -/
def ofHex? : List Char → Option (List UInt8)
  | [] => some []
  | high :: low :: rest => do
    let h ← hexValue? high
    let l ← hexValue? low
    let bytes ← ofHex? rest
    some (UInt8.ofNat (h * 16 + l) :: bytes)
  | [_] => none

end BearerAuth.Text
