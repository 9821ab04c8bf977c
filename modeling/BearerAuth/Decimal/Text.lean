import BearerAuth.Decimal.Shortest

/-! # Floating-point numbers as text

Numbers are written by their shortest digits. Where the positional form ends and how the special
values are spelled differs between outputs, and is a `Layout` value of each.
-/

namespace BearerAuth.Decimal

/-- The choices of one output format: the exponents of the leading digit that are written
positionally, the sign of exponents above zero, how ties between digits fall, and the texts of
infinity and of no number. -/
structure Layout where
  least : Int
  most : Int
  plus : List Char
  tie : Tie
  infinity : String
  notNumber : String

/-- Numbers in JSON, which has no text for the special values. -/
def Layout.json : Layout := ⟨-5, 15, ['+'], .even, "null", "null"⟩

/-- Numbers in messages for people. -/
def Layout.report : Layout := ⟨-4, 15, [], .up, "inf", "NaN"⟩

/-- The text of positive digits: with a decimal point in its place and at least one digit on either
side, or with one digit before the point and an exponent. -/
def Digits.toChars (layout : Layout) (d : Digits) : List Char :=
  let shown := Nat.toDigits 10 d.digits
  let leading : Int := d.exponent + shown.length - 1
  if leading < layout.least ∨ layout.most < leading then
    let exponent := (if leading < 0 then ['-'] else layout.plus) ++ Nat.toDigits 10 leading.natAbs
    match shown with
    | [] => []
    | [c] => c :: 'e' :: exponent
    | c :: rest => c :: '.' :: rest ++ 'e' :: exponent
  else if 0 ≤ d.exponent then shown ++ List.replicate d.exponent.natAbs '0' ++ ['.', '0']
  else if 0 ≤ leading then
    shown.take (leading.natAbs + 1) ++ '.' :: shown.drop (leading.natAbs + 1)
  else '0' :: '.' :: List.replicate (leading.natAbs - 1) '0' ++ shown

/-- The text of a double given by its bits. -/
def textOfBits (layout : Layout) (bits : Nat) : String :=
  let magnitude := bits % 9223372036854775808
  let sign := if bits = magnitude then "" else "-"
  if magnitude = 0 then sign ++ "0.0"
  else if magnitude = 9218868437227405312 then sign ++ layout.infinity
  else if 9218868437227405312 < magnitude then layout.notNumber
  else sign ++ String.ofList ((shortest layout.tie (Binary.ofBits magnitude)).toChars layout)

/-- The text of a number. -/
def text (layout : Layout) (x : Float) : String := textOfBits layout x.toBits.toNat

end BearerAuth.Decimal
