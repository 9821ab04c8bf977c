/-! # The shortest decimal of a binary number

A positive double is `significand * 2 ^ exponent`, and every real nearer to it than to its
neighbours reads back as it. Among the decimals in that interval with the fewest digits `shortest`
takes the one nearest to the number. All arithmetic is on natural numbers: a power of two is brought
to a power of ten by a power of five, so the number and both ends of its interval are exact
decimals.
-/

namespace BearerAuth.Decimal

/-- A positive double taken apart. `widthBelow` is the gap to the neighbour below in quarters of the
gap above: four, or two at a power of two. -/
structure Binary where
  significand : Nat
  exponent : Int
  widthBelow : Nat
deriving Repr

/-- The parts of a positive finite double, from its bits without the sign. -/
def Binary.ofBits (bits : Nat) : Binary :=
  let field := bits / 4503599627370496
  let fraction := bits % 4503599627370496
  if field = 0 then ⟨fraction, -1074, 4⟩
  else
    ⟨4503599627370496 + fraction, (field : Int) - 1075, if fraction = 0 ∧ 1 < field then 2 else 4⟩

/-- A decimal `digits * 10 ^ exponent`. -/
structure Digits where
  digits : Nat
  exponent : Int
deriving Repr

/-- Of two equally near decimals, the one to take. -/
inductive Tie where
  | up
  | even

/-- How many decimal digits a number has. -/
def digitCount (n : Nat) : Nat := (Nat.toDigits 10 n).length

/-- The nearest decimal within the interval on the coarsest grid that has one: `dropped` last digits
of `value` are given up first, then ever fewer. -/
def nearest (tie : Tie) (value low high : Nat) (closed : Bool) : Nat → Nat × Nat
  | 0 => (value, 0)
  | dropped + 1 =>
    let step := 10 ^ (dropped + 1)
    let below := value / step
    let inside (n : Nat) : Bool := if closed then low ≤ n && n ≤ high else low < n && n < high
    let rest := value % step
    let roundUp := step < 2 * rest || (step = 2 * rest && match tie with
      | .up => true
      | .even => below % 2 = 1)
    match inside (below * step), inside ((below + 1) * step) with
    | true, true => (if roundUp then below + 1 else below, dropped + 1)
    | true, false => (below, dropped + 1)
    | false, true => (below + 1, dropped + 1)
    | false, false => nearest tie value low high closed dropped

/-- The digits without zeros at the end. -/
def Digits.normal (fuel : Nat) (d : Digits) : Digits :=
  match fuel with
  | 0 => d
  | fuel + 1 =>
    if d.digits % 10 = 0 ∧ d.digits ≠ 0 then Digits.normal fuel ⟨d.digits / 10, d.exponent + 1⟩
    else d

/-- The shortest decimal that reads back as the number. -/
def shortest (tie : Tie) (b : Binary) : Digits :=
  let quarterExponent := b.exponent - 2
  let power := if 0 ≤ quarterExponent then Nat.pow 2 quarterExponent.natAbs
    else Nat.pow 5 quarterExponent.natAbs
  let base : Int := if 0 ≤ quarterExponent then 0 else quarterExponent
  let value := 4 * b.significand * power
  let low := (4 * b.significand - b.widthBelow / 2) * power
  let high := (4 * b.significand + 2) * power
  let (digits, dropped) := nearest tie value low high (b.significand % 2 = 0) (digitCount value)
  Digits.normal 800 ⟨digits, base + dropped⟩

end BearerAuth.Decimal
