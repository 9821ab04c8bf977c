/-! # Numbers written by people

Whole numbers are decimal digits after an optional plus sign. Real numbers are digits with an
optional point and exponent, or one of the words for infinity and for no number, in any case.
-/

namespace BearerAuth.Decimal

/-- Why a text is no whole number of 64 bits. -/
inductive WholeError where
  | empty
  | invalidDigit
  | tooLarge
deriving DecidableEq, Repr

/-- Why a text is no real number. -/
inductive RealError where
  | empty
  | invalid
deriving DecidableEq, Repr

def WholeError.message : WholeError → String
  | .empty => "cannot parse integer from empty string"
  | .invalidDigit => "invalid digit found in string"
  | .tooLarge => "number too large to fit in target type"

def RealError.message : RealError → String
  | .empty => "cannot parse float from empty string"
  | .invalid => "invalid float literal"

/-- The character is a decimal digit. -/
def isDigit (c : Char) : Bool := '0' ≤ c && c ≤ '9'

/-- The number that decimal digits stand for. -/
def valueOfDigits (digits : List Char) : Nat := digits.foldl (fun n c => n * 10 + (c.toNat - 48)) 0

/-- Digits read from the left against the 64-bit limit: the first character that is no digit or
makes the number too large decides which error it is. -/
def wholeDigits (sofar : Nat) : List Char → Except WholeError Nat
  | [] => .ok sofar
  | c :: rest =>
    if 18446744073709551615 < sofar * 10 then
      if isDigit c then .error .tooLarge else .error .invalidDigit
    else if isDigit c then
      let next := sofar * 10 + (c.toNat - 48)
      if 18446744073709551615 < next then .error .tooLarge else wholeDigits next rest
    else .error .invalidDigit

/-- Reads a whole number that fits 64 bits. -/
def whole (cs : List Char) : Except WholeError Nat :=
  match cs with
  | [] => .error .empty
  | ['+'] | ['-'] => .error .invalidDigit
  | '+' :: rest => wholeDigits 0 rest
  | cs => wholeDigits 0 cs

/-- The words for special values, in lower case. -/
def special? (cs : List Char) : Option Float :=
  match String.ofList (cs.map Char.toLower) with
  | "inf" | "infinity" => some (1.0 / 0.0)
  | "nan" => some (0.0 / 0.0)
  | _ => none

/-- A decimal mantissa times a power of ten, rounded once. Exponents far outside the range of
doubles are cut off where the result no longer changes. -/
def ofParts (mantissa : Nat) (exponent : Int) : Float :=
  let digits : Int := (Nat.toDigits 10 mantissa).length
  if mantissa = 0 then 0.0
  else if exponent + digits < -400 then 0.0
  else if 400 < exponent + digits then 1.0 / 0.0
  else if 0 ≤ exponent then Float.ofScientific mantissa false exponent.natAbs
  else Float.ofScientific mantissa true exponent.natAbs

/-- A real number without its sign. -/
def unsignedReal? (cs : List Char) : Option Float :=
  let whole := cs.takeWhile isDigit
  let afterWhole := cs.drop whole.length
  let (fraction, afterFraction) := match afterWhole with
    | '.' :: rest => (rest.takeWhile isDigit, rest.dropWhile isDigit)
    | rest => ([], rest)
  if whole.isEmpty && fraction.isEmpty then special? cs
  else
    let mantissa := valueOfDigits (whole ++ fraction)
    match afterFraction with
    | [] => some (ofParts mantissa (-(fraction.length : Int)))
    | letter :: rest =>
      if letter = 'e' ∨ letter = 'E' then
        let (negative, digits) := match rest with
          | '-' :: rest => (true, rest)
          | '+' :: rest => (false, rest)
          | rest => (false, rest)
        if digits.isEmpty || !digits.all isDigit then none
        else
          let exponent : Int :=
            if negative then -(valueOfDigits digits : Int) else valueOfDigits digits
          some (ofParts mantissa (exponent - fraction.length))
      else none

/-- Reads a real number. -/
def real (cs : List Char) : Except RealError Float :=
  match cs with
  | [] => .error .empty
  | sign :: rest =>
    let value := if sign = '-' then (unsignedReal? rest).map (-·)
      else if sign = '+' then unsignedReal? rest
      else unsignedReal? cs
    match value with
    | some x => .ok x
    | none => .error .invalid

end BearerAuth.Decimal
