import BearerAuth.Time.Instant

/-! # The numbers in a bucket

A bucket counts fractions of requests. What it does with them is written for any numbers with these
operations; at work they are doubles.
-/

namespace BearerAuth.RateLimit

open BearerAuth.Time

/-- Numbers that a bucket can count with. -/
class Quantity (ν : Type) extends Add ν, Sub ν, Mul ν where
  /-- One request. -/
  one : ν
  /-- The lesser of a number and a bound. -/
  atMost : ν → ν → ν
  /-- Whether there is a request's worth. -/
  reachesOne : ν → Bool
  /-- A length of time in seconds. -/
  ofDuration : Duration → ν

/-- Doubles. Between a number and one that is none, the number counts as the lesser. -/
instance : Quantity Float where
  one := 1.0
  atMost x bound := if x.isNaN then bound else if bound < x then bound else x
  reachesOne x := 1.0 ≤ x
  ofDuration d := d.seconds.toUInt64.toFloat + d.subsecNanos.toUInt64.toFloat / 1000000000.0

end BearerAuth.RateLimit
