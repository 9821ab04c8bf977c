import BearerAuth.Time.Rfc3339

/-! # Durations as text

A duration is written in its largest unit among seconds, milli-, micro- and nanoseconds, with as
many decimals as it needs: `900s`, `1.5s`, `500ms`, `1.5µs`, `0ns`.
-/

namespace BearerAuth.Time.Duration

/-- A number with `places` decimals, of which zeros at the end are dropped. -/
private def decimalText (whole fraction places : Nat) (unit : String) : String :=
  let decimals := ((padded places fraction).reverse.dropWhile (· = '0')).reverse
  let point := if decimals.isEmpty then [] else '.' :: decimals
  String.ofList (Nat.toDigits 10 whole ++ point) ++ unit

/-- The duration in its largest unit. -/
def text (d : Duration) : String :=
  if 0 < d.seconds then decimalText d.seconds d.subsecNanos 9 "s"
  else if 1000000 ≤ d.nanos then decimalText (d.nanos / 1000000) (d.nanos % 1000000) 6 "ms"
  else if 1000 ≤ d.nanos then decimalText (d.nanos / 1000) (d.nanos % 1000) 3 "µs"
  else decimalText d.nanos 0 0 "ns"

end BearerAuth.Time.Duration
