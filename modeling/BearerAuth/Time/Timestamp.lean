import BearerAuth.Time.Instant

/-! # Recorded times

Records carry a `Timestamp`: an instant that may also lie inside a leap second. A leap second is
written as second 60, may follow any minute, and sorts after every nanosecond of second 59 and
before the next minute, so its place cannot be told by the instant alone.
-/

namespace BearerAuth.Time

/-- A recorded time. Inside a leap second the instant is taken one second back, in second 59. -/
structure Timestamp where
  instant : Instant
  inLeapSecond : Bool
  endsMinute : inLeapSecond = true → instant.seconds % 60 = 59
deriving DecidableEq

namespace Timestamp

/-- The record of a clock reading; clocks never stop inside a leap second. -/
def ofInstant (t : Instant) : Timestamp := ⟨t, false, by simp⟩

instance : Coe Instant Timestamp := ⟨ofInstant⟩
instance : Inhabited Timestamp := ⟨ofInstant Instant.epoch⟩

/-- The whole second the time lies in; a leap second belongs to the second before it. -/
def seconds (t : Timestamp) : Int := t.instant.seconds

/-- Seconds since midnight of a whole second. -/
private def secondOfDay (seconds : Int) : Int := seconds % 86400

/-- Nanoseconds from `now` to `t`. The leap second counts unless the reading's time of day is past
the minute it ends, where no clock could have met it. -/
def nanosAfter (t : Timestamp) (now : Instant) : Int :=
  let elapsed := t.instant.nanos - now.nanos
  if t.inLeapSecond && secondOfDay now.seconds ≤ secondOfDay t.seconds then elapsed + 1000000000
  else elapsed

/-- A reading lies past the time; past a leap second lies only the next minute. -/
def passedBy (t : Timestamp) (now : Instant) : Bool :=
  if t.inLeapSecond then t.seconds < now.seconds else t.instant < now

section

variable {t : Timestamp} (plain : t.inLeapSecond = false)

include plain

theorem nanosAfter_of_plain (now : Instant) : t.nanosAfter now = t.instant.nanos - now.nanos := by
  simp [nanosAfter, plain]

theorem passedBy_of_plain (now : Instant) : t.passedBy now = decide (t.instant < now) := by
  simp [passedBy, plain]

end

end Timestamp

end BearerAuth.Time
