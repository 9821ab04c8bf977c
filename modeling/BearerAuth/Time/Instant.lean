/-! # Instants and durations

A `Duration` is a length of time and an `Instant` a reading of a UTC clock, both counted in whole
nanoseconds so that every comparison and sum is integer arithmetic. Instants are confined to the
proleptic calendar years -262143 to 262142: a sum that leaves them has no value. They have no place
inside a leap second, where no clock is read.
-/

namespace BearerAuth.Time

/-- A length of time, counted in nanoseconds. -/
structure Duration where
  nanos : Nat
deriving DecidableEq, Repr, Inhabited

namespace Duration

/-- The empty length of time. -/
def zero : Duration := ⟨0⟩

def ofSeconds (seconds : Nat) : Duration := ⟨seconds * 1000000000⟩

def ofMillis (millis : Nat) : Duration := ⟨millis * 1000000⟩

/-- A length given as whole seconds and the nanoseconds beyond them. -/
def ofParts (seconds nanos : Nat) : Duration := ⟨seconds * 1000000000 + nanos⟩

/-- Whole seconds, the rest dropped. -/
def seconds (d : Duration) : Nat := d.nanos / 1000000000

/-- Nanoseconds beyond the whole seconds. -/
def subsecNanos (d : Duration) : Nat := d.nanos % 1000000000

/-- Whole milliseconds, the rest dropped. -/
def millis (d : Duration) : Nat := d.nanos / 1000000

instance : LE Duration := ⟨fun d e => d.nanos ≤ e.nanos⟩
instance : LT Duration := ⟨fun d e => d.nanos < e.nanos⟩
instance (d e : Duration) : Decidable (d ≤ e) := inferInstanceAs (Decidable (d.nanos ≤ e.nanos))
instance (d e : Duration) : Decidable (d < e) := inferInstanceAs (Decidable (d.nanos < e.nanos))
instance : Add Duration := ⟨fun d e => ⟨d.nanos + e.nanos⟩⟩

/-- The longest span that calendar arithmetic admits: a signed 64-bit count of milliseconds. -/
def longestSpan : Duration := ofMillis 9223372036854775807

theorem seconds_ofSeconds (n : Nat) : (ofSeconds n).seconds = n := by
  simp only [ofSeconds, seconds]; omega

theorem ofParts_eta (d : Duration) : ofParts d.seconds d.subsecNanos = d := by
  cases d; simp only [ofParts, seconds, subsecNanos, Duration.mk.injEq]; omega

end Duration

/-- A reading of a UTC clock: nanoseconds since the start of 1970, within the calendar. No clock is read inside a leap
second, so the one number tells the whole reading; recorded times, which may lie inside one, are `Timestamp`s. -/
structure Instant where
  nanos : Int
  inCalendar : -8334601228800000000000 ≤ nanos ∧ nanos < 8210266876800000000000
deriving DecidableEq

namespace Instant

/-- The instant that many nanoseconds after the start of 1970, if the calendar holds it. -/
def ofNanos? (nanos : Int) : Option Instant :=
  if h : -8334601228800000000000 ≤ nanos ∧ nanos < 8210266876800000000000 then some ⟨nanos, h⟩
  else none

/-- The instant at that whole second, if the calendar holds it. -/
def ofSeconds? (seconds : Int) : Option Instant := ofNanos? (seconds * 1000000000)

/-- The instant `nanos` nanoseconds into that whole second, if the calendar holds it. -/
def ofParts? (seconds : Int) (nanos : Nat) : Option Instant :=
  ofNanos? (seconds * 1000000000 + nanos)

/-- The start of 1970. -/
def epoch : Instant := ⟨0, by decide⟩

instance : Inhabited Instant := ⟨epoch⟩

/-- The whole second the instant lies in, rounded towards the past. -/
def seconds (t : Instant) : Int := t.nanos / 1000000000

/-- Nanoseconds since the start of that whole second. -/
def subsecNanos (t : Instant) : Nat := (t.nanos % 1000000000).toNat

/-- The instant that much later, if the calendar holds it. -/
def add? (t : Instant) (d : Duration) : Option Instant := ofNanos? (t.nanos + d.nanos)

/-- A clock moved on by that much; it stands still rather than leave the calendar. -/
def advance (t : Instant) (d : Duration) : Instant := (t.add? d).getD t

/-- The time from `earlier` to `t`, nothing if `t` is not the later one. -/
def since (t earlier : Instant) : Duration := ⟨(t.nanos - earlier.nanos).toNat⟩

instance : LE Instant := ⟨fun s t => s.nanos ≤ t.nanos⟩
instance : LT Instant := ⟨fun s t => s.nanos < t.nanos⟩
instance (s t : Instant) : Decidable (s ≤ t) := inferInstanceAs (Decidable (s.nanos ≤ t.nanos))
instance (s t : Instant) : Decidable (s < t) := inferInstanceAs (Decidable (s.nanos < t.nanos))

theorem ofNanos?_eq_some_iff {n : Int} {t : Instant} : ofNanos? n = some t ↔ t.nanos = n := by
  constructor
  · intro found
    simp only [ofNanos?] at found
    split at found
    · cases found; rfl
    · cases found
  · rintro rfl
    simp [ofNanos?, t.inCalendar]

theorem ofParts?_eta (t : Instant) : ofParts? t.seconds t.subsecNanos = some t := by
  rw [ofParts?, ofNanos?_eq_some_iff]
  simp only [seconds, subsecNanos]
  omega

end Instant

end BearerAuth.Time
