import BearerAuth.Time.Instant

/-! # Whole seconds

Whole seconds are added in signed words of 64 bits. A length of time may have more of them than a word can
count, and a sum may be too large for one. The calendar has room for far fewer: only a sum that lies beyond it
is ever turned away, for whichever reason, and no sum wraps around into it.
-/

namespace BearerAuth.Time

/-- The sum of two words, unless it overflows. -/
def checkedSum? (a b : Int64) : Option Int64 :=
  if a.toBitVec.saddOverflow b.toBitVec then none else some (a + b)

theorem checkedSum?_eq_some_iff {a b c : Int64} :
    checkedSum? a b = some c ↔ c.toInt = a.toInt + b.toInt := by
  rw [checkedSum?]
  split
  · rename_i overflows
    have lower := c.le_toInt
    have upper := c.toInt_lt
    simp only [BitVec.saddOverflow, Int64.toInt_toBitVec, Bool.or_eq_true, decide_eq_true_eq] at overflows
    simp only [reduceCtorEq, false_iff]
    omega
  · rename_i fits
    have sum : (a + b).toInt = a.toInt + b.toInt := by
      rw [← Int64.toInt_toBitVec, Int64.toBitVec_add, BitVec.toInt_add_of_not_saddOverflow fits,
        Int64.toInt_toBitVec, Int64.toInt_toBitVec]
    rw [Option.some.injEq, ← Int64.toInt_inj, sum, eq_comm]

/-- The whole seconds as a signed word, unless there are too many for one. -/
def Duration.signedSeconds? (d : Duration) : Option Int64 :=
  if d.seconds < 9223372036854775808 then some (.ofNat d.seconds) else none

theorem Duration.signedSeconds?_eq_some_iff {d : Duration} {word : Int64} :
    d.signedSeconds? = some word ↔ word.toInt = d.seconds := by
  rw [signedSeconds?]
  split
  · rename_i short
    rw [Option.some.injEq, ← Int64.toInt_inj, Int64.toInt_ofNat_of_lt short, eq_comm]
  · have upper := word.toInt_lt
    simp only [reduceCtorEq, false_iff]
    omega

namespace Instant

/-- The whole second as a signed word. -/
def signedSeconds (t : Instant) : Int64 := .ofInt t.seconds

/-- A word holds every second of the calendar. -/
theorem toInt_signedSeconds (t : Instant) : t.signedSeconds.toInt = t.seconds := by
  have bounds := t.inCalendar
  simp only [signedSeconds, seconds]
  exact Int64.toInt_ofInt_of_le (by omega) (by omega)

/-- The whole second that many whole seconds after that of the instant, if the calendar holds it. -/
def addSeconds? (t : Instant) (d : Duration) : Option Instant := do
  let count ← d.signedSeconds?
  let sum ← checkedSum? t.signedSeconds count
  ofSeconds? sum.toInt

/-- The sum is exact, and is there if the calendar holds it: no word is too short for that. -/
theorem addSeconds?_eq_some_iff {t later : Instant} {d : Duration} :
    t.addSeconds? d = some later ↔ later.nanos = (t.seconds + d.seconds) * 1000000000 := by
  simp only [addSeconds?, Option.bind_eq_bind, Option.bind_eq_some_iff, Duration.signedSeconds?_eq_some_iff,
    checkedSum?_eq_some_iff, toInt_signedSeconds, ofSeconds?, ofNanos?_eq_some_iff]
  constructor
  · rintro ⟨count, counted, sum, added, shown⟩
    rw [shown, added, counted]
  · intro shown
    have bounds := t.inCalendar
    have bounds' := later.inCalendar
    simp only [seconds] at shown ⊢
    have counted : (Int64.ofNat d.seconds).toInt = d.seconds := Int64.toInt_ofNat_of_lt (by omega)
    have added : (Int64.ofInt (t.nanos / 1000000000 + d.seconds)).toInt = t.nanos / 1000000000 + d.seconds :=
      Int64.toInt_ofInt_of_le (by omega) (by omega)
    exact ⟨_, counted, _, added.trans (by rw [counted]), by rw [shown, added]⟩

end Instant

end BearerAuth.Time
