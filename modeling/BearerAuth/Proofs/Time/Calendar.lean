import BearerAuth.Time.Calendar
import BearerAuth.Time.Instant
import Mathlib.Tactic.IntervalCases

/-! # Dates and days

Every day has one date. A day is split into its cycle of 400 years, its year in the cycle, its month
and its day of the month, all counted from March; the date only renames these parts, so both
directions of the conversion are read off the one decomposition.
-/

namespace BearerAuth.Time.Date

/-- Days of a cycle before one of its years. -/
def daysBeforeYear (year : Int) : Int := year * 365 + year / 4 - year / 100

/-- The year of a cycle in which a day lies; only the very last day of the cycle has no quarter. -/
private theorem year_of_day {day : Int} (first : 0 ≤ day) (last : day < 146097) :
    let year := (day - day / 1460 + day / 36524 - day / 146096) / 365
    0 ≤ year ∧ year < 400 ∧ daysBeforeYear year ≤ day ∧
      day < daysBeforeYear (year + 1) + (year + 1) / 400 := by
  intro year
  have century : day / 36524 = 0 ∨ day / 36524 = 1 ∨ day / 36524 = 2 ∨ day / 36524 = 3 ∨
      day = 146096 := by omega
  have quarter : day = 146096 ∨ year = 4 * (day / 1460) - 1 ∨ year = 4 * (day / 1460) ∨
      year = 4 * (day / 1460) + 1 ∨ year = 4 * (day / 1460) + 2 ∨ year = 4 * (day / 1460) + 3 := by
    omega
  unfold daysBeforeYear
  rcases century with century | century | century | century | century <;>
    rcases quarter with quarter | quarter | quarter | quarter | quarter | quarter <;> omega

/-- The month of a year in which a day lies. -/
private theorem month_of_day {day : Int} (first : 0 ≤ day) (last : day < 366) :
    let month := (5 * day + 2) / 153
    0 ≤ month ∧ month < 12 ∧ daysBeforeMonth month ≤ day ∧ day < daysBeforeMonth (month + 1) := by
  intro month
  unfold daysBeforeMonth
  omega

/-- The parts of a day, counted from March. -/
structure Parts (days cycle year month day : Int) : Prop where
  inCycle : 0 ≤ year ∧ year < 400
  inYear : 0 ≤ month ∧ month < 12
  inMonth : 0 ≤ day ∧ daysBeforeMonth month + day < daysBeforeMonth (month + 1)
  /-- The last month has a 29th day in leap years only. -/
  beforeNext : daysBeforeYear year + daysBeforeMonth month + day <
    daysBeforeYear (year + 1) + (year + 1) / 400
  total : days = cycle * 146097 + daysBeforeYear year + daysBeforeMonth month + day - 719468

/-- The date that is made of parts. -/
def ofParts (cycle year month day : Int) : Date :=
  ⟨if month < 10 then year + cycle * 400 else year + cycle * 400 + 1,
    (if month < 10 then month + 3 else month - 9).toNat, (day + 1).toNat⟩

theorem ofDays_eq_ofParts (days : Int) : ∃ cycle year month day,
    Parts days cycle year month day ∧ ofDays days = ofParts cycle year month day := by
  have shifted : days + 719468 =
      (days + 719468) / 146097 * 146097 + (days + 719468) % 146097 := by omega
  have low : 0 ≤ (days + 719468) % 146097 := by omega
  have high : (days + 719468) % 146097 < 146097 := by omega
  simp only [ofDays]
  generalize (days + 719468) / 146097 = cycle at shifted
  generalize (days + 719468) % 146097 = dayOfCycle at shifted low high
  obtain ⟨yearLow, yearHigh, started, ended⟩ := year_of_day low high
  generalize (dayOfCycle - dayOfCycle / 1460 + dayOfCycle / 36524 - dayOfCycle / 146096) / 365 = year
    at yearLow yearHigh started ended
  have before : 365 * year + year / 4 - year / 100 = daysBeforeYear year := by
    unfold daysBeforeYear
    omega
  have within : dayOfCycle - daysBeforeYear year < 366 := by
    have last : (year + 1) / 400 = 0 ∨ year = 399 := by omega
    unfold daysBeforeYear at ended ⊢
    omega
  rw [before]
  generalize dayOfYear : dayOfCycle - daysBeforeYear year = day at within
  obtain ⟨monthLow, monthHigh, begun, passed⟩ := month_of_day (by omega) within
  generalize (5 * day + 2) / 153 = month at monthLow monthHigh begun passed
  refine ⟨cycle, year, month, day - daysBeforeMonth month, ⟨⟨yearLow, yearHigh⟩,
    ⟨monthLow, monthHigh⟩, by omega, by omega, by omega⟩, ?_⟩
  simp only [ofParts, Date.mk.injEq, and_true]
  split_ifs <;> omega

variable {days cycle year month day : Int}

/-- A date is made of the parts of its day. -/
theorem toDays_ofParts (parts : Parts days cycle year month day) :
    (ofParts cycle year month day).toDays = days := by
  obtain ⟨⟨yearLow, yearHigh⟩, ⟨monthLow, monthHigh⟩, ⟨dayLow, -⟩, -, total⟩ := parts
  unfold daysBeforeYear at total
  simp only [toDays, ofParts]
  split_ifs with spring early early
  · omega
  · have same : (month + 3).toNat - (3 : Int) = month := by omega
    have sameYear : (year + cycle * 400) / 400 = cycle ∧ (year + cycle * 400) % 400 = year := by omega
    rw [same, sameYear.1, sameYear.2]
    omega
  · have same : (month - 9).toNat + (9 : Int) = month := by omega
    have sameYear : (year + cycle * 400 + 1 - 1) / 400 = cycle ∧
        (year + cycle * 400 + 1 - 1) % 400 = year := by omega
    rw [same, sameYear.1, sameYear.2]
    omega
  · omega

theorem daysInMonth_le (year : Int) (month : Nat) : daysInMonth year month ≤ 31 := by
  unfold daysInMonth
  split <;> (try split) <;> decide

/-- Every month but February has one length, which the rule for the months from March on gives. -/
private theorem length_of_month (first : 0 ≤ month) (last : month < 11) (year : Int) :
    daysBeforeMonth (month + 1) - daysBeforeMonth month =
      daysInMonth year (if month < 10 then month + 3 else month - 9).toNat := by
  interval_cases month <;> rfl

theorem valid_ofParts (parts : Parts days cycle year month day) :
    (ofParts cycle year month day).Valid := by
  obtain ⟨⟨yearLow, yearHigh⟩, ⟨monthLow, monthHigh⟩, ⟨dayLow, dayHigh⟩, beforeNext, -⟩ := parts
  refine ⟨?_, ?_, ?_, ?_⟩
  · simp only [ofParts]; omega
  · simp only [ofParts]; omega
  · simp only [ofParts]; omega
  obtain other | february : month < 11 ∨ month = 11 := by omega
  · have length := length_of_month monthLow other (ofParts cycle year month day).year
    simp only [ofParts] at length ⊢
    omega
  · -- February ends the year, so its length is that of the year.
    subst february
    simp only [ofParts, daysInMonth, isLeapYear]
    unfold daysBeforeYear daysBeforeMonth at beforeNext
    have ends : ((11 : Int) - 9).toNat = 2 := rfl
    simp only [ends, Int.reduceLT, if_false, Bool.and_eq_true, Bool.or_eq_true, decide_eq_true_eq]
    split_ifs <;> omega

/-- Each day has a date. -/
theorem toDays_ofDays (days : Int) : (ofDays days).toDays = days := by
  obtain ⟨cycle, year, month, day, parts, same⟩ := ofDays_eq_ofParts days
  rw [same, toDays_ofParts parts]

theorem valid_ofDays (days : Int) : (ofDays days).Valid := by
  obtain ⟨cycle, year, month, day, parts, same⟩ := ofDays_eq_ofParts days
  rw [same]
  exact valid_ofParts parts

/-- The days of the calendar lie in its years. -/
theorem year_ofDays {days : Int} (first : -96465292 ≤ days) (last : days < 95026237) :
    -262143 ≤ (ofDays days).year ∧ (ofDays days).year ≤ 262142 := by
  obtain ⟨cycle, year, month, day, parts, same⟩ := ofDays_eq_ofParts days
  obtain ⟨⟨yearLow, yearHigh⟩, ⟨monthLow, monthHigh⟩, ⟨dayLow, dayHigh⟩, beforeNext, total⟩ := parts
  rw [same]
  simp only [ofParts]
  unfold daysBeforeMonth at dayHigh total
  unfold daysBeforeYear at total
  -- The first year from March on that is reached ends, and the last one starts, with the calendar.
  have low : -262144 ≤ year + cycle * 400 := by omega
  have high : year + cycle * 400 ≤ 262142 := by omega
  have lowest : year + cycle * 400 = -262144 → 10 ≤ month := by omega
  have highest : year + cycle * 400 = 262142 → month < 10 := by omega
  split_ifs <;> omega

end BearerAuth.Time.Date
