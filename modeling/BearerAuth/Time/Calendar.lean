/-! # The proleptic Gregorian calendar

Days are counted from 1970-01-01. Both directions of the conversion work on the 400-year cycle with
the year starting in March, which puts the leap day last: month lengths from March on then follow
the one rule `(153 * month + 2) / 5`.
-/

namespace BearerAuth.Time

/-- A calendar date; years before 1 count down through 0. -/
structure Date where
  year : Int
  month : Nat
  day : Nat
deriving DecidableEq, Repr

namespace Date

def isLeapYear (year : Int) : Bool := year % 4 = 0 && (year % 100 ≠ 0 || year % 400 = 0)

def daysInMonth (year : Int) (month : Nat) : Nat :=
  match month with
  | 2 => if isLeapYear year then 29 else 28
  | 4 | 6 | 9 | 11 => 30
  | _ => 31

/-- The date exists: its month is one of the twelve and its day one of that month's. -/
def Valid (d : Date) : Prop :=
  1 ≤ d.month ∧ d.month ≤ 12 ∧ 1 ≤ d.day ∧ d.day ≤ daysInMonth d.year d.month

instance (d : Date) : Decidable d.Valid := inferInstanceAs (Decidable (_ ∧ _ ∧ _ ∧ _))

/-- Days before the month within a year that starts in March, with March as month 0. -/
def daysBeforeMonth (marchMonth : Int) : Int := (153 * marchMonth + 2) / 5

/-- Days from 1970-01-01 to the date. -/
def toDays (d : Date) : Int :=
  let year := if d.month ≤ 2 then d.year - 1 else d.year
  let cycle := year / 400
  let yearOfCycle := year % 400
  let marchMonth : Int := if d.month ≤ 2 then d.month + 9 else d.month - 3
  let dayOfYear := daysBeforeMonth marchMonth + (d.day - 1)
  let dayOfCycle := yearOfCycle * 365 + yearOfCycle / 4 - yearOfCycle / 100 + dayOfYear
  cycle * 146097 + dayOfCycle - 719468

/-- The date that many days after 1970-01-01. -/
def ofDays (days : Int) : Date :=
  let shifted := days + 719468
  let cycle := shifted / 146097
  let dayOfCycle := shifted % 146097
  let yearOfCycle :=
    (dayOfCycle - dayOfCycle / 1460 + dayOfCycle / 36524 - dayOfCycle / 146096) / 365
  let dayOfYear := dayOfCycle - (365 * yearOfCycle + yearOfCycle / 4 - yearOfCycle / 100)
  let marchMonth := (5 * dayOfYear + 2) / 153
  let day := dayOfYear - daysBeforeMonth marchMonth + 1
  let month := if marchMonth < 10 then marchMonth + 3 else marchMonth - 9
  let year := yearOfCycle + cycle * 400
  ⟨if month ≤ 2 then year + 1 else year, month.toNat, day.toNat⟩

end Date

end BearerAuth.Time
