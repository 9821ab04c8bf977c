import BearerAuth.Text.Blank
import BearerAuth.Time.Calendar
import BearerAuth.Time.Timestamp

/-! # Timestamps as text

A timestamp is written in UTC as `2025-06-01T12:00:00Z`, with three, six or nine digits of fraction
when it has one, and with a signed year of at least four digits outside 0 to 9999. Reading is more
lenient: blanks may stand before each part, a space may stand for the `T`, numbers may be short, and
any offset below a day is accepted and removed.
-/

namespace BearerAuth.Time

/-- A number in at least that many digits. -/
def padded (width : Nat) (n : Nat) : List Char :=
  let digits := Nat.toDigits 10 n
  List.replicate (width - digits.length) '0' ++ digits

/-- The fraction of a second in the fewest of three, six or nine digits that lose nothing. -/
def fractionText (nanos : Nat) : List Char :=
  if nanos = 0 then []
  else if nanos % 1000000 = 0 then '.' :: padded 3 (nanos / 1000000)
  else if nanos % 1000 = 0 then '.' :: padded 6 (nanos / 1000)
  else '.' :: padded 9 nanos

/-- Years outside 0 to 9999 carry a sign, so that their digits cannot run into the month. -/
def yearText (year : Int) : List Char :=
  if 0 ≤ year ∧ year ≤ 9999 then padded 4 year.toNat
  else (if year < 0 then '-' else '+') :: padded 4 year.natAbs

namespace Timestamp

/-- The timestamp written in UTC. -/
def toChars (t : Timestamp) : List Char :=
  let date := Date.ofDays (t.seconds / 86400)
  let second := (t.seconds % 86400).toNat
  yearText date.year ++ '-' :: padded 2 date.month ++ '-' :: padded 2 date.day ++
    'T' :: padded 2 (second / 3600) ++ ':' :: padded 2 (second / 60 % 60) ++
    ':' :: padded 2 (second % 60 + if t.inLeapSecond then 1 else 0) ++
    fractionText t.instant.subsecNanos ++ ['Z']

/-- The timestamp written in UTC, as text. -/
def toText (t : Timestamp) : String := String.ofList t.toChars

end Timestamp

namespace Rfc3339

open BearerAuth.Text (trimStart)

/-- The value of a decimal digit. -/
def digit? (c : Char) : Option Nat := if '0' ≤ c ∧ c ≤ '9' then some (c.toNat - 48) else none

/-- The number in the leading digits, of which at most `most` count, and what follows them. -/
def digits (most : Nat) (sofar : Nat) : List Char → Nat × List Char
  | [] => (sofar, [])
  | c :: rest =>
    match most, digit? c with
    | most + 1, some d => digits most (sofar * 10 + d) rest
    | _, _ => (sofar, c :: rest)

/-- A number of one to `most` digits after blanks. -/
def number (most : Nat) (cs : List Char) : Option (Nat × List Char) :=
  match trimStart cs with
  | [] => none
  | c :: rest => if (digit? c).isSome then some (digits most 0 (c :: rest)) else none

/-- A year: four digits at most, or a sign and any number of digits. -/
def year (cs : List Char) : Option (Int × List Char) :=
  let unbounded (rest : List Char) : Option (Nat × List Char) :=
    match rest with
    | [] => none
    | c :: _ => if (digit? c).isSome then some (digits rest.length 0 rest) else none
  match trimStart cs with
  | '-' :: rest => do let (n, rest) ← unbounded rest; some (-(n : Int), rest)
  | '+' :: rest => do let (n, rest) ← unbounded rest; some ((n : Int), rest)
  | cs => do let (n, rest) ← number 4 cs; some ((n : Int), rest)

/-- A mark between two numbers, after blanks. -/
def mark (c : Char) (cs : List Char) : Option (List Char) :=
  match trimStart cs with
  | [] => none
  | first :: rest => if first = c then some rest else none

/-- A fraction in nanoseconds; digits beyond the ninth are dropped. -/
def fraction (cs : List Char) : Option (Nat × List Char) :=
  match cs with
  | '.' :: c :: rest =>
    if (digit? c).isSome then
      let shown := (c :: rest).takeWhile fun c => (digit? c).isSome
      let counted := shown.take 9
      some ((digits 9 0 counted).1 * Nat.pow 10 (9 - counted.length), (c :: rest).drop shown.length)
    else none
  | '.' :: [] => none
  | cs => some (0, cs)

/-- Two digits, the first at most `high`. -/
def twoDigits (high : Nat) : List Char → Option (Nat × List Char)
  | tens :: ones :: rest => do
    let t ← digit? tens
    let o ← digit? ones
    if t ≤ high then some (t * 10 + o, rest) else none
  | _ => none

/-- The offset from UTC in seconds: `Z`, `UTC`, or a sign, hours and minutes. -/
def offset (cs : List Char) : Option (Int × List Char) :=
  let signed (sign : Int) (rest : List Char) : Option (Int × List Char) := do
    let (hours, rest) ← twoDigits 9 rest
    let (minutes, rest) ← twoDigits 5 (rest.dropWhile fun c => c = ':' || Text.isBlank c)
    some (sign * (hours * 3600 + minutes * 60 : Nat), rest)
  match trimStart cs with
  | 'Z' :: rest | 'z' :: rest => some (0, rest)
  | '+' :: rest => signed 1 rest
  | '-' :: rest | '−' :: rest => signed (-1) rest
  | u :: t :: c :: rest =>
    if [u.toUpper, t.toUpper, c.toUpper] = ['U', 'T', 'C'] then some (0, rest) else none
  | _ => none

/-- The timestamp of a local date and time at an offset below a day, if the calendar holds both the
local date and the instant. -/
def assemble (date : Date) (hour minute second nanos : Nat) (offset : Int) : Option Timestamp :=
  if -262143 ≤ date.year ∧ date.year ≤ 262142 ∧ date.Valid ∧ hour < 24 ∧ minute < 60 ∧ second ≤ 60 ∧
      -86400 < offset ∧ offset < 86400 then
    let leap := second = 60
    let time : Int := (hour * 3600 + minute * 60 + if leap then 59 else second : Nat)
    match Instant.ofParts? (date.toDays * 86400 + time - offset) nanos with
    | none => none
    | some instant =>
      if inMinute : leap → instant.seconds % 60 = 59 then
        some ⟨instant, leap, fun h => inMinute (of_decide_eq_true h)⟩
      else none
  else none

end Rfc3339

/-- Reads a timestamp; the whole text must be one, blanks at its ends apart. -/
def Timestamp.ofChars? (cs : List Char) : Option Timestamp := do
  let (year, cs) ← Rfc3339.year cs
  let cs ← Rfc3339.mark '-' cs
  let (month, cs) ← Rfc3339.number 2 cs
  let cs ← Rfc3339.mark '-' cs
  let (day, cs) ← Rfc3339.number 2 cs
  let cs ← match cs with
    | 'T' :: rest | 't' :: rest | ' ' :: rest => some rest
    | _ => none
  let (hour, cs) ← Rfc3339.number 2 cs
  let cs ← Rfc3339.mark ':' cs
  let (minute, cs) ← Rfc3339.number 2 cs
  let cs ← Rfc3339.mark ':' cs
  let (second, cs) ← Rfc3339.number 2 cs
  let (nanos, cs) ← Rfc3339.fraction cs
  let (offset, cs) ← Rfc3339.offset cs
  if (Text.trimStart cs).isEmpty then
    Rfc3339.assemble ⟨year, month, day⟩ hour minute second nanos offset
  else none

/-- Reads a timestamp from text. -/
def Timestamp.ofText? (s : String) : Option Timestamp := Timestamp.ofChars? s.toList

end BearerAuth.Time
