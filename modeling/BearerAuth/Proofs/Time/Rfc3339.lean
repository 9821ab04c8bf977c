import BearerAuth.Proofs.Decimal.Digits
import BearerAuth.Proofs.Time.Calendar
import BearerAuth.Time.Rfc3339

/-! # Timestamps read back

Each part of a written timestamp is read back up to the mark that follows it: numbers in two digits
end by themselves, and a longer year or fraction ends where no digit follows. Put together again, the
parts make the timestamp they were taken from.
-/

namespace BearerAuth.Time

/-- The digits of a number in at least that many places. -/
def paddedDigits (width n : Nat) : List Nat :=
  List.replicate (width - (Decimal.digits n).length) 0 ++ Decimal.digits n

theorem padded_eq (width n : Nat) : padded width n = (paddedDigits width n).map Nat.digitChar := by
  simp [padded, paddedDigits, Decimal.toDigits_eq]

theorem paddedDigits_lt {width n d : Nat} (member : d ∈ paddedDigits width n) : d < 10 := by
  rcases List.mem_append.mp member with zero | shown
  · rw [List.eq_of_mem_replicate zero]
    decide
  · exact Decimal.digits_lt n d shown

theorem fold_paddedDigits (width n : Nat) : Decimal.fold 0 (paddedDigits width n) = n := by
  rw [paddedDigits, Decimal.fold_zeros, Nat.zero_mul, Decimal.fold_digits]

theorem paddedDigits_ne_nil (width n : Nat) : paddedDigits width n ≠ [] :=
  List.append_ne_nil_of_right_ne_nil _ (Decimal.digits_ne_nil n)

/-- A number that fits takes no more places. -/
theorem length_paddedDigits {width n : Nat} (positive : 0 < width) (fits : n < 10 ^ width) :
    (paddedDigits width n).length = width := by
  have short := (Decimal.length_digits_le positive).mpr fits
  simp only [paddedDigits, List.length_append, List.length_replicate]
  omega

namespace Rfc3339

open BearerAuth.Text (trimStart isBlank)

theorem digit?_digitChar : ∀ d < 10, digit? (Nat.digitChar d) = some d := by decide

private theorem isBlank_digitChar : ∀ d < 10, isBlank (Nat.digitChar d) = false := by decide

/-- Reading stops where no digit follows. -/
def Stops (cs : List Char) : Prop := ∀ c ∈ cs.head?, digit? c = none

theorem stops_cons {c : Char} {rest : List Char} (mark : digit? c = none) : Stops (c :: rest) := by
  simpa [Stops] using mark

/-- Digits are read until there are as many as count, or none follows. -/
theorem digits_append {ds : List Nat} {most : Nat} (small : ∀ d ∈ ds, d < 10) (sofar : Nat)
    (rest : List Char) (room : ds.length ≤ most) (ends : most = ds.length ∨ Stops rest) :
    digits most sofar (ds.map Nat.digitChar ++ rest) = (Decimal.fold sofar ds, rest) := by
  induction ds generalizing most sofar with
  | nil =>
    cases rest with
    | nil => cases most <;> rfl
    | cons c rest =>
      rcases ends with rfl | stops
      · rfl
      · have mark : digit? c = none := stops c rfl
        simp only [List.map_nil, List.nil_append, digits.eq_def most, mark]
        rfl
  | cons d ds ih =>
    obtain ⟨more, rfl⟩ : ∃ more, most = more + 1 := ⟨most - 1, by simp at room; omega⟩
    obtain ⟨digit, others⟩ := List.forall_mem_cons.mp small
    rw [List.map_cons, List.cons_append, digits.eq_def]
    simp only [digit?_digitChar d digit]
    exact ih others (sofar * 10 + d) (by simpa using room) (by simpa using ends)

private theorem trimStart_cons {c : Char} (rest : List Char) (shown : isBlank c = false) :
    trimStart (c :: rest) = c :: rest := by
  simp [trimStart, shown]

private theorem trimStart_digits {ds : List Nat} (small : ∀ d ∈ ds, d < 10) (some : ds ≠ [])
    (rest : List Char) : trimStart (ds.map Nat.digitChar ++ rest) = ds.map Nat.digitChar ++ rest := by
  cases ds with
  | nil => exact absurd rfl some
  | cons d ds => exact trimStart_cons _ (isBlank_digitChar d (small d (List.mem_cons_self ..)))

/-- A number in as many digits as count is read back. -/
theorem number_padded {width n : Nat} (positive : 0 < width) (fits : n < 10 ^ width)
    (rest : List Char) : number width (padded width n ++ rest) = some (n, rest) := by
  have small : ∀ d ∈ paddedDigits width n, d < 10 := fun _ => paddedDigits_lt
  have length := length_paddedDigits positive fits
  have read := digits_append small 0 rest (Nat.le_of_eq length) (.inl length.symm)
  rw [fold_paddedDigits] at read
  rw [padded_eq, number, trimStart_digits small (paddedDigits_ne_nil width n)]
  match shown : paddedDigits width n with
  | [] => exact absurd shown (paddedDigits_ne_nil width n)
  | d :: ds =>
    rw [shown] at small read
    have digit := digit?_digitChar d (small d (List.mem_cons_self ..))
    rw [List.map_cons, List.cons_append] at read ⊢
    simp only [digit, Option.isSome_some, if_true, read]

theorem mark_cons {c : Char} (shown : isBlank c = false) (rest : List Char) :
    mark c (c :: rest) = some rest := by
  rw [mark, trimStart_cons rest shown]
  simp only [if_true]

theorem padded_cons (width n : Nat) :
    ∃ d rest, d < 10 ∧ padded width n = Nat.digitChar d :: rest := by
  rw [padded_eq]
  match shown : paddedDigits width n with
  | [] => exact absurd shown (paddedDigits_ne_nil width n)
  | d :: ds =>
    have member : d ∈ paddedDigits width n := by simp [shown]
    exact ⟨d, ds.map Nat.digitChar, paddedDigits_lt member, rfl⟩

/-- All digits are read where there is no bound on their number. -/
private theorem digits_padded (width n : Nat) {rest : List Char} (stops : Stops rest) :
    digits (padded width n ++ rest).length 0 (padded width n ++ rest) = (n, rest) := by
  rw [padded_eq, digits_append (fun _ => paddedDigits_lt) 0 rest (by simp) (.inr stops),
    fold_paddedDigits]

private theorem digitChar_ne_sign : ∀ d < 10, Nat.digitChar d ≠ '-' ∧ Nat.digitChar d ≠ '+' := by
  decide

/-- A year is read back before the mark that follows it. -/
theorem year_yearText (y : Int) (rest : List Char) :
    year (yearText y ++ '-' :: rest) = some (y, '-' :: rest) := by
  have stops : Stops ('-' :: rest) := stops_cons (by decide)
  rw [yearText]
  split_ifs with usual negative
  · obtain ⟨n, rfl⟩ := Int.eq_ofNat_of_zero_le usual.1
    have fits : n < 10 ^ 4 := by omega
    have read := number_padded (by decide) fits ('-' :: rest)
    obtain ⟨d, ds, digit, shown⟩ := padded_cons 4 n
    have unsigned := digitChar_ne_sign d digit
    rw [shown, List.cons_append] at read
    rw [Int.toNat_natCast, shown, List.cons_append, year, trimStart_cons _ (isBlank_digitChar d digit)]
    split
    · rename_i same
      exact absurd (List.cons.inj same).1 unsigned.1
    · rename_i same
      exact absurd (List.cons.inj same).1 unsigned.2
    · rw [read]
      rfl
  · have read := digits_padded 4 y.natAbs stops
    obtain ⟨d, ds, digit, shown⟩ := padded_cons 4 y.natAbs
    rw [shown, List.cons_append] at read
    rw [shown, List.cons_append, List.cons_append, year, trimStart_cons _ (by decide)]
    simp only [digit?_digitChar d digit, Option.isSome_some, if_true, read]
    have same : -(y.natAbs : Int) = y := by omega
    exact congrArg (fun y => some (y, '-' :: rest)) same
  · have read := digits_padded 4 y.natAbs stops
    obtain ⟨d, ds, digit, shown⟩ := padded_cons 4 y.natAbs
    rw [shown, List.cons_append] at read
    rw [shown, List.cons_append, List.cons_append, year, trimStart_cons _ (by decide)]
    simp only [digit?_digitChar d digit, Option.isSome_some, if_true, read]
    have same : (y.natAbs : Int) = y := by omega
    exact congrArg (fun y => some (y, '-' :: rest)) same

private theorem fraction_digits {cs : List Char} (first : ∀ c ∈ cs.head?, (digit? c).isSome = true)
    (some : cs ≠ []) :
    let shown := cs.takeWhile fun c => (digit? c).isSome
    fraction ('.' :: cs) = .some ((digits 9 0 (shown.take 9)).1 * 10 ^ (9 - (shown.take 9).length),
      cs.drop shown.length) := by
  cases cs with
  | nil => exact absurd rfl some
  | cons c rest =>
    have digit : (digit? c).isSome = true := first c rfl
    simp only [fraction, digit, if_true, Nat.pow_eq]

/-- Digits of a fraction count by their places. -/
private theorem fraction_padded {width n : Nat} {rest : List Char} (positive : 0 < width)
    (counted : width ≤ 9) (fits : n < 10 ^ width) (stops : Stops rest) :
    fraction ('.' :: padded width n ++ rest) = some (n * 10 ^ (9 - width), rest) := by
  have length : (padded width n).length = width := by
    rw [padded_eq, List.length_map, length_paddedDigits positive fits]
  have shown : (padded width n ++ rest).takeWhile (fun c => (digit? c).isSome) = padded width n := by
    have all : ∀ c ∈ padded width n, (digit? c).isSome = true := by
      intro c member
      rw [padded_eq] at member
      obtain ⟨d, member', rfl⟩ := List.mem_map.mp member
      rw [digit?_digitChar _ (paddedDigits_lt member')]
      rfl
    have none : rest.takeWhile (fun c => (digit? c).isSome) = [] := by
      cases rest with
      | nil => rfl
      | cons c rest => simp [stops c rfl]
    rw [List.takeWhile_append_of_pos all, none, List.append_nil]
  have read : digits 9 0 (padded width n) = (n, []) := by
    have small : ∀ d ∈ paddedDigits width n, d < 10 := fun _ => paddedDigits_lt
    have room : (paddedDigits width n).length ≤ 9 := by rwa [length_paddedDigits positive fits]
    have whole := digits_append small 0 [] room (.inr (by simp [Stops]))
    rw [List.append_nil, ← padded_eq, fold_paddedDigits] at whole
    exact whole
  have first : ∀ c ∈ (padded width n ++ rest).head?, (digit? c).isSome = true := by
    obtain ⟨d, ds, digit, same⟩ := padded_cons width n
    simp [same, digit?_digitChar d digit]
  have some : padded width n ++ rest ≠ [] := by simp [padded_eq, paddedDigits_ne_nil]
  have taken : (padded width n).take 9 = padded width n := List.take_of_length_le (by omega)
  rw [List.cons_append, fraction_digits first some]
  simp only [shown, taken, read, length]
  exact congrArg (fun rest => Option.some (n * 10 ^ (9 - width), rest)) (List.drop_left' length)

/-- A fraction is read back before a mark. -/
theorem fraction_fractionText {nanos : Nat} (below : nanos < 1000000000) (rest : List Char) :
    fraction (fractionText nanos ++ 'Z' :: rest) = some (nanos, 'Z' :: rest) := by
  have stops : Stops ('Z' :: rest) := stops_cons (by decide)
  rw [fractionText]
  split_ifs with whole millis micros
  · rw [whole]
    rfl
  · rw [fraction_padded (by decide) (by decide) (by omega) stops]
    exact congrArg (fun n => some (n, 'Z' :: rest)) (by omega)
  · rw [fraction_padded (by decide) (by decide) (by omega) stops]
    exact congrArg (fun n => some (n, 'Z' :: rest)) (by omega)
  · rw [fraction_padded (by decide) (by decide) (by omega) stops]
    exact congrArg (fun n => some (n, 'Z' :: rest)) (by omega)

end Rfc3339

namespace Timestamp

open Rfc3339

/-- A leap second is the only one that is told as the sixtieth. -/
private theorem told_second {leap : Bool} {second told : Nat}
    (minute : leap = true → second % 60 = 59)
    (shown : second % 60 + (if leap then 1 else 0) = told) :
    (told = 60 ↔ leap = true) ∧ (if told = 60 then 59 else told) = second % 60 ∧ told ≤ 60 := by
  have below : second % 60 < 60 := Nat.mod_lt second (by decide)
  cases leap with
  | true =>
    have last := minute rfl
    rw [if_pos rfl] at shown
    have full : told = 60 := by omega
    exact ⟨by simp [full], by rw [if_pos full, last], by omega⟩
  | false =>
    rw [if_neg Bool.false_ne_true] at shown
    have short : told ≠ 60 := by omega
    exact ⟨by simp [short], by rw [if_neg short, ← shown, Nat.add_zero], by omega⟩

/-- The parts of a timestamp make it again. -/
private theorem assemble_parts (t : Timestamp) :
    let second := (t.seconds % 86400).toNat
    assemble (Date.ofDays (t.seconds / 86400)) (second / 3600) (second / 60 % 60)
      (second % 60 + if t.inLeapSecond then 1 else 0) t.instant.subsecNanos 0 = some t := by
  intro second
  have inCalendar := t.instant.inCalendar
  have first : -96465292 ≤ t.seconds / 86400 := by
    simp only [seconds, Instant.seconds]
    omega
  have last : t.seconds / 86400 < 95026237 := by
    simp only [seconds, Instant.seconds]
    omega
  have years := Date.year_ofDays first last
  have whole : t.seconds = t.seconds / 86400 * 86400 + second := by omega
  have minute : t.inLeapSecond = true → second % 60 = 59 := by
    intro leap
    have ends := t.endsMinute leap
    change t.seconds % 60 = 59 at ends
    omega
  generalize shown : second % 60 + (if t.inLeapSecond then 1 else 0) = s
  obtain ⟨leaps, time, within⟩ := told_second minute shown
  have sum : Date.toDays (Date.ofDays (t.seconds / 86400)) * 86400 +
      (second / 3600 * 3600 + second / 60 % 60 * 60 + second % 60 : Nat) - 0 = t.instant.seconds := by
    change _ = t.seconds
    rw [Date.toDays_ofDays]
    omega
  have hour : second / 3600 < 24 := by omega
  have minutes : second / 60 % 60 < 60 := by omega
  rw [assemble, if_pos ⟨years.1, years.2, Date.valid_ofDays _, hour, minutes, within, by decide,
    by decide⟩]
  simp only [time, sum, Instant.ofParts?_eta]
  rw [dif_pos fun leap => t.endsMinute (leaps.mp leap)]
  obtain ⟨instant, leap, ends⟩ := t
  simp only [Option.some.injEq, Timestamp.mk.injEq, true_and]
  rw [Bool.eq_iff_iff, decide_eq_true_iff]
  exact leaps

/-- A timestamp is read back from its text. -/
theorem ofText?_toText (t : Timestamp) : ofText? t.toText = some t := by
  have date := Date.valid_ofDays (t.seconds / 86400)
  have month : (Date.ofDays (t.seconds / 86400)).month < 10 ^ 2 := Nat.lt_of_le_of_lt date.2.1 (by decide)
  have day : (Date.ofDays (t.seconds / 86400)).day < 10 ^ 2 :=
    Nat.lt_of_le_of_lt (Nat.le_trans date.2.2.2 (Date.daysInMonth_le _ _)) (by decide)
  have nanos : t.instant.subsecNanos < 1000000000 := by
    simp only [Instant.subsecNanos]
    omega
  have parts := assemble_parts t
  rw [ofText?, toText, String.toList_ofList, toChars]
  simp only [List.append_assoc, List.cons_append] at parts ⊢
  have below : (t.seconds % 86400).toNat < 86400 := by omega
  generalize (t.seconds % 86400).toNat = second at parts below ⊢
  have hour : second / 3600 < 10 ^ 2 := by omega
  have minute : second / 60 % 60 < 10 ^ 2 := by omega
  have last : second % 60 + (if t.inLeapSecond then 1 else 0) < 10 ^ 2 := by split <;> omega
  have two {n : Nat} (fits : n < 10 ^ 2) := number_padded (by decide) fits
  have dash := mark_cons (c := '-') (by decide)
  have colon := mark_cons (c := ':') (by decide)
  refine Option.bind_eq_some_iff.mpr ⟨_, year_yearText _ _, ?_⟩
  refine Option.bind_eq_some_iff.mpr ⟨_, dash _, ?_⟩
  refine Option.bind_eq_some_iff.mpr ⟨_, two month _, ?_⟩
  refine Option.bind_eq_some_iff.mpr ⟨_, dash _, ?_⟩
  refine Option.bind_eq_some_iff.mpr ⟨_, two day _, ?_⟩
  refine Option.bind_eq_some_iff.mpr ⟨_, rfl, ?_⟩
  refine Option.bind_eq_some_iff.mpr ⟨_, two hour _, ?_⟩
  refine Option.bind_eq_some_iff.mpr ⟨_, colon _, ?_⟩
  refine Option.bind_eq_some_iff.mpr ⟨_, two minute _, ?_⟩
  refine Option.bind_eq_some_iff.mpr ⟨_, colon _, ?_⟩
  refine Option.bind_eq_some_iff.mpr ⟨_, two last _, ?_⟩
  refine Option.bind_eq_some_iff.mpr ⟨_, fraction_fractionText nanos [], ?_⟩
  exact parts

end Timestamp

end BearerAuth.Time
