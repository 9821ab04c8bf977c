import BearerAuth.Proofs.Yaml.Moving

/-! # Text between double quotes

Between double quotes a text of one line stands for itself, blanks included, as long as it has neither a
double quote nor a backslash in it.
-/

namespace BearerAuth.Yaml

/-- The character may stand in a text, and ends no line. -/
def isPrintable (c : Char) : Bool := isAllowed c && !isBreak c

/-- The character stands for itself between double quotes. -/
def isInert (c : Char) : Bool := isPrintable c && c ≠ '"' && c ≠ '\\'

theorem isAllowed_of_isInert {c : Char} (inert : isInert c = true) : isAllowed c = true := by
  simp only [isInert, isPrintable, Bool.and_eq_true] at inert
  exact inert.1.1.1

theorem isBreak_of_isInert {c : Char} (inert : isInert c = true) : isBreak c = false := by
  simp only [isInert, isPrintable, Bool.and_eq_true, Bool.not_eq_true'] at inert
  exact inert.1.1.2

/-- The text up to a blank or the closing quote is taken as it stands. -/
theorem quotedPart_inert {word after : List Char} {next : Char}
    (inert : ∀ char ∈ word, isInert char = true ∧ isBlank char = false)
    (ends : next = '"' ∨ isBlank next = true) {c : Cursor} (rest : c.rest = word ++ next :: after)
    {fuel : Nat} (enough : word.length < fuel) :
    quotedPart false fuel c = some (word, false, c.skip word.length) := by
  induction word generalizing c fuel with
  | nil =>
    obtain ⟨fuel, rfl⟩ := Nat.exists_eq_add_one.mpr enough
    rw [quotedPart, c.atGap_cons rest]
    obtain rfl | blank := ends
    · simp [isBlank, isBreak, rest, Cursor.skip_zero]
    · simp [blank, Cursor.skip_zero]
  | cons char word ih =>
    obtain ⟨fuel, rfl⟩ := Nat.exists_eq_add_one.mpr (Nat.lt_of_le_of_lt (Nat.zero_le _) enough)
    obtain ⟨plain, unblank⟩ := inert char (List.mem_cons_self ..)
    have onward := ih (c := c.skip 1) (fun other member => inert other (List.mem_cons_of_mem _ member))
      (Cursor.rest_skip_one rest) (Nat.lt_of_succ_lt_succ enough)
    have step : quotedPart false (fuel + 1) c = (quotedPart false fuel (c.skip 1)).bind
        fun part => some (char :: part.1, part.2.1, part.2.2) := by
      simp only [isInert, Bool.and_eq_true, decide_eq_true_eq] at plain
      obtain ⟨⟨printable, quote⟩, backslash⟩ := plain
      rw [quotedPart, c.atGap_cons rest, unblank,
        isBreak_of_isInert (inert char (List.mem_cons_self ..)).1, rest, List.cons_append]
      simp only [Bool.or_self, Bool.false_eq_true, ↓reduceIte, false_or]
      split
      · rename_i parts
        obtain ⟨rfl, -⟩ := List.cons.inj parts
        rfl
      · rename_i parts
        obtain ⟨rfl, -⟩ := List.cons.inj parts
        rw [if_neg quote, if_pos backslash]
        rfl
      · rename_i parts
        cases parts
    rw [step, onward, Option.bind_some, Cursor.skip_skip, Nat.add_comm 1]
    rfl

/-- A gap within a line is taken as it stands. -/
theorem gapFrom_blanks {blanks after : List Char} {next : Char}
    (blank : ∀ char ∈ blanks, isBlank char = true) (ends : isBlank next = false ∧ isBreak next = false)
    {c : Cursor} (rest : c.rest = blanks ++ next :: after) {fuel : Nat} (enough : blanks.length < fuel)
    (earlier : List Char) :
    gapFrom 0 fuel ⟨false, earlier, [], []⟩ c =
      some (⟨false, earlier ++ blanks, [], []⟩, c.skip blanks.length) := by
  induction blanks generalizing c fuel earlier with
  | nil =>
    obtain ⟨fuel, rfl⟩ := Nat.exists_eq_add_one.mpr enough
    simp [gapFrom, Cursor.atBreak, Cursor.peek, rest, ends.1, ends.2, Cursor.skip_zero]
  | cons char blanks ih =>
    obtain ⟨fuel, rfl⟩ := Nat.exists_eq_add_one.mpr (Nat.lt_of_le_of_lt (Nat.zero_le _) enough)
    have isBlank := blank char (List.mem_cons_self ..)
    have unbroken : isBreak char = false := by
      simp only [Yaml.isBlank, Bool.or_eq_true, decide_eq_true_eq] at isBlank
      obtain rfl | rfl := isBlank <;> decide
    have onward := ih (c := c.skip 1) (fun other member => blank other (List.mem_cons_of_mem _ member))
      (Cursor.rest_skip_one rest) (Nat.lt_of_succ_lt_succ enough) (earlier ++ [char])
    rw [Cursor.skip_skip, Nat.add_comm 1, List.append_assoc] at onward
    simpa [gapFrom, Cursor.atBreak, Cursor.peek, rest, isBlank, unbroken] using onward

/-- The front of a text as far as a condition holds, and what follows. -/
theorem exists_front (p : Char → Bool) (text : List Char) :
    ∃ front tail, text = front ++ tail ∧ (∀ char ∈ front, p char = true) ∧
      ∀ char ∈ tail.head?, p char = false := by
  refine ⟨text.takeWhile p, text.dropWhile p, List.takeWhile_append_dropWhile.symm,
    List.all_eq_true.mp List.all_takeWhile, ?_⟩
  intro char head
  have stops := List.head?_dropWhile_not p text
  rwa [Option.mem_def.mp head] at stops

theorem quotedTail_succ {c : Cursor} (inLine : 0 < c.column) (going : c.rest ≠ []) (fuel : Nat) :
    quotedTail false (fuel + 1) c = (do
      let (part, escapedBreak, c) ← quotedPart false (fuel + 1) c
      if c.isAt '"' then some (part, c.skip 1)
      else
        let (gap, c) ← gapFrom 0 (fuel + 1) { Gap.none with broken := escapedBreak } c
        let (rest, c) ← quotedTail false fuel c
        some (part ++ gap.folded ++ rest, c)) := by
  have unmarked : c.atDocumentMark = false := by
    simp [Cursor.atDocumentMark, Cursor.marks, Nat.ne_of_gt inLine]
  have unended : c.atEnd = false := by simpa [Cursor.atEnd] using going
  rw [quotedTail, unmarked, unended]
  rfl

/-- Inert text is taken up to the closing quote, its gaps as they stand. -/
theorem quotedTail_inert {text after : List Char} (inert : ∀ char ∈ text, isInert char = true)
    {c : Cursor} (rest : c.rest = text ++ '"' :: after) (inLine : 0 < c.column) {fuel : Nat}
    (enough : text.length < fuel) :
    quotedTail false fuel c = some (text, c.skip (text.length + 1)) := by
  -- a round takes a word and the gap behind it, so the induction is on what the gap leaves
  induction length : text.length using Nat.strongRecOn generalizing text c fuel with
  | ind n ih =>
    subst length
    obtain ⟨fuel, rfl⟩ := Nat.exists_eq_add_one.mpr (Nat.lt_of_le_of_lt (Nat.zero_le _) enough)
    rw [quotedTail_succ inLine (by simp [rest])]
    obtain ⟨word, more, rfl, unblank, stops⟩ := exists_front (fun char => !isBlank char) text
    simp only [Bool.not_eq_true', Bool.not_eq_false'] at unblank stops
    have plain : ∀ char ∈ word, isInert char = true ∧ isBlank char = false := fun char member =>
      ⟨inert char (List.mem_append_left _ member), unblank char member⟩
    obtain ⟨blanks, tail, rfl, blank, ends⟩ := exists_front isBlank more
    rw [List.append_assoc] at rest
    cases blanks with
    | nil =>
      have last : tail = [] := by
        cases tail with
        | nil => rfl
        | cons next tail => simp_all
      subst last
      rw [quotedPart_inert plain (.inl rfl) rest (by simpa using enough)]
      have closing : (c.skip word.length).isAt '"' = true := by
        simp [Cursor.isAt, Cursor.peek, Cursor.rest_skip rest]
      simp only [Option.bind_eq_bind, Option.bind_some, closing, ↓reduceIte, Cursor.skip_skip,
        List.append_nil]
    | cons first blanks =>
      simp only [List.length_append, List.length_cons] at enough
      have isBlank := blank first (List.mem_cons_self ..)
      rw [quotedPart_inert plain (.inr isBlank) rest (by omega)]
      have behind := Cursor.rest_skip rest
      have onward : (c.skip word.length).isAt '"' = false := by
        simp [Cursor.isAt, Cursor.peek, behind]
        rintro rfl
        cases isBlank
      -- the gap ends at the next word or at the closing quote
      obtain ⟨next, later, parts, unblanked⟩ : ∃ next later, tail ++ '"' :: after = next :: later ∧
          Yaml.isBlank next = false ∧ isBreak next = false := by
        cases tail with
        | nil => exact ⟨'"', after, rfl, by decide⟩
        | cons next tail =>
          exact ⟨next, _, rfl, ends next rfl,
            isBreak_of_isInert (inert next (by simp))⟩
      rw [List.append_assoc, parts] at behind
      have few : (first :: blanks).length < fuel + 1 := by
        simp only [List.length_cons]
        omega
      have gap := gapFrom_blanks blank unblanked behind few []
      have beyond := Cursor.rest_skip behind
      rw [← parts] at beyond
      have fewer : tail.length < fuel := by omega
      have later := ih tail.length (by simp only [List.length_append, List.length_cons]; omega)
        (fun char member => inert char (by simp [member])) beyond
        (by simp only [Cursor.skip]; omega) fewer rfl
      rw [Cursor.skip_skip] at later
      simp only [Option.bind_eq_bind, Option.bind_some, onward, Bool.false_eq_true, ↓reduceIte,
        Gap.none, gap, later, List.nil_append, Gap.folded, Bool.not_false, Cursor.skip_skip,
        List.append_assoc, List.length_append, Nat.add_assoc]

/-- Inert text between double quotes stands for itself. -/
theorem quoted_inert {text after : List Char} (inert : ∀ char ∈ text, isInert char = true)
    {c : Cursor} (rest : c.rest = '"' :: (text ++ '"' :: after)) :
    quoted false c = some (text, c.skip (text.length + 2)) := by
  have behind : (c.skip 1).rest = text ++ '"' :: after := Cursor.rest_skip_one rest
  rw [quoted, quotedTail_inert inert behind (Nat.succ_pos _) (by simp [rest]; omega),
    Cursor.skip_skip]
  congr 3
  omega

end BearerAuth.Yaml
