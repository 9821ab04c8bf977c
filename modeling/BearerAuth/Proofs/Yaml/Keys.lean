import BearerAuth.Proofs.Yaml.LineEnd

/-! # Keys that are words

A word with a colon behind it is a key, whatever the margin is: it takes two rounds, and a mapping begins with it
where it stands deeper than the innermost block.
-/

namespace BearerAuth.Yaml

open Cursor

/-- The character may stand in a word. -/
def isWordChar (c : Char) : Bool := c.isAlphanum || c = '_'

/-- A token may begin with the character, so it ends a gap. -/
def isSolid (c : Char) : Bool := !isBlank c && !isBreak c && c ≠ '#' && c ≠ '\uFEFF'

theorem utf8Size_of_isWordChar {c : Char} (letter : isWordChar c = true) : c.utf8Size = 1 := by
  have ascii : c.val ≤ 127 := by
    rw [isWordChar, Bool.or_eq_true, decide_eq_true_eq] at letter
    -- each kind of letter ends before the last byte of ASCII
    obtain either | rfl := letter
    · obtain alpha | digit := (Bool.or_eq_true ..).mp either
      · obtain upper | lower := (Bool.or_eq_true ..).mp alpha
        · exact UInt32.le_trans (of_decide_eq_true upper).2 (by decide)
        · exact UInt32.le_trans (of_decide_eq_true ((Bool.and_eq_true ..).mp lower).2) (by decide)
      · exact UInt32.le_trans (of_decide_eq_true ((Bool.and_eq_true ..).mp digit).2) (by decide)
    · decide
  exact if_pos ascii

/-- A letter is none of the characters that mean something to YAML. -/
theorem ne_of_isWordChar {c : Char} (letter : isWordChar c = true) {special : Char}
    (unlike : isWordChar special = false) : c ≠ special := by
  rintro rfl
  rw [letter] at unlike
  cases unlike

theorem isSolid_of_isWordChar {c : Char} (letter : isWordChar c = true) : isSolid c = true := by
  simp only [isSolid, isBlank, isBreak, Bool.and_eq_true, Bool.not_eq_true', Bool.or_eq_false_iff,
    decide_eq_false_iff_not, decide_eq_true_eq]
  and_intros <;> exact ne_of_isWordChar letter (by decide)

theorem isIndicator_of_isWordChar {c : Char} (letter : isWordChar c = true) :
    Scanner.isIndicator c = false := by
  simp [Scanner.isIndicator, isFlowIndicator]
  and_intros <;> exact ne_of_isWordChar letter (by decide)

theorem gapAt_one {c : Cursor} {char : Char} {after : List Char} (rest : c.rest = char :: after)
    (gap : ∀ char ∈ after.head?, isBlank char || isBreak char) : c.gapAt 1 = true := by
  rw [List.head?_eq_getElem?] at gap
  simpa [gapAt, peekAt, rest, Option.all_eq_true] using gap

/-- The part of a plain scalar that is a word goes up to the colon. -/
theorem plainPart_word {word after : List Char} (letters : ∀ char ∈ word, isWordChar char = true)
    (gap : ∀ char ∈ after.head?, isBlank char || isBreak char) {c : Cursor}
    (rest : c.rest = word ++ ':' :: after) {fuel : Nat} (enough : word.length < fuel) :
    plainPart false fuel c = some (word, c.skip word.length) := by
  induction word generalizing c fuel with
  | nil =>
    obtain ⟨fuel, rfl⟩ := Nat.exists_eq_add_one.mpr enough
    rw [plainPart, c.atGap_cons rest, gapAt_one rest gap, rest]
    simp [isBlank, isBreak, Cursor.skip_zero]
  | cons char word ih =>
    obtain ⟨fuel, rfl⟩ := Nat.exists_eq_add_one.mpr (Nat.lt_of_le_of_lt (Nat.zero_le _) enough)
    have letter := letters char (List.mem_cons_self ..)
    have onward := ih (c := c.skip 1) (fun other member => letters other (List.mem_cons_of_mem _ member))
      (Cursor.rest_skip_one rest) (Nat.lt_of_succ_lt_succ enough)
    have solid := isSolid_of_isWordChar letter
    simp only [isSolid, Bool.and_eq_true, Bool.not_eq_true'] at solid
    have colon : char ≠ ':' := ne_of_isWordChar letter (by decide)
    rw [plainPart, c.atGap_cons rest, solid.1.1.1, solid.1.1.2, rest]
    simp [colon, onward, Cursor.skip_skip, Nat.add_comm 1]

/-- The cursor stands at a word with a colon and a gap behind it. -/
structure Cursor.AtKey (c : Cursor) (word after : List Char) : Prop where
  rest : c.rest = word ++ ':' :: after
  ne_nil : word ≠ []
  letters : ∀ char ∈ word, isWordChar char = true
  gap : ∀ char ∈ after.head?, isBlank char || isBreak char
  short : word.length ≤ maxKeyLength

theorem plain_word {c : Cursor} {word after : List Char} (key : c.AtKey word after) (margin : Nat) :
    plain false margin c = some (word, false, c.skip word.length) := by
  obtain ⟨char, more, rfl⟩ := List.exists_cons_of_ne_nil key.ne_nil
  have letter := key.letters char (List.mem_cons_self ..)
  have rest := key.rest
  have unmarked : c.atDocumentMark = false := by
    have dash : char ≠ '-' := ne_of_isWordChar letter (by decide)
    have dot : char ≠ '.' := ne_of_isWordChar letter (by decide)
    simp [atDocumentMark, marks, rest, List.isPrefixOf, dash.symm, dot.symm]
  have uncommented : c.isAt '#' = false := by
    simpa [isAt, peek, rest] using ne_of_isWordChar letter (by decide)
  have behind := Cursor.rest_skip rest
  have enough : (char :: more).length < c.rest.length + 1 := by
    rw [rest, List.length_append]
    omega
  rw [plain, plainTail, unmarked, uncommented, plainPart_word key.letters key.gap rest enough]
  have unblank : (c.skip (char :: more).length).atBlank = false := congrArg (·.head?.any isBlank) behind
  have unbroken : (c.skip (char :: more).length).atBreak = false := congrArg (·.head?.any isBreak) behind
  simp only [Option.bind_eq_bind, Option.bind_some, List.isEmpty_cons, unblank, unbroken]
  simp [Gap.folded, Gap.none]

namespace Scanner

variable {s : Scanner}

/-- Blanks are skipped up to the place where a token begins. -/
theorem skipGaps_blanks {blanks text : List Char} {char : Char} (rest : s.cursor.rest = blanks ++ char :: text)
    (passed : ∀ blank ∈ blanks, blank = ' ' ∨ s.keyAllowed = false ∧ blank = '\t')
    (solid : isSolid char = true) (fuel : Nat) :
    s.skipGaps (fuel + 1) = { s with cursor := s.cursor.skip blanks.length } := by
  simp only [isSolid, Bool.and_eq_true, Bool.not_eq_true', decide_eq_true_eq] at solid
  obtain ⟨⟨⟨unblank, unbroken⟩, uncommented⟩, unmarked⟩ := solid
  have marked : ¬(s.cursor.column = 0 ∧ s.cursor.isAt '\uFEFF' = true) := by
    cases blanks with
    | nil => simp [isAt, peek, rest, unmarked]
    | cons blank blanks =>
      have first := passed blank (List.mem_cons_self ..)
      have other : blank ≠ '\uFEFF' := by
        obtain rfl | ⟨-, rfl⟩ := first <;> decide
      simp [isAt, peek, rest, other]
  have skipped : s.cursor.skipWhile (fun char => char = ' ' || (s.inFlow || !s.keyAllowed) && char = '\t') =
      s.cursor.skip blanks.length := by
    have all : ∀ blank ∈ blanks,
        (decide (blank = ' ') || (s.inFlow || !s.keyAllowed) && decide (blank = '\t')) = true := by
      intro blank member
      obtain rfl | ⟨keyless, rfl⟩ := passed blank member
      · rfl
      · simp [keyless]
    simp only [isBlank, Bool.or_eq_false_iff] at unblank
    simp only [skipWhile, takeWhile, rest]
    rw [List.takeWhile_append_of_pos all, List.takeWhile_cons_of_neg (by simp [unblank]), List.append_nil]
  have behind := Cursor.rest_skip rest
  have here : s.pastBlanks = s.cursor.skip blanks.length := by
    simp only [pastBlanks, if_neg marked, skipped]
    simp [isAt, peek, behind, uncommented]
  rw [skipGaps_succ, here, if_neg (by simp [atBreak, peek, behind, unbroken])]

/-- Nothing is skipped where a token begins. -/
theorem skipGaps_of_solid {char : Char} (next : char ∈ s.cursor.peek) (solid : isSolid char = true)
    (fuel : Nat) : s.skipGaps (fuel + 1) = s := by
  obtain ⟨text, rest⟩ := List.head?_eq_some_iff.mp next
  have none := s.skipGaps_blanks (List.nil_append (char :: text) ▸ rest) (by simp) solid fuel
  rw [none, List.length_nil, skip_zero]

theorem token_of_isWordChar {char : Char} (letter : isWordChar char = true) {text : List Char}
    (rest : s.cursor.rest = char :: text) : s.token char = s.plainScalar := by
  have other {special : Char} (unlike : isWordChar special = false) : (char = special) = False :=
    eq_false (ne_of_isWordChar letter unlike)
  have unmarked {special : Char} (unlike : isWordChar special = false) :
      s.cursor.marks special = false := by
    simp [marks, rest, List.isPrefixOf, (ne_of_isWordChar letter unlike).symm]
  simp (disch := decide) only [token, unmarked, other, isIndicator_of_isWordChar letter, false_and,
    and_false, if_false, Bool.false_eq_true]

theorem token_of_colon {after : List Char} (rest : s.cursor.rest = ':' :: after)
    (gap : ∀ char ∈ after.head?, isBlank char || isBreak char) : s.token ':' = s.value := by
  have unmarked {special : Char} (unlike : special ≠ ':') : s.cursor.marks special = false := by
    simp [marks, rest, List.isPrefixOf, unlike]
  simp [token, unmarked, gapAt_one rest gap]

/-- A gap may be skipped beforehand. -/
theorem run_skipGaps {t : Scanner} {char : Char} (skipped : s.skipGaps (s.cursor.rest.length + 1) = t)
    (next : char ∈ t.cursor.peek) (solid : isSolid char = true) (fuel : Nat) :
    s.run (fuel + 1) = t.run (fuel + 1) := by
  rw [run_succ, run_succ, skipped, skipGaps_of_solid next solid]

/-- A round that takes a token right here. -/
theorem run_token {t : Scanner} {char : Char} (next : char ∈ s.cursor.peek)
    (solid : isSolid char = true) (fresh : s.dropStaleKeys = some s)
    (deep : ∀ column ∈ s.blocks.head?, column ≤ s.cursor.column) (taken : s.token char = some t)
    (fuel : Nat) : s.run (fuel + 1) = t.run fuel := by
  rw [run_succ, skipGaps_of_solid next solid, fresh, Option.bind_some]
  simp only [ahead, Option.mem_def.mp next, closeBlocks_of_le deep, taken]
  rfl

/-- A key may begin here, and the innermost block begins no deeper. -/
structure AtEntry (s : Scanner) : Prop where
  unkeyed : s.keyStart = none
  outer : s.outerKeys = []
  keyAllowed : s.keyAllowed = true
  deep : ∀ column ∈ s.blocks.head?, column ≤ s.cursor.column

/-- The state behind a word that is a key. -/
def keyed (s : Scanner) (word : List Char) : Scanner :=
  let opened := s.openBlock s.cursor.column s.tokens.length .blockMappingStart
  { opened with
    cursor := s.cursor.skip (word.length + 1)
    tokens := .value :: .scalar .plain word :: .key :: opened.tokens
    keyAllowed := false }

theorem dropStaleKeys_of_fresh (outer : s.outerKeys = [])
    (fresh : ∀ key ∈ s.keyStart, isStale s.cursor key = false) : s.dropStaleKeys = some s := by
  obtain ⟨c, tokens, blocks, keyStart, outerKeys, keyAllowed⟩ := s
  subst outer
  cases keyStart with
  | none => rfl
  | some key => simp [dropStaleKeys, fresh key rfl]

theorem byteCount_word {word : List Char} (letters : ∀ char ∈ word, isWordChar char = true) :
    byteCount word = word.length := by
  induction word with
  | nil => rfl
  | cons char word ih =>
    rw [List.forall_mem_cons] at letters
    rw [byteCount, ih letters.2, utf8Size_of_isWordChar letters.1, List.length_cons, Nat.add_comm]

/-- The state behind a word that may be a key. -/
def worded (s : Scanner) (word : List Char) : Scanner :=
  { s with
    cursor := s.cursor.skip word.length
    tokens := .scalar .plain word :: s.tokens
    keyStart := some ⟨s.tokens.length, s.cursor, s.blocks.head? == some s.cursor.column⟩
    keyAllowed := false }

theorem AtEntry.token_word (entry : s.AtEntry) {char : Char} {more after : List Char}
    (key : s.cursor.AtKey (char :: more) after) : s.token char = some (s.worded (char :: more)) := by
  obtain ⟨c, tokens, blocks, keyStart, outerKeys, keyAllowed⟩ := s
  obtain ⟨rfl, rfl, rfl, -⟩ := entry
  rw [token_of_isWordChar (key.letters char (List.mem_cons_self ..)) key.rest]
  simp [plainScalar, rememberKey, dropKey, inFlow, plain_word key, push, worded]

theorem AtEntry.value_worded (entry : s.AtEntry) (word : List Char) :
    (s.worded word).value = some (s.keyed word) := by
  obtain ⟨c, tokens, blocks, keyStart, outerKeys, keyAllowed⟩ := s
  obtain ⟨rfl, rfl, rfl, -⟩ := entry
  have two : tokens.length + 1 + 1 - tokens.length = 2 := by omega
  cases blocks with
  | nil =>
    simp [value, worded, keyed, insert, openBlock, inFlow, margin, two, takeLast, take, push,
      Cursor.skip_skip]
  | cons column blocks =>
    by_cases deeper : column + 1 ≤ c.column <;>
      simp [value, worded, keyed, insert, openBlock, inFlow, margin, two, takeLast, take, push,
        Cursor.skip_skip, deeper]

theorem AtEntry.run_key (entry : s.AtEntry) {word after : List Char} (key : s.cursor.AtKey word after)
    (fuel : Nat) : s.run (fuel + 2) = (s.keyed word).run fuel := by
  obtain ⟨char, more, rfl⟩ := List.exists_cons_of_ne_nil key.ne_nil
  have letter := key.letters char (List.mem_cons_self ..)
  have next : char ∈ s.cursor.peek := by
    rw [peek, key.rest]
    rfl
  have behind : (s.worded (char :: more)).cursor.rest = ':' :: after := Cursor.rest_skip key.rest
  rw [run_token next (isSolid_of_isWordChar letter)
      (dropStaleKeys_of_fresh entry.outer (by simp [entry.unkeyed])) entry.deep
      (entry.token_word key) (fuel + 1)]
  have colon : ':' ∈ (s.worded (char :: more)).cursor.peek := by
    rw [peek, behind]
    rfl
  refine run_token colon (by decide) ?_ ?_ ?_ fuel
  · refine dropStaleKeys_of_fresh entry.outer ?_
    rintro _ ⟨rfl⟩
    simpa [isStale, worded, Cursor.skip, key.rest, byteCount_word key.letters] using key.short
  · exact fun column member => Nat.le_add_right_of_le (entry.deep column member)
  · rw [token_of_colon behind key.gap, entry.value_worded]

end Scanner

end BearerAuth.Yaml
