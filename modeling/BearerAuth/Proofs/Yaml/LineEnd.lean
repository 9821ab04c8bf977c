import BearerAuth.Proofs.Yaml.Placement
import Mathlib.Data.List.TakeWhile

/-! # The end of a line

Columns count on the line they are on, and keys end on the line they begin on. So once nothing but commas, closing
brackets and a comment are left of a line, the tokens from there on do not depend on what the line held before.
-/

namespace BearerAuth.Yaml

open Cursor

/-- The character may stand between a value and the end of its line: a blank, a comma or a closing bracket. -/
def isClosing (c : Char) : Bool := isBlank c || c = ',' || c = ']' || c = '\x7d'

/-- No more than such characters and a comment are left of the line that the text begins on. -/
def EndsLine (text : List Char) : Prop :=
  ∀ char ∈ (text.dropWhile isClosing).head?, isBreak char || char = '#'

instance (text : List Char) : Decidable (EndsLine text) :=
  decidable_of_iff ((text.dropWhile isClosing).head?.all fun char => isBreak char || char = '#')
    (Option.all_eq_true _ _)

/-- Closing characters may be passed over beforehand. -/
theorem endsLine_drop_iff {text : List Char} {p : Char → Bool}
    (closing : ∀ char, p char = true → isClosing char = true) :
    EndsLine (text.dropWhile p) ↔ EndsLine text := by
  have same : (text.dropWhile p).dropWhile isClosing = text.dropWhile isClosing := by
    induction text with
    | nil => rfl
    | cons char text ih =>
      cases taken : p char with
      | false => rw [List.dropWhile_cons_of_neg (by simp [taken])]
      | true => rw [List.dropWhile_cons_of_pos taken, List.dropWhile_cons_of_pos (closing char taken), ih]
  rw [EndsLine, EndsLine, same]

theorem EndsLine.head {text : List Char} (ends : EndsLine text) {char : Char}
    (first : char ∈ text.head?) : isClosing char = true ∨ isBreak char = true ∨ char = '#' := by
  obtain ⟨text, rfl⟩ := List.head?_eq_some_iff.mp first
  cases closing : isClosing char with
  | true => exact .inl rfl
  | false =>
    have ended := ends char (by simp [closing])
    simpa using ended

/-- Behind a comment the line is over. -/
theorem endsLine_dropWhile (text : List Char) : EndsLine (text.dropWhile (!isBreak ·)) := by
  intro char first
  cases line : text.dropWhile (!isBreak ·) with
  | nil => simp [line] at first
  | cons next rest =>
    have ended : isBreak next = true := by
      have stops := text.head?_dropWhile_not (!isBreak ·)
      simpa [line] using stops
    have unclosing : isClosing next = false := by
      simp only [isBreak, Bool.or_eq_true, decide_eq_true_eq] at ended
      obtain (((rfl | rfl) | rfl) | rfl) | rfl := ended <;> decide
    simp only [line, List.dropWhile_cons, unclosing, Bool.false_eq_true, ↓reduceIte, List.head?_cons,
      Option.mem_some_iff] at first
    rw [← first, ended]
    rfl

/-- What stands on the next line does not depend on how far into this one its end is. -/
theorem Cursor.exists_nextLine {c d : Cursor} (rest : c.rest = d.rest) (line : c.line = d.line)
    (broken : d.atBreak = true) :
    ∃ (next : Cursor) (m n : Shift), c.takeBreak.2 = next.moved m ∧ d.takeBreak.2 = next.moved n ∧
      next.line = d.line + 1 := by
  obtain ⟨text, offset, row, column⟩ := c
  obtain ⟨text', offset', row', column'⟩ := d
  simp only at rest line
  subst rest line
  simp only [takeBreak]
  split
  · rename_i after
    exact ⟨⟨after, 2, row + 1, 0⟩, ⟨offset, 0⟩, ⟨offset', 0⟩, by simp [moved], by simp [moved], rfl⟩
  · rename_i char after unpaired
    have breaks : isBreak char = true := by simpa [atBreak, peek] using broken
    rw [if_pos breaks, if_pos breaks]
    exact ⟨⟨after, char.utf8Size, row + 1, 0⟩, ⟨offset, 0⟩, ⟨offset', 0⟩, by simp [moved], by simp [moved], rfl⟩
  · cases broken

namespace Scanner

/-- Every key that may have begun began on this line or before it, and need not be one. -/
structure Loose (s : Scanner) : Prop where
  optional : ∀ key ∈ s.keyStart :: s.outerKeys, ∀ start ∈ key, start.required = false
  begun : ∀ key ∈ s.keyStart :: s.outerKeys, ∀ start ∈ key, start.start.line ≤ s.cursor.line

/-- The place lies within a line, deeper than the innermost block begins. -/
structure Within (s : Scanner) : Prop where
  inLine : 0 < s.cursor.column
  deep : ∀ column ∈ s.blocks.head?, column ≤ s.cursor.column

/-- The state with all keys given up. -/
def calm (s : Scanner) : Scanner :=
  { s with keyStart := none, outerKeys := List.replicate s.outerKeys.length none }

/-! ## Keys -/

theorem line_takeBreak (c : Cursor) : c.line ≤ c.takeBreak.2.line := by
  unfold takeBreak
  split
  · exact Nat.le_succ _
  · split
    · exact Nat.le_succ _
    · exact Nat.le_refl _
  · exact Nat.le_refl _

theorem line_pastBlanks (s : Scanner) : s.pastBlanks.line = s.cursor.line := by
  simp only [pastBlanks]
  split <;> split <;> rfl

/-- Gaps are passed over without a look at keys. -/
theorem exists_skipGaps (s : Scanner) (fuel : Nat) : ∃ c keyAllowed,
    s.skipGaps fuel = { s with cursor := c, keyAllowed := keyAllowed } ∧ s.cursor.line ≤ c.line := by
  induction fuel generalizing s with
  | zero => exact ⟨s.cursor, s.keyAllowed, rfl, Nat.le_refl _⟩
  | succ fuel ih =>
    rw [skipGaps_succ, ← line_pastBlanks]
    split
    · obtain ⟨c, keyAllowed, same, le⟩ := ih { s with
        cursor := s.pastBlanks.takeBreak.2, keyAllowed := s.keyAllowed || !s.inFlow }
      exact ⟨c, keyAllowed, same, Nat.le_trans (line_takeBreak _) le⟩
    · exact ⟨s.pastBlanks, s.keyAllowed, rfl, Nat.le_refl _⟩

theorem inFlow_calm (s : Scanner) : s.calm.inFlow = s.inFlow := by
  cases h : s.outerKeys <;> simp [calm, inFlow, h, List.replicate_succ]

theorem skipGaps_calm (s : Scanner) (fuel : Nat) : s.calm.skipGaps fuel = (s.skipGaps fuel).calm := by
  induction fuel generalizing s with
  | zero => rfl
  | succ fuel ih =>
    have past : s.calm.pastBlanks = s.pastBlanks := by
      simp only [pastBlanks, inFlow_calm]
      rfl
    rw [skipGaps_succ, skipGaps_succ, past, inFlow_calm, apply_ite calm, ← ih]
    rfl

/-- A key that could still end here. -/
def fresh (c : Cursor) (key : Option KeyStart) : Option KeyStart := key.filter (!isStale c ·)

theorem fresh_none (c : Cursor) : fresh c none = none := rfl

theorem fresh_of_lt {c : Cursor} {key : Option KeyStart}
    (beyond : ∀ start ∈ key, start.start.line < c.line) : fresh c key = none := by
  cases key with
  | none => rfl
  | some start => simp [fresh, Option.filter_some, isStale, beyond start rfl]

theorem mem_of_mem_fresh {c : Cursor} {key : Option KeyStart} {start : KeyStart}
    (member : start ∈ fresh c key) : start ∈ key :=
  (Option.filter_eq_some_iff.mp member).1

theorem dropStaleKeys_eq (s : Scanner) : s.dropStaleKeys =
    if (s.keyStart :: s.outerKeys).any fun key => key.any (isStale s.cursor) && key.any (·.required) then none
    else some { s with
      keyStart := fresh s.cursor s.keyStart, outerKeys := s.outerKeys.map (fresh s.cursor) } := by
  have kept : (fun key : Option KeyStart => if key.any (isStale s.cursor) = true then none else key) =
      fresh s.cursor := by
    funext key
    cases key with
    | none => rfl
    | some start => cases stale : isStale s.cursor start <;> simp [fresh, Option.filter_some, stale]
  rw [← kept]
  rfl

theorem dropStaleKeys_of_optional {s : Scanner}
    (optional : ∀ key ∈ s.keyStart :: s.outerKeys, ∀ start ∈ key, start.required = false) :
    s.dropStaleKeys = some { s with
      keyStart := fresh s.cursor s.keyStart, outerKeys := s.outerKeys.map (fresh s.cursor) } := by
  have unneeded : ((s.keyStart :: s.outerKeys).any fun key =>
      key.any (isStale s.cursor) && key.any (·.required)) = false := by
    rw [List.any_eq_false]
    intro key member
    cases key with
    | none => simp
    | some start => simp [optional _ member start rfl]
  rw [dropStaleKeys_eq, unneeded, if_neg (by simp)]

theorem Loose.dropStaleKeys {s : Scanner} (loose : s.Loose) : ∃ outer,
    s.dropStaleKeys = some { s with keyStart := fresh s.cursor s.keyStart, outerKeys := outer } ∧
      outer.length = s.outerKeys.length ∧
      ({ s with keyStart := fresh s.cursor s.keyStart, outerKeys := outer } : Scanner).Loose := by
  have earlier : ∀ key ∈ fresh s.cursor s.keyStart :: s.outerKeys.map (fresh s.cursor),
      ∀ start ∈ key, ∃ key ∈ s.keyStart :: s.outerKeys, start ∈ key := by
    rw [← List.map_cons]
    intro key member start begun
    obtain ⟨before, earlier, rfl⟩ := List.mem_map.mp member
    exact ⟨before, earlier, mem_of_mem_fresh begun⟩
  refine ⟨_, dropStaleKeys_of_optional loose.optional, List.length_map _, ⟨?_, ?_⟩⟩
  · intro key member start begun
    obtain ⟨key, member, begun⟩ := earlier key member start begun
    exact loose.optional key member start begun
  · intro key member start begun
    obtain ⟨key, member, begun⟩ := earlier key member start begun
    exact loose.begun key member start begun

/-- On a further line all keys are given up. -/
theorem Loose.dropStaleKeys_of_lt {s : Scanner} (loose : s.Loose) {c : Cursor} {keyAllowed : Bool}
    (beyond : s.cursor.line < c.line) :
    ({ s with cursor := c, keyAllowed := keyAllowed } : Scanner).dropStaleKeys =
      some ({ s with cursor := c, keyAllowed := keyAllowed } : Scanner).calm := by
  have given (key : Option KeyStart) (member : key ∈ s.keyStart :: s.outerKeys) :
      fresh c key = none :=
    fresh_of_lt fun start begun => Nat.lt_of_le_of_lt (loose.begun key member start begun) beyond
  rw [dropStaleKeys_of_optional (s := { s with cursor := c, keyAllowed := keyAllowed }) loose.optional,
    given _ (List.mem_cons_self ..),
    List.map_congr_left fun key member => given key (List.mem_cons_of_mem _ member), List.map_const']
  rfl

theorem Loose.dropStaleKeys_skipGaps {s : Scanner} (loose : s.Loose) {c : Cursor} {keyAllowed : Bool}
    (beyond : s.cursor.line < c.line) (fuel : Nat) :
    (({ s with cursor := c, keyAllowed := keyAllowed } : Scanner).skipGaps fuel).dropStaleKeys =
      some (({ s with cursor := c, keyAllowed := keyAllowed } : Scanner).calm.skipGaps fuel) := by
  obtain ⟨later, allowed, passed, le⟩ :=
    exists_skipGaps { s with cursor := c, keyAllowed := keyAllowed } fuel
  rw [skipGaps_calm, passed]
  exact loose.dropStaleKeys_of_lt (Nat.lt_of_lt_of_le beyond le)

/-! ## One line from different places on it -/

/-- The text goes on in the same way, with more tokens before it. -/
structure Resumes (below : List Token) (z s : Scanner) : Prop where
  rest : s.cursor.rest = z.cursor.rest
  line : s.cursor.line = z.cursor.line
  tokens : s.tokens = z.tokens ++ below
  blocks : s.blocks = z.blocks
  depth : s.outerKeys.length = z.outerKeys.length
  keyAllowed : s.keyAllowed = z.keyAllowed

/-- A place on a line of which no more than closing characters are left. -/
structure Closing (s : Scanner) : Prop extends s.Loose, s.Within where
  ends : EndsLine s.cursor.rest

section

variable {below : List Token} {z s : Scanner}

theorem Resumes.inFlow (same : Resumes below z s) : s.inFlow = z.inFlow := by
  rw [Bool.eq_iff_iff]
  simp [Scanner.inFlow, ← List.length_eq_zero_iff, same.depth]

theorem Within.pastBlanks (within : s.Within) : s.pastBlanks =
    (let c := s.cursor.skipWhile fun char =>
      char = ' ' || (s.inFlow || !s.keyAllowed) && char = '\t'
    if c.isAt '#' then c.skipWhile (!isBreak ·) else c) := by
  simp only [Scanner.pastBlanks, Nat.ne_of_gt within.inLine, false_and, ↓reduceIte]

/-- Behind blanks and a comment the line is over, or it goes on with a closing character. -/
theorem Resumes.pastBlanks (same : Resumes below z s) (old : z.Closing) (new : s.Closing) :
    ∃ k, z.pastBlanks = z.cursor.skip k ∧ s.pastBlanks = s.cursor.skip k ∧
      EndsLine (s.cursor.skip k).rest ∧
      ∀ char ∈ (s.cursor.skip k).peek,
        isBreak char = true ∨ char = ',' ∨ char = ']' ∨ char = '\x7d' ∨ char = '\t' := by
  rw [old.toWithin.pastBlanks, new.toWithin.pastBlanks, same.inFlow, same.keyAllowed]
  generalize blank : (fun char : Char => decide (char = ' ') ||
    (z.inFlow || !z.keyAllowed) && decide (char = '\t')) = p
  have closing (char : Char) (taken : p char = true) : isBlank char = true := by
    simp only [← blank, Bool.or_eq_true, Bool.and_eq_true, decide_eq_true_eq] at taken
    simp only [isBlank, Bool.or_eq_true, decide_eq_true_eq]
    exact taken.imp_right And.right
  have ends : EndsLine (s.cursor.skipWhile p).rest := by
    rw [rest_skipWhile]
    exact (endsLine_drop_iff fun char taken => by simp [isClosing, closing char taken]).mpr new.ends
  have skipped : z.cursor.skipWhile p = z.cursor.skip (s.cursor.rest.takeWhile p).length := by
    rw [same.rest]
    rfl
  have rest : (z.cursor.skipWhile p).rest = (s.cursor.skipWhile p).rest := by
    rw [rest_skipWhile, rest_skipWhile, same.rest]
  have alike : (z.cursor.skipWhile p).isAt '#' = (s.cursor.skipWhile p).isAt '#' :=
    isAt_congr rest '#'
  simp only [alike]
  cases comment : (s.cursor.skipWhile p).isAt '#' with
  | false =>
    refine ⟨_, skipped, rfl, ends, fun char next => ?_⟩
    replace next : char ∈ (s.cursor.skipWhile p).rest.head? := next
    have unblank : p char = false := by
      have stops := s.cursor.rest.head?_dropWhile_not p
      rwa [← rest_skipWhile, Option.mem_def.mp next] at stops
    obtain closed | ended | rfl := ends.head next
    · simp only [isClosing, isBlank, Bool.or_eq_true, decide_eq_true_eq] at closed
      have spaced : char ≠ ' ' := by
        rintro rfl
        simp [← blank] at unblank
      grind
    · exact .inl ended
    · simp [isAt, peek, Option.mem_def.mp next] at comment
  | true =>
    refine ⟨(s.cursor.rest.takeWhile p).length +
      ((s.cursor.skipWhile p).rest.takeWhile (!isBreak ·)).length, ?_, ?_, ?_, ?_⟩
    · rw [← skip_skip, ← skipped, ← rest]
      rfl
    · rw [← skip_skip]
      rfl
    · rw [← skip_skip]
      exact rest_skipWhile (s.cursor.skipWhile p) (!isBreak ·) ▸ endsLine_dropWhile _
    · intro char next
      have stops := (s.cursor.skipWhile p).rest.head?_dropWhile_not (!isBreak ·)
      rw [← skip_skip] at next
      replace next : char ∈ ((s.cursor.skipWhile p).skipWhile (!isBreak ·)).rest.head? := next
      rw [← rest_skipWhile, Option.mem_def.mp next] at stops
      exact .inl (by simpa using stops)

/-- Either the line goes on with a closing character, or it is over for all places on it alike. -/
theorem Resumes.skipGaps (same : Resumes below z s) (old : z.Closing) (new : s.Closing) (fuel : Nat) :
    (∃ k, z.skipGaps (fuel + 1) = { z with cursor := z.cursor.skip k } ∧
      s.skipGaps (fuel + 1) = { s with cursor := s.cursor.skip k } ∧
      EndsLine (s.cursor.skip k).rest ∧
      ∀ char ∈ (s.cursor.skip k).peek, char = ',' ∨ char = ']' ∨ char = '\x7d' ∨ char = '\t') ∨
    ∃ (y : Scanner) (m n : Shift),
      (z.skipGaps (fuel + 1)).dropStaleKeys = some (y.placed [] m) ∧
      (s.skipGaps (fuel + 1)).dropStaleKeys = some (y.placed below n) := by
  obtain ⟨k, past, past', ends, closing⟩ := same.pastBlanks old new
  rw [skipGaps_succ, skipGaps_succ, past, past']
  have rest : (z.cursor.skip k).rest = (s.cursor.skip k).rest := by
    simp only [Cursor.skip, same.rest]
  rw [atBreak_congr rest]
  cases broken : (s.cursor.skip k).atBreak with
  | false =>
    refine .inl ⟨k, rfl, rfl, ends, fun char next => ?_⟩
    refine (closing char next).resolve_left ?_
    simpa [atBreak, Option.mem_def.mp next] using broken
  | true =>
    obtain ⟨next, m, n, after, after', line⟩ := exists_nextLine rest same.line.symm broken
    replace line : next.line = s.cursor.line + 1 := line
    refine .inr ⟨({ z with
      cursor := next, keyAllowed := z.keyAllowed || !z.inFlow } : Scanner).calm.skipGaps fuel, m, n, ?_, ?_⟩
    · rw [if_pos rfl, after, old.dropStaleKeys_skipGaps, ← skipGaps_placed]
      · simp [calm, placed]
      · exact Nat.lt_add_left m.lines (by simp [line, same.line])
    · rw [if_pos rfl, after', new.dropStaleKeys_skipGaps, ← skipGaps_placed]
      · simp [calm, placed, same.tokens, same.blocks, same.depth, same.keyAllowed, same.inFlow]
      · exact Nat.lt_add_left n.lines (by simp [line])

/-! ### A closing character -/

theorem closeBlocks_of_le (deep : ∀ column ∈ s.blocks.head?, column ≤ s.cursor.column) :
    s.closeBlocks (s.cursor.column < ·) = s := by
  unfold Scanner.closeBlocks
  split
  · rfl
  · obtain ⟨c, tokens, blocks, key, outer, keyAllowed⟩ := s
    cases blocks with
    | nil => rfl
    | cons column blocks =>
      have le : column ≤ c.column := deep column rfl
      simp [Nat.not_lt.mpr le]

theorem Loose.dropKey (loose : s.Loose) : s.dropKey = some { s with keyStart := none } := by
  have unneeded : s.keyStart.any (·.required) = false := by
    cases begun : s.keyStart with
    | none => rfl
    | some key => exact loose.optional _ (by simp [begun]) key rfl
  simp [Scanner.dropKey, unneeded]

theorem Closing.flowEntry (closing : s.Closing) : s.flowEntry = some { s with
    cursor := s.cursor.skip 1, tokens := .flowEntry :: s.tokens, keyStart := none, keyAllowed := true } := by
  rw [Scanner.flowEntry, closing.toLoose.dropKey]
  rfl

theorem Closing.closeFlow (closing : s.Closing) (token : Token) : s.closeFlow token = some { s with
    cursor := s.cursor.skip 1, tokens := token :: s.tokens, keyStart := s.outerKeys.head?.join
    outerKeys := s.outerKeys.tail, keyAllowed := false } := by
  rw [Scanner.closeFlow, closing.toLoose.dropKey]
  cases brackets : s.outerKeys <;> simp [takeLast, take, push]

theorem Closing.onward (closing : s.Closing) {char : Char} (first : isClosing char = true)
    (next : char ∈ s.cursor.peek) (tokens : List Token) {key : Option KeyStart}
    {outer : List (Option KeyStart)} (keyAllowed : Bool)
    (kept : ∀ start ∈ key :: outer, start = none ∨ start ∈ s.outerKeys) :
    ({ s with
      cursor := s.cursor.skip 1, tokens := tokens, keyStart := key, outerKeys := outer
      keyAllowed := keyAllowed } : Scanner).Closing := by
  obtain ⟨rest, text⟩ := List.head?_eq_some_iff.mp next
  have earlier {start : Option KeyStart} (member : start ∈ key :: outer) {begun : KeyStart}
      (some : begun ∈ start) : start ∈ s.keyStart :: s.outerKeys := by
    obtain rfl | member := kept start member
    · cases some
    · exact List.mem_cons_of_mem _ member
  refine ⟨⟨?_, ?_⟩, ⟨Nat.succ_pos _, ?_⟩, ?_⟩
  · exact fun start member begun some => closing.optional start (earlier member some) begun some
  · exact fun start member begun some => closing.begun start (earlier member some) begun some
  · exact fun column member => Nat.le_succ_of_le (closing.deep column member)
  · have ends := closing.ends
    rw [text] at ends
    simpa [EndsLine, List.dropWhile_cons, first, Cursor.skip, text] using ends

theorem Within.token_eq (within : s.Within) :
    s.token ',' = s.flowEntry ∧ s.token ']' = s.closeFlow .flowSequenceEnd ∧
      s.token '\x7d' = s.closeFlow .flowMappingEnd ∧ s.token '\t' = none := by
  have unmarked (char : Char) : s.cursor.marks char = false := by
    simp [marks, Nat.ne_of_gt within.inLine]
  refine ⟨?_, ?_, ?_, ?_⟩ <;> simp [Scanner.token, unmarked, isIndicator, isFlowIndicator]

/-- A closing character is taken alike wherever it stands on the line. -/
theorem Resumes.token (same : Resumes below z s) (old : z.Closing) (new : s.Closing) {char : Char}
    (next : char ∈ s.cursor.peek)
    (closing : char = ',' ∨ char = ']' ∨ char = '\x7d' ∨ char = '\t') :
    (z.token char = none ∧ s.token char = none) ∨
    ∃ z' s', z.token char = some z' ∧ s.token char = some s' ∧ Resumes below z' s' ∧
      z'.Closing ∧ s'.Closing := by
  have next' : char ∈ z.cursor.peek := by
    rw [peek, ← same.rest]
    exact next
  have rest : (s.cursor.skip 1).rest = (z.cursor.skip 1).rest := by
    simp only [Cursor.skip, same.rest]
  have closed (token : Token) (first : isClosing char = true) :
      ∃ z' s', z.closeFlow token = some z' ∧ s.closeFlow token = some s' ∧ Resumes below z' s' ∧
        z'.Closing ∧ s'.Closing := by
    have kept {s : Scanner} : ∀ start ∈ s.outerKeys.head?.join :: s.outerKeys.tail,
        start = none ∨ start ∈ s.outerKeys := by
      cases s.outerKeys with
      | nil => simp
      | cons key outer => exact fun start member => .inr member
    refine ⟨_, _, old.closeFlow token, new.closeFlow token, ⟨rest, same.line, ?_, same.blocks, ?_, rfl⟩,
      old.onward first next' _ _ kept, new.onward first next _ _ kept⟩
    · simp [same.tokens]
    · simp [same.depth]
  have entered (first : isClosing char = true) :
      ∃ z' s', z.flowEntry = some z' ∧ s.flowEntry = some s' ∧ Resumes below z' s' ∧
        z'.Closing ∧ s'.Closing := by
    have kept {s : Scanner} : ∀ start ∈ none :: s.outerKeys, start = none ∨ start ∈ s.outerKeys := by
      simp
    refine ⟨_, _, old.flowEntry, new.flowEntry,
      ⟨rest, same.line, ?_, same.blocks, same.depth, rfl⟩,
      old.onward first next' _ _ kept, new.onward first next _ _ kept⟩
    simp [same.tokens]
  obtain ⟨comma, bracket, brace, tab⟩ := old.toWithin.token_eq
  obtain ⟨comma', bracket', brace', tab'⟩ := new.toWithin.token_eq
  obtain rfl | rfl | rfl | rfl := closing
  · rw [comma, comma']
    exact .inr (entered (by decide))
  · rw [bracket, bracket']
    exact .inr (closed .flowSequenceEnd (by decide))
  · rw [brace, brace']
    exact .inr (closed .flowMappingEnd (by decide))
  · exact .inl ⟨tab, tab'⟩

theorem Loose.ahead_of_end (loose : s.Loose) (ended : s.cursor.peek = none) (fuel : Nat) :
    s.ahead fuel =
      some ((if s.inFlow then [] else s.blocks.map fun _ => Token.blockEnd) ++ s.tokens).reverse := by
  have closed : (s.closeBlocks fun _ => true).keyStart = s.keyStart := by
    unfold Scanner.closeBlocks
    split <;> rfl
  have unneeded : (s.closeBlocks fun _ => true).keyStart.any (·.required) = false := by
    rw [closed]
    cases begun : s.keyStart with
    | none => rfl
    | some key => exact loose.optional _ (by simp [begun]) key rfl
  simp only [ahead, ended, Scanner.dropKey, unneeded, Bool.false_eq_true, ↓reduceIte]
  unfold Scanner.closeBlocks
  split
  · simp [*]
  · simp [*, List.takeWhile_eq_self_iff.mpr]

/-- Further along the line keys may become too long, but none is missed. -/
theorem Closing.dropStaleKeys_skip (closing : s.Closing) {k : Nat}
    (ends : EndsLine (s.cursor.skip k).rest) : ∃ key outer,
      ({ s with cursor := s.cursor.skip k } : Scanner).dropStaleKeys =
        some { s with cursor := s.cursor.skip k, keyStart := key, outerKeys := outer } ∧
      outer.length = s.outerKeys.length ∧
      ({ s with cursor := s.cursor.skip k, keyStart := key, outerKeys := outer } : Scanner).Closing := by
  have loose : ({ s with cursor := s.cursor.skip k } : Scanner).Loose :=
    ⟨closing.optional, closing.begun⟩
  obtain ⟨outer, dropped, depth, loose⟩ := loose.dropStaleKeys
  exact ⟨_, outer, dropped, depth, loose, ⟨Nat.lt_add_right k closing.inLine,
    fun column member => Nat.le_add_right_of_le (closing.deep column member)⟩, ends⟩

/-- From the same place of a line on the same tokens are found, whatever stands before it on the line. -/
theorem Resumes.run (same : Resumes below z s) (old : z.Closing) (new : s.Closing) (fuel : Nat) :
    s.run fuel = (z.run fuel).map (below.reverse ++ ·) := by
  induction fuel generalizing z s with
  | zero => rfl
  | succ fuel ih =>
    rw [run_succ, run_succ, same.rest]
    obtain ⟨k, passed, passed', ends, closing⟩ | ⟨y, m, n, ended, ended'⟩ :=
      same.skipGaps old new z.cursor.rest.length
    · have rest : (s.cursor.skip k).rest = (z.cursor.skip k).rest := by
        simp only [Cursor.skip, same.rest]
      obtain ⟨key, outer, dropped, depth, old⟩ := old.dropStaleKeys_skip (rest ▸ ends)
      obtain ⟨key', outer', dropped', depth', new⟩ := new.dropStaleKeys_skip ends
      rw [passed, passed', dropped, dropped', Option.bind_some, Option.bind_some]
      generalize after : ({ z with
        cursor := z.cursor.skip k, keyStart := key, outerKeys := outer } : Scanner) = z₁ at old ⊢
      generalize after' : ({ s with
        cursor := s.cursor.skip k, keyStart := key', outerKeys := outer' } : Scanner) = s₁ at new ⊢
      have same : Resumes below z₁ s₁ := by
        subst after after'
        exact ⟨rest, same.line, same.tokens, same.blocks, by rw [depth, depth', same.depth], same.keyAllowed⟩
      have peeks : s₁.cursor.peek = z₁.cursor.peek := congrArg List.head? same.rest
      cases next : z₁.cursor.peek with
      | none =>
        rw [old.toLoose.ahead_of_end next, new.toLoose.ahead_of_end (peeks.trans next), same.inFlow,
          same.blocks, same.tokens]
        simp
      | some char =>
        replace closing : char = ',' ∨ char = ']' ∨ char = '\x7d' ∨ char = '\t' := by
          subst after'
          exact closing char (peeks.trans next)
        simp only [ahead, peeks, next, closeBlocks_of_le old.deep, closeBlocks_of_le new.deep]
        obtain ⟨failed, failed'⟩ | ⟨z₂, s₂, taken, taken', same, old, new⟩ :=
          same.token old new (peeks.trans next) closing
        · simp [failed, failed']
        · simp only [taken, taken', Option.bind_eq_bind, Option.bind_some]
          exact ih same old new
    · rw [ended, ended', Option.bind_some, Option.bind_some, ahead_placed, ahead_placed]
      simp

end

end Scanner

end BearerAuth.Yaml
