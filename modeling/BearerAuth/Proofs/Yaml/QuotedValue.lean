import BearerAuth.Proofs.Yaml.LineEnd
import BearerAuth.Proofs.Yaml.Quoted

/-! # A value between double quotes

Where a text between double quotes stands as a value, and its line holds no more than closing characters behind it,
all texts that stand for themselves there give the same tokens but for the one of their own.
-/

namespace BearerAuth.Yaml

open Cursor

namespace Scanner

/-- A value is about to begin here, deeper than the innermost block, and no bracket around it need be a key. -/
structure AtValue (s : Scanner) : Prop extends s.Loose where
  value : s.tokens.head? = some .value
  unkeyed : s.keyStart = none
  deeper : ∀ column ∈ s.blocks.head?, column < s.cursor.column

/-- The same place in another text. -/
def facing (s : Scanner) (text : List Char) : Scanner := { s with cursor.rest := text }

variable {s : Scanner}

theorem rememberKey_of_deeper (unkeyed : s.keyStart = none)
    (deeper : ∀ column ∈ s.blocks.head?, column < s.cursor.column) :
    ∃ key, s.rememberKey = some { s with keyStart := key } ∧
      ∀ start ∈ key, start.required = false ∧ start.start.line = s.cursor.line := by
  have optional : (s.blocks.head? == some s.cursor.column) = false := by
    rw [beq_eq_false_iff_ne]
    intro same
    exact Nat.lt_irrefl _ (deeper _ same)
  unfold rememberKey
  split
  · refine ⟨some ⟨s.tokens.length, s.cursor, false⟩, by simp [dropKey, unkeyed, optional], ?_⟩
    rintro start ⟨rfl⟩
    exact ⟨rfl, rfl⟩
  · exact ⟨none, by rw [← unkeyed], fun start none => by cases none⟩

theorem skipGaps_of_quote {text : List Char} (quote : s.cursor.rest = '"' :: text) (fuel : Nat) :
    s.skipGaps (fuel + 1) = s := by
  have here : s.pastBlanks = s.cursor := by
    have unmarked : ¬(s.cursor.column = 0 ∧ s.cursor.isAt '\uFEFF' = true) := by
      simp [isAt, peek, quote]
    have unblank (p : Char → Bool) (stops : p '"' = false) : s.cursor.skipWhile p = s.cursor := by
      simp [skipWhile, takeWhile, quote, stops, skip_zero]
    simp only [pastBlanks, if_neg unmarked]
    rw [unblank _ (by simp)]
    simp [isAt, peek, quote]
  rw [skipGaps_succ, here, if_neg (by simp [atBreak, peek, quote, isBreak])]

theorem token_of_quote {text : List Char} (quote : s.cursor.rest = '"' :: text) :
    s.token '"' = s.quotedScalar false := by
  have unmarked (char : Char) (other : char ≠ '"') : s.cursor.marks char = false := by
    simp [marks, quote, List.isPrefixOf, other]
  simp [token, unmarked]

/-- Behind a value, with the rest of the line there and the same blocks and brackets around it. -/
structure PastValue (s : Scanner) (text after : List Char) (t : Scanner) : Prop extends t.Closing where
  tokens : t.tokens = .scalar .doubleQuoted text :: s.tokens
  rest : t.cursor.rest = after
  line : t.cursor.line = s.cursor.line
  blocks : t.blocks = s.blocks
  depth : t.outerKeys.length = s.outerKeys.length
  keyAllowed : t.keyAllowed = false

section

variable {text after : List Char}

/-- Text that stands for itself between double quotes is taken as it is. -/
theorem AtValue.token_quoted (here : s.AtValue) (rest : s.cursor.rest = '"' :: (text ++ '"' :: after))
    (inert : ∀ char ∈ text, isInert char = true) (ends : EndsLine after) :
    ∃ t, s.token '"' = some t ∧ s.PastValue text after t := by
  obtain ⟨key, remembered, begun⟩ := rememberKey_of_deeper here.unkeyed here.deeper
  have behind : (s.cursor.skip (text.length + 2)).rest = after := by
    simp [Cursor.skip, rest]
  refine ⟨{ s with
    cursor := s.cursor.skip (text.length + 2), tokens := .scalar .doubleQuoted text :: s.tokens
    keyStart := key, keyAllowed := false }, ?_,
    ⟨⟨⟨?_, ?_⟩, ⟨Nat.succ_pos _, ?_⟩, behind.symm ▸ ends⟩, rfl, behind, rfl, rfl, rfl, rfl⟩⟩
  · rw [token_of_quote rest, quotedScalar, remembered]
    simp only [Option.bind_eq_bind, Option.bind_some, quoted_inert inert rest]
    rfl
  · refine List.forall_mem_cons.mpr ⟨fun start some => (begun start some).1, fun outer member => ?_⟩
    exact here.optional outer (List.mem_cons_of_mem _ member)
  · refine List.forall_mem_cons.mpr ⟨fun start some => Nat.le_of_eq (begun start some).2, fun outer member => ?_⟩
    exact here.begun outer (List.mem_cons_of_mem _ member)
  · exact fun column member => Nat.le_add_right_of_le (Nat.le_of_lt (here.deeper column member))

theorem AtValue.run_quoted (here : s.AtValue) (rest : s.cursor.rest = '"' :: (text ++ '"' :: after))
    (inert : ∀ char ∈ text, isInert char = true) (ends : EndsLine after) (fuel : Nat) :
    ∃ t, s.run (fuel + 1) = t.run fuel ∧ s.PastValue text after t := by
  obtain ⟨outer, dropped, depth, loose⟩ := here.toLoose.dropStaleKeys
  rw [here.unkeyed, fresh_none] at dropped loose
  rw [run_succ, skipGaps_of_quote rest, dropped, Option.bind_some]
  generalize left : ({ s with keyStart := none, outerKeys := outer } : Scanner) = s₁ at loose ⊢
  have here₁ : s₁.AtValue := by
    subst left
    exact ⟨loose, here.value, rfl, here.deeper⟩
  have rest₁ : s₁.cursor.rest = '"' :: (text ++ '"' :: after) := by
    subst left
    exact rest
  obtain ⟨t, taken, past⟩ := here₁.token_quoted rest₁ inert ends
  refine ⟨t, ?_, ?_⟩
  · have next : s₁.cursor.peek = some '"' := by
      rw [peek, rest₁]
      rfl
    have deep : ∀ column ∈ s₁.blocks.head?, column ≤ s₁.cursor.column :=
      fun column member => Nat.le_of_lt (here₁.deeper column member)
    simp only [ahead, next, closeBlocks_of_le deep, taken]
    rfl
  · subst left
    exact ⟨past.toClosing, past.tokens, past.rest, past.line, past.blocks, past.depth.trans depth,
      past.keyAllowed⟩

/-- All texts that stand for themselves leave the same tokens behind them. -/
theorem AtValue.exists_run (here : s.AtValue) (ends : EndsLine after) : ∃ z : Scanner,
    ∀ text, (∀ char ∈ text, isInert char = true) → ∀ fuel,
      (s.facing ('"' :: (text ++ '"' :: after))).run (fuel + 1) =
        (z.run fuel).map ((Token.scalar .doubleQuoted text :: s.tokens).reverse ++ ·) := by
  let z : Scanner := ⟨⟨after, 0, s.cursor.line, s.cursor.column + 1⟩, [], s.blocks, none,
    List.replicate s.outerKeys.length none, false⟩
  have keys : ∀ key ∈ z.keyStart :: z.outerKeys, key = none :=
    List.forall_mem_cons.mpr ⟨rfl, fun key member => List.eq_of_mem_replicate member⟩
  have closing : z.Closing := by
    refine ⟨⟨?_, ?_⟩, ⟨Nat.succ_pos _, ?_⟩, ends⟩
    · intro key member start begun
      rw [keys key member] at begun
      cases begun
    · intro key member start begun
      rw [keys key member] at begun
      cases begun
    · exact fun column member => Nat.le_succ_of_le (Nat.le_of_lt (here.deeper column member))
  refine ⟨z, fun text inert fuel => ?_⟩
  have facing : (s.facing ('"' :: (text ++ '"' :: after))).AtValue :=
    ⟨⟨here.optional, here.begun⟩, here.value, here.unkeyed, here.deeper⟩
  obtain ⟨t, ran, past⟩ := facing.run_quoted rfl inert ends fuel
  have same : Resumes (.scalar .doubleQuoted text :: s.tokens) z t :=
    ⟨past.rest, past.line, past.tokens, past.blocks, past.depth.trans (List.length_replicate ..).symm,
      past.keyAllowed⟩
  rw [ran, same.run closing past.toClosing]

end

end Scanner

/-- Scanning a text that begins so and goes on with a double quote comes to that quote, at such a place. -/
def Reaches (place : Scanner → Prop) (before : List Char) : Prop :=
  ∃ rounds s, rounds ≤ before.length ∧ place s ∧
    ∀ fuel rest, (Scanner.ofChars (before ++ '"' :: rest)).run (fuel + rounds) =
      (s.facing ('"' :: rest)).run fuel

/-- A text that begins so comes to the double quote of a value. -/
def LeadsToValue (before : List Char) : Prop := Reaches Scanner.AtValue before

/-- If tokens are found with this text between double quotes, the same are found around each of the others. -/
def SameAround (before after base : List Char) (others : List Char → Prop) : Prop :=
  ∀ found, tokens? (before ++ '"' :: (base ++ '"' :: after)) = some found →
    ∃ earlier later, ∀ text, others text → tokens? (before ++ '"' :: (text ++ '"' :: after)) =
      some (earlier ++ .value :: .scalar .doubleQuoted text :: later)

theorem all_isAllowed_of_isInert {before after base text : List Char}
    (allowed : (before ++ '"' :: (base ++ '"' :: after)).all isAllowed = true)
    (inert : ∀ char ∈ text, isInert char = true) :
    (before ++ '"' :: (text ++ '"' :: after)).all isAllowed = true := by
  simp only [List.all_append, List.all_cons, Bool.and_eq_true] at allowed ⊢
  refine ⟨allowed.1, allowed.2.1, ?_, allowed.2.2.2⟩
  rw [List.all_eq_true]
  exact fun char member => isAllowed_of_isInert (inert char member)

/-- Where the line ends behind the value, texts that stand for themselves give the same tokens but for their own. The
shortest of them is the one to try, since it takes the fewest rounds. -/
theorem LeadsToValue.sameAround {before after : List Char} (leads : LeadsToValue before) (ends : EndsLine after) :
    SameAround before after [] fun text => ∀ char ∈ text, isInert char = true := by
  obtain ⟨rounds, s, few, here, leads⟩ := leads
  obtain ⟨base, above⟩ := List.head?_eq_some_iff.mp here.value
  obtain ⟨z, runs⟩ := here.exists_run ends
  have scan (text : List Char) (inert : ∀ char ∈ text, isInert char = true) :
      (Scanner.ofChars (before ++ '"' :: (text ++ '"' :: after))).run
          ((before ++ '"' :: (text ++ '"' :: after)).length + 1) =
        (z.run (before.length - rounds + after.length + 2 + text.length)).map
          ((Token.scalar .doubleQuoted text :: s.tokens).reverse ++ ·) := by
    have total : (before ++ '"' :: (text ++ '"' :: after)).length + 1 =
        before.length - rounds + after.length + 2 + text.length + 1 + rounds := by
      simp only [List.length_append, List.length_cons]
      omega
    rw [total, leads, runs text inert]
  intro found scanned
  unfold tokens? at scanned
  split at scanned
  case isFalse => cases scanned
  case isTrue allowed =>
    rw [scan [] (by simp)] at scanned
    obtain ⟨later, ran, rfl⟩ := Option.map_eq_some_iff.mp scanned
    refine ⟨base.reverse, later, fun text inert => ?_⟩
    rw [List.length_nil, Nat.add_zero] at ran
    rw [tokens?, if_pos (all_isAllowed_of_isInert allowed inert), scan text inert, Scanner.run_add z ran, above]
    simp

end BearerAuth.Yaml
