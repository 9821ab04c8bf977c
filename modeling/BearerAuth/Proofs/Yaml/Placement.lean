import BearerAuth.Proofs.Yaml.Moving

/-! # Scanning behind other tokens

A scanner counts its tokens, bytes and lines to tell where a key may have begun. So what it finds from some place on
depends neither on the tokens before that place nor on how far into the text it is.
-/

namespace BearerAuth.Yaml

open Cursor

variable (n : Shift)

/-- The same place for a key, with so many tokens more before it and so much further on. -/
def KeyStart.placed (earlier : Nat) (n : Shift) (key : KeyStart) : KeyStart :=
  { key with tokensBefore := key.tokensBefore + earlier, start := key.start.moved n }

namespace Scanner

/-- The same state behind other tokens, that much further on. -/
def placed (below : List Token) (n : Shift) (s : Scanner) : Scanner :=
  { s with
    cursor := s.cursor.moved n
    tokens := s.tokens ++ below
    keyStart := s.keyStart.map (KeyStart.placed below.length n)
    outerKeys := s.outerKeys.map (Option.map (KeyStart.placed below.length n)) }

variable (below : List Token) (s : Scanner)

@[simp] theorem cursor_placed : (s.placed below n).cursor = s.cursor.moved n := rfl
@[simp] theorem tokens_placed : (s.placed below n).tokens = s.tokens ++ below := rfl
@[simp] theorem blocks_placed : (s.placed below n).blocks = s.blocks := rfl
@[simp] theorem keyAllowed_placed : (s.placed below n).keyAllowed = s.keyAllowed := rfl
@[simp] theorem margin_placed : (s.placed below n).margin = s.margin := rfl
@[simp] theorem keyStart_placed :
    (s.placed below n).keyStart = s.keyStart.map (KeyStart.placed below.length n) := rfl
@[simp] theorem outerKeys_placed :
    (s.placed below n).outerKeys = s.outerKeys.map (Option.map (KeyStart.placed below.length n)) := rfl
@[simp] theorem inFlow_placed : (s.placed below n).inFlow = s.inFlow := by
  simp [inFlow]

@[simp] theorem push_placed (token : Token) :
    (s.placed below n).push token = (s.push token).placed below n := rfl

@[simp] theorem take_placed (width : Nat) (token : Token) :
    (s.placed below n).take width token = (s.take width token).placed below n := by
  simp [take, push, placed]

@[simp] theorem takeLast_placed (width : Nat) (token : Token) :
    (s.placed below n).takeLast width token = (s.takeLast width token).placed below n := by
  simp only [takeLast, take_placed]
  rfl

@[simp] theorem insert_placed (tokensBefore : Nat) (token : Token) :
    (s.placed below n).insert (tokensBefore + below.length) token =
      (s.insert tokensBefore token).placed below n := by
  have enough : s.tokens.length - tokensBefore ≤ s.tokens.length := Nat.sub_le _ _
  simp [insert, placed, Nat.add_sub_add_right, List.take_append_of_le_length enough,
    List.drop_append_of_le_length enough]

@[simp] theorem openBlock_placed (column tokensBefore : Nat) (start : Token) :
    (s.placed below n).openBlock column (tokensBefore + below.length) start =
      (s.openBlock column tokensBefore start).placed below n := by
  simp only [openBlock, inFlow_placed, margin_placed, insert_placed, blocks_placed]
  split <;> rfl

@[simp] theorem closeBlocks_placed (deeper : Nat → Bool) :
    (s.placed below n).closeBlocks deeper = (s.closeBlocks deeper).placed below n := by
  simp only [closeBlocks, inFlow_placed]
  split
  · rfl
  · simp [placed]

@[simp] theorem dropKey_placed : (s.placed below n).dropKey = s.dropKey.map (placed below n) := by
  simp only [dropKey, keyStart_placed, Option.any_map]
  cases s.keyStart with
  | none => rfl
  | some key => 
    cases required : key.required <;> simp [KeyStart.placed, placed, required]

@[simp] theorem rememberKey_placed :
    (s.placed below n).rememberKey = s.rememberKey.map (placed below n) := by
  simp only [rememberKey, keyAllowed_placed, dropKey_placed, inFlow_placed, blocks_placed,
    cursor_placed, column_moved]
  split
  · cases s.dropKey <;> simp [placed, KeyStart.placed]
  · rfl

theorem isStale_placed (c : Cursor) (earlier : Nat) (key : KeyStart) :
    isStale (c.moved n) (key.placed earlier n) = isStale c key := by
  simp only [isStale, KeyStart.placed, line_moved, offset_moved, Nat.add_assoc, Nat.add_lt_add_iff_left]

@[simp] theorem dropStaleKeys_placed :
    (s.placed below n).dropStaleKeys = s.dropStaleKeys.map (placed below n) := by
  have stale (key : Option KeyStart) :
      (key.map (KeyStart.placed below.length n)).any (isStale (s.cursor.moved n)) =
        key.any (isStale s.cursor) := by
    cases key <;> simp [isStale_placed]
  have required (key : Option KeyStart) :
      (key.map (KeyStart.placed below.length n)).any (·.required) = key.any (·.required) := by
    cases key <;> rfl
  simp only [dropStaleKeys, keyStart_placed, outerKeys_placed, cursor_placed, ← List.map_cons,
    List.any_map, Function.comp_def, stale, required]
  split
  · rfl
  · simp [placed, stale, apply_ite (Option.map (KeyStart.placed below.length n))]

/-- The place behind the blanks and the comment that follow on this line. -/
def pastBlanks (s : Scanner) : Cursor :=
  let c := if s.cursor.column = 0 ∧ s.cursor.isAt '\uFEFF' then s.cursor.skip 1 else s.cursor
  let c := c.skipWhile fun char => char = ' ' || (s.inFlow || !s.keyAllowed) && char = '\t'
  if c.isAt '#' then c.skipWhile (!isBreak ·) else c

theorem skipGaps_succ (fuel : Nat) : s.skipGaps (fuel + 1) =
    if s.pastBlanks.atBreak then
      skipGaps fuel { s with
        cursor := s.pastBlanks.takeBreak.2, keyAllowed := s.keyAllowed || !s.inFlow }
    else { s with cursor := s.pastBlanks } := rfl

@[simp] theorem pastBlanks_placed : (s.placed below n).pastBlanks = s.pastBlanks.moved n := by
  have marked :
      (if (s.placed below n).cursor.column = 0 ∧ (s.placed below n).cursor.isAt '\uFEFF' = true then
          (s.placed below n).cursor.skip 1 else (s.placed below n).cursor) =
        (if s.cursor.column = 0 ∧ s.cursor.isAt '\uFEFF' = true then s.cursor.skip 1
          else s.cursor).moved n := by
    rw [apply_ite (moved n), ← skip_moved]
    rfl
  simp only [pastBlanks]
  rw [marked]
  simp only [inFlow_placed, keyAllowed_placed, skipWhile_moved, isAt_moved, ← apply_ite (moved n)]

@[simp] theorem skipGaps_placed (fuel : Nat) :
    (s.placed below n).skipGaps fuel = (s.skipGaps fuel).placed below n := by
  induction fuel generalizing s with
  | zero => rfl
  | succ fuel ih =>
    simp only [skipGaps_succ, pastBlanks_placed, atBreak_moved, takeBreak_moved]
    split
    · have onward := ih { s with
        cursor := s.pastBlanks.takeBreak.2, keyAllowed := s.keyAllowed || !s.inFlow }
      rw [← onward, inFlow_placed]
      rfl
    · rfl

@[simp] theorem openFlow_placed (token : Token) :
    (s.placed below n).openFlow token = (s.openFlow token).map (placed below n) := by
  simp only [openFlow, rememberKey_placed]
  cases s.rememberKey with
  | none => rfl
  | some s => simp [placed, take, push]

@[simp] theorem closeFlow_placed (token : Token) :
    (s.placed below n).closeFlow token = (s.closeFlow token).map (placed below n) := by
  simp only [closeFlow, dropKey_placed]
  cases s.dropKey with
  | none => rfl
  | some s =>
    simp only [Option.map_some, Option.bind_eq_bind, Option.bind_some, takeLast_placed,
      outerKeys_placed]
    cases (s.takeLast 1 token).outerKeys <;> rfl

@[simp] theorem flowEntry_placed :
    (s.placed below n).flowEntry = s.flowEntry.map (placed below n) := by
  simp only [flowEntry, dropKey_placed]
  cases s.dropKey with
  | none => rfl
  | some s => simp [placed, take, push]

@[simp] theorem openBlock_here_placed (start : Token) :
    (s.placed below n).openBlock (s.placed below n).cursor.column (s.placed below n).tokens.length start =
      (s.openBlock s.cursor.column s.tokens.length start).placed below n := by
  rw [tokens_placed, List.length_append, openBlock_placed]
  rfl

@[simp] theorem blockEntry_placed :
    (s.placed below n).blockEntry = s.blockEntry.map (placed below n) := by
  simp only [blockEntry, inFlow_placed, keyAllowed_placed, openBlock_here_placed, dropKey_placed]
  split
  · rfl
  · cases (s.openBlock s.cursor.column s.tokens.length .blockSequenceStart).dropKey with
    | none => rfl
    | some s => simp [placed, take, push]

@[simp] theorem explicitKey_placed :
    (s.placed below n).explicitKey = s.explicitKey.map (placed below n) := by
  simp only [explicitKey, inFlow_placed, keyAllowed_placed, openBlock_here_placed, dropKey_placed]
  split
  · rfl
  · cases (s.openBlock s.cursor.column s.tokens.length .blockMappingStart).dropKey with
    | none => rfl
    | some s => simp [placed, take, push, inFlow]

@[simp] theorem value_placed :
    (s.placed below n).value = s.value.map (placed below n) := by
  simp only [value, keyStart_placed, inFlow_placed, keyAllowed_placed, openBlock_here_placed]
  cases s.keyStart with
  | none =>
    simp only [Option.map_none]
    split
    · rfl
    · simp [placed, take, push, inFlow]
  | some key =>
    simp only [Option.map_some, KeyStart.placed, column_moved, insert_placed, openBlock_placed,
      takeLast_placed]
    rfl

@[simp] theorem directiveLine_placed :
    (s.placed below n).directiveLine = s.directiveLine.map (placed below n) := by
  simp only [directiveLine, closeBlocks_placed, dropKey_placed]
  cases (s.closeBlocks fun _ => true).dropKey with
  | none => rfl
  | some s =>
    simp only [Option.map_some, Option.bind_eq_bind, Option.bind_some, cursor_placed,
      directive_moved]
    cases directive s.cursor <;> rfl

@[simp] theorem documentMark_placed (token : Token) :
    (s.placed below n).documentMark token = (s.documentMark token).map (placed below n) := by
  simp only [documentMark, closeBlocks_placed, dropKey_placed]
  cases (s.closeBlocks fun _ => true).dropKey with
  | none => rfl
  | some s => simp

@[simp] theorem named_placed (token : List Char → Token) :
    (s.placed below n).named token = (s.named token).map (placed below n) := by
  simp only [named, rememberKey_placed]
  cases s.rememberKey with
  | none => rfl
  | some s =>
    simp only [Option.map_some, Option.bind_eq_bind, Option.bind_some, cursor_placed,
      skip_moved, anchorName_moved]
    cases anchorName (s.cursor.skip 1) <;> rfl

@[simp] theorem tag_placed : (s.placed below n).tag = s.tag.map (placed below n) := by
  simp only [tag, rememberKey_placed]
  cases s.rememberKey with
  | none => rfl
  | some s =>
    simp only [Option.map_some, Option.bind_eq_bind, Option.bind_some, cursor_placed,
      inFlow_placed, tagName_moved]
    cases tagName s.inFlow s.cursor <;> rfl

@[simp] theorem blockScalar_placed (isLiteral : Bool) :
    (s.placed below n).blockScalar isLiteral = (s.blockScalar isLiteral).map (placed below n) := by
  simp only [blockScalar, dropKey_placed]
  cases s.dropKey with
  | none => rfl
  | some s =>
    simp only [Option.map_some, Option.bind_eq_bind, Option.bind_some, cursor_placed,
      margin_placed, block_moved]
    cases block isLiteral s.margin s.cursor <;> rfl

@[simp] theorem quotedScalar_placed (single : Bool) :
    (s.placed below n).quotedScalar single = (s.quotedScalar single).map (placed below n) := by
  simp only [quotedScalar, rememberKey_placed]
  cases s.rememberKey with
  | none => rfl
  | some s =>
    simp only [Option.map_some, Option.bind_eq_bind, Option.bind_some, cursor_placed,
      quoted_moved]
    cases quoted single s.cursor <;> rfl

@[simp] theorem plainScalar_placed :
    (s.placed below n).plainScalar = s.plainScalar.map (placed below n) := by
  simp only [plainScalar, rememberKey_placed]
  cases s.rememberKey with
  | none => rfl
  | some s =>
    simp only [Option.map_some, Option.bind_eq_bind, Option.bind_some, cursor_placed,
      inFlow_placed, margin_placed, plain_moved]
    cases plain s.inFlow s.margin s.cursor <;> rfl

@[simp] theorem token_placed (char : Char) :
    (s.placed below n).token char = (s.token char).map (placed below n) := by
  simp only [token, cursor_placed, column_moved, marks_moved, gapAt_moved, inFlow_placed,
    directiveLine_placed, documentMark_placed, openFlow_placed, closeFlow_placed, flowEntry_placed,
    blockEntry_placed, explicitKey_placed, value_placed, named_placed, tag_placed,
    blockScalar_placed, quotedScalar_placed, plainScalar_placed,
    apply_ite (Option.map (placed below n)), Option.map_none]

/-- All tokens from a place on where no gap is left to skip and no key is stale. -/
def ahead (fuel : Nat) (s : Scanner) : Option (List Token) :=
  match s.cursor.peek with
  | some char => do run fuel (← (s.closeBlocks (s.cursor.column < ·)).token char)
  | none => do some (← (s.closeBlocks fun _ => true).dropKey).tokens.reverse

theorem run_succ (fuel : Nat) :
    s.run (fuel + 1) = (s.skipGaps (s.cursor.rest.length + 1)).dropStaleKeys.bind (ahead fuel) := rfl

theorem ahead_placed_of_run {fuel : Nat}
    (run_placed : ∀ s : Scanner, (s.placed below n).run fuel = (s.run fuel).map (below.reverse ++ ·)) :
    (s.placed below n).ahead fuel = (s.ahead fuel).map (below.reverse ++ ·) := by
  have deeper : (fun column => decide ((s.placed below n).cursor.column < column)) =
    fun column => decide (s.cursor.column < column) := rfl
  simp only [ahead]
  rw [deeper]
  simp only [cursor_placed, peek_moved, closeBlocks_placed, token_placed, dropKey_placed]
  cases s.cursor.peek with
  | none =>
    simp only
    cases (s.closeBlocks fun _ => true).dropKey <;> simp
  | some char =>
    simp only
    cases (s.closeBlocks (s.cursor.column < ·)).token char with
    | none => rfl
    | some s => exact run_placed s

/-- From some place on the same tokens are found, whatever tokens and however much text were before it. -/
theorem run_placed (fuel : Nat) :
    (s.placed below n).run fuel = (s.run fuel).map (below.reverse ++ ·) := by
  induction fuel generalizing s with
  | zero => rfl
  | succ fuel ih =>
    rw [run_succ, run_succ, cursor_placed, rest_moved, skipGaps_placed, dropStaleKeys_placed]
    cases (s.skipGaps (s.cursor.rest.length + 1)).dropStaleKeys with
    | none => rfl
    | some s => exact ahead_placed_of_run n below s ih

theorem ahead_placed (fuel : Nat) :
    (s.placed below n).ahead fuel = (s.ahead fuel).map (below.reverse ++ ·) :=
  ahead_placed_of_run n below s fun s => run_placed n below s fuel

/-- With more rounds the same tokens are found. -/
theorem run_add {fuel : Nat} {found : List Token} (ran : s.run fuel = some found) (more : Nat) :
    s.run (fuel + more) = some found := by
  induction fuel generalizing s with
  | zero => cases ran
  | succ fuel ih =>
    rw [Nat.add_right_comm, run_succ]
    rw [run_succ] at ran
    obtain ⟨s, fresh, ran⟩ := Option.bind_eq_some_iff.mp ran
    rw [fresh, Option.bind_some]
    unfold ahead at ran ⊢
    cases next : s.cursor.peek with
    | none =>
      rw [next] at ran
      exact ran
    | some char =>
      rw [next] at ran
      obtain ⟨after, taken, ran⟩ := Option.bind_eq_some_iff.mp ran
      exact Option.bind_eq_some_iff.mpr ⟨after, taken, ih after ran⟩

end Scanner

end BearerAuth.Yaml
