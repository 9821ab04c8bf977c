import BearerAuth.Yaml.Token
import Mathlib.Data.Option.Basic

/-! # Scalars and tags further on in a text

Bytes and lines are counted from the start of the text, but nothing that is read at a place depends on how many there
were before it: every reader finds the same there, and ends that much further on.
-/

namespace BearerAuth.Yaml

/-- How much further on in a text a place is, in bytes and in lines. -/
structure Shift where
  bytes : Nat
  lines : Nat

namespace Cursor

/-! ## Along a line -/

theorem byteCount_append (text more : List Char) :
    byteCount (text ++ more) = byteCount text + byteCount more := by
  induction text with
  | nil => simp [byteCount]
  | cons c text ih => simp only [List.cons_append, byteCount, ih, Nat.add_assoc]

theorem skip_zero (c : Cursor) : c.skip 0 = c := by
  simp [skip, byteCount]

theorem skip_skip (c : Cursor) (m n : Nat) : (c.skip m).skip n = c.skip (m + n) := by
  simp only [skip, List.drop_drop, List.take_add, byteCount_append, Nat.add_assoc]

theorem rest_skip {c : Cursor} {text more : List Char} (rest : c.rest = text ++ more) :
    (c.skip text.length).rest = more := by
  rw [skip, rest, List.drop_left]

theorem rest_skip_one {c : Cursor} {char : Char} {more : List Char} (rest : c.rest = char :: more) :
    (c.skip 1).rest = more := by
  rw [skip, rest, List.drop_one, List.tail_cons]

theorem rest_skipWhile (c : Cursor) (p : Char → Bool) :
    (c.skipWhile p).rest = c.rest.dropWhile p :=
  rest_skip List.takeWhile_append_dropWhile.symm

theorem isAt_congr {c d : Cursor} (rest : c.rest = d.rest) (char : Char) : c.isAt char = d.isAt char := by
  obtain ⟨text, _, _, _⟩ := c
  cases rest
  rfl

theorem atBreak_congr {c d : Cursor} (rest : c.rest = d.rest) : c.atBreak = d.atBreak :=
  congrArg (fun text => text.head?.any isBreak) rest

theorem atGap_cons {c : Cursor} {char : Char} {more : List Char} (rest : c.rest = char :: more) :
    c.atGap = (isBlank char || isBreak char) := by
  simp [atGap, gapAt, peekAt, rest]

/-! ## Behind other text -/

/-- The same text, that much further on. -/
def moved (n : Shift) (c : Cursor) : Cursor :=
  { c with offset := n.bytes + c.offset, line := n.lines + c.line }

variable (n : Shift) (c : Cursor)

@[simp] theorem rest_moved : (c.moved n).rest = c.rest := rfl
@[simp] theorem line_moved : (c.moved n).line = n.lines + c.line := rfl
@[simp] theorem column_moved : (c.moved n).column = c.column := rfl
@[simp] theorem offset_moved : (c.moved n).offset = n.bytes + c.offset := rfl
@[simp] theorem peek_moved : (c.moved n).peek = c.peek := rfl
@[simp] theorem peekAt_moved (k : Nat) : (c.moved n).peekAt k = c.peekAt k := rfl
@[simp] theorem isAt_moved (char : Char) : (c.moved n).isAt char = c.isAt char := rfl
@[simp] theorem atEnd_moved : (c.moved n).atEnd = c.atEnd := rfl
@[simp] theorem atBreak_moved : (c.moved n).atBreak = c.atBreak := rfl
@[simp] theorem atBlank_moved : (c.moved n).atBlank = c.atBlank := rfl
@[simp] theorem atLineEnd_moved : (c.moved n).atLineEnd = c.atLineEnd := rfl
@[simp] theorem gapAt_moved (k : Nat) : (c.moved n).gapAt k = c.gapAt k := rfl
@[simp] theorem atGap_moved : (c.moved n).atGap = c.atGap := rfl
@[simp] theorem marks_moved (char : Char) : (c.moved n).marks char = c.marks char := rfl
@[simp] theorem atDocumentMark_moved : (c.moved n).atDocumentMark = c.atDocumentMark := rfl

@[simp] theorem skip_moved (k : Nat) : (c.moved n).skip k = (c.skip k).moved n := by
  simp [skip, moved, Nat.add_assoc]

@[simp] theorem takeWhile_moved (p : Char → Bool) :
    (c.moved n).takeWhile p = ((c.takeWhile p).1, (c.takeWhile p).2.moved n) := by
  simp [takeWhile]

@[simp] theorem skipWhile_moved (p : Char → Bool) :
    (c.moved n).skipWhile p = (c.skipWhile p).moved n := by
  simp [skipWhile]

@[simp] theorem takeBreak_moved :
    (c.moved n).takeBreak = (c.takeBreak.1, c.takeBreak.2.moved n) := by
  unfold takeBreak
  simp only [rest_moved, line_moved, offset_moved]
  split
  · simp [moved, Nat.add_assoc]
  · split <;> simp [moved, Nat.add_assoc]
  · rfl

@[simp] theorem endLine?_moved : (c.moved n).endLine? = c.endLine?.map (moved n) := by
  simp only [endLine?, skipWhile_moved, isAt_moved]
  split <;> simp [apply_ite (Option.map (moved n))]
end Cursor

open Cursor

variable (n : Shift)

@[simp] theorem gapFrom_moved (margin fuel : Nat) (gap : Gap) (c : Cursor) :
    gapFrom margin fuel gap (c.moved n) = (gapFrom margin fuel gap c).map (Prod.map id (moved n)) := by
  induction fuel generalizing gap c with
  | zero => rfl
  | succ fuel ih =>
    simp only [gapFrom, atBreak_moved, takeBreak_moved, peek_moved, column_moved, skip_moved, ih]
    split
    · split <;> rfl
    · split
      · split
        · split
          · split <;> rfl
          · rfl
        · rfl
      · rfl

@[simp] theorem quotedPart_moved (single : Bool) (fuel : Nat) (c : Cursor) :
    quotedPart single fuel (c.moved n) =
      (quotedPart single fuel c).map (Prod.map id (Prod.map id (moved n))) := by
  induction fuel generalizing c with
  | zero => rfl
  | succ fuel ih =>
    simp only [quotedPart, atGap_moved, rest_moved, skip_moved, takeBreak_moved, ih]
    split
    · rfl
    · split <;>
        simp [Option.map_bind, Option.bind_map, apply_ite (Option.map (Prod.map id (Prod.map id (moved n))))]

@[simp] theorem quotedTail_moved (single : Bool) (fuel : Nat) (c : Cursor) :
    quotedTail single fuel (c.moved n) = (quotedTail single fuel c).map (Prod.map id (moved n)) := by
  induction fuel generalizing c with
  | zero => rfl
  | succ fuel ih =>
    simp [quotedTail, Option.map_bind, Option.bind_map, ih, apply_ite (Option.map (Prod.map id (moved n)))]

@[simp] theorem quoted_moved (single : Bool) (c : Cursor) :
    quoted single (c.moved n) = (quoted single c).map (Prod.map id (moved n)) := by
  simp [quoted]

@[simp] theorem plainPart_moved (inFlow : Bool) (fuel : Nat) (c : Cursor) :
    plainPart inFlow fuel (c.moved n) = (plainPart inFlow fuel c).map (Prod.map id (moved n)) := by
  induction fuel generalizing c with
  | zero => rfl
  | succ fuel ih =>
    simp only [plainPart, atGap_moved, gapAt_moved, rest_moved, skip_moved, ih]
    split
    · rfl
    · split <;>
        simp [Option.map_bind, Option.bind_map, apply_ite (Option.map (Prod.map id (moved n)))]

@[simp] theorem plainTail_moved (inFlow : Bool) (margin fuel : Nat) (gap : Gap) (c : Cursor) :
    plainTail inFlow margin fuel gap (c.moved n) =
      (plainTail inFlow margin fuel gap c).map (Prod.map id (Prod.map id (moved n))) := by
  induction fuel generalizing gap c with
  | zero => rfl
  | succ fuel ih =>
    simp [plainTail, Option.map_bind, Option.bind_map, ih,
      apply_ite (Option.map (Prod.map id (Prod.map id (moved n))))]

@[simp] theorem plain_moved (inFlow : Bool) (margin : Nat) (c : Cursor) :
    plain inFlow margin (c.moved n) =
      (plain inFlow margin c).map (Prod.map id (Prod.map id (moved n))) := by
  simp [plain]

@[simp] theorem blockHeader_moved (c : Cursor) :
    blockHeader (c.moved n) = (blockHeader c).map (Prod.map id (Prod.map id (moved n))) := by
  simp only [blockHeader, isAt_moved, skip_moved]
  cases c.isAt '+' <;> cases c.isAt '-' <;>
    simp only [Bool.false_eq_true, ↓reduceIte, peek_moved, Option.bind_eq_bind]
  · cases c.peek with
    | none => rfl
    | some char =>
      simp only
      split
      · rfl
      · split
        · simp only [Option.bind_some, Option.isNone_some, isAt_moved, skip_moved,
            Bool.false_eq_true, ↓reduceIte]
          cases (c.skip 1).isAt '+' <;> cases (c.skip 1).isAt '-' <;> rfl
        · rfl
  all_goals
    cases (c.skip 1).peek with
    | none => rfl
    | some char =>
      simp only [skip_moved]
      split
      · rfl
      · split <;> rfl

@[simp] theorem blockBreaks_moved (indent : Option Nat) (fuel deepest : Nat) (c : Cursor) :
    blockBreaks indent fuel deepest (c.moved n) =
      (blockBreaks indent fuel deepest c).map (Prod.map id (Prod.map id (moved n))) := by
  induction fuel generalizing deepest c with
  | zero => rfl
  | succ fuel ih =>
    simp [blockBreaks, Option.map_bind, Option.bind_map, ih,
      apply_ite (Option.map (Prod.map id (Prod.map id (moved n))))]

@[simp] theorem blockLines_moved (isLiteral : Bool) (chomp : Chomp) (indent fuel : Nat)
    (text lastBreak : List Char) (ledByBlank : Bool) (breaks : List Char) (c : Cursor) :
    blockLines isLiteral chomp indent fuel text lastBreak ledByBlank breaks (c.moved n) =
      (blockLines isLiteral chomp indent fuel text lastBreak ledByBlank breaks c).map
        (Prod.map id (moved n)) := by
  induction fuel generalizing text lastBreak ledByBlank breaks c with
  | zero => rfl
  | succ fuel ih =>
    simp [blockLines, Option.map_bind, Option.bind_map, ih, apply_ite (Option.map (Prod.map id (moved n)))]
    cases chomp <;> rfl

@[simp] theorem block_moved (isLiteral : Bool) (margin : Nat) (c : Cursor) :
    block isLiteral margin (c.moved n) = (block isLiteral margin c).map (Prod.map id (moved n)) := by
  simp only [block, skip_moved, blockHeader_moved]
  cases blockHeader (c.skip 1) with
  | none => rfl
  | some header =>
    obtain ⟨chomp, width, c⟩ := header
    simp only [Option.map_some, Prod.map_apply, endLine?_moved, Option.bind_eq_bind, Option.bind_some]
    cases c.endLine? with
    | none => rfl
    | some c => cases width <;> simp [Option.map_bind, Option.bind_map]

@[simp] theorem tagBytes_moved (setApart : Bool) (fuel : Nat) (c : Cursor) :
    tagBytes setApart fuel (c.moved n) = (tagBytes setApart fuel c).map (Prod.map id (moved n)) := by
  induction fuel generalizing c with
  | zero => rfl
  | succ fuel ih =>
    simp only [tagBytes, peek_moved, rest_moved, skip_moved, ih]
    split <;>
      simp [Option.map_bind, Option.bind_map, apply_ite (Option.map (Prod.map id (moved n)))]

@[simp] theorem tagText_moved (setApart : Bool) (c : Cursor) :
    tagText setApart (c.moved n) =
      (tagText setApart c).map (Prod.map id (Prod.map (moved n) id)) := by
  simp [tagText, Option.map_bind, Option.bind_map]

@[simp] theorem tagHandle_moved (c : Cursor) :
    tagHandle (c.moved n) = (tagHandle c).map (Prod.map id (moved n)) := by
  simp [tagHandle, apply_ite (Option.map (Prod.map id (moved n)))]

@[simp] theorem tagName_moved (inFlow : Bool) (c : Cursor) :
    tagName inFlow (c.moved n) = (tagName inFlow c).map (Prod.map id (moved n)) := by
  simp [tagName, Option.map_bind, Option.bind_map, Function.comp_def,
    apply_ite (Option.map (Prod.map id (moved n)))]
  rfl

@[simp] theorem versionNumber_moved (c : Cursor) :
    versionNumber (c.moved n) = (versionNumber c).map (Prod.map id (moved n)) := by
  simp [versionNumber, apply_ite (Option.map (Prod.map id (moved n)))]

@[simp] theorem handleDirective_moved (c : Cursor) :
    handleDirective (c.moved n) = (handleDirective c).map (Prod.map id (moved n)) := by
  simp [handleDirective, Option.map_bind, Option.bind_map, Function.comp_def,
    apply_ite (Option.map (Prod.map id (moved n)))]
  rfl

@[simp] theorem directive_moved (c : Cursor) :
    directive (c.moved n) = (directive c).map (Prod.map id (moved n)) := by
  simp only [directive, skip_moved, takeWhile_moved, atGap_moved]
  split
  · rfl
  · split
    · simp only [skipWhile_moved, versionNumber_moved, Option.bind_eq_bind, Option.bind_map,
        Option.map_bind, Function.comp_def, Prod.map_fst, Prod.map_snd, id, isAt_moved, skip_moved,
        endLine?_moved, Option.bind_some, apply_ite (Option.map (Prod.map id (moved n)))]
      rfl
    · split
      · simp only [handleDirective_moved, endLine?_moved, Option.map_bind, Option.bind_map,
          Function.comp_def, Option.bind_eq_bind, Option.bind_some, Prod.map_fst, Prod.map_snd, id]
        rfl
      · rfl

@[simp] theorem anchorName_moved (c : Cursor) :
    Scanner.anchorName (c.moved n) = (Scanner.anchorName c).map (Prod.map id (moved n)) := by
  simp only [Scanner.anchorName, takeWhile_moved, atGap_moved, peek_moved]
  split
  · rfl
  · split <;> rfl

end BearerAuth.Yaml
