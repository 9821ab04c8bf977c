import BearerAuth.Cache.Pattern
import BearerAuth.Proofs.Text.Utf8
import Mathlib.Data.List.Infix

/-! # What a pattern matches

A server reads a pattern byte by byte: a star stands for any bytes, a question mark for any one byte,
brackets for one byte of a class, and a backslash makes the next byte mean itself. The pattern for an area
matches exactly the keys that begin with the name of the area and a colon, whatever characters the name has.
-/

namespace BearerAuth

open BearerAuth.Text

namespace Glob

/-- A part of a pattern. -/
inductive Item where
  | byte (b : UInt8)
  | any
  | star
  /-- One byte of some ranges, or of none of them. -/
  | oneOf (negated : Bool) (ranges : List (UInt8 × UInt8))
deriving DecidableEq

mutual

/-- The parts of a pattern. A backslash with nothing behind it means itself. -/
def parse : List UInt8 → List Item
  | [] => []
  | 0x2A :: rest => .star :: parse rest
  | 0x3F :: rest => .any :: parse rest
  | 0x5B :: 0x5E :: rest => parseClass true [] rest
  | 0x5B :: rest => parseClass false [] rest
  | 0x5C :: b :: rest => .byte b :: parse rest
  | b :: rest => .byte b :: parse rest

/-- The parts of a pattern from within a class, which ends with the pattern if it is not closed. -/
def parseClass (negated : Bool) (ranges : List (UInt8 × UInt8)) : List UInt8 → List Item
  | [] => [.oneOf negated ranges]
  | 0x5C :: b :: rest => parseClass negated ((b, b) :: ranges) rest
  | 0x5D :: rest => .oneOf negated ranges :: parse rest
  | low :: 0x2D :: high :: rest => parseClass negated ((min low high, max low high) :: ranges) rest
  | b :: rest => parseClass negated ((b, b) :: ranges) rest

end

/-- The part stands for that one byte. -/
def Item.admits (b : UInt8) : Item → Bool
  | byte c => b = c
  | any => true
  | star => false
  | oneOf negated ranges => (ranges.any fun range => range.1 ≤ b && b ≤ range.2) != negated

/-- The parts stand for those bytes, one after the other. -/
def matchItems : List Item → List UInt8 → Bool
  | [], key => key.isEmpty
  | .star :: items, key => key.tails.any (matchItems items)
  | _ :: _, [] => false
  | item :: items, b :: key => item.admits b && matchItems items key

/-- The pattern matches a key. -/
def Matches (pattern key : List UInt8) : Prop := matchItems (parse pattern) key = true

instance (pattern key : List UInt8) : Decidable (Matches pattern key) :=
  inferInstanceAs (Decidable (_ = true))

example : Matches (utf8 "h[^a-c]?lo*\\*") (utf8 "hello, *") := by decide

/-! ## Parts that mean themselves -/

/-- The byte means something in a pattern. -/
def IsMark (b : UInt8) : Prop := b = 0x2A ∨ b = 0x3F ∨ b = 0x5B ∨ b = 0x5C

theorem parse_cons {b : UInt8} (plain : ¬IsMark b) (rest : List UInt8) :
    parse (b :: rest) = .byte b :: parse rest := by
  simp only [IsMark, not_or] at plain
  obtain ⟨star, question, bracket, backslash⟩ := plain
  rw [parse]
  all_goals simp_all

theorem parse_append {bytes : List UInt8} (plain : ∀ b ∈ bytes, ¬IsMark b) (rest : List UInt8) :
    parse (bytes ++ rest) = bytes.map .byte ++ parse rest := by
  induction bytes with
  | nil => rfl
  | cons b bytes ih =>
    rw [List.cons_append, parse_cons (plain b (List.mem_cons_self ..)),
      ih fun other member => plain other (List.mem_cons_of_mem _ member)]
    rfl

/-- The bytes of a character mean nothing in a pattern if the character does not. -/
theorem not_isMark_of_mem {c : Char} (plain : Pattern.isSpecial c = false) :
    ∀ b ∈ String.utf8EncodeChar c, ¬IsMark b := by
  intro b member mark
  have ascii : b.toNat < 128 := by
    rcases mark with rfl | rfl | rfl | rfl <;> decide
  have number := toNat_of_mem_utf8EncodeChar member ascii
  have char : c = Char.ofNat b.toNat := by rw [← number, Char.ofNat_toNat]
  subst char
  rcases mark with rfl | rfl | rfl | rfl <;> exact absurd plain (by decide)

/-- A character that means something is one byte, and is marked to mean itself. -/
theorem parse_marked {c : Char} (special : Pattern.isSpecial c = true) (rest : List UInt8) :
    parse (['\\', c].flatMap String.utf8EncodeChar ++ rest) =
      (String.utf8EncodeChar c).map .byte ++ parse rest := by
  simp only [Pattern.isSpecial, Bool.or_eq_true, decide_eq_true_eq] at special
  obtain ((((rfl | rfl) | rfl) | rfl) | rfl) | rfl := special <;> rfl

/-- Text that is marked so means itself. -/
theorem parse_literal (text : List Char) (rest : List UInt8) :
    parse ((Pattern.literal text).flatMap String.utf8EncodeChar ++ rest) =
      (text.flatMap String.utf8EncodeChar).map .byte ++ parse rest := by
  induction text with
  | nil => rfl
  | cons c text ih =>
    have tail : Pattern.literal (c :: text) =
        (if Pattern.isSpecial c then ['\\', c] else [c]) ++ Pattern.literal text := rfl
    rw [tail, List.flatMap_append, List.append_assoc, List.flatMap_cons, List.map_append,
      List.append_assoc, ← ih]
    cases special : Pattern.isSpecial c with
    | true => exact parse_marked special _
    | false =>
      simp only [Bool.false_eq_true, ↓reduceIte, List.flatMap_cons, List.flatMap_nil,
        List.append_nil]
      exact parse_append (not_isMark_of_mem special) _

/-! ## Matching -/

theorem matchItems_star (key : List UInt8) : matchItems [.star] key = true := by
  simp only [matchItems, List.any_eq_true]
  exact ⟨[], (List.mem_tails [] key).mpr List.nil_suffix, rfl⟩

/-- Bytes that mean themselves and a star match whatever begins with the bytes. -/
theorem matchItems_bytes_star (bytes key : List UInt8) :
    matchItems (bytes.map .byte ++ [.star]) key = true ↔ bytes <+: key := by
  induction bytes generalizing key with
  | nil => exact iff_of_true (matchItems_star key) List.nil_prefix
  | cons b bytes ih =>
    cases key with
    | nil => simp [matchItems]
    | cons c key =>
      simp only [List.map_cons, List.cons_append, matchItems, Item.admits, Bool.and_eq_true,
        decide_eq_true_eq, ih, List.cons_prefix_cons]
      exact and_congr_left fun _ => eq_comm

/-- The pattern for an area matches what begins with its name and a colon. -/
theorem matches_ofArea_iff (keyspace area : String) (key : List UInt8) :
    Matches (utf8 (String.ofList (Pattern.ofArea keyspace area))) key ↔
      utf8 (areaStart (Pattern.spaced keyspace area)) <+: key := by
  have pattern : utf8 (String.ofList (Pattern.ofArea keyspace area)) =
      (Pattern.literal (Pattern.spaced keyspace area).toList).flatMap String.utf8EncodeChar ++
        [0x3A, 0x2A] := by
    rw [utf8_ofList, Pattern.ofArea, List.flatMap_append]
    rfl
  have start : utf8 (areaStart (Pattern.spaced keyspace area)) =
      (Pattern.spaced keyspace area).toList.flatMap String.utf8EncodeChar ++ [0x3A] := by
    rw [areaStart, utf8_append]
    rfl
  have ending : parse [0x3A, 0x2A] = [.byte 0x3A, .star] := rfl
  rw [Matches, pattern, parse_literal, ending, start, ← matchItems_bytes_star]
  simp

/-- The pattern for an area finds what begins with its name and a colon, and nothing else: among all keys
that a server can hold, and among those that are text, whatever characters they or the names have. -/
theorem matches_ofArea_text_iff (keyspace area : String) :
    let pattern := utf8 (String.ofList (Pattern.ofArea keyspace area))
    let start := Pattern.spaced keyspace area ++ ":"
    (∀ key : List UInt8, Matches pattern key ↔ utf8 start <+: key) ∧
    ∀ key : String, Matches pattern (utf8 key) ↔ start.toList <+: key.toList := by
  intro pattern start
  have bytes (key : List UInt8) : Matches pattern key ↔ utf8 start <+: key :=
    matches_ofArea_iff keyspace area key
  exact ⟨bytes, fun key => (bytes (utf8 key)).trans utf8_prefix_iff⟩

end Glob

end BearerAuth
