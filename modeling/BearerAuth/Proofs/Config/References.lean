import BearerAuth.Config.Template
import Mathlib.Data.List.Infix

/-! # Texts with references

References are found in one pass from left to right, and each reaches to the first closing brace. So a text
falls apart wherever no reference runs across, and one in which literal parts and references take turns is
expanded part by part: what is put in for a reference is never looked at again, whatever it contains.
-/

namespace BearerAuth.Config

/-! ## One reference -/

theorem beforeBrace_append {name : List Char} (unclosed : '}' ∉ name) (rest : List Char) :
    beforeBrace (name ++ '}' :: rest) = some name := by
  induction name with
  | nil => rfl
  | cons c name ih =>
    rw [List.mem_cons, not_or] at unclosed
    rw [List.cons_append, beforeBrace, if_neg (Ne.symm unclosed.1), ih unclosed.2]
    rfl

/-- Where a brace closes, what stands behind does not matter. -/
theorem beforeBrace_of_mem {text : List Char} (closed : '}' ∈ text) :
    ∃ name after, text = name ++ '}' :: after ∧
      ∀ rest, beforeBrace (text ++ rest) = some name := by
  obtain ⟨name, after, rfl, unclosed⟩ := List.eq_append_cons_of_mem closed
  refine ⟨name, after, rfl, fun rest => ?_⟩
  rw [List.append_assoc, List.cons_append, beforeBrace_append unclosed]

theorem referenceAt?_eq_none {text : List Char} (unread : ¬['$', '{'] <+: text) :
    referenceAt? text = none := by
  unfold referenceAt?
  split
  · exact absurd (List.prefix_append ['$', '{'] _) unread
  · rfl

/-- A reference is read up to the first closing brace. -/
theorem referenceAt?_append_brace {name : List Char} (ne_nil : name ≠ []) (unclosed : '}' ∉ name)
    (rest : List Char) : referenceAt? ('$' :: '{' :: (name ++ '}' :: rest)) = some name := by
  rw [referenceAt?, beforeBrace_append unclosed, Option.filter_some, if_pos (by simpa using ne_nil)]

/-! ## Texts that fall apart -/

/-- Behind every `${` of the text there is a closing brace, so no reference runs on beyond it. -/
def Settled (text : List Char) : Prop := ∀ part ∈ text.tails, ['$', '{'] <+: part → '}' ∈ part

instance (text : List Char) : Decidable (Settled text) :=
  inferInstanceAs (Decidable (∀ part ∈ text.tails, ['$', '{'] <+: part → '}' ∈ part))

theorem settled_cons {c : Char} {text : List Char} :
    Settled (c :: text) ↔ (['$', '{'] <+: c :: text → '}' ∈ c :: text) ∧ Settled text := by
  rw [Settled, List.tails_cons, List.forall_mem_cons]
  rfl

/-- A text that ends in a closing brace is settled. -/
theorem settled_closed (text : List Char) : Settled (text ++ ['}']) := by
  induction text with
  | nil => decide
  | cons c text ih => exact settled_cons.mpr ⟨fun _ => by simp, ih⟩

/-- What no reference runs on beyond is settled before a text without a closing brace. -/
theorem Settled.of_append {text rest : List Char} (settled : Settled (text ++ rest)) (unclosed : '}' ∉ rest) :
    Settled text := by
  intro part tail opens
  obtain ⟨front, rfl⟩ := (List.mem_tails _ _).mp tail
  have later : part ++ rest ∈ (front ++ part ++ rest).tails :=
    (List.mem_tails _ _).mpr ⟨front, (List.append_assoc ..).symm⟩
  have closed := settled _ later (opens.trans (List.prefix_append ..))
  exact (List.mem_append.mp closed).resolve_right unclosed

/-- The last character of the one text and the first of the other do not begin a reference together. -/
def Apart (text rest : List Char) : Prop := text.getLast? = some '$' → rest.head? ≠ some '{'

theorem Apart.tail {c : Char} {text rest : List Char} (apart : Apart (c :: text) rest) :
    Apart text rest := by
  intro last
  apply apart
  rw [List.getLast?_cons, last]
  rfl

/-- Whether a reference begins a settled text is settled within it, and the reference is a part of it. -/
theorem referenceAt?_append {c : Char} {text rest : List Char} (settled : Settled (c :: text))
    (apart : Apart (c :: text) rest) :
    referenceAt? (c :: text ++ rest) = referenceAt? (c :: text) ∧
      ∀ name, referenceAt? (c :: text) = some name → name.length + 2 ≤ text.length := by
  by_cases begins : ['$', '{'] <+: c :: text
  · obtain ⟨opened, parts⟩ := begins
    simp only [List.cons_append, List.nil_append, List.cons.injEq] at parts
    obtain ⟨rfl, rfl⟩ := parts
    have closed : '}' ∈ opened := by simpa using (settled_cons.mp settled).1 (List.prefix_append _ _)
    obtain ⟨name, after, rfl, found⟩ := beforeBrace_of_mem closed
    have alone := found []
    rw [List.append_nil] at alone
    simp only [List.cons_append, referenceAt?, found rest, alone, true_and]
    intro other same
    obtain rfl : name = other := by simp_all [Option.filter]
    simp only [List.length_cons, List.length_append]
    omega
  · have longer : ¬['$', '{'] <+: c :: text ++ rest := by
      intro opens
      obtain ⟨rfl, second⟩ := List.cons_prefix_cons.mp opens
      cases text with
      | nil =>
        obtain ⟨more, rfl⟩ := second
        exact apart rfl rfl
      | cons d text =>
        obtain ⟨rfl, -⟩ := List.cons_prefix_cons.mp second
        exact begins (List.prefix_append ['$', '{'] text)
    rw [referenceAt?_eq_none begins, referenceAt?_eq_none longer]
    exact ⟨rfl, fun name same => by cases same⟩

/-- A settled text has its own parts, whatever comes behind it. -/
theorem piecesFrom_append {text rest : List Char} (settled : Settled text) (apart : Apart text rest)
    {taken : Nat} (within : taken ≤ text.length) :
    piecesFrom taken (text ++ rest) = piecesFrom taken text ++ piecesFrom 0 rest := by
  induction text generalizing taken with
  | nil =>
    obtain rfl := Nat.le_zero.mp within
    rfl
  | cons c text ih =>
    have onward {n : Nat} (le : n ≤ text.length) :
        piecesFrom n (text ++ rest) = piecesFrom n text ++ piecesFrom 0 rest :=
      ih (settled_cons.mp settled).2 apart.tail le
    cases taken with
    | succ taken => exact onward (Nat.le_of_succ_le_succ within)
    | zero =>
      obtain ⟨same, fits⟩ := referenceAt?_append settled apart
      rw [List.cons_append] at same ⊢
      rw [piecesFrom, piecesFrom, same]
      cases found : referenceAt? (c :: text) with
      | none => simp only [onward (Nat.zero_le _), List.cons_append]
      | some name => simp only [onward (fits name found), List.cons_append]

/-- A settled text is expanded on its own. -/
theorem expand_append (env : Environment) {text rest : String} (settled : Settled text.toList)
    (apart : Apart text.toList rest.toList) :
    expand env (text ++ rest) = expand env text ++ expand env rest := by
  rw [expand, pieces, String.toList_append, piecesFrom_append settled apart (Nat.zero_le _),
    List.flatMap_append, String.ofList_append]
  rfl

/-! ## Templates -/

/-- A text in which no reference begins. -/
structure Literal where
  text : String
  plain : ¬['$', '{'] <:+: text.toList

/-- A name that a reference can have. -/
structure Name where
  text : String
  ne_nil : text.toList ≠ []
  unclosed : '}' ∉ text.toList

/-- A literal text and references, each of which has a literal text behind it. -/
structure Template where
  first : Literal
  rest : List (Name × Literal)

/-- A reference as it is written. -/
def Name.reference (name : Name) : String := "$\x7b" ++ name.text ++ "\x7d"

/-- What a reference stands for: the value of the variable if that is set, and else the reference. -/
def Name.value (env : Environment) (name : Name) : String := (env name.text).getD name.reference

/-- The text of a template with something put in for each name. -/
def Template.fill (t : Template) (put : Name → String) : String :=
  t.first.text ++ String.join (t.rest.map fun part => put part.1 ++ part.2.text)

theorem Literal.settled (l : Literal) : Settled l.text.toList := by
  intro part member begins
  exact absurd (begins.isInfix.trans ((List.mem_tails _ _).mp member).isInfix) l.plain

theorem Name.toList_reference (name : Name) :
    name.reference.toList = '$' :: '{' :: (name.text.toList ++ ['}']) := by
  simp [reference]

theorem Name.settled (name : Name) : Settled name.reference.toList := by
  rw [name.toList_reference]
  exact settled_closed ('$' :: '{' :: name.text.toList)

/-- What stands behind a reference does not run together with it. -/
theorem Name.apart (name : Name) (rest : List Char) : Apart name.reference.toList rest := by
  intro last
  rw [name.toList_reference, ← List.cons_append, ← List.cons_append, List.getLast?_concat] at last
  cases last

theorem piecesFrom_of_plain {text : List Char} (plain : ¬['$', '{'] <:+: text) :
    piecesFrom 0 text = text.map .char := by
  induction text with
  | nil => rfl
  | cons c text ih =>
    have unread : referenceAt? (c :: text) = none :=
      referenceAt?_eq_none fun begins => plain begins.isInfix
    rw [piecesFrom, unread, ih fun inside => plain (inside.trans (List.suffix_cons c text).isInfix)]
    rfl

/-- Nothing is left of a text that belongs to a reference before it. -/
theorem piecesFrom_taken {text : List Char} {taken : Nat} (all : text.length ≤ taken) :
    piecesFrom taken text = [] := by
  induction text generalizing taken with
  | nil => rfl
  | cons c text ih =>
    obtain ⟨more, rfl⟩ := Nat.exists_eq_add_one.mpr (Nat.lt_of_lt_of_le (Nat.succ_pos _) all)
    exact ih (Nat.le_of_succ_le_succ all)

theorem expand_literal (env : Environment) (l : Literal) : expand env l.text = l.text := by
  rw [expand, pieces, piecesFrom_of_plain l.plain, List.flatMap_map]
  simp [Piece.expand]

theorem expand_reference (env : Environment) (name : Name) :
    expand env name.reference = name.value env := by
  have one : pieces name.reference = [.reference name.text.toList] := by
    rw [pieces, name.toList_reference, piecesFrom,
      referenceAt?_append_brace name.ne_nil name.unclosed]
    exact congrArg _ (piecesFrom_taken (by simp))
  rw [expand, one, List.flatMap_singleton, Piece.expand, String.ofList_toList, Name.value]
  cases env name.text with
  | some value => exact String.ofList_toList
  | none =>
    apply String.toList_injective
    rw [Option.getD_none, String.toList_ofList, name.toList_reference]
    rfl

/-- A template is expanded part by part: the literal parts stay, and each reference becomes the value of its
variable, or stays if there is none. Whatever the values contain, they are not looked at again. -/
theorem expand_template (env : Environment) (t : Template) :
    expand env (t.fill Name.reference) = t.fill (Name.value env) := by
  obtain ⟨first, rest⟩ := t
  unfold Template.fill
  induction rest generalizing first with
  | nil => simp only [List.map_nil, String.join_nil, String.append_empty, expand_literal]
  | cons part rest ih =>
    obtain ⟨name, literal⟩ := part
    have behind := ih literal
    simp only at behind
    simp only [List.map_cons, String.join_cons]
    rw [expand_append env first.settled ?_, expand_literal, String.append_assoc,
      expand_append env name.settled (name.apart _), expand_reference, behind, String.append_assoc]
    · intro _
      simp [Name.reference]

end BearerAuth.Config
