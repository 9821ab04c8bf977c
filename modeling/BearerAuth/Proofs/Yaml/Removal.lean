import BearerAuth.Proofs.Yaml.Composer

/-! # Entries and their removal

An entry of a block has a word for its key and a text between double quotes for its value. Its tokens may be left out
from between others. In front of them, the composer can do no more than take the entry into the mapping that is open,
or fail.
-/

namespace BearerAuth.Yaml

/-- A word as a key, and its value between double quotes. -/
structure Entry where
  /-- The key of the mapping it stands in. -/
  parent : List Char
  key : List Char
  text : List Char

/-- The tokens of an entry. -/
def Entry.tokens (e : Entry) : List Token :=
  [.key, .scalar .plain e.key, .value, .scalar .doubleQuoted e.text]

theorem Entry.tokens_append (e : Entry) (later : List Token) : e.tokens ++ later =
    .key :: .scalar .plain e.key :: .value :: .scalar .doubleQuoted e.text :: later := rfl

/-- A plain scalar. -/
def Node.word (text : List Char) : Node := .scalar none .plain (String.ofList text)

/-- The value of an entry. -/
def Entry.node (e : Entry) : Node := .scalar none .doubleQuoted (String.ofList e.text)

/-- The key and the value of an entry. -/
def Entry.nodes (e : Entry) : Node × Node := (.word e.key, e.node)

/-- A mapping of the entry alone. -/
def Entry.whole (e : Entry) : Node := .mapping none [e.nodes]

section

variable {κ : Type} (key parent : κ) (e : Entry) (sameKey : κ → κ → Prop) (sameValue : Node → Node → Prop)

/-- The list without the entry, while other keys and values may have changed. Where the entry is alone in the value of
its parent, nothing is left of that. -/
inductive Without : List (κ × Node) → List (κ × Node) → Prop
  | nil : Without [] []
  | keep {entry entry' : κ × Node} {rest rest' : List (κ × Node)} (same : sameKey entry.1 entry'.1)
    (value : sameValue entry.2 entry'.2) (without : Without rest rest') : Without (entry :: rest) (entry' :: rest')
  | leave {rest rest' : List (κ × Node)} (without : Without rest rest') : Without ((key, e.node) :: rest) rest'
  | alone {rest rest' : List (κ × Node)} (without : Without rest rest') :
    Without ((parent, e.whole) :: rest) ((parent, .absent) :: rest')

end

/-- A node and the same without the entry. -/
inductive Lacks (e : Entry) : Node → Node → Prop
  | same (node : Node) : Lacks e node node
  | sequence (tag : Option Tag) (items items' : List Node) : Lacks e (.sequence tag items) (.sequence tag items')
  | mapping (tag : Option Tag) {entries entries' : List (Node × Node)}
    (without : Without (.word e.key) (.word e.parent) e (Lacks e) (Lacks e) entries entries') :
    Lacks e (.mapping tag entries) (.mapping tag entries')

/-- Entries and the same without that one. -/
abbrev LacksAmong (e : Entry) : List (Node × Node) → List (Node × Node) → Prop :=
  Without (.word e.key) (.word e.parent) e (Lacks e) (Lacks e)

/-- A document and the same without the entry. -/
structure Document.Lacks (e : Entry) (full less : Document) : Prop where
  root : Yaml.Lacks e full.root less.root
  anchored : ∀ id, Option.Rel (Yaml.Lacks e) (full.anchored id) (less.anchored id)

/-! ## Tokens -/

/-- The token follows the value of an entry in a block. -/
def Follows (later : List Token) : Prop := later.head? = some .key ∨ later.head? = some .blockEnd

theorem Follows.head_ne {later : List Token} (next : Follows later) {token : Token} (noKey : token ≠ .key)
    (noEnd : token ≠ .blockEnd) : later.head? ≠ some token := by
  obtain next | next := next <;> rw [next]
  · simpa using noKey.symm
  · simpa using noEnd.symm

/-- The tokens of the parent's value behind its key, with the entry alone in it. -/
def Entry.section (e : Entry) (later : List Token) : List Token :=
  .scalar .plain e.parent :: .value :: .blockMappingStart :: (e.tokens ++ .blockEnd :: later)

/-- Tokens, and the same without the entry. Where that is alone, its block is left out as well. -/
inductive Cut (e : Entry) : List Token → List Token → Prop
  | same (tokens : List Token) : Cut e tokens tokens
  | entry {later : List Token} (next : Follows later) : Cut e (e.tokens ++ later) later
  | alone (later : List Token) :
    Cut e (.key :: e.section later) (.key :: .scalar .plain e.parent :: .value :: later)
  | later (token : Token) {full less : List Token} (cut : Cut e full less) : Cut e (token :: full) (token :: less)

variable {e : Entry}

/-- What is left behind a token of both. -/
def Beyond (e : Entry) (token : Token) (full less : List Token) : Prop :=
  Cut e full less ∨
    token = .key ∧ ∃ later, full = e.section later ∧ less = .scalar .plain e.parent :: .value :: later

theorem Beyond.cut {token : Token} {full less : List Token} (beyond : Beyond e token full less)
    (other : token ≠ .key) : Cut e full less :=
  beyond.resolve_right fun key => other key.1

theorem Cut.cases {full less : List Token} (cut : Cut e full less) :
    (full = [] ∧ less = []) ∨
    (∃ token rest rest', full = token :: rest ∧ less = token :: rest' ∧ Beyond e token rest rest') ∨
    full = e.tokens ++ less ∧ Follows less := by
  cases cut with
  | same =>
    cases full with
    | nil => exact .inl ⟨rfl, rfl⟩
    | cons token rest => exact .inr (.inl ⟨token, rest, rest, rfl, rfl, .inl (.same rest)⟩)
  | entry next => exact .inr (.inr ⟨rfl, next⟩)
  | alone later => exact .inr (.inl ⟨.key, _, _, rfl, rfl, .inr ⟨rfl, later, rfl, rfl⟩⟩)
  | later token cut => exact .inr (.inl ⟨token, _, _, rfl, rfl, .inl cut⟩)

theorem Cut.append {full less : List Token} (cut : Cut e full less) (earlier : List Token) :
    Cut e (earlier ++ full) (earlier ++ less) := by
  induction earlier with
  | nil => exact cut
  | cons token earlier ih => exact .later token ih

theorem Cut.dropWhile {p : Token → Bool} (noKey : p .key = false) (noEnd : p .blockEnd = false)
    {full less : List Token} (cut : Cut e full less) : Cut e (full.dropWhile p) (less.dropWhile p) := by
  induction cut with
  | same => exact .same _
  | entry next =>
    have stays (later : List Token) (next : Follows later) : later.dropWhile p = later := by
      cases later with
      | nil => rfl
      | cons token later =>
        obtain next | next := next <;> obtain rfl := Option.some.inj next <;> simp [*]
    rw [stays _ next, e.tokens_append, List.dropWhile_cons, noKey]
    exact .entry next
  | alone later => simpa [noKey] using Cut.alone later
  | later token cut ih =>
    simp only [List.dropWhile_cons]
    split
    · exact ih
    · exact .later token cut

namespace Composing

variable {α β : Type}

theorem run_bind_of_run {program : Composer α} {rest : α → Composer β} {value : α} {s t : Composing}
    (ran : program.run s = some (value, t)) : (program >>= rest).run s = (rest value).run t := by
  rw [StateT.run_bind, ran]
  rfl

theorem exists_of_run_bind {program : Composer α} {rest : α → Composer β} {s : Composing}
    {result : β × Composing}
    (ran : (program >>= rest).run s = some result) :
    ∃ value t, program.run s = some (value, t) ∧ (rest value).run t = some result := by
  obtain ⟨⟨value, t⟩, first, second⟩ := Option.bind_eq_some_iff.mp ran
  exact ⟨value, t, first, second⟩

/-! ## An entry in front -/

section

variable (s : Composing)

/-- With these tokens ahead. -/
def on (tokens : List Token) : Composing := { s with tokens := tokens }

/-- No node begins with a key. -/
theorem node_key (inBlock unindented : Bool) (fuel : Nat) (rest : List Token) :
    (node inBlock unindented fuel).run (s.on (.key :: rest)) = none := by
  cases fuel with
  | zero => rfl
  | succ fuel =>
    rw [node_succ]
    cases inBlock <;> rfl

theorem node_scalar (inBlock unindented : Bool) (fuel : Nat) (style : Style) (text : List Char)
    (rest : List Token) : (node inBlock unindented (fuel + 1)).run (s.on (.scalar style text :: rest)) =
      some (.scalar none style (String.ofList text), s.on rest) := by
  rw [node_succ]
  simp [peek, propertied, properties, anchor?, tag?, anchoring, content, on, drop, scalarTag]

theorem accept_self (token : Token) (rest : List Token) :
    (accept token).run (s.on (token :: rest)) = some (true, s.on rest) := by
  simp [accept, peek, drop, on]

theorem accept_other {token : Token} {tokens : List Token} (other : tokens.head? ≠ some token) :
    (accept token).run (s.on tokens) = some (false, s.on tokens) := by
  simp [accept, peek, on, other]

theorem nodeBefore_scalar {ends : List Token} (inBlock unindented : Bool) {fuel : Nat} {style : Style}
    {text : List Char} (other : .scalar style text ∉ ends) (rest : List Token) {result : Node × Composing}
    (ran : (nodeBefore ends inBlock unindented fuel).run (s.on (.scalar style text :: rest)) = some result) :
    result = (.scalar none style (String.ofList text), s.on rest) := by
  have here : (atAny ends).run (s.on (.scalar style text :: rest)) =
      some (false, s.on (.scalar style text :: rest)) := by
    simp [atAny, peek, on, other]
  obtain - | fuel := fuel
  · cases ran
  · rw [nodeBefore, run_bind_of_run here, if_neg (by simp)] at ran
    obtain - | fuel := fuel
    · cases ran
    · exact Option.some.inj (ran.symm.trans (s.node_scalar inBlock unindented fuel style text rest))

/-- An entry whose key is a word. -/
theorem blockEntry_word (name : List Char) {fuel : Nat} {later : List Token}
    {result : List (Node × Node) × Composing}
    (ran : (blockEntry fuel).run (s.on (.scalar .plain name :: .value :: later)) = some result) :
    ∃ content t entries u, (nodeBefore [.key, .value, .blockEnd] true true fuel).run (s.on later) =
      some (content, t) ∧ (blockEntries fuel).run t = some (entries, u) ∧
        result = ((.word name, content) :: entries, u) := by
  obtain ⟨node, t, named, ran⟩ := exists_of_run_bind ran
  cases s.nodeBefore_scalar _ _ (by simp) _ named
  rw [run_bind_of_run (s.accept_self _ _)] at ran
  simp only [↓reduceIte] at ran
  obtain ⟨content, t, contained, ran⟩ := exists_of_run_bind ran
  obtain ⟨entries, u, more, ran⟩ := exists_of_run_bind ran
  cases ran
  exact ⟨content, t, entries, u, contained, more, rfl⟩

/-- An entry in front of a block's entries is the first of them. -/
theorem blockEntries_entry (e : Entry) {fuel : Nat} (later : List Token)
    {result : List (Node × Node) × Composing}
    (ran : (blockEntries (fuel + 1)).run (s.on (e.tokens ++ later)) = some result) :
    ∃ entries t, (blockEntries fuel).run (s.on later) = some (entries, t) ∧
      result = (e.nodes :: entries, t) := by
  rw [blockEntries_succ, e.tokens_append, run_bind_of_run (s.accept_self _ _), if_pos rfl] at ran
  obtain ⟨content, t, entries, u, contained, more, same⟩ := s.blockEntry_word e.key ran
  cases s.nodeBefore_scalar _ _ (by simp) _ contained
  exact ⟨entries, u, more, same⟩

/-- The entries of a block go on with a key or end with it. -/
theorem follows_of_blockEntries {fuel : Nat} {later : List Token} {result : List (Node × Node) × Composing}
    (ran : (blockEntries fuel).run (s.on later) = some result) : Follows later := by
  obtain - | fuel := fuel
  · cases ran
  by_cases key : later.head? = some .key
  · exact .inl key
  · rw [blockEntries, run_bind_of_run (s.accept_other key), if_neg (by simp)] at ran
    by_cases ends : later.head? = some .blockEnd
    · exact .inr ends
    · rw [run_bind_of_run (s.accept_other ends)] at ran
      cases ran

/-- Where no value is written, the entries go on. -/
theorem nodeBefore_follows {fuel : Nat} {later : List Token} (next : Follows later) {result : Node × Composing}
    (ran : (nodeBefore [.key, .value, .blockEnd] true true fuel).run (s.on later) = some result) :
    result = (.absent, s.on later) := by
  obtain - | fuel := fuel
  · cases ran
  have here : (atAny [.key, .value, .blockEnd]).run (s.on later) = some (true, s.on later) := by
    obtain next | next := next <;> simp [atAny, peek, on, next]
  rw [nodeBefore, run_bind_of_run here, if_pos rfl] at ran
  exact (Option.some.inj ran).symm

/-- Items between brackets do not go on with a key or the end of a block. -/
theorem flowItems_follows {later : List Token} (next : Follows later) (fuel : Nat) :
    (flowItems false fuel).run (s.on later) = none := by
  cases fuel with
  | zero => rfl
  | succ fuel =>
    rw [flowItems_succ, run_bind_of_run (s.accept_other (next.head_ne (by simp) (by simp)))]
    exact run_bind_of_run (s.accept_other (next.head_ne (by simp) (by simp)))

theorem flowEntries_follows {later : List Token} (next : Follows later) (fuel : Nat) :
    (flowEntries false fuel).run (s.on later) = none := by
  cases fuel with
  | zero => rfl
  | succ fuel =>
    rw [flowEntries_succ, run_bind_of_run (s.accept_other (next.head_ne (by simp) (by simp)))]
    exact run_bind_of_run (s.accept_other (next.head_ne (by simp) (by simp)))

/-- The value of an entry. -/
theorem flowValue_entry {ends : List Token} {fuel : Nat} {style : Style} {text : List Char}
    (other : .scalar style text ∉ ends) {rest : List Token} {result : Node × Composing}
    (ran : (flowValue ends fuel).run (s.on (.value :: .scalar style text :: rest)) = some result) :
    result = (.scalar none style (String.ofList text), s.on rest) := by
  obtain - | fuel := fuel
  · cases ran
  rw [flowValue, run_bind_of_run (s.accept_self _ _)] at ran
  exact s.nodeBefore_scalar _ _ other _ ran

theorem flowItem_entry (e : Entry) {later : List Token} (next : Follows later) (fuel : Nat) :
    (flowItem fuel).run (s.on (e.tokens ++ later)) = none := by
  rw [Option.eq_none_iff_forall_ne_some]
  intro result ran
  rw [flowItem, e.tokens_append, run_bind_of_run (s.accept_self _ _), if_pos rfl] at ran
  have here (text : List Char) (rest : List Token) :
      (atAny [.value, .flowEntry, .flowSequenceEnd]).run (s.on (.scalar .plain text :: rest)) =
        some (false, s.on (.scalar .plain text :: rest)) := by
    simp [atAny, peek, on]
  rw [run_bind_of_run (here _ _)] at ran
  obtain - | fuel := fuel
  · cases ran
  simp only [Bool.false_eq_true, ↓reduceIte] at ran
  rw [run_bind_of_run (s.node_scalar _ _ _ _ _ _)] at ran
  obtain ⟨content, t, contained, ran⟩ := exists_of_run_bind ran
  cases s.flowValue_entry (by simp) contained
  rw [StateT.run_bind, s.flowItems_follows next] at ran
  cases ran

/-- No item has a key within its key. -/
theorem flowItem_key (fuel : Nat) (rest : List Token) (goesOn : Node → Composer (List Node)) : (do
      let name ← if ← atAny [.value, .flowEntry, .flowSequenceEnd] then do drop; pure Node.absent
        else node false false fuel
      goesOn name).run (s.on (.key :: rest)) = none := by
  have here : (atAny [.value, .flowEntry, .flowSequenceEnd]).run (s.on (.key :: rest)) =
      some (false, s.on (.key :: rest)) := by
    simp [atAny, peek, on]
  rw [run_bind_of_run here, if_neg (by simp), StateT.run_bind, s.node_key]
  rfl

theorem flowEntry_entry (e : Entry) {later : List Token} (next : Follows later) (fuel : Nat) :
    (flowEntry fuel).run (s.on (e.tokens ++ later)) = none := by
  rw [Option.eq_none_iff_forall_ne_some]
  intro result ran
  rw [flowEntry, e.tokens_append, run_bind_of_run (s.accept_self _ _), if_pos rfl] at ran
  obtain ⟨name, t, named, ran⟩ := exists_of_run_bind ran
  cases s.nodeBefore_scalar _ _ (by simp) _ named
  obtain ⟨content, t, contained, ran⟩ := exists_of_run_bind ran
  cases s.flowValue_entry (by simp) contained
  rw [StateT.run_bind, s.flowEntries_follows next] at ran
  cases ran

theorem blockEntries_blockEnd {fuel : Nat} {later : List Token} {result : List (Node × Node) × Composing}
    (ran : (blockEntries fuel).run (s.on (.blockEnd :: later)) = some result) : result = ([], s.on later) := by
  obtain - | fuel := fuel
  · cases ran
  rw [blockEntries, run_bind_of_run (s.accept_other (by simp)), if_neg (by simp),
    run_bind_of_run (s.accept_self _ _), if_pos rfl] at ran
  exact (Option.some.inj ran).symm

theorem node_blockMapping (unindented : Bool) (fuel : Nat) (rest : List Token) :
    (node true unindented (fuel + 1)).run (s.on (.blockMappingStart :: rest)) =
      (do return .mapping none (← blockEntries fuel) : Composer Node).run (s.on rest) := by
  rw [node_succ]
  rfl

/-- A block of one entry is a mapping of it. -/
theorem nodeBefore_alone (e : Entry) {fuel : Nat} (later : List Token) {result : Node × Composing}
    (ran : (nodeBefore [.key, .value, .blockEnd] true true fuel).run
      (s.on (.blockMappingStart :: (e.tokens ++ .blockEnd :: later))) = some result) :
    result = (.mapping none [e.nodes], s.on later) := by
  obtain - | fuel := fuel
  · cases ran
  have here (rest : List Token) :
      (atAny [.key, .value, .blockEnd]).run (s.on (.blockMappingStart :: rest)) =
        some (false, s.on (.blockMappingStart :: rest)) := by
    simp [atAny, peek, on]
  rw [nodeBefore, run_bind_of_run (here _), if_neg (by simp)] at ran
  obtain - | fuel := fuel
  · cases ran
  rw [s.node_blockMapping] at ran
  obtain ⟨entries, t, entered, ran⟩ := exists_of_run_bind ran
  obtain - | fuel := fuel
  · cases entered
  obtain ⟨more, u, ended, same⟩ := s.blockEntries_entry e _ entered
  cases same
  cases s.blockEntries_blockEnd ended
  exact (Option.some.inj ran).symm

/-- A section that holds the entry alone. -/
theorem blockEntry_section (e : Entry) {fuel : Nat} {later : List Token}
    {result : List (Node × Node) × Composing}
    (ran : (blockEntry fuel).run (s.on (e.section later)) = some result) :
    ∃ entries t, (blockEntries fuel).run (s.on later) = some (entries, t) ∧
      result = ((.word e.parent, e.whole) :: entries, t) := by
  obtain ⟨content, t, entries, u, contained, more, same⟩ := s.blockEntry_word e.parent ran
  cases s.nodeBefore_alone e _ contained
  exact ⟨entries, u, more, same⟩

/-- A section that holds nothing. -/
theorem blockEntry_absent (name : List Char) {fuel : Nat} {later : List Token} (next : Follows later)
    {result : List (Node × Node) × Composing}
    (ran : (blockEntry fuel).run (s.on (.scalar .plain name :: .value :: later)) = some result) :
    ∃ entries t, (blockEntries fuel).run (s.on later) = some (entries, t) ∧
      result = ((.word name, .absent) :: entries, t) := by
  obtain ⟨content, t, entries, u, contained, more, same⟩ := s.blockEntry_word name ran
  cases s.nodeBefore_follows next contained
  exact ⟨entries, u, more, same⟩

/-- Between brackets no block begins. -/
theorem flowValue_block {ends : List Token} (other : .blockMappingStart ∉ ends) (fuel : Nat) (rest : List Token) :
    (flowValue ends fuel).run (s.on (.value :: .blockMappingStart :: rest)) = none := by
  have here : (atAny ends).run (s.on (.blockMappingStart :: rest)) =
      some (false, s.on (.blockMappingStart :: rest)) := by
    simp [atAny, peek, on, other]
  cases fuel with
  | zero => rfl
  | succ fuel =>
    rw [flowValue, run_bind_of_run (s.accept_self _ _), if_pos rfl]
    obtain - | - | fuel := fuel
    · rfl
    · rw [nodeBefore, run_bind_of_run here, if_neg (by simp)]
      rfl
    · rw [nodeBefore, run_bind_of_run here, if_neg (by simp), node_succ]
      rfl

theorem flowItem_section (e : Entry) (fuel : Nat) (later : List Token) : (do
      let name ← if ← atAny [.value, .flowEntry, .flowSequenceEnd] then do drop; pure Node.absent
        else node false false fuel
      let content ← flowValue [.flowEntry, .flowSequenceEnd] fuel
      return .mapping none [(name, content)] :: (← flowItems false fuel) : Composer (List Node)).run
        (s.on (e.section later)) = none := by
  have here : (atAny [.value, .flowEntry, .flowSequenceEnd]).run (s.on (e.section later)) =
      some (false, s.on (e.section later)) := by
    simp [atAny, peek, on, Entry.section]
  rw [run_bind_of_run here, if_neg (by simp)]
  cases fuel with
  | zero => rfl
  | succ fuel =>
    rw [Entry.section, run_bind_of_run (s.node_scalar _ _ _ _ _ _), StateT.run_bind,
      s.flowValue_block (by simp)]
    rfl

theorem flowEntry_section (e : Entry) (fuel : Nat) (later : List Token) : (do
      let name ← nodeBefore [.value, .flowEntry, .flowMappingEnd] false false fuel
      let content ← flowValue [.flowEntry, .flowMappingEnd] fuel
      return (name, content) :: (← flowEntries false fuel) : Composer (List (Node × Node))).run
        (s.on (e.section later)) = none := by
  rw [Option.eq_none_iff_forall_ne_some]
  intro result ran
  obtain ⟨name, t, named, ran⟩ := exists_of_run_bind ran
  cases s.nodeBefore_scalar _ _ (by simp) _ named
  rw [StateT.run_bind, s.flowValue_block (by simp)] at ran
  cases ran

end

end Composing

end BearerAuth.Yaml
