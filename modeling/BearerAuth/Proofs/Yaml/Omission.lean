import BearerAuth.Proofs.Yaml.Agreement
import BearerAuth.Yaml.Typed

/-! # Reading documents without an entry

An entry that is left out of a document is missed only by who asks for its key, or finds nothing where its block would
be. Whatever else can be read from both documents is the same.
-/

namespace BearerAuth.Yaml

variable {α β : Type}

/-- Where there is something on both sides, it is so related. -/
def Consistent (related : α → β → Prop) (x : Option α) (y : Option β) : Prop := ∀ a ∈ x, ∀ b ∈ y, related a b

namespace Consistent

variable {γ δ : Type} {related : α → β → Prop}

theorem pure {a : α} {b : β} (holds : related a b) : Consistent related (some a) (some b) := by
  rintro _ ⟨⟩ _ ⟨⟩
  exact holds

theorem none_left {y : Option β} : Consistent related none y := by
  rintro _ ⟨⟩

theorem refl (x : Option α) : Consistent (· = ·) x x := by
  intro a there b there'
  exact Option.some.inj (there.symm.trans there')

theorem bind {middle : γ → δ → Prop} {x : Option γ} {y : Option δ} {f : γ → Option α} {g : δ → Option β}
    (first : Consistent middle x y) (second : ∀ c d, middle c d → Consistent related (f c) (g d)) :
    Consistent related (x >>= f) (y >>= g) := by
  intro a there b there'
  obtain ⟨c, found, there⟩ := Option.bind_eq_some_iff.mp there
  obtain ⟨d, found', there'⟩ := Option.bind_eq_some_iff.mp there'
  exact second c d (first c found d found') a there b there'

theorem of_rel {x : Option α} {y : Option β} (rel : Option.Rel related x y) : Consistent related x y := by
  cases rel with
  | some holds => exact .pure holds
  | none => exact .none_left

end Consistent

/-! ## Lists of entries -/

namespace Without

variable {κ : Type} {key parent : κ} {e : Entry} {sameKey : κ → κ → Prop} {sameValue : Node → Node → Prop}

theorem refl (keys : ∀ name, sameKey name name) (values : ∀ node, sameValue node node) (entries : List (κ × Node)) :
    Without key parent e sameKey sameValue entries entries := by
  induction entries with
  | nil => exact .nil
  | cons entry entries ih => exact .keep (keys _) (values _) ih

variable {entries entries' : List (κ × Node)}

/-- The same keys may be left out of both. -/
theorem filter (without : Without key parent e (· = ·) sameValue entries entries') (p : κ → Bool) :
    Without key parent e (· = ·) sameValue (entries.filter (p ·.1)) (entries'.filter (p ·.1)) := by
  induction without with
  | nil => exact .nil
  | @keep entry entry' rest rest' same value without ih =>
    rw [List.filter_cons, List.filter_cons, ← same]
    split
    · exact .keep same value ih
    · exact ih
  | leave without ih =>
    rw [List.filter_cons]
    split
    · exact .leave ih
    · exact ih
  | alone without ih =>
    rw [List.filter_cons, List.filter_cons]
    split
    · exact .alone ih
    · exact ih

/-- What is there under another key is there on both sides, but for the block that the entry was alone in. -/
theorem lookup [BEq κ] [LawfulBEq κ] (without : Without key parent e (· = ·) sameValue entries entries') {name : κ}
    (other : name ≠ key) :
    Option.Rel (fun node node' => sameValue node node' ∨ name = parent ∧ node = e.whole ∧ node' = .absent)
      (entries.lookup name) (entries'.lookup name) := by
  induction without with
  | nil => exact .none
  | @keep entry entry' rest rest' same value without ih =>
    obtain ⟨key, node⟩ := entry
    obtain ⟨key', node'⟩ := entry'
    obtain rfl : key = key' := same
    cases here : name == key with
    | true =>
      simp only [List.lookup_cons, here]
      exact .some (.inl value)
    | false => simpa only [List.lookup_cons, here] using ih
  | leave without ih => simpa only [List.lookup_cons, beq_false_of_ne other] using ih
  | alone without ih =>
    cases here : name == parent with
    | true =>
      simp only [List.lookup_cons, here]
      exact .some (.inr ⟨eq_of_beq here, rfl, rfl⟩)
    | false => simpa only [List.lookup_cons, here] using ih

end Without

/-- Fields by name, and the same without the entry. -/
abbrev FieldsLack (e : Entry) : List (String × Node) → List (String × Node) → Prop :=
  Without (String.ofList e.key) (String.ofList e.parent) e (· = ·) (Lacks e)

/-- As mappings, the one node is the other without the entry. -/
def EntriesLack (e : Entry) (d d' : Document) (node node' : Node) : Prop :=
  Consistent (LacksAmong e) (d.entries? node) (d'.entries? node')

/-- Where the entry was alone in a mapping, nothing has no entry either. -/
theorem entriesLack_whole (e : Entry) (d d' : Document) : EntriesLack e d d' e.whole .absent :=
  .pure (.leave .nil)

/-! ## Nodes -/

/-- The name and the value of an entry. -/
def Document.entry? (d : Document) (entry : Node × Node) : Option (String × Node) := do
  return (← d.text? entry.1, entry.2)

theorem Document.fields?_eq (d : Document) (names : List String) (node : Node) : d.fields? names node = (do
    let entries ← (← d.entries? node).mapM d.entry?
    let known := entries.filter (names.contains ·.1)
    if (known.map (·.1)).eraseDups.length = known.length then some known else none) := rfl

/-- A key that is a word has that name. -/
theorem Document.mapM_entry?_word (d : Document) (name : List Char) (node : Node) (rest : List (Node × Node)) :
    ((Node.word name, node) :: rest).mapM d.entry? = rest.mapM d.entry? >>= fun known =>
      some ((String.ofList name, node) :: known) := by
  rw [List.mapM_cons]
  rfl

namespace Document.Lacks

variable {e : Entry} {d d' : Document} (lacks : d.Lacks e d') {node node' : Node}

include lacks

theorem resolve (same : Yaml.Lacks e node node') : Option.Rel (Yaml.Lacks e) (d.resolve node) (d'.resolve node') := by
  cases same with
  | same node =>
    cases node with
    | «alias» id => exact lacks.anchored id
    | scalar tag style text => exact .some (.same _)
    | sequence tag items => exact .some (.same _)
    | mapping tag entries => exact .some (.same _)
  | sequence tag items items' => exact .some (.sequence tag items items')
  | mapping tag without => exact .some (.mapping tag without)

/-- What only scalars say is the same. -/
theorem scalar {rest : Node → Option α} (sequence : ∀ tag items, rest (.sequence tag items) = none)
    (mapping : ∀ tag entries, rest (.mapping tag entries) = none) (same : Yaml.Lacks e node node') :
    Consistent (· = ·) (d.resolve node >>= rest) (d'.resolve node' >>= rest) := by
  refine .bind (.of_rel (lacks.resolve same)) ?_
  intro node node' same
  cases same with
  | same node => exact .refl _
  | sequence tag items items' =>
    rw [sequence]
    exact .none_left
  | mapping tag without =>
    rw [mapping]
    exact .none_left

theorem text (same : Yaml.Lacks e node node') : Consistent (· = ·) (d.text? node) (d'.text? node') :=
  lacks.scalar (fun _ _ => rfl) (fun _ _ => rfl) same

theorem numeral (name : String) (same : Yaml.Lacks e node node') :
    Consistent (· = ·) (d.numeral? name node) (d'.numeral? name node') :=
  lacks.scalar (fun _ _ => rfl) (fun _ _ => rfl) same

theorem nat (same : Yaml.Lacks e node node') : Consistent (· = ·) (d.nat? node) (d'.nat? node') := by
  refine .bind (lacks.numeral "int" same) ?_
  rintro digits _ rfl
  exact .refl _

theorem float (same : Yaml.Lacks e node node') : Consistent (· = ·) (d.float? node) (d'.float? node') := by
  refine .bind (lacks.numeral "float" same) ?_
  rintro digits _ rfl
  exact .refl _

theorem named (value? : String → Option α) (same : Yaml.Lacks e node node') :
    Consistent (· = ·) (d.named? value? node) (d'.named? value? node') :=
  lacks.scalar (fun _ _ => rfl) (fun _ _ => rfl) same

/-- A value that may be missing is missing on both sides or on none. -/
theorem optional {related : α → β → Prop} {read : Node → Option α} {read' : Node → Option β}
    (value : Consistent related (read node) (read' node')) (same : Yaml.Lacks e node node') :
    Consistent (Option.Rel related) (d.optional? read node) (d'.optional? read' node') := by
  unfold Document.optional?
  refine .bind (.of_rel (lacks.resolve same)) ?_
  intro resolved resolved' same
  have rest (isNothing : Bool) : Consistent (Option.Rel related)
      (if isNothing then some none else do return some (← read node))
      (if isNothing then some none else do return some (← read' node')) := by
    cases isNothing with
    | true => exact .pure .none
    | false => exact .bind value fun a b holds => .pure (.some holds)
  cases same with
  | same resolved =>
    dsimp only
    split
    · split
      · refine .bind (.refl _) ?_
        rintro isNothing _ rfl
        exact rest isNothing
      · exact rest _
    · exact rest false
  | sequence tag items items' => exact rest false
  | mapping tag without => exact rest false

/-- As a mapping, the one node is the other without the entry. -/
theorem entries (same : Yaml.Lacks e node node') : EntriesLack e d d' node node' := by
  refine .bind (.of_rel (lacks.resolve same)) ?_
  intro node node' same
  cases same with
  | same node =>
    intro found read found' read'
    obtain rfl := Option.some.inj (read.symm.trans read')
    exact .refl .same .same found
  | sequence tag items items' => exact .none_left
  | mapping tag without => exact .pure without

/-- The fields are the same but for the entry. -/
theorem fields (names : List String) (lack : EntriesLack e d d' node node') :
    Consistent (FieldsLack e) (d.fields? names node) (d'.fields? names node') := by
  rw [fields?_eq, fields?_eq]
  refine .bind lack fun entries entries' without =>
    .bind (?_ : Consistent (FieldsLack e) _ _) fun known known' without => ?_
  · induction without with
    | nil => exact .pure .nil
    | @keep entry entry' rest rest' key value without ih =>
      obtain ⟨key, node⟩ := entry
      obtain ⟨key', node'⟩ := entry'
      simp only [List.mapM_cons, entry?, bind_assoc, pure_bind]
      refine .bind (lacks.text key) ?_
      rintro name _ rfl
      exact .bind ih fun known known' without => .pure (.keep rfl value without)
    | @leave rest rest' without ih =>
      rw [mapM_entry?_word]
      intro found there found' there'
      obtain ⟨known, reads, same⟩ := Option.bind_eq_some_iff.mp there
      cases same
      exact .leave (ih known reads found' there')
    | @alone rest rest' without ih =>
      rw [mapM_entry?_word, mapM_entry?_word]
      exact .bind ih fun known known' without => .pure (Without.alone without)
  · dsimp only
    split
    · split
      · exact .pure (without.filter names.contains)
      · exact fun _ _ _ none => by cases none
    · exact .none_left

end Document.Lacks

/-- A field of another name is read alike, if it is so where nothing is left of the block of the entry. -/
theorem Without.field {related : α → β → Prop} {known known' : List (String × Node)} {name : String} {absent : α}
    {absent' : β} {read : Node → Option α} {read' : Node → Option β} (without : FieldsLack e known known')
    (other : name ≠ String.ofList e.key) (missing : related absent absent')
    (values : ∀ node node', Lacks e node node' → Consistent related (read node) (read' node'))
    (alone : name = String.ofList e.parent → Consistent related (read e.whole) (read' .absent)) :
    Consistent related (Yaml.field known name absent read) (Yaml.field known' name absent' read') := by
  have there := without.lookup other
  unfold Yaml.field
  cases found : known.lookup name <;> cases found' : known'.lookup name <;> rw [found, found'] at there <;> cases there
  case none.none => exact .pure missing
  case some.some node node' holds =>
    obtain same | ⟨here, rfl, rfl⟩ := holds
    · exact values node node' same
    · exact alone here

end BearerAuth.Yaml
