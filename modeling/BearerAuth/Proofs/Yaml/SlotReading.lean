import BearerAuth.Proofs.Yaml.Slot
import BearerAuth.Yaml.Typed

/-! # Reading documents with a slot

What is read from a document depends on the text in the slot at most where some text is asked for: no number, name or
record can stand there. So if a document can be read with some text in the slot that names nothing, it can be read with
every text in it, and each text that it gives is the one in the slot or always the same.
-/

namespace BearerAuth.Yaml

variable {α β : Type}

/-- If something can be read with this text in the slot, it can be read with every text in it. -/
def Told (base : String) (read : String → Option α) (holds : (String → α) → Prop) : Prop :=
  ∀ found, read base = some found → ∃ values, (∀ text, read text = some (values text)) ∧ holds values

namespace Told

variable {base : String} {read : String → Option α} {holds : (String → α) → Prop}

theorem pure {values : String → α} (told : holds values) :
    Told base (fun text => some (values text)) holds :=
  fun _ _ => ⟨values, fun _ => rfl, told⟩

theorem none (unread : read base = Option.none) : Told base read holds := by
  intro found read
  rw [unread] at read
  cases read

theorem mono {weaker : (String → α) → Prop} (told : Told base read holds)
    (implies : ∀ values, holds values → weaker values) : Told base read weaker := by
  intro found ran
  obtain ⟨values, reads, holds⟩ := told found ran
  exact ⟨values, reads, implies values holds⟩

theorem bind {middle : (String → β) → Prop} {first : String → Option β}
    {second : String → β → Option α} (begins : Told base first middle)
    (goesOn : ∀ values, middle values → Told base (fun text => second text (values text)) holds) :
    Told base (fun text => first text >>= second text) holds := by
  intro found ran
  obtain ⟨between, begun, ran⟩ := Option.bind_eq_some_iff.mp ran
  obtain ⟨values, reads, between⟩ := begins _ begun
  obtain rfl := Option.some.inj (begun.symm.trans (reads base))
  obtain ⟨values', reads', told⟩ := goesOn values between found ran
  exact ⟨values', fun text => Option.bind_eq_some_iff.mpr ⟨_, reads text, reads' text⟩, told⟩

end Told

/-- The same for every text in the slot. -/
def Constant (values : String → α) : Prop := ∃ value, values = fun _ => value

/-- The text in the slot, or the same for every text in it. -/
def Given (values : String → String) : Prop := Constant values ∨ values = id

variable {first second : String}

/-- Text that is the one in the slot for two texts is always that. -/
theorem Given.eq_id {values : String → String} (given : Given values) (other : first ≠ second)
    (at_first : values first = first) (at_second : values second = second) : values = id := by
  obtain ⟨value, rfl⟩ | rfl := given
  · exact absurd (at_first.symm.trans at_second) other
  · rfl

/-- Text that is the same for two texts is always the same. -/
theorem Given.eq_const {values : String → String} (given : Given values) {value : String} (other : first ≠ second)
    (at_first : values first = value) (at_second : values second = value) : values = fun _ => value := by
  obtain ⟨same, rfl⟩ | rfl := given
  · rw [← at_first]
  · exact absurd (at_first.trans at_second.symm) other

theorem told_constant {base : String} (value : Option α) : Told base (fun _ => value) Constant :=
  fun found read => ⟨fun _ => found, fun _ => read, found, rfl⟩

/-! ## Nodes -/

/-- A node that may be the slot. -/
def Holds (node : String → Node) : Prop := node ≠ slot → Varies node

/-- Entries whose values may be the slot. -/
def Listed (known : List (String × (String → Node))) : Prop := ∀ entry ∈ known, Holds entry.2

variable {base : String} (draft : Draft) {node : String → Node}

theorem told_resolve_of_varies (varies : Varies node) :
    Told base (fun text => (draft.filled text).resolve (node text)) Varies := by
  cases varies with
  | same node =>
    cases node with
    | «alias» id =>
      intro found read
      obtain ⟨values, anchored, rfl⟩ := Option.map_eq_some_iff.mp read
      refine ⟨values, fun text => ?_, draft.anchored_varies id values anchored⟩
      simp [Document.resolve, Draft.filled, anchored]
    | scalar tag style text => exact .pure (.same _)
    | sequence tag items => exact .pure (.same _)
    | mapping tag entries => exact .pure (.same _)
  | sequence tag items => exact .pure (.sequence tag items)
  | mapping tag entries keys values => exact .pure (.mapping tag entries keys values)

theorem told_resolve (holds : Holds node) :
    Told base (fun text => (draft.filled text).resolve (node text)) Holds := by
  by_cases slotted : node = slot
  · subst slotted
    exact .pure fun other => absurd rfl other
  · exact (told_resolve_of_varies draft (holds slotted)).mono fun _ varies _ => varies

/-- A scalar that is not the slot has the same text for every text in the slot. -/
theorem told_text_of_varies (varies : Varies node) :
    Told base (fun text => (draft.filled text).text? (node text)) Constant := by
  refine .bind (told_resolve_of_varies draft varies) ?_
  intro values varies
  cases varies with
  | same node => exact told_constant _
  | sequence tag items => exact .none rfl
  | mapping tag entries keys values => exact .none rfl

theorem told_text (holds : Holds node) :
    Told base (fun text => (draft.filled text).text? (node text)) Given := by
  by_cases slotted : node = slot
  · subst slotted
    exact .pure (.inr rfl)
  · exact (told_text_of_varies draft (holds slotted)).mono fun _ => .inl

/-- What only some scalars say, and the slot does not, is the same for every text in the slot. -/
theorem told_scalar {rest : Node → Option α} (slotted : rest (slot base) = none)
    (sequence : ∀ tag items, rest (.sequence tag items) = none)
    (mapping : ∀ tag entries, rest (.mapping tag entries) = none) (holds : Holds node) :
    Told base (fun text => (draft.filled text).resolve (node text) >>= rest) Constant := by
  refine .bind (told_resolve draft holds) ?_
  intro values holds
  by_cases same : values = slot
  · subst same
    exact .none slotted
  · cases holds same with
    | same node => exact told_constant _
    | sequence tag items => exact .none (sequence tag _)
    | mapping tag entries keys values => exact .none (mapping tag _)

theorem told_numeral (name : String) (holds : Holds node) :
    Told base (fun text => (draft.filled text).numeral? name (node text)) Constant :=
  told_scalar draft rfl (fun _ _ => rfl) (fun _ _ => rfl) holds

theorem told_nat (holds : Holds node) :
    Told base (fun text => (draft.filled text).nat? (node text)) Constant := by
  refine .bind (told_numeral draft "int" holds) ?_
  rintro _ ⟨digits, rfl⟩
  exact told_constant _

theorem told_float (holds : Holds node) :
    Told base (fun text => (draft.filled text).float? (node text)) Constant := by
  refine .bind (told_numeral draft "float" holds) ?_
  rintro _ ⟨digits, rfl⟩
  exact told_constant _

theorem told_named {value? : String → Option α} (unnamed : value? base = none) (holds : Holds node) :
    Told base (fun text => (draft.filled text).named? value? (node text)) Constant :=
  told_scalar draft unnamed (fun _ _ => rfl) (fun _ _ => rfl) holds

/-- A value that may be missing is missing for all texts or for none. -/
theorem told_optional {read : String → Node → Option α} {told : (String → α) → Prop}
    (value : Told base (fun text => read text (node text)) told) (holds : Holds node) :
    Told base (fun text => (draft.filled text).optional? (read text) (node text)) fun values =>
      (values = fun _ => none) ∨ ∃ present, told present ∧ values = fun text => some (present text) := by
  unfold Document.optional?
  refine .bind (told_resolve draft holds) ?_
  intro resolved holds
  have rest (isNothing : Bool) : Told base (fun text =>
      if isNothing then some none else do return some (← read text (node text))) fun values =>
        (values = fun _ => none) ∨
          ∃ present, told present ∧ values = fun text => some (present text) := by
    cases isNothing with
    | true => exact .pure (.inl rfl)
    | false => exact .bind value fun present told => .pure (.inr ⟨present, told, rfl⟩)
  by_cases same : resolved = slot
  · subst same
    exact rest false
  · cases holds same with
    | same node =>
      dsimp only
      split
      · split
        · refine .bind (told_constant _) ?_
          rintro _ ⟨isNothing, rfl⟩
          exact rest isNothing
        · exact rest _
      · exact rest false
    | sequence tag items => exact rest false
    | mapping tag entries keys values => exact rest false

/-! ## Records -/

theorem told_entries (holds : Holds node) :
    Told base (fun text => (draft.filled text).entries? (node text)) fun values =>
      ∃ entries : List ((String → Node) × (String → Node)),
        (∀ entry ∈ entries, Varies entry.1 ∧ Holds entry.2) ∧
          values = fun text => entries.map fun entry => (entry.1 text, entry.2 text) := by
  refine .bind (told_resolve draft holds) ?_
  intro values holds
  by_cases same : values = slot
  · subst same
    exact .none rfl
  · cases holds same with
    | same node =>
      intro found read
      refine ⟨fun _ => found, fun _ => read,
        found.map fun entry => (fun _ => entry.1, fun _ => entry.2), ?_, ?_⟩
      · simp only [List.mem_map]
        rintro _ ⟨entry, -, rfl⟩
        exact ⟨.same _, fun _ => .same _⟩
      · simp [Function.comp_def]
    | sequence tag items => exact .none rfl
    | mapping tag entries keys values =>
      exact .pure ⟨entries, fun entry member => ⟨keys entry member, values entry member⟩, rfl⟩

theorem told_fields (names : List String) (holds : Holds node) :
    Told base (fun text => (draft.filled text).fields? names (node text)) fun values =>
      ∃ known, Listed known ∧ values = fun text => known.map fun entry => (entry.1, entry.2 text) := by
  refine .bind (told_entries draft holds) ?_
  rintro _ ⟨entries, listed, rfl⟩
  refine .bind (?_ : Told base _ fun values => ∃ known, Listed known ∧
    values = fun text => known.map fun entry => (entry.1, entry.2 text)) ?_
  · induction entries with
    | nil => exact .pure ⟨[], by simp [Listed], rfl⟩
    | cons entry entries ih =>
      obtain ⟨⟨key, value⟩, rest⟩ := List.forall_mem_cons.mp listed
      simp only [List.map_cons, List.mapM_cons, bind_assoc, pure_bind]
      refine .bind (told_text_of_varies draft key) ?_
      rintro _ ⟨name, rfl⟩
      refine .bind (ih rest) ?_
      rintro _ ⟨known, listed, rfl⟩
      exact .pure ⟨(name, entry.2) :: known, List.forall_mem_cons.mpr ⟨value, listed⟩, rfl⟩
  · rintro _ ⟨known, listed, rfl⟩
    simp only [List.filter_map, Function.comp_def, List.map_map, List.length_map]
    split
    · exact .pure ⟨known.filter (names.contains ·.1),
        fun entry member => listed entry (List.mem_filter.mp member).1, rfl⟩
    · exact .none rfl

theorem told_field {known : List (String × (String → Node))} (listed : Listed known) (name : String)
    (absent : α) {read : String → Node → Option α} {told : (String → α) → Prop}
    (missing : told fun _ => absent)
    (present : ∀ node, Holds node → Told base (fun text => read text (node text)) told) :
    Told base (fun text => field (known.map fun entry => (entry.1, entry.2 text)) name absent (read text))
      told := by
  simp only [field, lookup_filled]
  cases found : known.lookup name with
  | none => exact .pure missing
  | some node =>
    obtain ⟨earlier, later, parts, -⟩ := List.lookup_eq_some_iff.mp found
    exact present node (listed (name, node) (by simp [parts]))

end BearerAuth.Yaml
