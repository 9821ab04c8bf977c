import BearerAuth.Proofs.Yaml.Removal
import Mathlib.Data.List.Forall2

/-! # Documents without an entry

Where the tokens of an entry are left out from between the others, the document is put together as before, but for
that entry: it is missing from its mapping, or nothing is left of the mapping.
-/

namespace BearerAuth.Yaml.Composing

variable {e : Entry}

/-- What is known while both are put together. -/
structure Shared (e : Entry) where
  handles : List TagHandle
  names : List (List Char × Nat)
  begun : List (Nat × Nat)
  finished : List (Nat × Node)
  finished' : List (Nat × Node)
  lacks : List.Forall₂ (fun entry entry' => entry.1 = entry'.1 ∧ Lacks e entry.2 entry'.2) finished finished'

def Shared.full (known : Shared e) (tokens : List Token) : Composing :=
  ⟨tokens, known.handles, known.names, known.begun, known.finished⟩

def Shared.less (known : Shared e) (tokens : List Token) : Composing :=
  ⟨tokens, known.handles, known.names, known.begun, known.finished'⟩

variable {α β : Type}

/-- Where both programs succeed, on the tokens with and without the entry, their results are so related, and the
tokens that are left are the same but for the entry. -/
def Agree (program program' : Composer α) (known : Shared e) (full less : List Token) (related : α → α → Prop) :
    Prop :=
  ∀ result result', program.run (known.full full) = some result →
    program'.run (known.less less) = some result' →
      related result.1 result'.1 ∧ ∃ (known : Shared e) (full less : List Token),
        result.2 = known.full full ∧ result'.2 = known.less less ∧ Cut e full less

namespace Agree

variable {known : Shared e} {full less : List Token} {related : α → α → Prop}

theorem pure {value value' : α} (holds : related value value') (cut : Cut e full less) :
    Agree (Pure.pure value) (Pure.pure value') known full less related := by
  rintro _ _ ⟨⟩ ⟨⟩
  exact ⟨holds, known, full, less, rfl, rfl, cut⟩

theorem of_none {program program' : Composer α} (fails : program.run (known.full full) = none) :
    Agree program program' known full less related := by
  intro result result' ran
  rw [fails] at ran
  cases ran

theorem of_none' {program program' : Composer α} (fails : program'.run (known.less less) = none) :
    Agree program program' known full less related := by
  intro result result' _ ran
  rw [fails] at ran
  cases ran

theorem failure {program' : Composer α} :
    Agree (Alternative.failure : Composer α) program' known full less related :=
  of_none rfl

theorem failure_bind {rest : β → Composer α} {program' : Composer α} :
    Agree ((Alternative.failure : Composer β) >>= rest) program' known full less related :=
  of_none rfl

theorem bind {middle : β → β → Prop} {first first' : Composer β} {second second' : β → Composer α}
    (begins : Agree first first' known full less middle)
    (goesOn : ∀ value value' (known : Shared e) full less, middle value value' → Cut e full less →
      Agree (second value) (second' value') known full less related) :
    Agree (first >>= second) (first' >>= second') known full less related := by
  intro result result' ran ran'
  obtain ⟨⟨value, s⟩, begun, ran⟩ := Option.bind_eq_some_iff.mp ran
  obtain ⟨⟨value', s'⟩, begun', ran'⟩ := Option.bind_eq_some_iff.mp ran'
  obtain ⟨holds, known, full, less, same, same', cut⟩ := begins _ _ begun begun'
  simp only at same same' holds
  subst same same'
  exact goesOn value value' known full less holds cut result result' ran ran'

/-- Steps whose outcome is known may be taken beforehand. -/
theorem of_run {program program' rest rest' : Composer α} {known' : Shared e} {full' less' : List Token}
    (runs : program.run (known.full full) = rest.run (known'.full full'))
    (runs' : program'.run (known.less less) = rest'.run (known'.less less'))
    (agree : Agree rest rest' known' full' less' related) : Agree program program' known full less related := by
  intro result result' ran ran'
  rw [runs] at ran
  rw [runs'] at ran'
  exact agree result result' ran ran'

theorem peek {rest rest' : Option Token → Composer α}
    (agree : Agree (rest full.head?) (rest' less.head?) known full less related) :
    Agree (Composing.peek >>= rest) (Composing.peek >>= rest') known full less related :=
  of_run rfl rfl agree

theorem drop_cons {token token' : Token} {rest rest' : Unit → Composer α}
    (agree : Agree (rest ()) (rest' ()) known full less related) :
    Agree (Composing.drop >>= rest) (Composing.drop >>= rest') known (token :: full) (token' :: less) related :=
  of_run rfl rfl agree

theorem get {rest rest' : Composing → Composer α}
    (agree : Agree (rest (known.full full)) (rest' (known.less less)) known full less related) :
    Agree (MonadState.get >>= rest) (MonadState.get >>= rest') known full less related :=
  of_run rfl rfl agree

/-- A token that is next in neither is not taken. -/
theorem accept_neither {token : Token} {rest rest' : Bool → Composer α} (other : full.head? ≠ some token)
    (other' : less.head? ≠ some token) (agree : Agree (rest false) (rest' false) known full less related) :
    Agree (Composing.accept token >>= rest) (Composing.accept token >>= rest') known full less related := by
  refine of_run ?_ ?_ agree
  · simp [Composing.accept, Composing.peek, Shared.full, other]
  · simp [Composing.accept, Composing.peek, Shared.less, other']

theorem accept_both {token : Token} {rest rest' : Bool → Composer α}
    (agree : Agree (rest true) (rest' true) known full less related) :
    Agree (Composing.accept token >>= rest) (Composing.accept token >>= rest') known (token :: full)
      (token :: less) related := by
  refine of_run ?_ ?_ agree
  · simp [Composing.accept, Composing.peek, Composing.drop, Shared.full]
  · simp [Composing.accept, Composing.peek, Composing.drop, Shared.less]

/-- A token that is no key and no end of a block is taken in both or in neither. -/
theorem accept {token : Token} {rest rest' : Bool → Composer α} (cut : Cut e full less)
    (noKey : token ≠ .key) (noEnd : token ≠ .blockEnd)
    (yes : ∀ full less, Beyond e token full less → Agree (rest true) (rest' true) known full less related)
    (no : Agree (rest false) (rest' false) known full less related) :
    Agree (Composing.accept token >>= rest) (Composing.accept token >>= rest') known full less related := by
  obtain ⟨rfl, rfl⟩ | ⟨next, full, less, rfl, rfl, beyond⟩ | ⟨rfl, next⟩ := cut.cases
  · exact accept_neither (by simp) (by simp) no
  · by_cases same : next = token
    · subst same
      exact accept_both (yes full less beyond)
    · exact accept_neither (by simpa using same) (by simpa using same) no
  · refine accept_neither (by simpa [Entry.tokens] using noKey.symm) ?_ no
    obtain next | next := next <;> rw [next]
    · simpa using noKey.symm
    · simpa using noEnd.symm

/-- In front of the entry no block ends. -/
theorem accept_blockEnd {program program' : Composer α} (cut : Cut e full less)
    (ends : ∀ full less, Cut e full less → Agree program program' known full less related) :
    Agree (do if ← Composing.accept .blockEnd then program else Alternative.failure)
      (do if ← Composing.accept .blockEnd then program' else Alternative.failure) known full less related := by
  obtain ⟨rfl, rfl⟩ | ⟨next, full, less, rfl, rfl, beyond⟩ | ⟨rfl, next⟩ := cut.cases
  · exact accept_neither (by simp) (by simp) .failure
  · by_cases same : next = .blockEnd
    · subst same
      exact accept_both (ends full less (beyond.cut (by simp)))
    · exact accept_neither (by simpa using same) (by simpa using same) .failure
  · exact of_none rfl

theorem atAny_cons {among : List Token} {next : Token} {rest rest' : Bool → Composer α}
    (agree : Agree (rest (among.contains next)) (rest' (among.contains next)) known (next :: full)
      (next :: less) related) :
    Agree (Composing.atAny among >>= rest) (Composing.atAny among >>= rest') known (next :: full)
      (next :: less) related :=
  of_run rfl rfl agree

/-- One of several tokens is next in both or in neither, unless it is one that the entry has in front. -/
theorem atAny {among : List Token} {rest rest' : Bool → Composer α} (cut : Cut e full less)
    (closed : .key ∈ among → .blockEnd ∈ among)
    (fails : ∀ later, (rest false).run (known.full (e.tokens ++ later)) = none)
    (agree : ∀ found, Agree (rest found) (rest' found) known full less related) :
    Agree (Composing.atAny among >>= rest) (Composing.atAny among >>= rest') known full less related := by
  obtain ⟨rfl, rfl⟩ | ⟨next, full, less, rfl, rfl, beyond⟩ | ⟨rfl, next⟩ := cut.cases
  · exact of_run rfl rfl (agree (Option.any among.contains none))
  · exact atAny_cons (agree (among.contains next))
  · by_cases ends : .key ∈ among
    · refine of_run ?_ ?_ (agree true)
      · simp [Composing.atAny, Composing.peek, Shared.full, Entry.tokens_append, ends]
      · obtain next | next := next <;>
          simp [Composing.atAny, Composing.peek, Shared.less, next, ends, closed ends]
    · refine of_none ?_
      have other : (Composing.atAny among).run (known.full (e.tokens ++ less)) =
          some (false, known.full (e.tokens ++ less)) := by
        simp [Composing.atAny, Composing.peek, Shared.full, Entry.tokens_append, ends]
      rw [StateT.run_bind, other]
      exact fails less

end Agree

/-! ## Programs in front of the entry -/

variable {known : Shared e} {full less later : List Token} {related : α → α → Prop}

theorem agree_anchor (cut : Cut e full less) : Agree anchor? anchor? known full less (· = ·) := by
  unfold anchor?
  refine .peek ?_
  obtain ⟨rfl, rfl⟩ | ⟨token, full, less, rfl, rfl, beyond⟩ | ⟨rfl, next⟩ := cut.cases
  · exact .pure rfl cut
  · cases token with
    | anchor name => exact .drop_cons (.pure rfl (beyond.cut (by simp)))
    | _ => exact .pure rfl cut
  · obtain next | next := next <;> rw [next] <;> exact .pure rfl cut

theorem agree_tag (cut : Cut e full less) : Agree tag? tag? known full less (· = ·) := by
  unfold tag?
  refine .peek ?_
  obtain ⟨rfl, rfl⟩ | ⟨token, full, less, rfl, rfl, beyond⟩ | ⟨rfl, next⟩ := cut.cases
  · exact .pure rfl cut
  · cases token with
    | tag name => exact .drop_cons (.pure rfl (beyond.cut (by simp)))
    | _ => exact .pure rfl cut
  · obtain next | next := next <;> rw [next] <;> exact .pure rfl cut

theorem agree_fullTag (cut : Cut e full less) (name : TagName) :
    Agree (fullTag name) (fullTag name) known full less (· = ·) := by
  unfold fullTag
  split
  · exact .pure rfl cut
  · refine .get ?_
    simp only [Shared.full, Shared.less]
    cases known.handles.find? (·.handle = name.handle) with
    | none => exact .failure
    | some handle => exact .pure rfl cut

theorem agree_properties (cut : Cut e full less) :
    Agree properties properties known full less (· = ·) := by
  have full_tag (anchor : Option (List Char)) (name : Option TagName) {known : Shared e}
      {full less : List Token} (cut : Cut e full less) :
      Agree (do return (anchor, ← name.mapM fullTag)) (do return (anchor, ← name.mapM fullTag)) known
        full less (· = ·) := by
    cases name with
    | none => exact .pure rfl cut
    | some name =>
      simp only [Option.mapM_some, map_eq_pure_bind, bind_assoc, pure_bind]
      refine .bind (agree_fullTag cut name) ?_
      rintro tag _ known full less rfl cut
      exact .pure rfl cut
  unfold properties
  refine .bind (agree_anchor cut) ?_
  rintro first _ known full less rfl cut
  refine .bind (agree_tag cut) ?_
  rintro name _ known full less rfl cut
  dsimp only
  split
  · refine .bind (agree_anchor cut) ?_
    rintro anchor _ known full less rfl cut
    exact full_tag anchor _ cut
  · exact full_tag first name cut

theorem agree_anchoring (anchor : Option (List Char)) {build build' : Composer Node}
    (built : ∀ known : Shared e, Agree build build' known full less (Lacks e)) :
    Agree (anchoring anchor build) (anchoring anchor build') known full less (Lacks e) := by
  cases anchor with
  | none => exact built known
  | some name =>
    let begun : Shared e := { known with
      names := (name, known.names.length) :: known.names.filter (·.1 ≠ name)
      begun := (known.names.length, known.begun.length) :: known.begun }
    suffices agree : Agree (do
        let node ← build
        modify fun s => { s with finished := (known.begun.length, node) :: s.finished }
        return node) (do
        let node ← build'
        modify fun s => { s with finished := (known.begun.length, node) :: s.finished }
        return node) begun full less (Lacks e) from .of_run rfl rfl agree
    refine .bind (built begun) ?_
    rintro node node' known' full less lacks cut
    let finished : Shared e := { known' with
      finished := (known.begun.length, node) :: known'.finished
      finished' := (known.begun.length, node') :: known'.finished'
      lacks := .cons ⟨rfl, lacks⟩ known'.lacks }
    have agree : Agree (Pure.pure node) (Pure.pure node') finished full less (Lacks e) := .pure lacks cut
    exact .of_run rfl rfl agree

/-! ## All programs -/

/-- What every part of the composer does on tokens with and without the entry. -/
structure Agreeing (e : Entry) (fuel : Nat) : Prop where
  node : ∀ fuel' inBlock unindented (known : Shared e) full less, Cut e full less →
    Agree (node inBlock unindented fuel) (node inBlock unindented fuel') known full less (Lacks e)
  nodeBefore : ∀ fuel' ends inBlock unindented (known : Shared e) full less,
    (.key ∈ ends → .blockEnd ∈ ends) → Cut e full less →
    Agree (nodeBefore ends inBlock unindented fuel) (nodeBefore ends inBlock unindented fuel') known full less
      (Lacks e)
  blockItems : ∀ fuel' (known : Shared e) full less, Cut e full less →
    Agree (blockItems fuel) (blockItems fuel') known full less fun _ _ => True
  unindentedItems : ∀ fuel' (known : Shared e) full less, Cut e full less →
    Agree (unindentedItems fuel) (unindentedItems fuel') known full less fun _ _ => True
  blockEntries : ∀ fuel' (known : Shared e) full less, Cut e full less →
    Agree (blockEntries fuel) (blockEntries fuel') known full less (LacksAmong e)
  flowValue : ∀ fuel' ends (known : Shared e) full less, .key ∉ ends → Cut e full less →
    Agree (flowValue ends fuel) (flowValue ends fuel') known full less (Lacks e)
  flowItems : ∀ fuel' first (known : Shared e) full less, Cut e full less →
    Agree (flowItems first fuel) (flowItems first fuel') known full less fun _ _ => True
  flowEntries : ∀ fuel' first (known : Shared e) full less, Cut e full less →
    Agree (flowEntries first fuel) (flowEntries first fuel') known full less
      (LacksAmong e)

theorem agreeing_zero : Agreeing e 0 := by
  constructor <;> intros <;> exact .failure

section

variable {fuel : Nat} (agreeing : Agreeing e fuel)

include agreeing

theorem agree_content (fuel' : Nat) (inBlock unindented anchored : Bool) (tag : Option Tag) (known : Shared e)
    (cut : Cut e full less) :
    Agree (content inBlock unindented anchored tag fuel) (content inBlock unindented anchored tag fuel')
      known full less (Lacks e) := by
  have empty {full less : List Token} (cut : Cut e full less) :
      Agree (if anchored = true ∨ tag.isSome then Pure.pure (.scalar tag .plain "") else failure)
        (if anchored = true ∨ tag.isSome then Pure.pure (.scalar tag .plain "") else failure) known
        full less (Lacks e) := by
    split
    · exact .pure (.same _) cut
    · exact .failure
  unfold content
  refine .peek ?_
  obtain ⟨rfl, rfl⟩ | ⟨token, full, less, rfl, rfl, beyond⟩ | ⟨rfl, next⟩ := cut.cases
  · simpa using empty cut
  · simp only [List.head?_cons]
    cases token with
    | scalar style text => exact .drop_cons (.pure (.same _) (beyond.cut (by simp)))
    | flowSequenceStart =>
      refine .drop_cons (.bind (agreeing.flowItems _ _ _ _ _ (beyond.cut (by simp))) ?_)
      exact fun items items' known full less _ cut => .pure (.sequence ..) cut
    | flowMappingStart =>
      refine .drop_cons (.bind (agreeing.flowEntries _ _ _ _ _ (beyond.cut (by simp))) ?_)
      exact fun entries entries' known full less without cut => .pure (.mapping tag without) cut
    | blockEntry =>
      dsimp only
      split
      · refine .bind (agreeing.unindentedItems _ _ _ _ cut) ?_
        exact fun items items' known full less _ cut => .pure (.sequence ..) cut
      · exact empty cut
    | blockSequenceStart =>
      dsimp only
      split
      · refine .drop_cons (.bind (agreeing.blockItems _ _ _ _ (beyond.cut (by simp))) ?_)
        exact fun items items' known full less _ cut => .pure (.sequence ..) cut
      · simpa using empty cut
    | blockMappingStart =>
      have other : ¬(inBlock = true ∧ some Token.blockMappingStart = some .blockSequenceStart) := by simp
      dsimp only
      rw [if_neg other, if_neg other]
      split
      · refine .drop_cons (.bind (agreeing.blockEntries _ _ _ _ (beyond.cut (by simp))) ?_)
        exact fun entries entries' known full less without cut => .pure (.mapping tag without) cut
      · exact empty cut
    | _ => simpa using empty cut
  · have key : (e.tokens ++ less).head? = some .key := rfl
    rw [key]
    obtain next | next := next <;> rw [next] <;> simpa using empty cut

omit agreeing in
theorem agree_aliased (name : List Char) {token : Token} (known : Shared e) (cut : Cut e full less) :
    Agree (aliased name) (aliased name) known (token :: full) (token :: less) (Lacks e) := by
  refine .drop_cons (.get ?_)
  simp only [Shared.full, Shared.less]
  cases known.names.lookup name with
  | none => exact .failure
  | some id => exact .pure (.same _) cut

theorem agree_node (fuel' : Nat) (inBlock unindented : Bool) (known : Shared e) (cut : Cut e full less) :
    Agree (node inBlock unindented (fuel + 1)) (node inBlock unindented fuel') known full less (Lacks e) := by
  obtain - | fuel' := fuel'
  · exact .of_none' rfl
  have propertied : Agree (propertied inBlock unindented fuel) (propertied inBlock unindented fuel') known full
      less (Lacks e) := by
    refine .bind (agree_properties cut) ?_
    rintro ⟨anchor, tag⟩ _ known full less rfl cut
    exact agree_anchoring anchor fun known => agree_content agreeing _ _ _ _ _ _ cut
  rw [node_succ, node_succ]
  refine .peek ?_
  obtain ⟨rfl, rfl⟩ | ⟨token, full, less, rfl, rfl, beyond⟩ | ⟨rfl, next⟩ := cut.cases
  · exact propertied
  · cases token with
    | «alias» name => exact agree_aliased _ _ (beyond.cut (by simp))
    | _ => exact propertied
  · obtain next | next := next <;> rw [next] <;> exact propertied

theorem agree_nodeBefore (fuel' : Nat) {ends : List Token} (inBlock unindented : Bool) (known : Shared e)
    (closed : .key ∈ ends → .blockEnd ∈ ends) (cut : Cut e full less) :
    Agree (nodeBefore ends inBlock unindented (fuel + 1)) (nodeBefore ends inBlock unindented fuel') known full
      less (Lacks e) := by
  obtain - | fuel' := fuel'
  · exact .of_none' rfl
  rw [nodeBefore, nodeBefore]
  refine .atAny cut closed (fun later => node_key (known.full []) _ _ _ _) fun found => ?_
  split
  · exact .pure (.same _) cut
  · exact agreeing.node _ _ _ _ _ _ cut

theorem agree_blockItems (fuel' : Nat) (known : Shared e) (cut : Cut e full less) :
    Agree (blockItems (fuel + 1)) (blockItems fuel') known full less fun _ _ => True := by
  obtain - | fuel' := fuel'
  · exact .of_none' rfl
  rw [blockItems, blockItems]
  refine .accept cut (by simp) (by simp) (fun full less beyond => ?_) ?_
  · refine .bind (agreeing.nodeBefore _ _ _ _ _ _ _ (by simp) (beyond.cut (by simp))) ?_
    intro item item' known full less _ cut
    refine .bind (agreeing.blockItems _ _ _ _ cut) ?_
    exact fun items items' known full less _ cut => .pure trivial cut
  · exact .accept_blockEnd cut fun full less cut => .pure trivial cut

theorem agree_unindentedItems (fuel' : Nat) (known : Shared e) (cut : Cut e full less) :
    Agree (unindentedItems (fuel + 1)) (unindentedItems fuel') known full less fun _ _ => True := by
  obtain - | fuel' := fuel'
  · exact .of_none' rfl
  rw [unindentedItems, unindentedItems]
  refine .accept cut (by simp) (by simp) (fun full less beyond => ?_) (.pure trivial cut)
  refine .bind (agreeing.nodeBefore _ _ _ _ _ _ _ (by simp) (beyond.cut (by simp))) ?_
  intro item item' known full less _ cut
  refine .bind (agreeing.unindentedItems _ _ _ _ cut) ?_
  exact fun items items' known full less _ cut => .pure trivial cut

theorem agree_blockEntry (fuel' : Nat) (known : Shared e) (beyond : Beyond e .key full less) :
    Agree (blockEntry fuel) (blockEntry fuel') known full less
      (LacksAmong e) := by
  have more {name name' content content' : Node} (key : Lacks e name name') (value : Lacks e content content')
      {known : Shared e} {full less : List Token} (cut : Cut e full less) :
      Agree (do return (name, content) :: (← blockEntries fuel))
        (do return (name', content') :: (← blockEntries fuel')) known full less
        (LacksAmong e) :=
    .bind (agreeing.blockEntries _ _ _ _ cut) fun _ _ _ _ _ without cut => .pure (.keep key value without) cut
  obtain cut | ⟨-, later, rfl, rfl⟩ := beyond
  · unfold blockEntry
    refine .bind (agreeing.nodeBefore _ _ _ _ _ _ _ (by simp) cut) ?_
    intro name name' known full less key cut
    refine .accept cut (by simp) (by simp) (fun full less beyond => ?_) (more key (.same _) cut)
    refine .bind (agreeing.nodeBefore _ _ _ _ _ _ _ (by simp) (beyond.cut (by simp))) ?_
    exact fun content content' known full less value cut => more key value cut
  · -- the entries that follow tell that nothing is left of the section
    intro result result' ran ran'
    obtain ⟨entries, t, entered, rfl⟩ := (known.full []).blockEntry_section e ran
    have next := (known.full []).follows_of_blockEntries entered
    obtain ⟨entries', t', entered', rfl⟩ := (known.less []).blockEntry_absent e.parent next ran'
    obtain ⟨without, rest⟩ := agreeing.blockEntries _ known _ _ (.same later) _ _ entered entered'
    exact ⟨.alone without, rest⟩

theorem agree_blockEntries (fuel' : Nat) (known : Shared e) (cut : Cut e full less) :
    Agree (blockEntries (fuel + 1)) (blockEntries fuel') known full less
      (LacksAmong e) := by
  obtain - | fuel' := fuel'
  · exact .of_none' rfl
  obtain ⟨rfl, rfl⟩ | ⟨token, full, less, rfl, rfl, beyond⟩ | ⟨rfl, next⟩ := cut.cases
  · rw [blockEntries_succ, blockEntries_succ]
    exact .accept_neither (by simp) (by simp) (.accept_blockEnd cut fun full less cut => .pure .nil cut)
  · rw [blockEntries_succ, blockEntries_succ]
    by_cases key : token = .key
    · subst key
      exact .accept_both (agree_blockEntry agreeing fuel' known beyond)
    · refine .accept_neither (by simpa using key) (by simpa using key) ?_
      exact .accept_blockEnd cut fun full less cut => .pure .nil cut
  · intro result result' ran ran'
    obtain ⟨entries, t, entered, rfl⟩ := (known.full []).blockEntries_entry e less ran
    obtain ⟨without, rest⟩ := agreeing.blockEntries (fuel' + 1) known less less (.same less) _ _ entered ran'
    exact ⟨.leave without, rest⟩

theorem agree_flowValue (fuel' : Nat) {ends : List Token} (known : Shared e) (noKey : .key ∉ ends)
    (cut : Cut e full less) :
    Agree (flowValue ends (fuel + 1)) (flowValue ends fuel') known full less (Lacks e) := by
  obtain - | fuel' := fuel'
  · exact .of_none' rfl
  rw [flowValue, flowValue]
  refine .accept cut (by simp) (by simp) (fun full less beyond => ?_) (.pure (.same _) cut)
  exact agreeing.nodeBefore _ _ _ _ _ _ _ (fun key => absurd key noKey) (beyond.cut (by simp))

theorem agree_flowItem (fuel' : Nat) (known : Shared e) (cut : Cut e full less) :
    Agree (flowItem fuel) (flowItem fuel') known full less fun _ _ => True := by
  have more {known : Shared e} {full less : List Token} (cut : Cut e full less) (item item' : Node) :
      Agree (do return item :: (← flowItems false fuel)) (do return item' :: (← flowItems false fuel')) known
        full less fun _ _ => True :=
    .bind (agreeing.flowItems _ _ _ _ _ cut) fun _ _ _ _ _ _ cut => .pure trivial cut
  have pair {known : Shared e} {full less : List Token} (cut : Cut e full less) (name name' : Node) :
      Agree (do
          let content ← flowValue [.flowEntry, .flowSequenceEnd] fuel
          return .mapping none [(name, content)] :: (← flowItems false fuel))
        (do
          let content ← flowValue [.flowEntry, .flowSequenceEnd] fuel'
          return .mapping none [(name', content)] :: (← flowItems false fuel')) known full less
        fun _ _ => True :=
    .bind (agreeing.flowValue _ _ _ _ _ (by simp) cut)
      fun content content' _ _ _ _ cut => more cut (.mapping none [(name, content)]) _
  have named {known : Shared e} {full less : List Token} (cut : Cut e full less) :
      Agree (do
          let name ← node false false fuel
          let content ← flowValue [.flowEntry, .flowSequenceEnd] fuel
          return .mapping none [(name, content)] :: (← flowItems false fuel))
        (do
          let name ← node false false fuel'
          let content ← flowValue [.flowEntry, .flowSequenceEnd] fuel'
          return .mapping none [(name, content)] :: (← flowItems false fuel')) known full less
        fun _ _ => True :=
    .bind (agreeing.node _ _ _ _ _ _ cut) fun name name' _ _ _ _ cut => pair cut name name'
  have single {known : Shared e} {full less : List Token} (cut : Cut e full less) :
      Agree (do
          if ← accept .flowSequenceEnd then return []
          let item ← node false false fuel
          return item :: (← flowItems false fuel))
        (do
          if ← accept .flowSequenceEnd then return []
          let item ← node false false fuel'
          return item :: (← flowItems false fuel')) known full less fun _ _ => True :=
    .accept cut (by simp) (by simp) (fun full less beyond => .pure trivial (beyond.cut (by simp)))
      (.bind (agreeing.node _ _ _ _ _ _ cut) fun item item' _ _ _ _ cut => more cut item item')
  unfold flowItem
  obtain ⟨rfl, rfl⟩ | ⟨token, full, less, rfl, rfl, beyond⟩ | ⟨rfl, next⟩ := cut.cases
  · exact .accept_neither (by simp) (by simp) (single cut)
  · by_cases key : token = .key
    · subst key
      refine .accept_both ?_
      obtain inner | ⟨-, later, rfl, rfl⟩ := beyond
      · obtain ⟨rfl, rfl⟩ | ⟨next, full, less, rfl, rfl, behind⟩ | ⟨rfl, -⟩ := inner.cases
        · exact .of_run rfl rfl (named (.same []))
        · refine .atAny_cons ?_
          cases among : [Token.value, .flowEntry, .flowSequenceEnd].contains next with
          | true => exact .drop_cons (pair (behind.cut (by rintro rfl; cases among)) .absent .absent)
          | false => exact named inner
        · refine .of_none ?_
          rw [if_pos rfl]
          exact (known.full []).flowItem_key _ _ _
      · refine .of_none ?_
        rw [if_pos rfl]
        exact (known.full []).flowItem_section e _ _
    · exact .accept_neither (by simpa using key) (by simpa using key) (single cut)
  · exact .of_none ((known.full []).flowItem_entry e next fuel)

theorem agree_flowEntry (fuel' : Nat) (known : Shared e) (cut : Cut e full less) :
    Agree (flowEntry fuel) (flowEntry fuel') known full less (LacksAmong e) := by
  have more {name name' content content' : Node} (key : Lacks e name name') (value : Lacks e content content')
      {known : Shared e} {full less : List Token} (cut : Cut e full less) :
      Agree (do return (name, content) :: (← flowEntries false fuel))
        (do return (name', content') :: (← flowEntries false fuel')) known full less
        (LacksAmong e) :=
    .bind (agreeing.flowEntries _ _ _ _ _ cut) fun _ _ _ _ _ without cut => .pure (.keep key value without) cut
  have single {known : Shared e} {full less : List Token} (cut : Cut e full less) :
      Agree (do
          if ← accept .flowMappingEnd then return []
          let name ← node false false fuel
          return (name, .absent) :: (← flowEntries false fuel))
        (do
          if ← accept .flowMappingEnd then return []
          let name ← node false false fuel'
          return (name, .absent) :: (← flowEntries false fuel')) known full less
        (LacksAmong e) :=
    .accept cut (by simp) (by simp) (fun full less beyond => .pure .nil (beyond.cut (by simp)))
      (.bind (agreeing.node _ _ _ _ _ _ cut) fun _ _ _ _ _ key cut => more key (.same _) cut)
  unfold flowEntry
  obtain ⟨rfl, rfl⟩ | ⟨token, full, less, rfl, rfl, beyond⟩ | ⟨rfl, next⟩ := cut.cases
  · exact .accept_neither (by simp) (by simp) (single cut)
  · by_cases key : token = .key
    · subst key
      refine .accept_both ?_
      obtain cut | ⟨-, later, rfl, rfl⟩ := beyond
      · refine .bind (agreeing.nodeBefore _ _ _ _ _ _ _ (by simp) cut) ?_
        intro name name' known full less key cut
        refine .bind (agreeing.flowValue _ _ _ _ _ (by simp) cut) ?_
        exact fun content content' known full less value cut => more key value cut
      · refine .of_none ?_
        rw [if_pos rfl]
        exact (known.full []).flowEntry_section e _ _
    · exact .accept_neither (by simpa using key) (by simpa using key) (single cut)
  · exact .of_none ((known.full []).flowEntry_entry e next fuel)

theorem agree_flowItems (fuel' : Nat) (first : Bool) (known : Shared e) (cut : Cut e full less) :
    Agree (flowItems first (fuel + 1)) (flowItems first fuel') known full less fun _ _ => True := by
  obtain - | fuel' := fuel'
  · exact .of_none' rfl
  rw [flowItems_succ, flowItems_succ]
  refine .accept cut (by simp) (by simp) (fun full less beyond => .pure trivial (beyond.cut (by simp))) ?_
  cases first with
  | true => exact agree_flowItem agreeing fuel' known cut
  | false =>
    refine .accept cut (by simp) (by simp) (fun full less beyond => ?_) .failure_bind
    exact agree_flowItem agreeing fuel' known (beyond.cut (by simp))

theorem agree_flowEntries (fuel' : Nat) (first : Bool) (known : Shared e) (cut : Cut e full less) :
    Agree (flowEntries first (fuel + 1)) (flowEntries first fuel') known full less
      (LacksAmong e) := by
  obtain - | fuel' := fuel'
  · exact .of_none' rfl
  rw [flowEntries_succ, flowEntries_succ]
  refine .accept cut (by simp) (by simp) (fun full less beyond => .pure .nil (beyond.cut (by simp))) ?_
  cases first with
  | true => exact agree_flowEntry agreeing fuel' known cut
  | false =>
    refine .accept cut (by simp) (by simp) (fun full less beyond => ?_) .failure_bind
    exact agree_flowEntry agreeing fuel' known (beyond.cut (by simp))

theorem agreeing_succ : Agreeing e (fuel + 1) where
  node _ _ _ _ _ _ cut := agree_node agreeing _ _ _ _ cut
  nodeBefore _ _ _ _ _ _ _ closed cut := agree_nodeBefore agreeing _ _ _ _ closed cut
  blockItems _ _ _ _ cut := agree_blockItems agreeing _ _ cut
  unindentedItems _ _ _ _ cut := agree_unindentedItems agreeing _ _ cut
  blockEntries _ _ _ _ cut := agree_blockEntries agreeing _ _ cut
  flowValue _ _ _ _ _ noKey cut := agree_flowValue agreeing _ _ noKey cut
  flowItems _ _ _ _ _ cut := agree_flowItems agreeing _ _ _ cut
  flowEntries _ _ _ _ _ cut := agree_flowEntries agreeing _ _ _ cut

end

theorem agreeing (e : Entry) (fuel : Nat) : Agreeing e fuel := by
  induction fuel with
  | zero => exact agreeing_zero
  | succ fuel ih => exact agreeing_succ ih

/-! ## Documents -/

theorem agree_directives (versioned : Bool) (handles : List TagHandle) (fuel fuel' : Nat) (known : Shared e)
    (cut : Cut e full less) :
    Agree (directives versioned handles fuel) (directives versioned handles fuel') known full less (· = ·) := by
  induction fuel generalizing versioned handles fuel' full less with
  | zero => exact .failure
  | succ fuel ih =>
    obtain - | fuel' := fuel'
    · exact .of_none' rfl
    let told : Shared e := { known with handles := handles ++ standardHandles }
    have ends : Agree (do
          modify fun s => { s with handles := handles ++ standardHandles }
          return versioned || !handles.isEmpty) (do
          modify fun s => { s with handles := handles ++ standardHandles }
          return versioned || !handles.isEmpty) known full less (· = ·) := by
      have agree : Agree (Pure.pure (versioned || !handles.isEmpty)) (Pure.pure (versioned || !handles.isEmpty)) told
          full less (· = ·) := .pure rfl cut
      exact .of_run rfl rfl agree
    rw [directives, directives]
    refine .peek ?_
    obtain ⟨rfl, rfl⟩ | ⟨token, full, less, rfl, rfl, beyond⟩ | ⟨rfl, next⟩ := cut.cases
    · exact ends
    · cases token with
      | directive said =>
        have inner : Cut e full less := beyond.cut (by simp)
        cases said with
        | version major minor =>
          simp only [List.head?_cons]
          split
          · exact .failure_bind
          · exact .drop_cons (ih _ _ _ inner)
        | tag handle =>
          simp only [List.head?_cons]
          split
          · exact .failure_bind
          · exact .drop_cons (ih _ _ _ inner)
      | _ => exact ends
    · obtain next | next := next <;> rw [next] <;> exact ends

theorem lookup_lacks {finished finished' : List (Nat × Node)}
    (lacks : List.Forall₂ (fun entry entry' => entry.1 = entry'.1 ∧ Lacks e entry.2 entry'.2) finished finished')
    (id : Nat) : Option.Rel (Lacks e) (finished.lookup id) (finished'.lookup id) := by
  induction lacks with
  | nil => exact .none
  | @cons entry entry' _ _ both _ ih =>
    obtain ⟨key, node⟩ := entry
    obtain ⟨key', node'⟩ := entry'
    obtain ⟨rfl, lacks⟩ := both
    cases same : id == key with
    | true => simpa [List.lookup_cons, same] using Option.Rel.some lacks
    | false => simpa [List.lookup_cons, same] using ih

theorem agree_ended {root root' : Node} (known : Shared e) (lacks : Lacks e root root') (cut : Cut e full less) :
    Agree (ended root) (ended root') known full less (Document.Lacks e) := by
  have closing {full less : List Token} (cut : Cut e full less) : Agree (do
        unless (← peek).isNone do failure
        let s ← get
        return (⟨root, fun id => do s.finished.lookup (← s.begun.lookup id)⟩ : Document)) (do
        unless (← peek).isNone do failure
        let s ← get
        return (⟨root', fun id => do s.finished.lookup (← s.begun.lookup id)⟩ : Document)) known full less
        (Document.Lacks e) := by
    refine .peek ?_
    cases noMore : full.head? with
    | some token => exact .failure_bind
    | none =>
      cases noMore' : less.head? with
      | some token => exact .of_none' rfl
      | none =>
        suffices agree : Agree
            (Pure.pure ⟨root, fun id => do known.finished.lookup (← known.begun.lookup id)⟩)
            (Pure.pure ⟨root', fun id => do known.finished'.lookup (← known.begun.lookup id)⟩) known full less
            (Document.Lacks e) from .of_run rfl rfl agree
        refine .pure ⟨lacks, fun id => ?_⟩ cut
        cases begun : known.begun.lookup id with
        | none => simp [begun]
        | some number => simpa [begun] using lookup_lacks known.lacks number
  have dropped := closing (cut.dropWhile (p := (· = .documentEnd)) rfl rfl)
  exact .of_run rfl rfl dropped

theorem agree_rooted (directed marked : Bool) (fuel fuel' : Nat) (known : Shared e) (cut : Cut e full less) :
    Agree (rooted directed marked fuel) (rooted directed marked fuel') known full less (Document.Lacks e) := by
  have node : Agree (do ended (← node true false fuel)) (do ended (← node true false fuel')) known full less
      (Document.Lacks e) :=
    .bind ((agreeing e fuel).node _ _ _ _ _ _ cut) fun _ _ _ _ _ lacks cut => agree_ended _ lacks cut
  have absent : Agree (ended .absent) (ended .absent) known full less (Document.Lacks e) :=
    agree_ended known (.same _) cut
  unfold rooted
  dsimp only
  split
  · exact .failure_bind
  · refine .peek ?_
    obtain ⟨rfl, rfl⟩ | ⟨token, full, less, rfl, rfl, beyond⟩ | ⟨rfl, next⟩ := cut.cases
    · exact absent
    · cases token with
      | directive said => exact absent
      | documentStart => exact absent
      | documentEnd =>
        cases marked with
        | true => exact absent
        | false => exact .failure_bind
      | _ => exact node
    · obtain next | next := next <;> rw [next] <;> exact node

/-- Where both are documents, the one is the other without the entry. -/
theorem document_lacks (e : Entry) {full less : List Token} (cut : Cut e full less) {found found' : Document}
    (composed : (document.run ⟨full, [], [], [], []⟩).map (·.1) = some found)
    (composed' : (document.run ⟨less, [], [], [], []⟩).map (·.1) = some found') : found.Lacks e found' := by
  obtain ⟨result, ran, rfl⟩ := Option.map_eq_some_iff.mp composed
  obtain ⟨result', ran', rfl⟩ := Option.map_eq_some_iff.mp composed'
  let known : Shared e := ⟨[], [], [], [], [], .nil⟩
  have agree : Agree document document known full less (Document.Lacks e) := by
    rw [document_eq]
    refine .get (.peek ?_)
    have goesOn : Agree (do
          let directed ← directives false [] (3 * full.length + 3)
          let marked ← accept .documentStart
          rooted directed marked (3 * full.length + 3)) (do
          let directed ← directives false [] (3 * less.length + 3)
          let marked ← accept .documentStart
          rooted directed marked (3 * less.length + 3)) known full less (Document.Lacks e) := by
      refine .bind (agree_directives _ _ _ _ known cut) ?_
      rintro directed _ known full less rfl cut
      exact .accept cut (by simp) (by simp) (fun full less beyond => agree_rooted _ _ _ _ _ (beyond.cut (by simp)))
        (agree_rooted _ _ _ _ _ cut)
    obtain ⟨rfl, rfl⟩ | ⟨token, full, less, rfl, rfl, beyond⟩ | ⟨rfl, next⟩ := cut.cases
    · exact .pure ⟨.same _, fun id => .none⟩ cut
    · exact goesOn
    · obtain next | next := next <;> rw [next] <;> exact goesOn
  exact (agree result result' ran ran').1

end BearerAuth.Yaml.Composing
