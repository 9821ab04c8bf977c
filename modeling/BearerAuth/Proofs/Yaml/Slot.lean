import BearerAuth.Proofs.Yaml.Composer

/-! # Documents with a slot

A text between double quotes that is the value of a key has its place in the document, whatever it says: the tokens
around it are put together in the same way, and it is neither a key nor something that an alias stands for. So a
document with a slot for such a text is one document for each text.
-/

namespace BearerAuth.Yaml

/-- The text in the slot, as a node. -/
def slot (text : String) : Node := .scalar none .doubleQuoted text

/-- A node for each text in the slot, which is at most the value of some key in it. -/
inductive Varies : (String → Node) → Prop
  | same (node : Node) : Varies fun _ => node
  | sequence (tag : Option Tag) (items : String → List Node) :
    Varies fun text => .sequence tag (items text)
  | mapping (tag : Option Tag) (entries : List ((String → Node) × (String → Node)))
      (keys : ∀ entry ∈ entries, Varies entry.1)
      (values : ∀ entry ∈ entries, entry.2 ≠ slot → Varies entry.2) :
    Varies fun text => .mapping tag (entries.map fun entry => (entry.1 text, entry.2 text))

theorem lookup_filled {κ : Type} [BEq κ] (nodes : List (κ × (String → Node))) (key : κ) (text : String) :
    (nodes.map fun entry => (entry.1, entry.2 text)).lookup key = (nodes.lookup key).map (· text) := by
  induction nodes with
  | nil => rfl
  | cons entry nodes ih =>
    obtain ⟨other, node⟩ := entry
    cases same : key == other <;> simp [List.lookup_cons, same, ih]

/-- A document for each text in the slot. -/
structure Draft where
  root : String → Node
  anchored : Nat → Option (String → Node)
  root_varies : Varies root
  anchored_varies : ∀ id, ∀ node ∈ anchored id, Varies node

/-- The document with the text in the slot. -/
def Draft.filled (draft : Draft) (text : String) : Document :=
  ⟨draft.root text, fun id => (draft.anchored id).map (· text)⟩

/-! ## Tokens -/

/-- Tokens for each text, of which the one in the slot is the first. -/
def facing (later : List Token) (text : String) : List Token :=
  .scalar .doubleQuoted text.toList :: later

/-- Tokens for each text, among which the one in the slot follows the token for a value, if it is there. -/
inductive Ahead : (String → List Token) → Prop
  | none (tokens : List Token) : Ahead fun _ => tokens
  | next (later : List Token) : Ahead fun text => .value :: facing later text
  | later (token : Token) {tokens : String → List Token} (ahead : Ahead tokens) :
    Ahead fun text => token :: tokens text

/-- What is left behind the token: the slot can only come right behind the token for a value. -/
def Behind (token : Token) (rest : String → List Token) : Prop :=
  Ahead rest ∨ token = .value ∧ ∃ later, rest = facing later

theorem Behind.ahead {token : Token} {rest : String → List Token} (behind : Behind token rest)
    (other : token ≠ .value) : Ahead rest :=
  behind.resolve_right fun value => other value.1

/-- Either no tokens are left, or the next one is the same for all texts. -/
theorem Ahead.cases {tokens : String → List Token} (ahead : Ahead tokens) :
    (tokens = fun _ => []) ∨
      ∃ token rest, (tokens = fun text => token :: rest text) ∧ Behind token rest := by
  cases ahead with
  | none tokens =>
    cases tokens with
    | nil => exact .inl rfl
    | cons token rest => exact .inr ⟨token, _, rfl, .inl (.none rest)⟩
  | next later => exact .inr ⟨.value, _, rfl, .inr ⟨rfl, later, rfl⟩⟩
  | later token ahead => exact .inr ⟨token, _, rfl, .inl ahead⟩

theorem Ahead.dropWhile {tokens : String → List Token} {p : Token → Bool} (kept : p .value = false)
    (ahead : Ahead tokens) : Ahead fun text => (tokens text).dropWhile p := by
  induction ahead with
  | none tokens => exact .none _
  | next later => simpa [kept] using Ahead.next later
  | later token ahead ih =>
    simp only [List.dropWhile_cons]
    split
    · exact ih
    · exact .later token ahead

theorem Ahead.exists_length {tokens : String → List Token} (ahead : Ahead tokens) :
    ∃ n, ∀ text, (tokens text).length = n := by
  induction ahead with
  | none tokens => exact ⟨_, fun _ => rfl⟩
  | next later => exact ⟨later.length + 2, fun _ => rfl⟩
  | later token ahead ih =>
    obtain ⟨n, length⟩ := ih
    exact ⟨n + 1, fun text => congrArg (· + 1) (length text)⟩

namespace Composing

/-- What is known while a document is put together, whose nodes may have the slot. -/
structure Known where
  handles : List TagHandle
  names : List (List Char × Nat)
  begun : List (Nat × Nat)
  finished : List (Nat × (String → Node))
  varies : ∀ entry ∈ finished, Varies entry.2

/-- The state for a text in the slot. -/
def Known.before (known : Known) (tokens : String → List Token) (text : String) : Composing :=
  ⟨tokens text, known.handles, known.names, known.begun,
    known.finished.map fun entry => (entry.1, entry.2 text)⟩

/-- What holds of the results for all texts, of what is known then, and of the tokens that are left. -/
abbrev Outcome (α : Type) := (String → α) → Known → (String → List Token) → Prop

variable {α β : Type}

/-- If the program succeeds with some text in the slot, it succeeds with every text in it, and goes the same way. -/
def Uniform (program : String → Composer α) (known : Known) (tokens : String → List Token)
    (outcome : Outcome α) : Prop :=
  ∀ base found, (program base).run (known.before tokens base) = some found →
    ∃ values known' tokens',
      (∀ text, (program text).run (known.before tokens text) =
        some (values text, known'.before tokens' text)) ∧
      outcome values known' tokens'

namespace Uniform

variable {known : Known} {tokens : String → List Token} {outcome : Outcome α}

theorem pure {values : String → α} (holds : outcome values known tokens) :
    Uniform (fun text => Pure.pure (values text)) known tokens outcome :=
  fun _ _ _ => ⟨values, known, tokens, fun _ => rfl, holds⟩

theorem failure : Uniform (fun _ => (Alternative.failure : Composer α)) known tokens outcome :=
  fun _ _ ran => by cases ran

theorem failure_bind {rest : String → β → Composer α} :
    Uniform (fun text => (Alternative.failure : Composer β) >>= rest text) known tokens outcome :=
  fun _ _ ran => by cases ran

theorem mono {weaker : Outcome α} {program : String → Composer α}
    (uniform : Uniform program known tokens outcome)
    (implies : ∀ values known tokens, outcome values known tokens → weaker values known tokens) :
    Uniform program known tokens weaker := by
  intro base found ran
  obtain ⟨values, known', tokens', runs, holds⟩ := uniform base found ran
  exact ⟨values, known', tokens', runs, implies _ _ _ holds⟩

theorem bind {middle : Outcome β} {first : String → Composer β} {second : String → β → Composer α}
    (begins : Uniform first known tokens middle)
    (goesOn : ∀ values known tokens, middle values known tokens →
      Uniform (fun text => second text (values text)) known tokens outcome) :
    Uniform (fun text => first text >>= second text) known tokens outcome := by
  intro base found ran
  obtain ⟨between, begun, ran⟩ := Option.bind_eq_some_iff.mp ran
  obtain ⟨values, known', tokens', runs, holds⟩ := begins base between begun
  obtain rfl := Option.some.inj (begun.symm.trans (runs base))
  obtain ⟨values', known'', tokens'', runs', holds'⟩ := goesOn values known' tokens' holds base found ran
  refine ⟨values', known'', tokens'', fun text => ?_, holds'⟩
  exact Option.bind_eq_some_iff.mpr ⟨_, runs text, runs' text⟩

/-- Steps whose outcome is known may be taken beforehand. -/
theorem of_run {program : String → Composer α} (known' : Known) (tokens' : String → List Token)
    (rest : String → Composer α) (runs : ∀ text, (program text).run (known.before tokens text) =
      (rest text).run (known'.before tokens' text))
    (uniform : Uniform rest known' tokens' outcome) : Uniform program known tokens outcome := by
  intro base found ran
  rw [runs] at ran
  obtain ⟨values, known'', tokens'', runs', holds⟩ := uniform base found ran
  exact ⟨values, known'', tokens'', fun text => (runs text).trans (runs' text), holds⟩

/-! ### Single tokens -/

theorem peek_nil {rest : Option Token → String → Composer α}
    (uniform : Uniform (rest none) known (fun _ => []) outcome) :
    Uniform (fun text => Composing.peek >>= fun next => rest next text) known (fun _ => []) outcome :=
  of_run _ _ _ (fun _ => rfl) uniform

theorem peek_cons {token : Token} {rest : Option Token → String → Composer α}
    (uniform : Uniform (rest (some token)) known (fun text => token :: tokens text) outcome) :
    Uniform (fun text => Composing.peek >>= fun next => rest next text) known
      (fun text => token :: tokens text) outcome :=
  of_run _ _ _ (fun _ => rfl) uniform

theorem drop_cons {token : Token} {rest : String → Unit → Composer α}
    (uniform : Uniform (rest · ()) known tokens outcome) :
    Uniform (fun text => Composing.drop >>= rest text) known (fun text => token :: tokens text) outcome :=
  of_run _ _ _ (fun _ => rfl) uniform

/-- Whatever the next token is, the slot is still ahead, next or behind without it. -/
theorem drop {rest : String → Unit → Composer α} (ahead : Ahead tokens)
    (uniform : ∀ tokens, (Ahead tokens ∨ ∃ later, tokens = facing later) →
      Uniform (rest · ()) known tokens outcome) :
    Uniform (fun text => Composing.drop >>= rest text) known tokens outcome := by
  obtain rfl | ⟨token, tokens, rfl, behind⟩ := ahead.cases
  · exact of_run _ _ _ (fun _ => rfl) (uniform _ (.inl (.none [])))
  · exact drop_cons (uniform tokens (behind.imp_right And.right))

theorem accept_cons_self {token : Token} {rest : Bool → String → Composer α}
    (uniform : Uniform (rest true) known tokens outcome) :
    Uniform (fun text => Composing.accept token >>= fun taken => rest taken text) known
      (fun text => token :: tokens text) outcome := by
  refine of_run _ _ _ (fun text => ?_) uniform
  simp [Composing.accept, Composing.peek, Composing.drop, Known.before]

/-- A token that is not the next one is not taken. -/
theorem accept_other {token : Token} {rest : Bool → String → Composer α}
    (other : ∀ text, (tokens text).head? ≠ some token)
    (uniform : Uniform (rest false) known tokens outcome) :
    Uniform (fun text => Composing.accept token >>= fun taken => rest taken text) known tokens
      outcome := by
  refine of_run _ _ _ (fun text => ?_) uniform
  simp [Composing.accept, Composing.peek, Known.before, other text]

/-- A token is taken for all texts or for none of them. -/
theorem accept {token : Token} {rest : Bool → String → Composer α} (ahead : Ahead tokens)
    (yes : ∀ tokens, Behind token tokens → Uniform (rest true) known tokens outcome)
    (no : Uniform (rest false) known tokens outcome) :
    Uniform (fun text => Composing.accept token >>= fun taken => rest taken text) known tokens
      outcome := by
  obtain rfl | ⟨next, later, rfl, behind⟩ := ahead.cases
  · exact accept_other (fun _ => by simp) no
  · by_cases same : next = token
    · subst same
      exact accept_cons_self (yes later behind)
    · exact accept_other (fun _ => by simpa using same) no

theorem accept_facing {token : Token} {later : List Token} {rest : Bool → String → Composer α}
    (other : ∀ text, token ≠ .scalar .doubleQuoted text)
    (uniform : Uniform (rest false) known (facing later) outcome) :
    Uniform (fun text => Composing.accept token >>= fun taken => rest taken text) known (facing later)
      outcome :=
  accept_other (fun text => by simpa [facing] using (other text.toList).symm) uniform

theorem atAny {among : List Token} {rest : Bool → String → Composer α} (ahead : Ahead tokens)
    (uniform : ∀ found, Uniform (rest found) known tokens outcome) :
    Uniform (fun text => Composing.atAny among >>= fun found => rest found text) known tokens
      outcome := by
  obtain rfl | ⟨next, later, rfl, -⟩ := ahead.cases
  · exact of_run _ _ _ (fun _ => rfl) (uniform (Option.any among.contains none))
  · exact of_run _ _ _ (fun _ => rfl) (uniform (Option.any among.contains (some next)))

theorem atAny_facing {among : List Token} {later : List Token} {rest : Bool → String → Composer α}
    (other : ∀ text, .scalar .doubleQuoted text ∉ among)
    (uniform : Uniform (rest false) known (facing later) outcome) :
    Uniform (fun text => Composing.atAny among >>= fun found => rest found text) known (facing later)
      outcome := by
  refine of_run _ _ _ (fun text => ?_) uniform
  simp [Composing.atAny, Composing.peek, Known.before, facing, other text.toList]

end Uniform

/-! ## Nodes -/

/-- Some outcome, with the slot still ahead or behind. -/
def Passing : Outcome α := fun _ _ tokens => Ahead tokens

/-- The same outcome for all texts. -/
def Fixed : Outcome α := fun values _ tokens => (∃ value, values = fun _ => value) ∧ Ahead tokens

/-- A node that is not the slot itself. -/
def Whole : Outcome Node := fun values _ tokens => Varies values ∧ Ahead tokens

/-- A node that may be the slot itself. -/
def Content : Outcome Node := fun values _ tokens => (values ≠ slot → Varies values) ∧ Ahead tokens

/-- Entries whose values may be the slot. -/
def Entries : Outcome (List (Node × Node)) := fun values _ tokens =>
  (∃ entries : List ((String → Node) × (String → Node)),
    (∀ entry ∈ entries, Varies entry.1 ∧ (entry.2 ≠ slot → Varies entry.2)) ∧
      values = fun text => entries.map fun entry => (entry.1 text, entry.2 text)) ∧ Ahead tokens

variable {known : Known} {tokens : String → List Token} {outcome : Outcome α}

theorem uniform_anchor (ahead : Ahead tokens) : Uniform (fun _ => anchor?) known tokens Fixed := by
  unfold anchor?
  obtain rfl | ⟨token, rest, rfl, behind⟩ := ahead.cases
  · exact .peek_nil (.pure ⟨⟨_, rfl⟩, ahead⟩)
  · refine .peek_cons ?_
    cases token with
    | anchor name => exact .drop_cons (.pure ⟨⟨_, rfl⟩, behind.ahead (by simp)⟩)
    | _ => exact .pure ⟨⟨_, rfl⟩, ahead⟩

theorem uniform_tag (ahead : Ahead tokens) : Uniform (fun _ => tag?) known tokens Fixed := by
  unfold tag?
  obtain rfl | ⟨token, rest, rfl, behind⟩ := ahead.cases
  · exact .peek_nil (.pure ⟨⟨_, rfl⟩, ahead⟩)
  · refine .peek_cons ?_
    cases token with
    | tag name => exact .drop_cons (.pure ⟨⟨_, rfl⟩, behind.ahead (by simp)⟩)
    | _ => exact .pure ⟨⟨_, rfl⟩, ahead⟩

theorem uniform_fullTag (ahead : Ahead tokens) (name : TagName) :
    Uniform (fun _ => fullTag name) known tokens Fixed := by
  unfold fullTag
  split
  · exact .pure ⟨⟨_, rfl⟩, ahead⟩
  · cases found : known.handles.find? (·.handle = name.handle) with
    | none =>
      refine .of_run known tokens (fun _ => Alternative.failure) (fun text => ?_) .failure
      simp [Known.before, found]
    | some handle =>
      refine .of_run known tokens (fun _ => Pure.pure (handle.expansion ++ name.suffix))
        (fun text => ?_) (.pure ⟨⟨_, rfl⟩, ahead⟩)
      simp [Known.before, found]

theorem uniform_properties (ahead : Ahead tokens) :
    Uniform (fun _ => properties) known tokens Fixed := by
  have full (anchor : Option (List Char)) (name : Option TagName) {known : Known}
      {tokens : String → List Token} (ahead : Ahead tokens) :
      Uniform (fun _ => do return (anchor, ← name.mapM fullTag)) known tokens Fixed := by
    cases name with
    | none => exact .pure ⟨⟨_, rfl⟩, ahead⟩
    | some name =>
      simp only [Option.mapM_some, map_eq_pure_bind, bind_assoc, pure_bind]
      refine .bind (uniform_fullTag ahead name) ?_
      rintro _ known tokens ⟨⟨tag, rfl⟩, ahead⟩
      exact .pure ⟨⟨_, rfl⟩, ahead⟩
  unfold properties
  refine .bind (uniform_anchor ahead) ?_
  rintro _ known tokens ⟨⟨first, rfl⟩, ahead⟩
  refine .bind (uniform_tag ahead) ?_
  rintro _ known tokens ⟨⟨name, rfl⟩, ahead⟩
  dsimp only
  split
  · refine .bind (uniform_anchor ahead) ?_
    rintro _ known tokens ⟨⟨anchor, rfl⟩, ahead⟩
    exact full anchor _ ahead
  · exact full first name ahead

theorem uniform_anchoring (anchor : Option (List Char)) {build : Composer Node}
    (built : ∀ known, Uniform (fun _ => build) known tokens Whole) :
    Uniform (fun _ => anchoring anchor build) known tokens Whole := by
  cases anchor with
  | none => exact built known
  | some name =>
    let begun : Known := { known with
      names := (name, known.names.length) :: known.names.filter (·.1 ≠ name)
      begun := (known.names.length, known.begun.length) :: known.begun }
    refine .of_run begun tokens
      (fun _ => do
        let node ← build
        modify fun s => { s with finished := (known.begun.length, node) :: s.finished }
        return node) (fun text => rfl) ?_
    refine .bind (built begun) ?_
    rintro nodes known' tokens' ⟨varies, ahead⟩
    refine .of_run { known' with
        finished := (known.begun.length, nodes) :: known'.finished
        varies := List.forall_mem_cons.mpr ⟨varies, known'.varies⟩ }
      tokens' (fun text => Pure.pure (nodes text)) (fun text => rfl) ?_
    exact .pure ⟨varies, ahead⟩

/-- What every part of the composer does with the slot ahead of it, or with the slot next. -/
structure Steady (fuel : Nat) : Prop where
  node : ∀ inBlock unindented known tokens, Ahead tokens →
    Uniform (fun _ => node inBlock unindented fuel) known tokens Whole
  node_facing : ∀ inBlock unindented known later,
    Uniform (fun _ => Composing.node inBlock unindented fuel) known (facing later) Content
  nodeBefore : ∀ ends inBlock unindented known tokens, Ahead tokens →
    Uniform (fun _ => nodeBefore ends inBlock unindented fuel) known tokens Whole
  nodeBefore_facing : ∀ ends inBlock unindented known later,
    (∀ text, .scalar .doubleQuoted text ∉ ends) →
    Uniform (fun _ => Composing.nodeBefore ends inBlock unindented fuel) known (facing later) Content
  blockItems : ∀ known tokens, Ahead tokens → Uniform (fun _ => blockItems fuel) known tokens Passing
  unindentedItems : ∀ known tokens, Ahead tokens →
    Uniform (fun _ => unindentedItems fuel) known tokens Passing
  blockEntries : ∀ known tokens, Ahead tokens →
    Uniform (fun _ => blockEntries fuel) known tokens Entries
  flowValue : ∀ ends known tokens, (∀ text, .scalar .doubleQuoted text ∉ ends) → Ahead tokens →
    Uniform (fun _ => flowValue ends fuel) known tokens Content
  flowValue_facing : ∀ ends known later, Uniform (fun _ => Composing.flowValue ends fuel) known
    (facing later) fun _ _ tokens => tokens = facing later
  flowItems : ∀ first known tokens, Ahead tokens →
    Uniform (fun _ => flowItems first fuel) known tokens Passing
  flowItems_facing : ∀ known later,
    Uniform (fun _ => Composing.flowItems false fuel) known (facing later) Passing
  flowEntries : ∀ first known tokens, Ahead tokens →
    Uniform (fun _ => flowEntries first fuel) known tokens Entries

theorem steady_zero : Steady 0 := by
  constructor <;> intros <;> exact .failure

section

variable {fuel : Nat} (steady : Steady fuel)

include steady

omit steady in
theorem uniform_node_facing (inBlock unindented : Bool) (known : Known) (later : List Token) :
    Uniform (fun _ => node inBlock unindented (fuel + 1)) known (facing later) Content := by
  refine .of_run known (fun _ => later) (fun text => Pure.pure (slot text)) (fun text => ?_)
    (.pure ⟨fun other => absurd rfl other, .none later⟩)
  rw [node]
  simp [peek, properties, anchor?, tag?, anchoring, drop, Known.before, facing, slot, scalarTag]

theorem uniform_content (inBlock unindented anchored : Bool) (tag : Option Tag) (known : Known)
    (ahead : Ahead tokens) :
    Uniform (fun _ => content inBlock unindented anchored tag fuel) known tokens Whole := by
  have empty {tokens : String → List Token} (ahead : Ahead tokens) :
      Uniform (fun _ => if anchored = true ∨ tag.isSome then Pure.pure (.scalar tag .plain "")
        else failure) known tokens Whole := by
    split
    · exact .pure ⟨.same _, ahead⟩
    · exact .failure
  have sequence {items : Composer (List Node)} {tokens : String → List Token}
      (passing : Uniform (fun _ => items) known tokens Passing) :
      Uniform (fun _ => do return .sequence tag (← items)) known tokens Whole :=
    .bind passing fun items _ _ ahead => .pure ⟨.sequence tag items, ahead⟩
  have mapping {entries : Composer (List (Node × Node))} {tokens : String → List Token}
      (entered : Uniform (fun _ => entries) known tokens Entries) :
      Uniform (fun _ => do return .mapping tag (← entries)) known tokens Whole := by
    refine .bind entered ?_
    rintro _ known tokens ⟨⟨entries, varies, rfl⟩, ahead⟩
    exact .pure ⟨.mapping tag entries (fun e member => (varies e member).1)
      (fun e member => (varies e member).2), ahead⟩
  unfold content
  obtain rfl | ⟨token, rest, rfl, behind⟩ := ahead.cases
  · exact .peek_nil (by simpa using empty ahead)
  · refine .peek_cons ?_
    cases token with
    | scalar style text => exact .drop_cons (.pure ⟨.same _, behind.ahead (by simp)⟩)
    | flowSequenceStart =>
      exact .drop_cons (sequence (steady.flowItems _ _ _ (behind.ahead (by simp))))
    | flowMappingStart =>
      exact .drop_cons (mapping (steady.flowEntries _ _ _ (behind.ahead (by simp))))
    | blockEntry =>
      dsimp only
      split
      · exact sequence (steady.unindentedItems _ _ ahead)
      · exact empty ahead
    | blockSequenceStart =>
      dsimp only
      split
      · exact .drop_cons (sequence (steady.blockItems _ _ (behind.ahead (by simp))))
      · simpa using empty ahead
    | blockMappingStart =>
      dsimp only
      rw [if_neg (by simp)]
      split
      · exact .drop_cons (mapping (steady.blockEntries _ _ (behind.ahead (by simp))))
      · exact empty ahead
    | _ => simpa using empty ahead

omit steady in
theorem uniform_aliased (name : List Char) (token : Token) (known : Known) (ahead : Ahead tokens) :
    Uniform (fun _ => aliased name) known (fun text => token :: tokens text) Whole := by
  refine .drop_cons ?_
  cases found : known.names.lookup name with
  | none =>
    refine .of_run known tokens (fun _ => failure) (fun text => ?_) .failure
    simp [Known.before, found]
  | some id =>
    refine .of_run known tokens (fun _ => Pure.pure (.alias id)) (fun text => ?_)
      (.pure ⟨.same _, ahead⟩)
    simp [Known.before, found]

theorem uniform_node (inBlock unindented : Bool) (known : Known) (ahead : Ahead tokens) :
    Uniform (fun _ => node inBlock unindented (fuel + 1)) known tokens Whole := by
  have propertied : Uniform (fun _ => propertied inBlock unindented fuel) known tokens Whole := by
    refine .bind (uniform_properties ahead) ?_
    rintro _ known tokens ⟨⟨⟨anchor, tag⟩, rfl⟩, ahead⟩
    exact uniform_anchoring anchor fun known => uniform_content steady _ _ _ _ _ ahead
  rw [node_succ]
  obtain rfl | ⟨token, rest, rfl, behind⟩ := ahead.cases
  · exact .peek_nil propertied
  · refine .peek_cons ?_
    cases token with
    | «alias» name => exact uniform_aliased _ _ _ (behind.ahead (by simp))
    | _ => exact propertied

theorem uniform_nodeBefore (ends : List Token) (inBlock unindented : Bool) (known : Known)
    (ahead : Ahead tokens) :
    Uniform (fun _ => nodeBefore ends inBlock unindented (fuel + 1)) known tokens Whole := by
  rw [nodeBefore]
  refine .atAny ahead fun found => ?_
  split
  · exact .pure ⟨.same _, ahead⟩
  · exact steady.node _ _ _ _ ahead

theorem uniform_nodeBefore_facing {ends : List Token} (inBlock unindented : Bool) (known : Known)
    (later : List Token) (other : ∀ text, .scalar .doubleQuoted text ∉ ends) :
    Uniform (fun _ => nodeBefore ends inBlock unindented (fuel + 1)) known (facing later) Content := by
  rw [nodeBefore]
  exact .atAny_facing other (steady.node_facing _ _ _ _)

theorem uniform_blockItems (known : Known) (ahead : Ahead tokens) :
    Uniform (fun _ => blockItems (fuel + 1)) known tokens Passing := by
  rw [blockItems]
  refine .accept ahead (fun tokens behind => ?_) (.accept ahead (fun tokens behind => ?_) .failure)
  · refine .bind (steady.nodeBefore _ _ _ _ _ (behind.ahead (by simp))) ?_
    rintro item known tokens ⟨-, ahead⟩
    refine .bind (steady.blockItems _ _ ahead) ?_
    intro items known tokens ahead
    exact .pure ahead
  · exact .pure (behind.ahead (by simp))

theorem uniform_unindentedItems (known : Known) (ahead : Ahead tokens) :
    Uniform (fun _ => unindentedItems (fuel + 1)) known tokens Passing := by
  rw [unindentedItems]
  refine .accept ahead (fun tokens behind => ?_) (.pure ahead)
  refine .bind (steady.nodeBefore _ _ _ _ _ (behind.ahead (by simp))) ?_
  rintro item known tokens ⟨-, ahead⟩
  refine .bind (steady.unindentedItems _ _ ahead) ?_
  intro items known tokens ahead
  exact .pure ahead

/-- The value of a key may be the slot. -/
theorem uniform_value {ends : List Token} (inBlock unindented : Bool) (known : Known)
    (other : ∀ text, .scalar .doubleQuoted text ∉ ends) (behind : Behind .value tokens) :
    Uniform (fun _ => nodeBefore ends inBlock unindented fuel) known tokens Content := by
  obtain ahead | ⟨-, later, rfl⟩ := behind
  · exact (steady.nodeBefore _ _ _ _ _ ahead).mono fun _ _ _ whole => ⟨fun _ => whole.1, whole.2⟩
  · exact steady.nodeBefore_facing _ _ _ _ _ other

theorem uniform_blockEntries (known : Known) (ahead : Ahead tokens) :
    Uniform (fun _ => blockEntries (fuel + 1)) known tokens Entries := by
  have more {name content : String → Node} (key : Varies name) (value : content ≠ slot → Varies content)
      {known : Known} {tokens : String → List Token} (ahead : Ahead tokens) :
      Uniform (fun text => do return (name text, content text) :: (← blockEntries fuel)) known tokens
        Entries := by
    refine .bind (steady.blockEntries _ _ ahead) ?_
    rintro _ known tokens ⟨⟨entries, varies, rfl⟩, ahead⟩
    exact .pure ⟨⟨(name, content) :: entries, List.forall_mem_cons.mpr ⟨⟨key, value⟩, varies⟩, rfl⟩,
      ahead⟩
  rw [blockEntries]
  refine .accept ahead (fun tokens behind => ?_) (.accept ahead (fun tokens behind => ?_) .failure)
  · refine .bind (steady.nodeBefore _ _ _ _ _ (behind.ahead (by simp))) ?_
    rintro name known tokens ⟨key, ahead⟩
    refine .accept ahead (fun tokens behind => ?_) ?_
    · refine .bind (uniform_value steady _ _ _ (by simp) behind) ?_
      rintro content known tokens ⟨value, ahead⟩
      exact more key value ahead
    · exact more key (fun _ => .same _) ahead
  · exact .pure ⟨⟨[], by simp, rfl⟩, behind.ahead (by simp)⟩

theorem uniform_flowValue {ends : List Token} (known : Known)
    (other : ∀ text, .scalar .doubleQuoted text ∉ ends) (ahead : Ahead tokens) :
    Uniform (fun _ => flowValue ends (fuel + 1)) known tokens Content := by
  rw [flowValue]
  refine .accept ahead (fun tokens behind => ?_) (.pure ⟨fun _ => .same _, ahead⟩)
  exact uniform_value steady _ _ _ other behind

theorem uniform_flowItem (known : Known) (ahead : Ahead tokens) :
    Uniform (fun _ => flowItem fuel) known tokens Passing := by
  have more {known : Known} {tokens : String → List Token} (ahead : Ahead tokens)
      (item : String → Node) :
      Uniform (fun text => do return item text :: (← flowItems false fuel)) known tokens Passing :=
    .bind (steady.flowItems _ _ _ ahead) fun _ _ _ ahead => .pure ahead
  unfold flowItem
  refine .accept ahead (fun tokens behind => ?_) (.accept ahead (fun tokens behind => ?_) ?_)
  · have ahead := behind.ahead (by simp)
    refine .atAny ahead fun missing => ?_
    cases missing with
    | true =>
      -- a dropped token for a value may leave the slot next, but nothing is put together then
      refine .drop ahead fun tokens left => ?_
      simp only [pure_bind]
      obtain ahead | ⟨later, rfl⟩ := left
      · refine .bind (steady.flowValue _ _ _ (by simp) ahead) ?_
        rintro content known tokens ⟨-, ahead⟩
        exact more ahead fun text => .mapping none [(.absent, content text)]
      · refine .bind (steady.flowValue_facing _ _ _) ?_
        rintro content known _ rfl
        exact .bind (steady.flowItems_facing _ _) fun _ _ _ ahead => .pure ahead
    | false =>
      refine .bind (steady.node _ _ _ _ ahead) ?_
      rintro name known tokens ⟨-, ahead⟩
      refine .bind (steady.flowValue _ _ _ (by simp) ahead) ?_
      rintro content known tokens ⟨-, ahead⟩
      exact more ahead fun text => .mapping none [(name text, content text)]
  · exact .pure (behind.ahead (by simp))
  · refine .bind (steady.node _ _ _ _ ahead) ?_
    rintro item known tokens ⟨-, ahead⟩
    exact more ahead item

theorem uniform_flowItems (first : Bool) (known : Known) (ahead : Ahead tokens) :
    Uniform (fun _ => flowItems first (fuel + 1)) known tokens Passing := by
  rw [flowItems_succ]
  refine .accept ahead (fun tokens behind => .pure (behind.ahead (by simp))) ?_
  cases first with
  | true => exact uniform_flowItem steady _ ahead
  | false =>
    refine .accept ahead (fun tokens behind => ?_) .failure
    exact uniform_flowItem steady _ (behind.ahead (by simp))

omit steady in
theorem uniform_flowValue_facing (ends : List Token) (known : Known) (later : List Token) :
    Uniform (fun _ => flowValue ends (fuel + 1)) known (facing later)
      fun _ _ tokens => tokens = facing later := by
  rw [flowValue]
  exact .accept_facing (by simp) (.pure rfl)

omit steady in
theorem uniform_flowItems_facing (known : Known) (later : List Token) :
    Uniform (fun _ => flowItems false (fuel + 1)) known (facing later) Passing := by
  rw [flowItems]
  exact .accept_facing (by simp) (.accept_facing (by simp) .failure)

theorem uniform_flowEntry (known : Known) (ahead : Ahead tokens) :
    Uniform (fun _ => flowEntry fuel) known tokens Entries := by
  have more {name content : String → Node} (key : Varies name) (value : content ≠ slot → Varies content)
      {known : Known} {tokens : String → List Token} (ahead : Ahead tokens) :
      Uniform (fun text => do return (name text, content text) :: (← flowEntries false fuel)) known
        tokens Entries := by
    refine .bind (steady.flowEntries _ _ _ ahead) ?_
    rintro _ known tokens ⟨⟨entries, varies, rfl⟩, ahead⟩
    exact .pure ⟨⟨(name, content) :: entries, List.forall_mem_cons.mpr ⟨⟨key, value⟩, varies⟩, rfl⟩,
      ahead⟩
  unfold flowEntry
  refine .accept ahead (fun tokens behind => ?_) (.accept ahead (fun tokens behind => ?_) ?_)
  · refine .bind (steady.nodeBefore _ _ _ _ _ (behind.ahead (by simp))) ?_
    rintro name known tokens ⟨key, ahead⟩
    refine .bind (steady.flowValue _ _ _ (by simp) ahead) ?_
    rintro content known tokens ⟨value, ahead⟩
    exact more key value ahead
  · exact .pure ⟨⟨[], by simp, rfl⟩, behind.ahead (by simp)⟩
  · refine .bind (steady.node _ _ _ _ ahead) ?_
    rintro name known tokens ⟨key, ahead⟩
    exact more key (fun _ => .same _) ahead

theorem uniform_flowEntries (first : Bool) (known : Known) (ahead : Ahead tokens) :
    Uniform (fun _ => flowEntries first (fuel + 1)) known tokens Entries := by
  rw [flowEntries_succ]
  refine .accept ahead (fun tokens behind => .pure ⟨⟨[], by simp, rfl⟩, behind.ahead (by simp)⟩) ?_
  cases first with
  | true => exact uniform_flowEntry steady _ ahead
  | false =>
    refine .accept ahead (fun tokens behind => ?_) .failure
    exact uniform_flowEntry steady _ (behind.ahead (by simp))

theorem steady_succ : Steady (fuel + 1) where
  node _ _ _ _ ahead := uniform_node steady _ _ _ ahead
  node_facing _ _ _ _ := uniform_node_facing _ _ _ _
  nodeBefore _ _ _ _ _ ahead := uniform_nodeBefore steady _ _ _ _ ahead
  nodeBefore_facing _ _ _ _ _ other := uniform_nodeBefore_facing steady _ _ _ _ other
  blockItems _ _ ahead := uniform_blockItems steady _ ahead
  unindentedItems _ _ ahead := uniform_unindentedItems steady _ ahead
  blockEntries _ _ ahead := uniform_blockEntries steady _ ahead
  flowValue _ _ _ other ahead := uniform_flowValue steady _ other ahead
  flowValue_facing _ _ _ := uniform_flowValue_facing _ _ _
  flowItems _ _ _ ahead := uniform_flowItems steady _ _ ahead
  flowItems_facing _ _ := uniform_flowItems_facing _ _
  flowEntries _ _ _ ahead := uniform_flowEntries steady _ _ ahead

end

theorem steady (fuel : Nat) : Steady fuel := by
  induction fuel with
  | zero => exact steady_zero
  | succ fuel ih => exact steady_succ ih

/-! ## Documents -/

theorem uniform_get {rest : Composing → String → Composer α}
    (uniform : Uniform (fun text => rest (known.before tokens text) text) known tokens outcome) :
    Uniform (fun text => get >>= fun s => rest s text) known tokens outcome :=
  .of_run _ _ _ (fun _ => rfl) uniform

theorem uniform_directives (versioned : Bool) (handles : List TagHandle) (fuel : Nat)
    (ahead : Ahead tokens) : Uniform (fun _ => directives versioned handles fuel) known tokens Fixed := by
  have done {known : Known} {tokens : String → List Token} (ahead : Ahead tokens) (versioned : Bool)
      (handles : List TagHandle) :
      Uniform (fun _ => do
        modify fun s => { s with handles := handles ++ standardHandles }
        return versioned || !handles.isEmpty) known tokens Fixed :=
    .of_run { known with handles := handles ++ standardHandles } tokens
      (fun _ => Pure.pure (versioned || !handles.isEmpty)) (fun _ => rfl)
      (.pure ⟨⟨_, rfl⟩, ahead⟩)
  induction fuel generalizing versioned handles known tokens with
  | zero => exact .failure
  | succ fuel ih =>
    rw [directives]
    obtain rfl | ⟨token, rest, rfl, behind⟩ := ahead.cases
    · exact .peek_nil (done ahead versioned handles)
    · refine .peek_cons ?_
      cases token with
      | directive said =>
        have left := behind.ahead (by simp)
        cases said with
        | version major minor =>
          dsimp only
          split
          · exact .failure_bind
          · exact .drop_cons (ih _ _ left)
        | tag handle =>
          dsimp only
          split
          · exact .failure_bind
          · exact .drop_cons (ih _ _ left)
      | _ => exact done ahead versioned handles

/-- The documents for the root, and for the nodes that are known to have anchors. -/
def Known.draft (known : Known) {root : String → Node} (varies : Varies root) : Draft where
  root := root
  anchored id := do known.finished.lookup (← known.begun.lookup id)
  root_varies := varies
  anchored_varies := by
    intro id node member
    obtain ⟨before, -, found⟩ := Option.bind_eq_some_iff.mp member
    obtain ⟨earlier, later, parts, -⟩ := List.lookup_eq_some_iff.mp found
    exact known.varies (before, node) (by simp [parts])

theorem Known.filled_draft (known : Known) {root : String → Node} (varies : Varies root)
    (tokens : String → List Token) (text : String) : (known.draft varies).filled text =
      ⟨root text, fun id => do
        (known.before tokens text).finished.lookup (← (known.before tokens text).begun.lookup id)⟩ := by
  simp only [Draft.filled, Known.draft, Known.before, lookup_filled, Document.mk.injEq, true_and]
  funext id
  cases known.begun.lookup id <;> rfl

/-- A document is put together from its root and the nodes that are known to have anchors. -/
def Drafted : Outcome Document := fun documents _ _ => ∃ draft : Draft, documents = draft.filled

theorem uniform_ended (ahead : Ahead tokens) {root : String → Node} (varies : Varies root) :
    Uniform (fun text => ended (root text)) known tokens Drafted := by
  have left := ahead.dropWhile (p := (· = .documentEnd)) (by simp)
  refine .of_run known (fun text => (tokens text).dropWhile (· = .documentEnd))
    (fun text => do
      unless (← peek).isNone do failure
      let s ← get
      return (⟨root text, fun id => do s.finished.lookup (← s.begun.lookup id)⟩ : Document))
    (fun _ => rfl) ?_
  generalize (fun text => (tokens text).dropWhile (· = .documentEnd)) = tokens at left
  obtain rfl | ⟨token, rest, rfl, behind⟩ := left.cases
  · refine .peek_nil (uniform_get ?_)
    simp only [← known.filled_draft varies]
    exact .pure ⟨known.draft varies, rfl⟩
  · exact .peek_cons .failure_bind

theorem uniform_rooted (directed marked : Bool) (fuel : Nat) (ahead : Ahead tokens) :
    Uniform (fun _ => rooted directed marked fuel) known tokens Drafted := by
  unfold rooted
  dsimp only
  split
  · exact .failure_bind
  · obtain rfl | ⟨token, rest, rfl, behind⟩ := ahead.cases
    · exact .peek_nil (uniform_ended ahead (.same _))
    · refine .peek_cons ?_
      cases token with
      | directive said => exact uniform_ended ahead (.same _)
      | documentStart => exact uniform_ended ahead (.same _)
      | documentEnd =>
        dsimp only
        split
        · exact uniform_ended ahead (.same _)
        · exact .failure_bind
      | _ =>
        refine .bind ((steady fuel).node _ _ _ _ ahead) ?_
        rintro root known tokens ⟨varies, ahead⟩
        exact uniform_ended ahead varies

theorem uniform_document (ahead : Ahead tokens) :
    Uniform (fun _ => document) known tokens Drafted := by
  obtain ⟨n, length⟩ := ahead.exists_length
  rw [document_eq]
  refine uniform_get ?_
  simp only [Known.before, length]
  obtain rfl | ⟨token, rest, rfl, behind⟩ := ahead.cases
  · exact .peek_nil (.pure ⟨⟨fun _ => .absent, fun _ => none, .same _, by simp⟩, rfl⟩)
  · refine .peek_cons (.bind (uniform_directives _ _ _ ahead) ?_)
    rintro _ known tokens ⟨⟨directed, rfl⟩, ahead⟩
    refine .accept ahead (fun tokens behind => ?_) (uniform_rooted _ _ _ ahead)
    exact uniform_rooted _ _ _ (behind.ahead (by simp))

end Composing

/-- What is put together as a document with some text in the slot is one with every text in it. -/
theorem exists_draft (earlier later : List Token) {base : String} {found : Document}
    (composed : (Composing.document.run
      ⟨earlier ++ .value :: facing later base, [], [], [], []⟩).map (·.1) = some found) :
    ∃ draft : Draft, ∀ text, (Composing.document.run
      ⟨earlier ++ .value :: facing later text, [], [], [], []⟩).map (·.1) = some (draft.filled text) := by
  have ahead : Ahead fun text => earlier ++ .value :: facing later text := by
    clear composed
    induction earlier with
    | nil => exact .next later
    | cons token earlier ih => exact .later token ih
  obtain ⟨result, ran, rfl⟩ := Option.map_eq_some_iff.mp composed
  have uniform : Composing.Uniform (fun _ => Composing.document) ⟨[], [], [], [], by simp⟩ _
      Composing.Drafted := Composing.uniform_document ahead
  obtain ⟨documents, known, tokens, runs, draft, rfl⟩ := uniform base result ran
  exact ⟨draft, fun text => Option.map_eq_some_iff.mpr ⟨_, runs text, rfl⟩⟩

end BearerAuth.Yaml
