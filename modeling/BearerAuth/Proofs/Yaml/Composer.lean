import BearerAuth.Yaml.Node

/-! # Parts of the composer

What a node holds is put together apart from its anchor and its tag, and what stands between two commas apart from
the commas. With these parts named, each function of the composer is a short program.
-/

namespace BearerAuth.Yaml.Composing

/-- The node that an alias stands for. -/
def aliased (name : List Char) : Composer Node := do
  drop
  match (← get).names.lookup name with
  | some id => return .alias id
  | none => failure

/-- What stands behind the anchor and the tag of a node. -/
def content (inBlock unindented anchored : Bool) (tag : Option Tag) (fuel : Nat) : Composer Node := do
  match ← peek with
  | some (.scalar style text) =>
    drop
    return .scalar (scalarTag tag) style (String.ofList text)
  | some .flowSequenceStart =>
    drop
    return .sequence tag (← flowItems true fuel)
  | some .flowMappingStart =>
    drop
    return .mapping tag (← flowEntries true fuel)
  | some .blockEntry =>
    if unindented then return .sequence tag (← unindentedItems fuel)
    else if anchored ∨ tag.isSome then return .scalar tag .plain ""
    else failure
  | next =>
    if inBlock ∧ next = some .blockSequenceStart then
      drop
      return .sequence tag (← blockItems fuel)
    else if inBlock ∧ next = some .blockMappingStart then
      drop
      return .mapping tag (← blockEntries fuel)
    else if anchored ∨ tag.isSome then return .scalar tag .plain ""
    else failure

/-- A node that is no alias. -/
def propertied (inBlock unindented : Bool) (fuel : Nat) : Composer Node := do
  let (anchor, tag) ← properties
  anchoring anchor (content inBlock unindented anchor.isSome tag fuel)

theorem node_succ (inBlock unindented : Bool) (fuel : Nat) :
    node inBlock unindented (fuel + 1) = (do
      match ← peek with
      | some (.alias name) => aliased name
      | _ => propertied inBlock unindented fuel) := by
  rw [node]
  refine bind_congr fun next => ?_
  cases next with
  | none => rfl
  | some token => cases token <;> rfl

/-- An entry of a block, behind the token for its key, and what follows it. -/
def blockEntry (fuel : Nat) : Composer (List (Node × Node)) := do
  let name ← nodeBefore [.key, .value, .blockEnd] true true fuel
  let content ← if ← accept .value then nodeBefore [.key, .value, .blockEnd] true true fuel
    else pure .absent
  return (name, content) :: (← blockEntries fuel)

theorem blockEntries_succ (fuel : Nat) : blockEntries (fuel + 1) = (do
    if ← accept .key then blockEntry fuel
    else if ← accept .blockEnd then return []
    else failure) := rfl

/-- An item between brackets, or the closing bracket, behind the comma. -/
def flowItem (fuel : Nat) : Composer (List Node) := do
  if ← accept .key then
    let name ← if ← atAny [.value, .flowEntry, .flowSequenceEnd] then do drop; pure .absent
      else node false false fuel
    let content ← flowValue [.flowEntry, .flowSequenceEnd] fuel
    return .mapping none [(name, content)] :: (← flowItems false fuel)
  else if ← accept .flowSequenceEnd then return []
  else
    let item ← node false false fuel
    return item :: (← flowItems false fuel)

theorem flowItems_succ (first : Bool) (fuel : Nat) : flowItems first (fuel + 1) = (do
    if ← accept .flowSequenceEnd then return []
    if !first then
      unless ← accept .flowEntry do failure
    flowItem fuel) := rfl

/-- An entry between brackets, or the closing bracket, behind the comma. -/
def flowEntry (fuel : Nat) : Composer (List (Node × Node)) := do
  if ← accept .key then
    let name ← nodeBefore [.value, .flowEntry, .flowMappingEnd] false false fuel
    let content ← flowValue [.flowEntry, .flowMappingEnd] fuel
    return (name, content) :: (← flowEntries false fuel)
  else if ← accept .flowMappingEnd then return []
  else
    let name ← node false false fuel
    return (name, .absent) :: (← flowEntries false fuel)

theorem flowEntries_succ (first : Bool) (fuel : Nat) : flowEntries first (fuel + 1) = (do
    if ← accept .flowMappingEnd then return []
    if !first then
      unless ← accept .flowEntry do failure
    flowEntry fuel) := rfl

/-- The end of a document with that root. -/
def ended (root : Node) : Composer Document := do
  dropEnds
  unless (← peek).isNone do failure
  let s ← get
  return ⟨root, fun id => do s.finished.lookup (← s.begun.lookup id)⟩

/-- A document from its root on. -/
def rooted (directed marked : Bool) (fuel : Nat) : Composer Document := do
  if directed && !marked then failure
  let root ← match ← peek with
    | none | some (.directive _) | some .documentStart => pure .absent
    | some .documentEnd => if marked then pure .absent else failure
    | some _ => node true false fuel
  ended root

theorem document_eq : document = (do
    let fuel := 3 * (← get).tokens.length + 3
    if (← peek).isNone then return .empty
    let directed ← directives false [] fuel
    let marked ← accept .documentStart
    rooted directed marked fuel) := rfl

end BearerAuth.Yaml.Composing
