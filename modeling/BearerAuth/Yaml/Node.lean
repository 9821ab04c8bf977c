import BearerAuth.Yaml.Token

/-! # Nodes

Tokens make up one document. An alias stands for the node whose anchor it names, which may contain
the alias; so nodes are kept as they stand, and an alias is a number to be looked up in the
document.
-/

namespace BearerAuth.Yaml

/-- A part of a document. A tag is given in full, if there is one. -/
inductive Node where
  | scalar (tag : Option Tag) (style : Style) (text : String)
  | sequence (tag : Option Tag) (items : List Node)
  | mapping (tag : Option Tag) (entries : List (Node × Node))
  | alias (id : Nat)
deriving Repr, Inhabited

/-- The node that stands where nothing was written. -/
def Node.absent : Node := .scalar none .plain ""

/-- A document: its outermost node, and the nodes that aliases stand for. -/
structure Document where
  root : Node
  anchored : Nat → Option Node

/-- A text without any document. -/
def Document.empty : Document := ⟨.absent, fun _ => none⟩

/-- What is left to be put together, and the anchors so far. -/
structure Composing where
  tokens : List Token
  handles : List TagHandle
  /-- The number of each anchor name. A name that is given again gets a new number. -/
  names : List (List Char × Nat)
  /-- The number of each anchor and how many anchors began before it, the last one first. -/
  begun : List (Nat × Nat)
  /-- The nodes with anchors, each with how many anchors began before its own. -/
  finished : List (Nat × Node)

namespace Composing

abbrev Composer := StateT Composing Option

/-- The next token, which stays. -/
def peek : Composer (Option Token) := do return (← get).tokens.head?

/-- Drops the next token. -/
def drop : Composer Unit := modify fun s => { s with tokens := s.tokens.tail }

/-- Drops the next token if it is the given one. -/
def accept (token : Token) : Composer Bool := do
  if (← peek) = some token then
    drop
    return true
  else return false

/-- One of the tokens comes next. -/
def atAny (tokens : List Token) : Composer Bool := do return (← peek).any tokens.contains

/-- The full tag, by the handles of this document. -/
def fullTag (name : TagName) : Composer Tag := do
  if name.handle.isEmpty then return name.suffix
  match (← get).handles.find? (·.handle = name.handle) with
  | some known => return known.expansion ++ name.suffix
  | none => failure

/-- An anchor in front of a node. -/
def anchor? : Composer (Option (List Char)) := do
  match ← peek with
  | some (.anchor name) => drop; return some name
  | _ => return none

/-- A tag in front of a node. -/
def tag? : Composer (Option TagName) := do
  match ← peek with
  | some (.tag name) => drop; return some name
  | _ => return none

/-- The anchor and the tag of a node, in any order. -/
def properties : Composer (Option (List Char) × Option Tag) := do
  let first ← anchor?
  let name ← tag?
  let anchor ← match first, name with
    | none, some _ => anchor?
    | _, _ => pure first
  return (anchor, ← name.mapM fullTag)

/-- Gives an anchor to the node that `build` puts together. Its number is how many names there are
already, so a number may be given twice; then the anchor that began later counts. -/
def anchoring (anchor : Option (List Char)) (build : Composer Node) : Composer Node :=
  match anchor with
  | none => build
  | some name => do
    let s ← get
    let id := s.names.length
    let before := s.begun.length
    set { s with
      names := (name, id) :: s.names.filter (·.1 ≠ name)
      begun := (id, before) :: s.begun }
    let node ← build
    modify fun s => { s with finished := (before, node) :: s.finished }
    return node

/-- An exclamation mark alone says no more than that the node is what it looks like. -/
def scalarTag (tag : Option Tag) : Option Tag := if tag = some [0x21] then none else tag

mutual

/-- A node. Between brackets there are no blocks, and only the value of a key may be a sequence that
is not indented. -/
def node (inBlock unindented : Bool) : Nat → Composer Node
  | 0 => failure
  | fuel + 1 => do
    if let some (.alias name) ← peek then
      drop
      match (← get).names.lookup name with
      | some id => return .alias id
      | none => failure
    let (anchor, tag) ← properties
    anchoring anchor do
      match ← peek with
      | some (.scalar style text) =>
        drop
        return .scalar (scalarTag tag) style (String.ofList text)
      | some .flowSequenceStart =>
        drop
        return .sequence tag (← flowItems true fuel)
      | some .flowMappingStart =>
        drop
        return .mapping tag (← flowEntries true fuel)
      | some .blockEntry =>
        if unindented then return .sequence tag (← unindentedItems fuel)
        else if anchor.isSome ∨ tag.isSome then return .scalar tag .plain ""
        else failure
      | next =>
        if inBlock ∧ next = some .blockSequenceStart then
          drop
          return .sequence tag (← blockItems fuel)
        else if inBlock ∧ next = some .blockMappingStart then
          drop
          return .mapping tag (← blockEntries fuel)
        else if anchor.isSome ∨ tag.isSome then return .scalar tag .plain ""
        else failure

/-- A node, or nothing in front of one of the tokens. -/
def nodeBefore (ends : List Token) (inBlock unindented : Bool) : Nat → Composer Node
  | 0 => failure
  | fuel + 1 => do
    if ← atAny ends then return .absent else node inBlock unindented fuel

/-- The items of an indented sequence. -/
def blockItems : Nat → Composer (List Node)
  | 0 => failure
  | fuel + 1 => do
    if ← accept .blockEntry then
      let item ← nodeBefore [.blockEntry, .blockEnd] true false fuel
      return item :: (← blockItems fuel)
    else if ← accept .blockEnd then return []
    else failure

/-- The items of a sequence that is not indented. -/
def unindentedItems : Nat → Composer (List Node)
  | 0 => failure
  | fuel + 1 => do
    if ← accept .blockEntry then
      let item ← nodeBefore [.blockEntry, .key, .value, .blockEnd] true false fuel
      return item :: (← unindentedItems fuel)
    else return []

/-- The entries of an indented mapping. -/
def blockEntries : Nat → Composer (List (Node × Node))
  | 0 => failure
  | fuel + 1 => do
    if ← accept .key then
      let name ← nodeBefore [.key, .value, .blockEnd] true true fuel
      let content ← if ← accept .value then nodeBefore [.key, .value, .blockEnd] true true fuel
        else pure .absent
      return (name, content) :: (← blockEntries fuel)
    else if ← accept .blockEnd then return []
    else failure

/-- The value of a key between brackets, if there is one. -/
def flowValue (ends : List Token) : Nat → Composer Node
  | 0 => failure
  | fuel + 1 => do
    if ← accept .value then nodeBefore ends false false fuel else return .absent

/-- The items of a sequence between brackets. A key in it is a mapping of one entry; where that
key is missing, the token that follows counts for it. -/
def flowItems (first : Bool) : Nat → Composer (List Node)
  | 0 => failure
  | fuel + 1 => do
    if ← accept .flowSequenceEnd then return []
    if !first then
      unless ← accept .flowEntry do failure
    if ← accept .key then
      let name ← if ← atAny [.value, .flowEntry, .flowSequenceEnd] then do drop; pure .absent
        else node false false fuel
      let content ← flowValue [.flowEntry, .flowSequenceEnd] fuel
      return .mapping none [(name, content)] :: (← flowItems false fuel)
    else if ← accept .flowSequenceEnd then return []
    else
      let item ← node false false fuel
      return item :: (← flowItems false fuel)

/-- The entries of a mapping between brackets. -/
def flowEntries (first : Bool) : Nat → Composer (List (Node × Node))
  | 0 => failure
  | fuel + 1 => do
    if ← accept .flowMappingEnd then return []
    if !first then
      unless ← accept .flowEntry do failure
    if ← accept .key then
      let name ← nodeBefore [.value, .flowEntry, .flowMappingEnd] false false fuel
      let content ← flowValue [.flowEntry, .flowMappingEnd] fuel
      return (name, content) :: (← flowEntries false fuel)
    else if ← accept .flowMappingEnd then return []
    else
      let name ← node false false fuel
      return (name, .absent) :: (← flowEntries false fuel)

end

/-- Directives in front of a document: at most one for the version, which has to be known, and one
for each handle. The result says whether there were any. -/
def directives (versioned : Bool) (handles : List TagHandle) : Nat → Composer Bool
  | 0 => failure
  | fuel + 1 => do
    match ← peek with
    | some (.directive (.version major minor)) =>
      if versioned ∨ major ≠ 1 ∨ minor ≠ 1 ∧ minor ≠ 2 then failure
      drop
      directives true handles fuel
    | some (.directive (.tag handle)) =>
      if handles.any (·.handle = handle.handle) then failure
      drop
      directives versioned (handle :: handles) fuel
    | _ =>
      modify fun s => { s with handles := handles ++ standardHandles }
      return versioned || !handles.isEmpty

/-- Drops all marks for the end of a document. -/
def dropEnds : Composer Unit :=
  modify fun s => { s with tokens := s.tokens.dropWhile (· = .documentEnd) }

/-- The one document, which the text may mark or not. -/
def document : Composer Document := do
  let fuel := 3 * (← get).tokens.length + 3
  if (← peek).isNone then return .empty
  let directed ← directives false [] fuel
  let marked ← accept .documentStart
  if directed && !marked then failure
  let root ← match ← peek with
    | none | some (.directive _) | some .documentStart => pure .absent
    | some .documentEnd => if marked then pure .absent else failure
    | some _ => node true false fuel
  dropEnds
  unless (← peek).isNone do failure
  let s ← get
  return ⟨root, fun id => do s.finished.lookup (← s.begun.lookup id)⟩

end Composing

/-- The document in a text, which may not hold a second one. -/
def document? (text : String) : Option Document := do
  let tokens ← tokens? text.toList
  let (document, _) ← Composing.document.run ⟨tokens, [], [], [], []⟩
  return document

end BearerAuth.Yaml
