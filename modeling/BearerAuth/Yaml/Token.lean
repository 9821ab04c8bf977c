import BearerAuth.Yaml.Tag

/-! # Tokens

The scanner turns text into tokens in which the layout is explicit: indentation becomes the starts
and ends of blocks. A key is recognised only by the colon behind it, so the scanner remembers where
one may have begun and puts the missing tokens there afterwards.
-/

namespace BearerAuth.Yaml

inductive Token where
  | directive (said : Directive)
  | documentStart
  | documentEnd
  | blockSequenceStart
  | blockMappingStart
  | blockEnd
  | flowSequenceStart
  | flowSequenceEnd
  | flowMappingStart
  | flowMappingEnd
  | blockEntry
  | flowEntry
  | key
  | value
  | alias (name : List Char)
  | anchor (name : List Char)
  | tag (name : TagName)
  | scalar (style : Style) (text : List Char)
deriving DecidableEq, Repr

/-- A place where a key may have begun. -/
structure KeyStart where
  /-- How many tokens came before it. -/
  tokensBefore : Nat
  start : Cursor
  /-- Nothing but a key can stand there. -/
  required : Bool

/-- The longest key, in UTF-8 bytes. -/
def maxKeyLength : Nat := 1024

structure Scanner where
  cursor : Cursor
  /-- The tokens so far, the last one first. -/
  tokens : List Token
  /-- The columns of the open blocks, the innermost first. -/
  blocks : List Nat
  /-- Where a key may have begun between the innermost brackets. -/
  keyStart : Option KeyStart
  /-- Where keys may have begun around each open bracket, the innermost first. -/
  outerKeys : List (Option KeyStart)
  /-- A key may begin here. -/
  keyAllowed : Bool

namespace Scanner

def ofChars (text : List Char) : Scanner := ⟨.ofChars text, [], [], none, [], true⟩

/-- The place lies between brackets, where layout does not count. -/
def inFlow (s : Scanner) : Bool := !s.outerKeys.isEmpty

/-- The least column of what belongs to the innermost block. -/
def margin (s : Scanner) : Nat :=
  match s.blocks with
  | [] => 0
  | column :: _ => column + 1

def push (s : Scanner) (token : Token) : Scanner := { s with tokens := token :: s.tokens }

/-- Takes a token that is that many characters long. -/
def take (s : Scanner) (width : Nat) (token : Token) : Scanner :=
  { s.push token with cursor := s.cursor.skip width }

/-- Puts a token where only that many were before it. -/
def insert (s : Scanner) (tokensBefore : Nat) (token : Token) : Scanner :=
  let later := s.tokens.length - tokensBefore
  { s with tokens := s.tokens.take later ++ token :: s.tokens.drop later }

/-- Opens a block at the column if it lies deeper than the innermost one. -/
def openBlock (s : Scanner) (column tokensBefore : Nat) (start : Token) : Scanner :=
  if !s.inFlow ∧ s.margin ≤ column then
    { s.insert tokensBefore start with blocks := column :: s.blocks }
  else s

/-- Closes the blocks that satisfy the condition, from the innermost outwards. -/
def closeBlocks (s : Scanner) (deeper : Nat → Bool) : Scanner :=
  if s.inFlow then s
  else
    { s with
      tokens := (s.blocks.takeWhile deeper).map (fun _ => Token.blockEnd) ++ s.tokens
      blocks := s.blocks.dropWhile deeper }

/-- Gives up a key. That fails if nothing else could stand there. -/
def dropKey (s : Scanner) : Option Scanner :=
  if s.keyStart.any (·.required) then none else some { s with keyStart := none }

/-- Remembers this place as one where a key may begin. -/
def rememberKey (s : Scanner) : Option Scanner :=
  if s.keyAllowed then do
    let required := !s.inFlow && s.blocks.head? == some s.cursor.column
    some { ← s.dropKey with keyStart := some ⟨s.tokens.length, s.cursor, required⟩ }
  else some s

/-- The key could no longer end here: keys stay on one line and are not too long. -/
def isStale (c : Cursor) (key : KeyStart) : Bool :=
  key.start.line < c.line || key.start.offset + maxKeyLength < c.offset

/-- Gives up the keys that could not end here. -/
def dropStaleKeys (s : Scanner) : Option Scanner :=
  let stale (key : Option KeyStart) : Bool := key.any (isStale s.cursor)
  if (s.keyStart :: s.outerKeys).any fun key => stale key && key.any (·.required) then none
  else
    let keep (key : Option KeyStart) : Option KeyStart := if stale key then none else key
    some { s with keyStart := keep s.keyStart, outerKeys := s.outerKeys.map keep }

/-- Passes over blanks, comments and line breaks. In a block a tab may not stand where a key could
begin, and a key may begin after a line break. -/
def skipGaps : Nat → Scanner → Scanner
  | 0, s => s
  | fuel + 1, s =>
    let c := if s.cursor.column = 0 ∧ s.cursor.isAt '\uFEFF' then s.cursor.skip 1 else s.cursor
    let c := c.skipWhile fun char => char = ' ' || (s.inFlow || !s.keyAllowed) && char = '\t'
    let c := if c.isAt '#' then c.skipWhile (!isBreak ·) else c
    if c.atBreak then
      skipGaps fuel { s with cursor := c.takeBreak.2, keyAllowed := s.keyAllowed || !s.inFlow }
    else { s with cursor := c }

/-- Takes a token after which no key may begin. -/
def takeLast (s : Scanner) (width : Nat) (token : Token) : Scanner :=
  { s.take width token with keyAllowed := false }

/-- An opening bracket. -/
def openFlow (s : Scanner) (token : Token) : Option Scanner := do
  let s ← s.rememberKey
  some { s.take 1 token with
    keyStart := none, outerKeys := s.keyStart :: s.outerKeys, keyAllowed := true }

/-- A closing bracket. -/
def closeFlow (s : Scanner) (token : Token) : Option Scanner := do
  let s ← s.dropKey
  let s := s.takeLast 1 token
  match s.outerKeys with
  | [] => some s
  | key :: outer => some { s with keyStart := key, outerKeys := outer }

/-- A comma between brackets. -/
def flowEntry (s : Scanner) : Option Scanner := do
  some { (← s.dropKey).take 1 .flowEntry with keyAllowed := true }

/-- The dash of an item. -/
def blockEntry (s : Scanner) : Option Scanner := do
  if !s.inFlow ∧ !s.keyAllowed then none
  let s := s.openBlock s.cursor.column s.tokens.length .blockSequenceStart
  some { (← s.dropKey).take 1 .blockEntry with keyAllowed := true }

/-- The question mark of a key. -/
def explicitKey (s : Scanner) : Option Scanner := do
  if !s.inFlow ∧ !s.keyAllowed then none
  let s := s.openBlock s.cursor.column s.tokens.length .blockMappingStart
  some { (← s.dropKey).take 1 .key with keyAllowed := !s.inFlow }

/-- The colon of a value, which settles that what came before it is a key. -/
def value (s : Scanner) : Option Scanner :=
  match s.keyStart with
  | some key =>
    let s :=
      (s.insert key.tokensBefore .key).openBlock key.start.column key.tokensBefore
        .blockMappingStart
    some { s.takeLast 1 .value with keyStart := none }
  | none =>
    if !s.inFlow ∧ !s.keyAllowed then none
    else
      let s := s.openBlock s.cursor.column s.tokens.length .blockMappingStart
      some { s.take 1 .value with keyAllowed := !s.inFlow }

/-- A line that begins with a percent sign. -/
def directiveLine (s : Scanner) : Option Scanner := do
  let s ← (s.closeBlocks fun _ => true).dropKey
  let (said, c) ← directive s.cursor
  some { s.push (.directive said) with cursor := c, keyAllowed := false }

/-- The start or the end of a document. -/
def documentMark (s : Scanner) (token : Token) : Option Scanner := do
  some ((← (s.closeBlocks fun _ => true).dropKey).takeLast 3 token)

/-- The name of an anchor after its sign. -/
def anchorName (c : Cursor) : Option (List Char × Cursor) :=
  let (name, after) := c.takeWhile isNameChar
  if name.isEmpty then none
  else if after.atGap || after.peek.any "?:,]\x7d%@\x60".toList.contains then some (name, after)
  else none

/-- An anchor or an alias. -/
def named (s : Scanner) (token : List Char → Token) : Option Scanner := do
  let s ← s.rememberKey
  let (name, c) ← anchorName (s.cursor.skip 1)
  some { s.push (token name) with cursor := c, keyAllowed := false }

/-- A tag. -/
def tag (s : Scanner) : Option Scanner := do
  let s ← s.rememberKey
  let (name, c) ← tagName s.inFlow s.cursor
  some { s.push (.tag name) with cursor := c, keyAllowed := false }

/-- A block scalar, after which a key may begin. -/
def blockScalar (s : Scanner) (isLiteral : Bool) : Option Scanner := do
  let s ← s.dropKey
  let (text, c) ← block isLiteral s.margin s.cursor
  let style : Style := if isLiteral then .literal else .folded
  some { s.push (.scalar style text) with cursor := c, keyAllowed := true }

/-- A quoted scalar. -/
def quotedScalar (s : Scanner) (single : Bool) : Option Scanner := do
  let s ← s.rememberKey
  let (text, c) ← quoted single s.cursor
  let style : Style := if single then .singleQuoted else .doubleQuoted
  some { s.push (.scalar style text) with cursor := c, keyAllowed := false }

/-- A plain scalar. If it ends on a new line, a key may begin there. -/
def plainScalar (s : Scanner) : Option Scanner := do
  let s ← s.rememberKey
  let (text, broken, c) ← plain s.inFlow s.margin s.cursor
  some { s.push (.scalar .plain text) with cursor := c, keyAllowed := broken }

/-- The character has a meaning of its own at the start of a token, or may not stand there. -/
def isIndicator (c : Char) : Bool := isFlowIndicator c || "#&*!|>'\"%@\x60\t".toList.contains c

/-- The next token, which begins with the given character. -/
def token (s : Scanner) (char : Char) : Option Scanner :=
  let c := s.cursor
  if c.column = 0 ∧ char = '%' then s.directiveLine
  else if c.marks '-' then s.documentMark .documentStart
  else if c.marks '.' then s.documentMark .documentEnd
  else if char = '[' then s.openFlow .flowSequenceStart
  else if char = '\x7b' then s.openFlow .flowMappingStart
  else if char = ']' then s.closeFlow .flowSequenceEnd
  else if char = '\x7d' then s.closeFlow .flowMappingEnd
  else if char = ',' then s.flowEntry
  else if char = '-' ∧ c.gapAt 1 then s.blockEntry
  else if char = '?' ∧ (s.inFlow ∨ c.gapAt 1) then s.explicitKey
  else if char = ':' ∧ (s.inFlow ∨ c.gapAt 1) then s.value
  else if char = '*' then s.named .alias
  else if char = '&' then s.named .anchor
  else if char = '!' then s.tag
  else if char = '|' ∧ !s.inFlow then s.blockScalar true
  else if char = '>' ∧ !s.inFlow then s.blockScalar false
  else if char = '\'' then s.quotedScalar true
  else if char = '"' then s.quotedScalar false
  else if isIndicator char then none
  else s.plainScalar

/-- All tokens from here on. -/
def run : Nat → Scanner → Option (List Token)
  | 0, _ => none
  | fuel + 1, s => do
    let s ← (s.skipGaps (s.cursor.rest.length + 1)).dropStaleKeys
    match s.cursor.peek with
    | some char => run fuel (← (s.closeBlocks (s.cursor.column < ·)).token char)
    | none => some (← (s.closeBlocks fun _ => true).dropKey).tokens.reverse

end Scanner

/-- The tokens of a text. Every round of the scanner takes at least one character. -/
def tokens? (text : List Char) : Option (List Token) :=
  if text.all isAllowed then (Scanner.ofChars text).run (text.length + 1) else none

end BearerAuth.Yaml
