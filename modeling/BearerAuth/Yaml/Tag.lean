import BearerAuth.Text.Utf8
import BearerAuth.Yaml.Scalar

/-! # Tags

A tag names the type of a node, either as a whole or by a handle that a directive gives a beginning
for. Tags are bytes, since escapes in them may spell anything that has the shape of UTF-8.
-/

namespace BearerAuth.Yaml

/-- The full name of a type, as bytes. -/
abbrev Tag := List UInt8

/-- A tag as it stands in the text. -/
structure TagName where
  handle : List Char
  suffix : Tag
deriving DecidableEq, Repr

/-- A handle and what it stands for at the front of a tag. -/
structure TagHandle where
  handle : List Char
  expansion : Tag
deriving DecidableEq, Repr

/-- The common beginning of the types that every document knows. -/
def coreTag : Tag := Text.utf8 "tag:yaml.org,2002:"

/-- The handles that need no directive. -/
def standardHandles : List TagHandle := [⟨['!'], [0x21]⟩, ⟨['!', '!'], coreTag⟩]

/-- The character may stand in a tag; commas and brackets only in one that is set apart. -/
def isTagChar (setApart : Bool) (c : Char) : Bool :=
  isNameChar c || ";/?:@&=+$.!~*'()%".toList.contains c ||
    setApart && (c = ',' || c = '[' || c = ']')

/-- How many bytes a character takes that begins with this one. -/
def encodedWidth? (first : UInt8) : Option Nat :=
  if first &&& 0x80 = 0 then some 1
  else if first &&& 0xE0 = 0xC0 then some 2
  else if first &&& 0xF0 = 0xE0 then some 3
  else if first &&& 0xF8 = 0xF0 then some 4
  else none

/-- The byte in an escape of two hexadecimal digits, and what follows. -/
def escapedByte? : List Char → Option (UInt8 × List Char)
  | '%' :: high :: low :: rest => do
    let high ← Text.hexValue? high
    let low ← Text.hexValue? low
    some (UInt8.ofNat (high * 16 + low), rest)
  | _ => none

/-- The bytes after the first one of an escaped character. -/
def escapedBytes? : Nat → List Char → Option (Tag × List Char)
  | 0, rest => some ([], rest)
  | n + 1, chars => do
    let (byte, rest) ← escapedByte? chars
    if byte &&& 0xC0 = 0x80 then
      let (bytes, rest) ← escapedBytes? n rest
      some (byte :: bytes, rest)
    else none

/-- The bytes of an escaped character, and what follows. -/
def escapedChar? (chars : List Char) : Option (Tag × List Char) := do
  let (first, rest) ← escapedByte? chars
  let (bytes, rest) ← escapedBytes? ((← encodedWidth? first) - 1) rest
  some (first :: bytes, rest)

/-- The bytes of a tag as far as its characters reach, and the place after them. -/
def tagBytes (setApart : Bool) : Nat → Cursor → Option (Tag × Cursor)
  | 0, _ => none
  | fuel + 1, c =>
    match c.peek with
    | some char =>
      if !isTagChar setApart char then some ([], c)
      else if char = '%' then do
        let (bytes, rest) ← escapedChar? c.rest
        let (more, c) ← tagBytes setApart fuel (c.skip (c.rest.length - rest.length))
        some (bytes ++ more, c)
      else do
        let (more, c) ← tagBytes setApart fuel (c.skip 1)
        some (String.utf8EncodeChar char ++ more, c)
    | none => some ([], c)

/-- The bytes of a tag; a zero byte ends what counts of them. The last component says whether the
text had none at all. -/
def tagText (setApart : Bool) (c : Cursor) : Option (Tag × Cursor × Bool) := do
  let (bytes, after) ← tagBytes setApart (c.rest.length + 1) c
  some (bytes.takeWhile (· ≠ 0), after, after.offset = c.offset)

/-- A handle: an exclamation mark, and a name with another one if there is one. -/
def tagHandle (c : Cursor) : Option (List Char × Cursor) :=
  if c.isAt '!' then
    let (name, after) := (c.skip 1).takeWhile isNameChar
    if after.isAt '!' then some ('!' :: name ++ ['!'], after.skip 1) else some ('!' :: name, after)
  else none

/-- A tag in front of a node. A single exclamation mark is a tag of its own. -/
def tagName (inFlow : Bool) (c : Cursor) : Option (TagName × Cursor) := do
  let (name, c) ← if c.peekAt 1 = some '<' then do
      let (suffix, c, missing) ← tagText true (c.skip 2)
      if missing ∨ !c.isAt '>' then none
      some (⟨[], suffix⟩, c.skip 1)
    else do
      let (handle, c) ← tagHandle c
      if 1 < handle.length ∧ handle.getLast? = some '!' then
        let (suffix, c, missing) ← tagText false c
        if missing then none
        some (⟨handle, suffix⟩, c)
      else
        let (suffix, c, _) ← tagText false c
        let suffix := Text.utf8 (String.ofList handle.tail) ++ suffix
        some (if suffix.isEmpty then ⟨[], [0x21]⟩ else ⟨['!'], suffix⟩, c)
  if c.atGap ∨ inFlow ∧ c.isAt ',' then some (name, c) else none

/-! ## Directives -/

/-- What a line that begins with a percent sign says. -/
inductive Directive where
  | version (major minor : Nat)
  | tag (handle : TagHandle)
deriving DecidableEq, Repr

/-- A number of at most nine digits. -/
def versionNumber (c : Cursor) : Option (Nat × Cursor) :=
  let (digits, after) := c.takeWhile Char.isDigit
  if digits.isEmpty ∨ 9 < digits.length then none
  else some (digits.foldl (fun n d => n * 10 + (d.toNat - 48)) 0, after)

/-- What a directive for handles says, after its name. -/
def handleDirective (c : Cursor) : Option (TagHandle × Cursor) := do
  let (handle, c) ← tagHandle (c.skipWhile isBlank)
  if 1 < handle.length ∧ handle.getLast? ≠ some '!' ∨ !c.atBlank then none
  let (expansion, c, missing) ← tagText true (c.skipWhile isBlank)
  if missing ∨ !c.atGap then none
  some (⟨handle, expansion⟩, c)

/-- A directive, from its percent sign to the end of its line. -/
def directive (c : Cursor) : Option (Directive × Cursor) := do
  let (name, c) := (c.skip 1).takeWhile isNameChar
  if !c.atGap then none
  let (said, c) ← if name = "YAML".toList then do
      let (major, c) ← versionNumber (c.skipWhile isBlank)
      if !c.isAt '.' then none
      let (minor, c) ← versionNumber (c.skip 1)
      some (Directive.version major minor, c)
    else if name = "TAG".toList then do
      let (handle, c) ← handleDirective c
      some (.tag handle, c)
    else none
  some (said, ← c.endLine?)

end BearerAuth.Yaml
