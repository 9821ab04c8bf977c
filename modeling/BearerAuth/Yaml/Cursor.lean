/-! # A place in YAML text

Columns decide what belongs to what, and line breaks are folded, so a place in the text knows its
column and line besides what follows it. The end of the text counts as blank wherever a blank ends
something.
-/

namespace BearerAuth.Yaml

/-- The character ends a line. -/
def isBreak (c : Char) : Bool :=
  c = '\n' || c = '\r' || c = '\u0085' || c = '\u2028' || c = '\u2029'

/-- The character is a space or a tab. -/
def isBlank (c : Char) : Bool := c = ' ' || c = '\t'

/-- The character may stand in names of anchors and directives. -/
def isNameChar (c : Char) : Bool := c.isAlphanum || c = '_' || c = '-'

/-- The character may stand in a text at all. -/
def isAllowed (c : Char) : Bool :=
  let n := c.toNat
  n = 9 || n = 10 || n = 13 || (0x20 ≤ n && n ≤ 0x7E) || n = 0x85 || (0xA0 ≤ n && n ≤ 0xD7FF) ||
    (0xE000 ≤ n && n ≤ 0xFFFD) || 0x10000 ≤ n

/-- What follows, and where that is, counted from zero: in UTF-8 bytes from the start of the text, in
lines, and in characters of the line. -/
structure Cursor where
  rest : List Char
  offset : Nat
  line : Nat
  column : Nat
deriving Repr, DecidableEq

namespace Cursor

def ofChars (text : List Char) : Cursor := ⟨text, 0, 0, 0⟩

/-- The next character. -/
def peek (c : Cursor) : Option Char := c.rest.head?

/-- The character that many places ahead. -/
def peekAt (c : Cursor) (n : Nat) : Option Char := c.rest[n]?

/-- The next character is the given one. -/
def isAt (c : Cursor) (char : Char) : Bool := c.peek = some char

def atEnd (c : Cursor) : Bool := c.rest.isEmpty

def atBreak (c : Cursor) : Bool := c.peek.any isBreak

def atBlank (c : Cursor) : Bool := c.peek.any isBlank

/-- Nothing more follows on this line. -/
def atLineEnd (c : Cursor) : Bool := c.atEnd || c.atBreak

/-- A blank, a line break or the end of the text stands that many places ahead. -/
def gapAt (c : Cursor) (n : Nat) : Bool := (c.peekAt n).all fun char => isBlank char || isBreak char

/-- A blank, a line break or the end of the text follows. -/
def atGap (c : Cursor) : Bool := c.gapAt 0

/-- How many UTF-8 bytes the characters take. -/
def byteCount : List Char → Nat
  | [] => 0
  | char :: rest => char.utf8Size + byteCount rest

/-- Passes over characters of this line. -/
def skip (c : Cursor) (n : Nat) : Cursor :=
  ⟨c.rest.drop n, c.offset + byteCount (c.rest.take n), c.line, c.column + n⟩

/-- The characters of this line that satisfy the condition, and the place after them. -/
def takeWhile (c : Cursor) (p : Char → Bool) : List Char × Cursor :=
  let taken := c.rest.takeWhile p
  (taken, c.skip taken.length)

def skipWhile (c : Cursor) (p : Char → Bool) : Cursor := (c.takeWhile p).2

/-- Passes over one line break, if there is one. It leaves a line feed, unless it is one of the two
separators that stay what they are. -/
def takeBreak (c : Cursor) : List Char × Cursor :=
  match c.rest with
  | '\r' :: '\n' :: rest => (['\n'], ⟨rest, c.offset + 2, c.line + 1, 0⟩)
  | char :: rest =>
    if isBreak char then
      ([if char = '\u2028' ∨ char = '\u2029' then char else '\n'],
        ⟨rest, c.offset + char.utf8Size, c.line + 1, 0⟩)
    else ([], c)
  | [] => ([], c)

/-- Passes over blanks, a comment and the line break after them. Nothing else may follow. -/
def endLine? (c : Cursor) : Option Cursor :=
  let c := c.skipWhile isBlank
  let c := if c.isAt '#' then c.skipWhile (!isBreak ·) else c
  if c.atLineEnd then some c.takeBreak.2 else none

/-- Three such characters at the start of a line, with a gap after them, mark a document. -/
def marks (c : Cursor) (char : Char) : Bool :=
  c.column = 0 && [char, char, char].isPrefixOf c.rest && c.gapAt 3

/-- The start or the end of a document is marked here. -/
def atDocumentMark (c : Cursor) : Bool := c.marks '-' || c.marks '.'

end Cursor

end BearerAuth.Yaml
