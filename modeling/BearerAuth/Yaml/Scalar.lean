import BearerAuth.Text.Hex
import BearerAuth.Yaml.Cursor

/-! # Scalars

Quoted, plain and block scalars, each from its first character on. Text that runs over several
lines is folded: one line break becomes a space, further ones stay. Every loop passes over at least
one character, so what is left of the text bounds its rounds.
-/

namespace BearerAuth.Yaml

/-- How a scalar was written. -/
inductive Style where
  | plain
  | singleQuoted
  | doubleQuoted
  | literal
  | folded
deriving DecidableEq, Repr

/-- Blanks and line breaks between two parts of a scalar. -/
structure Gap where
  /-- The gap runs over the end of a line. -/
  broken : Bool
  blanks : List Char
  /-- The first line break; nothing if that was escaped. -/
  first : List Char
  /-- The other line breaks. -/
  more : List Char

namespace Gap

def none : Gap := ⟨false, [], [], []⟩

/-- What the gap stands for once it is folded. -/
def folded (gap : Gap) : List Char :=
  if !gap.broken then gap.blanks
  else if gap.first = ['\n'] then (if gap.more.isEmpty then [' '] else gap.more)
  else gap.first ++ gap.more

end Gap

/-- Extends a gap by all blanks and breaks that follow. A tab left of `margin` on a new line is
refused. -/
def gapFrom (margin : Nat) : Nat → Gap → Cursor → Option (Gap × Cursor)
  | 0, _, _ => none
  | fuel + 1, gap, c =>
    if c.atBreak then
      let (ended, after) := c.takeBreak
      if gap.broken then gapFrom margin fuel { gap with more := gap.more ++ ended } after
      else gapFrom margin fuel { gap with broken := true, blanks := [], first := ended } after
    else
      match c.peek with
      | some char =>
        if isBlank char then
          if gap.broken then
            if char = '\t' ∧ c.column < margin then none else gapFrom margin fuel gap (c.skip 1)
          else gapFrom margin fuel { gap with blanks := gap.blanks ++ [char] } (c.skip 1)
        else some (gap, c)
      | none => some (gap, c)

/-! ## Quoted scalars -/

/-- What an escape of one character stands for. -/
def escaped? : Char → Option Char
  | '0' => some '\x00'
  | 'a' => some '\x07'
  | 'b' => some '\x08'
  | 't' | '\t' => some '\t'
  | 'n' => some '\n'
  | 'v' => some '\x0B'
  | 'f' => some '\x0C'
  | 'r' => some '\r'
  | 'e' => some '\x1B'
  | ' ' => some ' '
  | '"' => some '"'
  | '/' => some '/'
  | '\\' => some '\\'
  | 'N' => some '\u0085'
  | '_' => some '\u00A0'
  | 'L' => some '\u2028'
  | 'P' => some '\u2029'
  | _ => none

/-- How many hexadecimal digits follow the letter of an escape. -/
def escapeDigits : Char → Nat
  | 'x' => 2
  | 'u' => 4
  | 'U' => 8
  | _ => 0

/-- The character with that number in hexadecimal digits. -/
def ofHexDigits? (digits : List Char) : Option Char := do
  let values ← digits.mapM Text.hexValue?
  let n := values.foldl (fun n d => n * 16 + d) 0
  if n ≤ 0x10FFFF ∧ ¬(0xD800 ≤ n ∧ n ≤ 0xDFFF) then some (Char.ofNat n) else none

/-- An escape after its backslash: the character it stands for and how many it takes. -/
def escape? : List Char → Option (Char × Nat)
  | letter :: rest =>
    match escapeDigits letter with
    | 0 => (escaped? letter).map (·, 1)
    | digits =>
      if rest.length < digits then none
      else (ofHexDigits? (rest.take digits)).map (·, digits + 1)
  | [] => none

/-- The part of a quoted scalar up to a gap or its closing quote, and whether an escaped line break
ended it. -/
def quotedPart (single : Bool) : Nat → Cursor → Option (List Char × Bool × Cursor)
  | 0, _ => none
  | fuel + 1, c =>
    if c.atGap then some ([], false, c)
    else
      let onward (char : Char) (c : Cursor) : Option (List Char × Bool × Cursor) := do
        let (part, escapedBreak, c) ← quotedPart single fuel c
        some (char :: part, escapedBreak, c)
      match c.rest with
      | '\'' :: '\'' :: _ => onward '\'' (c.skip (if single then 2 else 1))
      | char :: rest =>
        if char = (if single then '\'' else '"') then some ([], false, c)
        else if single ∨ char ≠ '\\' then onward char (c.skip 1)
        else if rest.head?.any isBreak then some ([], true, (c.skip 1).takeBreak.2)
        else do
          let (char, width) ← escape? rest
          onward char (c.skip (width + 1))
      | [] => none

/-- The text of a quoted scalar, and the place after its closing quote. -/
def quotedTail (single : Bool) : Nat → Cursor → Option (List Char × Cursor)
  | 0, _ => none
  | fuel + 1, c => do
    if c.atDocumentMark ∨ c.atEnd then none
    let (part, escapedBreak, c) ← quotedPart single (fuel + 1) c
    if c.isAt (if single then '\'' else '"') then some (part, c.skip 1)
    else
      let (gap, c) ← gapFrom 0 (fuel + 1) { Gap.none with broken := escapedBreak } c
      let (rest, c) ← quotedTail single fuel c
      some (part ++ gap.folded ++ rest, c)

/-- A quoted scalar, from its opening quote on. -/
def quoted (single : Bool) (c : Cursor) : Option (List Char × Cursor) :=
  quotedTail single (c.rest.length + 1) (c.skip 1)

/-! ## Plain scalars -/

/-- The character ends a plain scalar between brackets, and none may begin with it. -/
def isFlowIndicator (c : Char) : Bool :=
  c = ',' || c = '[' || c = ']' || c = '\x7b' || c = '\x7d'

/-- The part of a plain scalar up to a gap or to what ends it. -/
def plainPart (inFlow : Bool) : Nat → Cursor → Option (List Char × Cursor)
  | 0, _ => none
  | fuel + 1, c =>
    if c.atGap then some ([], c)
    else
      match c.rest with
      | char :: rest =>
        if inFlow ∧ char = ':' ∧
            rest.head?.any (fun next => next = '?' || isFlowIndicator next) then none
        else if char = ':' ∧ c.gapAt 1 ∨ inFlow ∧ isFlowIndicator char then some ([], c)
        else do
          let (part, c) ← plainPart inFlow fuel (c.skip 1)
          some (char :: part, c)
      | [] => none

/-- The rest of a plain scalar after a gap, whether a line ended, and the place after it. -/
def plainTail (inFlow : Bool) (margin : Nat) :
    Nat → Gap → Cursor → Option (List Char × Bool × Cursor)
  | 0, _, _ => none
  | fuel + 1, gap, c =>
    if c.atDocumentMark ∨ c.isAt '#' then some ([], gap.broken, c)
    else do
      let (part, c) ← plainPart inFlow (fuel + 1) c
      if part.isEmpty then some ([], gap.broken, c)
      else if !c.atBlank && !c.atBreak then some (gap.folded ++ part, false, c)
      else
        let (next, c) ← gapFrom margin (fuel + 1) Gap.none c
        if !inFlow ∧ c.column < margin then some (gap.folded ++ part, next.broken, c)
        else
          let (rest, broken, c) ← plainTail inFlow margin fuel next c
          some (gap.folded ++ part ++ rest, broken, c)

/-- A plain scalar: its text, whether it ends on a new line, and the place after it. Outside
brackets it goes on as long as its lines reach the margin. -/
def plain (inFlow : Bool) (margin : Nat) (c : Cursor) : Option (List Char × Bool × Cursor) :=
  plainTail inFlow margin (c.rest.length + 1) Gap.none c

/-! ## Block scalars -/

/-- What becomes of the line breaks at the end of a block scalar. -/
inductive Chomp where
  | clip
  | strip
  | keep
deriving DecidableEq, Repr

/-- The header of a block scalar: its chomping and its indentation, in any order. -/
def blockHeader (c : Cursor) : Option (Chomp × Option Nat × Cursor) :=
  let chomp (c : Cursor) : Option (Chomp × Cursor) :=
    if c.isAt '+' then some (.keep, c.skip 1)
    else if c.isAt '-' then some (.strip, c.skip 1)
    else none
  let indentation (c : Cursor) : Option (Option Nat × Cursor) :=
    match c.peek with
    | some char =>
      if char = '0' then none
      else if char.isDigit then some (some (char.toNat - 48), c.skip 1)
      else some (none, c)
    | none => some (none, c)
  match chomp c with
  | some (ending, c) => do
    let (width, c) ← indentation c
    some (ending, width, c)
  | none => do
    let (width, c) ← indentation c
    if width.isNone then some (.clip, none, c)
    else
      match chomp c with
      | some (ending, c) => some (ending, width, c)
      | none => some (.clip, width, c)

/-- Empty lines and the indentation of the line after them: their line breaks, the deepest column
seen, and the place after them. Without a known indentation every space counts as such, and a tab
may not stand in it. -/
def blockBreaks (indent : Option Nat) : Nat → Nat → Cursor → Option (List Char × Nat × Cursor)
  | 0, _, _ => none
  | fuel + 1, deepest, c =>
    let spaces := (c.rest.takeWhile (· = ' ')).length
    let c := c.skip (match indent with
      | some n => min spaces (n - c.column)
      | none => spaces)
    let deepest := max deepest c.column
    if c.isAt '\t' ∧ indent.all (c.column < ·) then none
    else if c.atBreak then do
      let (ended, c) := c.takeBreak
      let (breaks, deepest, c) ← blockBreaks indent fuel deepest c
      some (ended ++ breaks, deepest, c)
    else some ([], deepest, c)

/-- The lines of a block scalar: the text so far, the break of the last line, whether that began
with a blank, and the breaks after it. -/
def blockLines (isLiteral : Bool) (chomp : Chomp) (indent : Nat) :
    Nat → List Char → List Char → Bool → List Char → Cursor → Option (List Char × Cursor)
  | 0, _, _, _, _, _ => none
  | fuel + 1, text, lastBreak, ledByBlank, breaks, c =>
    if c.column = indent ∧ !c.atEnd then do
      let folds := !isLiteral && lastBreak == ['\n'] && !ledByBlank && !c.atBlank
      let joint := if folds then (if breaks.isEmpty then [' '] else []) else lastBreak
      let (line, after) := c.takeWhile (!isBreak ·)
      let (lineBreak, after) := after.takeBreak
      let (next, _, after) ← blockBreaks (some indent) (fuel + 1) 0 after
      blockLines isLiteral chomp indent fuel (text ++ joint ++ breaks ++ line) lineBreak
        c.atBlank next after
    else
      match chomp with
      | .strip => some (text, c)
      | .clip => some (text ++ lastBreak, c)
      | .keep => some (text ++ lastBreak ++ breaks, c)

/-- A block scalar, from its indicator on. Its lines lie deeper than `margin`, the column of the
block around it plus one. -/
def block (isLiteral : Bool) (margin : Nat) (c : Cursor) : Option (List Char × Cursor) := do
  let (chomp, width, c) ← blockHeader (c.skip 1)
  let c ← c.endLine?
  let fuel := c.rest.length + 1
  match width with
  | some width =>
    let indent := margin - 1 + width
    let (breaks, _, c) ← blockBreaks (some indent) fuel 0 c
    blockLines isLiteral chomp indent fuel [] [] false breaks c
  | none =>
    let (breaks, deepest, c) ← blockBreaks none fuel 0 c
    blockLines isLiteral chomp (max deepest (max margin 1)) fuel [] [] false breaks c

end BearerAuth.Yaml
