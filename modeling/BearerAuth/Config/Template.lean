/-! # References to the environment in configuration text

`${NAME}` in a configuration text stands for the value of an environment variable. A reference
to a variable that is not set stays as it is, and values that are put in are not looked at again.
-/

namespace BearerAuth.Config

/-- The values of the environment variables that are set. -/
abbrev Environment := String → Option String

namespace Environment

/-- The environment of a process: `name=value` entries, of which the first that begins with the
sought name and an equals sign counts. -/
def ofEntries (entries : List (String × String)) : Environment := fun name =>
  if name.isEmpty || name.toList.contains '\x00' then none
  else
    entries.findSome? fun entry =>
      ((name ++ "=").toList.isPrefixOf? (entry.1 ++ "=" ++ entry.2).toList).map String.ofList

end Environment

/-- A part of a configuration text. -/
inductive Piece where
  | char (c : Char)
  | reference (name : List Char)
deriving DecidableEq, Repr

/-- What stands before the first closing brace, if there is one. -/
def beforeBrace : List Char → Option (List Char)
  | [] => none
  | c :: rest => if c = '}' then some [] else (beforeBrace rest).map (c :: ·)

/-- The name in the reference that the text begins with. It has at least one character and reaches
to the first closing brace. -/
def referenceAt? : List Char → Option (List Char)
  | '$' :: '{' :: opened => (beforeBrace opened).filter (!·.isEmpty)
  | _ => none

/-- The parts of a text from left to right, of which the first `taken` characters belong to a
reference before it. -/
def piecesFrom (taken : Nat) : List Char → List Piece
  | [] => []
  | c :: rest =>
    match taken with
    | taken + 1 => piecesFrom taken rest
    | 0 =>
      match referenceAt? (c :: rest) with
      | some name => .reference name :: piecesFrom (name.length + 2) rest
      | none => .char c :: piecesFrom 0 rest

/-- The parts of a text. -/
def pieces (text : String) : List Piece := piecesFrom 0 text.toList

/-- What a part becomes. A reference to a variable that is not set stays. -/
def Piece.expand (env : Environment) : Piece → List Char
  | char c => [c]
  | reference name =>
    match env (String.ofList name) with
    | some value => value.toList
    | none => '$' :: '{' :: name ++ ['}']

/-- Replaces the references in a text. -/
def expand (env : Environment) (text : String) : String :=
  String.ofList ((pieces text).flatMap (Piece.expand env))

/-- The names of the variables that a text refers to. -/
def references (text : String) : List String :=
  (pieces text).filterMap fun piece =>
    match piece with
    | .char _ => none
    | .reference name => some (String.ofList name)

end BearerAuth.Config
