/-! # Options on a command line

A command takes options with one value each, a number of arguments by position, and perhaps a
command of its own. Arguments are read from left to right, and the first one that settles the matter
does so: a fault, or a wish for the version or for help.
-/

namespace BearerAuth.CommandLine

/-- Why nothing is to be done. Help is wanted on one command or on the whole tool. -/
inductive Stop where
  | usage (reason : String)
  | version
  | help (command : Option String)
deriving DecidableEq, Repr

/-- What a command takes. -/
structure Grammar where
  /-- Its name, if it is not the tool itself. -/
  name : Option String
  /-- The long name of each option, and the letter it may have. -/
  options : List (String × Option Char)
  positions : Nat
  /-- The commands it leads to. -/
  commands : List String

/-- What was taken so far. -/
structure Taken where
  /-- The options and their values. -/
  values : List (String × String)
  positions : List String
deriving DecidableEq, Repr

namespace Grammar

variable (g : Grammar)

/-- The tool itself can tell its version. -/
def hasVersion : Bool := g.name.isNone

/-- Takes the value of an option, which may be given once. -/
def takeValue (t : Taken) (name value : String) : Except Stop Taken :=
  if t.values.any (·.1 = name) then
    .error (.usage ("--" ++ name ++ " cannot be used multiple times"))
  else .ok { t with values := t.values ++ [(name, value)] }

/-- Takes an argument by position. -/
def takePosition (t : Taken) (value : String) : Except Stop Taken :=
  if t.positions.length < g.positions then .ok { t with positions := t.positions ++ [value] }
  else .error (.usage ("unexpected argument " ++ value))

/-- All arguments by position. -/
def takePositions (t : Taken) (values : List String) : Except Stop Taken :=
  values.foldlM g.takePosition t

/-- The text before the first equals sign, and the text after it if there is one. -/
def splitValue (text : List Char) : String × Option String :=
  let name := text.takeWhile (· ≠ '=')
  match text.drop name.length with
  | [] => (String.ofList name, none)
  | _ :: value => (String.ofList name, some (String.ofList value))

/-- An argument after its two dashes: the option that still needs its value, if there is one. -/
def takeLong (t : Taken) (text : List Char) : Except Stop (Taken × Option String) :=
  let (name, value) := splitValue text
  if value.isNone ∧ name = "help" then .error (.help g.name)
  else if value.isNone ∧ name = "version" ∧ g.hasVersion then .error .version
  else if g.options.any (·.1 = name) then
    match value with
    | some value => do return (← takeValue t name value, none)
    | none => .ok (t, some name)
  else .error (.usage ("unexpected argument --" ++ name))

/-- An argument after its one dash: the option that still needs its value, if there is one. The
value may follow the letter at once or after an equals sign. -/
def takeShort (t : Taken) (text : List Char) : Except Stop (Taken × Option String) :=
  match text with
  | [] => .ok (t, none)
  | letter :: rest =>
    if letter = 'h' then .error (.help g.name)
    else if letter = 'V' ∧ g.hasVersion then .error .version
    else
      match g.options.find? (·.2 = some letter) with
      | none => .error (.usage ("unexpected argument -" ++ String.ofList [letter]))
      | some (name, _) =>
        match rest with
        | [] => .ok (t, some name)
        | '=' :: value => do return (← takeValue t name (String.ofList value), none)
        | value => do return (← takeValue t name (String.ofList value), none)

/-- Reads arguments, of which the first may be the value of the option `waiting`. The result is what
was taken, and the command that follows with its own arguments. -/
def read (waiting : Option String) (t : Taken) : List String → Except Stop (Taken × List String)
  | [] =>
    match waiting with
    | none => .ok (t, [])
    | some name => .error (.usage ("a value is required for --" ++ name))
  | arg :: rest =>
    let text := arg.toList
    match waiting with
    | some name =>
      if text.head? = some '-' ∧ 1 < text.length then
        .error (.usage ("a value is required for --" ++ name))
      else do read none (← takeValue t name arg) rest
    | none =>
      if g.commands.contains arg then .ok (t, arg :: rest)
      else
        match text with
        | ['-', '-'] => do return (← g.takePositions t rest, [])
        | '-' :: '-' :: text => do
          let (t, waiting) ← g.takeLong t text
          read waiting t rest
        | '-' :: letter :: text => do
          let (t, waiting) ← g.takeShort t (letter :: text)
          read waiting t rest
        | _ => do read none (← g.takePosition t arg) rest

/-- What a command without further commands takes from its arguments. All positions have to be
filled. -/
def readAll (args : List String) : Except Stop Taken := do
  let (t, _) ← g.read none ⟨[], []⟩ args
  if t.positions.length < g.positions then throw (.usage "required arguments were not provided")
  return t

end Grammar

end BearerAuth.CommandLine
