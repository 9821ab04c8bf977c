import BearerAuth.CommandLine.Help
import BearerAuth.CommandLine.Options

/-! # What the command line asks for

The tool hashes passwords, issues and inspects tokens, and checks configurations.
-/

namespace BearerAuth.CommandLine

inductive Command where
  | hashPassword (plaintext : String)
  | issue (userId clientType : String)
  | inspect (token : String)
  | checkConfig
deriving DecidableEq, Repr

/-- A command, and the configuration file to use if one is named. -/
structure Invocation where
  config : Option String
  command : Command
deriving DecidableEq, Repr

def commands : List String := ["hash-password", "issue", "inspect", "check-config", "help"]

/-- What stands before the command. -/
def topGrammar : Grammar := ⟨none, [("config", some 'c')], 0, commands⟩

/-- What each command takes. -/
def grammarOf (name : String) : Grammar :=
  match name with
  | "hash-password" | "inspect" => ⟨some name, [], 1, []⟩
  | "issue" => ⟨some name, [("user", none), ("client", none)], 0, []⟩
  | _ => ⟨some name, [], 0, []⟩

/-- The command of that name with what it was given. -/
def command (name : String) (taken : Taken) : Except Stop Command :=
  match name, taken.positions with
  | "hash-password", [plaintext] => .ok (.hashPassword plaintext)
  | "inspect", [token] => .ok (.inspect token)
  | "issue", _ =>
    match taken.values.lookup "user" with
    | some userId => .ok (.issue userId ((taken.values.lookup "client").getD "WEB"))
    | none => .error (.usage "--user was not provided")
  | "check-config", _ => .ok .checkConfig
  | _, _ => .error (.usage ("unrecognized command " ++ name))

/-- Help on the whole tool or on one command. -/
def helpOn : List String → Stop
  | [] => .help none
  | [name] =>
    if commands.contains name then .help (some name)
    else .usage ("unrecognized command " ++ name)
  | _ => .usage "unrecognized command"

/-- Reads the arguments. The configuration file may also be named by a variable, whose value has to
be text; an option overrides it. -/
def parse (args : List String) (preset : Option (Option String)) : Except Stop Invocation := do
  let (top, rest) ← topGrammar.read none ⟨[], []⟩ args
  match rest with
  | [] => throw (.usage "a command is required")
  | "help" :: names => throw (helpOn names)
  | name :: args =>
    let command ← command name (← (grammarOf name).readAll args)
    match top.values.lookup "config", preset with
    | some path, _ => return ⟨some path, command⟩
    | none, none => return ⟨none, command⟩
    | none, some (some path) => return ⟨some path, command⟩
    | none, some none => throw (.usage (configVariable ++ " is not text"))

end BearerAuth.CommandLine
