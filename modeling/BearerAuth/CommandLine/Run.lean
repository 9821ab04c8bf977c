import BearerAuth.Cache.Choice
import BearerAuth.CommandLine.Invocation
import BearerAuth.Config.Describe
import BearerAuth.Config.FromEnvironment
import BearerAuth.Config.FromYaml
import BearerAuth.Entropy
import BearerAuth.Password.Basic
import BearerAuth.Token.Json

/-! # What the command line does

A run ends in a report: what to print, what to say on the side, and how to exit. Everything it needs
from outside is given to it.
-/

namespace BearerAuth.CommandLine

open BearerAuth.Time BearerAuth.Json

/-- What the tool finds outside. -/
structure Outside where
  env : Config.Environment
  /-- What the configuration file holds, or why it cannot be read. -/
  file : Except String (List UInt8)
  now : Instant
  /-- Random bytes, one draw after the other. -/
  draw : Nat → List UInt8
  /-- Whether the cache server of a configuration can be used. -/
  connect : RemoteConfig → Except CacheError Unit

structure Report where
  output : String
  notices : String
  exitCode : Nat
deriving DecidableEq, Repr

/-- Why a run came to nothing, and what lay behind it. -/
structure Trouble where
  message : String
  cause : Option String
deriving DecidableEq, Repr

namespace Trouble

def ofAuthError (e : AuthError) : Trouble := ⟨e.message, none⟩

def ofConfigError (step : String) (e : Config.Error) : Trouble := ⟨step, some e.message⟩

/-- The trouble in print; the cause stands below it, indented. -/
def text (t : Trouble) : String :=
  match t.cause with
  | none => "Error: " ++ t.message ++ "\n"
  | some cause => "Error: " ++ t.message ++ "\n\nCaused by:\n    " ++ Config.indented cause ++ "\n"

end Trouble

/-- What to print when nothing is to be done. -/
def Stop.report (preset : String) : Stop → Report
  | usage reason => ⟨"", "error: " ++ reason ++ "\n\nFor more information, try '--help'.\n", 2⟩
  | version => ⟨CommandLine.version, "", 0⟩
  | help none => ⟨toolHelp preset, "", 0⟩
  | help (some name) => ⟨commandHelp name, "", 0⟩

/-- Says on the side where the configuration comes from. -/
def sourceNotice : Option String → String
  | some path => "Loading configuration from file: " ++ path ++ "\n"
  | none => "Loading configuration from environment variables\n"

/-- The configuration, which has to pass the check. -/
def loadConfig (config : Option String) (o : Outside) : Except Trouble Config := do
  let loaded := match config with
    | some _ => Config.ofFile o.env o.file
    | none => Config.ofEnvironment o.env
  let c ← loaded.mapError (Trouble.ofConfigError "Failed to load config")
  c.validate.mapError (Trouble.ofConfigError "Invalid configuration")
  return c

/-- A pair of tokens for a user. -/
def issued (c : Config) (o : Outside) (userId clientType : String) : Except Trouble String := do
  let pair ← (Token.issuePair (Entropy.uuid (o.draw 0)) (Entropy.uuid (o.draw 1)) userId
    ⟨clientType⟩ c.tokenConfig o.now).mapError Trouble.ofAuthError
  return pair.toJson.pretty ++ "\n"

/-- What there is to say about a raw token, and whether it was rejected. -/
def inspected (c : Config) (o : Outside) (raw : String) : String × Except Trouble Unit :=
  match Token.validate raw c.tokens.secret o.now with
  | .ok claims =>
    let report := Value.ofMembers [("valid", .bool true),
      ("claims", .ofMembers [("jti", .string claims.tokenId), ("uid", .string claims.userId),
        ("exp", .whole claims.expiry)]),
      ("expires_at", .optionalTime (claims.expiresAt?.map Timestamp.ofInstant))]
    (report.pretty ++ "\n", .ok ())
  | .error e =>
    let reason := match e.unauthorizedReason? with
      | some reason => reason.text
      | none => e.message
    let report := Value.ofMembers [("valid", .bool false), ("reason", .string reason),
      ("expired", .bool e.isExpired)]
    (report.pretty ++ "\n", .error ⟨"token rejected: " ++ reason, none⟩)

/-- A configuration that can be used. -/
def checked (c : Config) (o : Outside) : Except Trouble String := do
  let _ ← (CacheChoice.ofConfig c.cache o.connect).mapError fun e =>
    ⟨"Failed to initialize session cache", some e.message⟩
  return c.describe ++ "\nconfiguration is valid\n"

/-- Does what a command asks for. -/
def Invocation.run (i : Invocation) (o : Outside) : Report :=
  let printed (notices : String) (text : Except Trouble String) : Report :=
    match text with
    | .ok text => ⟨text, notices, 0⟩
    | .error trouble => ⟨"", notices ++ trouble.text, 1⟩
  match i.command with
  | .hashPassword plaintext =>
    printed "" (match Password.store plaintext (o.draw 0) with
      | .ok stored => .ok (stored.toText ++ "\n")
      | .error e => .error (.ofAuthError e))
  | command =>
    let notices := sourceNotice i.config
    match loadConfig i.config o with
    | .error trouble => printed notices (.error trouble)
    | .ok c =>
      match command with
      | .issue userId clientType => printed notices (issued c o userId clientType)
      | .inspect raw =>
        match inspected c o raw with
        | (text, .ok _) => ⟨text, notices, 0⟩
        | (text, .error trouble) => ⟨text, notices ++ trouble.text, 1⟩
      | _ => printed notices (checked c o)

/-- The whole tool: reads the arguments and does what they ask for. -/
def run (args : List String) (preset : Option (Option String)) (o : Outside) : Report :=
  match parse args preset with
  | .ok i => i.run o
  | .error stop => stop.report ((preset.bind id).getD "")

end BearerAuth.CommandLine
