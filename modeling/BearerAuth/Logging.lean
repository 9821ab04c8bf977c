import BearerAuth.Text.Lowercase

/-! # Log levels and formats

The names a configuration may give to them, in any case. Unknown names mean the default.
-/

namespace BearerAuth.Logging

inductive Level where
  | trace
  | debug
  | info
  | warn
  | error
deriving DecidableEq, Repr

namespace Level

def name : Level → String
  | trace => "TRACE"
  | debug => "DEBUG"
  | info => "INFO"
  | warn => "WARN"
  | error => "ERROR"

/-- The level of that name; the information level if there is none. -/
def ofName (name : String) : Level :=
  match Text.lower name with
  | "trace" => trace
  | "debug" => debug
  | "warn" | "warning" => warn
  | "error" => error
  | _ => info

end Level

inductive Format where
  | json
  | pretty
deriving DecidableEq, Repr

namespace Format

def name : Format → String
  | json => "Json"
  | pretty => "Pretty"

/-- The format of that name; JSON if there is none. -/
def ofName (name : String) : Format :=
  match Text.lower name with
  | "pretty" | "text" => pretty
  | _ => json

end Format

/-- Logging is set up once for a whole process. -/
structure Setup where
  installed : Option (Level × Format) := none

/-- Sets logging up, unless that was done before. -/
def Setup.install (s : Setup) (level : Level) (format : Format) : Except String Setup :=
  match s.installed with
  | some _ => .error "Failed to initialize tracing: logging is already set up"
  | none => .ok ⟨some (level, format)⟩

end BearerAuth.Logging
