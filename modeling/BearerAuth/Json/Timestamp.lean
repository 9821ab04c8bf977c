import BearerAuth.Json.Value
import BearerAuth.Time.Rfc3339

/-! # Timestamps in JSON

A timestamp is a string; one that may be missing is a string or null.
-/

namespace BearerAuth.Json

open BearerAuth.Time

def Value.time (t : Timestamp) : Value := .string t.toText

def Value.optionalTime : Option Timestamp → Value
  | some t => .time t
  | none => .null

def Reader.time : Reader Timestamp := Reader.parsed Timestamp.ofText?

end BearerAuth.Json
