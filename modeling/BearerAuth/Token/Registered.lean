import BearerAuth.Json.Value

/-! # Claims of other audiences

Some claim names have a meaning shared by all tokens. Of these only two matter here: a token has to
say when it expires, as a whole number of seconds, and must not name the audience it is meant for,
since no audience is configured. The others may hold anything, but none may occur twice. A value of
the wrong type counts as no value, as long as the text can be followed behind it.
-/

namespace BearerAuth.Registered

open BearerAuth.Json

/-- What is known of a claim: not met, met with a value that says something, or met with another. -/
inductive Slot where
  | missing
  | present
  | unusable
deriving DecidableEq, Repr

/-- Reads a claim that may occur once; `says` tells whether the value says something. -/
def fill (slot : Slot) (r : Reader Bool) : Reader Slot := do
  if slot ≠ .missing then Reader.fail
  match ← Reader.attempt r with
  | some true => return .present
  | _ => return .unusable

/-- A time in seconds. A list or an object is given up behind its bracket, or behind its end if it
is empty. -/
def timeReader : Reader Bool := do
  match ← Reader.peekToken with
  | some 0x5B =>
    Reader.drop
    Reader.closing Reader.fail Reader.closeList
  | some 0x7B =>
    Reader.drop
    Reader.closing Reader.fail Reader.closeObject
  | some 0x22 =>
    let _ ← Reader.string
    return false
  | some 0x6E =>
    Reader.literal [0x6E, 0x75, 0x6C, 0x6C]
    return false
  | some 0x74 | some 0x66 =>
    let _ ← Reader.bool
    return false
  | _ => do
    match ← Reader.number with
    | .whole n => return 0 ≤ n
    | .real x => return 0.0 ≤ x && x < 18446744073709551616.0

/-- A name: text. -/
def nameReader : Reader Bool := do return (← Reader.optional Reader.string).isSome

/-- Values inside claims nest at most this deep. -/
def maxDepth : Nat := Value.maxDepth - 1

/-- One name or a list of names. -/
def namesReader : Reader Bool := do
  match ← Value.reader maxDepth with
  | .string _ => return true
  | .list items => return items.all fun v => match v with
    | .string _ => true
    | _ => false
  | _ => return false

/-- The claims met so far. -/
structure Slots where
  expiry : Slot := .missing
  notBefore : Slot := .missing
  subject : Slot := .missing
  issuer : Slot := .missing
  audience : Slot := .missing

/-- Reads the members of a payload, which has to be an object. -/
def reader : Reader Slots :=
  Reader.record {}
    (fun (p : Slots) key => do
      match key with
      | "exp" => return { p with expiry := ← fill p.expiry timeReader }
      | "nbf" => return { p with notBefore := ← fill p.notBefore timeReader }
      | "sub" => return { p with subject := ← fill p.subject nameReader }
      | "iss" => return { p with issuer := ← fill p.issuer namesReader }
      | "aud" => return { p with audience := ← fill p.audience namesReader }
      | _ => do
        Reader.skip
        return p)
    pure
    Reader.fail

/-- The payload says when the token expires and names no audience. -/
def acceptable (payload : List UInt8) : Bool :=
  match reader.run payload with
  | some p => p.expiry = .present && p.audience ≠ .present
  | none => false

end BearerAuth.Registered
