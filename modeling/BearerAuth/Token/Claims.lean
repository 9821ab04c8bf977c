import BearerAuth.Json.Value
import BearerAuth.Time.Rfc3339
import BearerAuth.Token.Basic

/-! # Claims

The signed part of a token says which token it is, whose, and until when it counts.
-/

namespace BearerAuth

open BearerAuth.Time BearerAuth.Json

/-- The signed part of a token; `expiry` is in seconds since the start of 1970. -/
structure Claims where
  tokenId : String
  userId : String
  expiry : Int
deriving DecidableEq, Repr

namespace Claims

/-- The expiry as an instant, if the calendar holds it. -/
def expiresAt? (c : Claims) : Option Instant := Instant.ofSeconds? c.expiry

/-- The claims a token makes. -/
def ofToken (t : Token) : Claims := ⟨t.id, t.userId, t.expiresAt.seconds⟩

def toJson (c : Claims) : Value :=
  .object [("jti", .string c.tokenId), ("uid", .string c.userId), ("exp", .whole c.expiry)]

/-- The claims met so far in an object. -/
structure Slots where
  tokenId : Option String := none
  userId : Option String := none
  expiry : Option Int := none

/-- Reads claims; other members are passed over. -/
def reader : Reader Claims :=
  Reader.record {}
    (fun (p : Slots) key => do
      match key with
      | "jti" => return { p with tokenId := ← Reader.field p.tokenId Reader.string }
      | "uid" => return { p with userId := ← Reader.field p.userId Reader.string }
      | "exp" => return { p with expiry := ← Reader.field p.expiry Reader.int64 }
      | _ => do
        Reader.skip
        return p)
    (fun p => do
      return ⟨← Reader.required p.tokenId, ← Reader.required p.userId, ← Reader.required p.expiry⟩)
    (do
      return ⟨← Reader.item true Reader.string, ← Reader.item false Reader.string,
        ← Reader.item false Reader.int64⟩)

end Claims

end BearerAuth
