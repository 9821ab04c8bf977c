import BearerAuth.Account.ClientType
import BearerAuth.Json.Timestamp

/-! # Clients

A registered calling application, known by its secret. A deleted client stays on record.
-/

namespace BearerAuth

open BearerAuth.Time BearerAuth.Json

structure Client where
  clientType : ClientType
  secret : String
  createdAt : Timestamp
  updatedAt : Timestamp
  deletedAt : Option Timestamp
deriving DecidableEq, Inhabited

namespace Client

/-- A client registered at `now`. -/
def new (clientType : ClientType) (secret : String) (now : Instant) : Client :=
  ⟨clientType, secret, now, now, none⟩

def isActive (c : Client) : Bool := c.deletedAt.isNone

/-- The client as deleted at `now`. -/
def delete (c : Client) (now : Instant) : Client :=
  { c with deletedAt := some now, updatedAt := now }

def toJson (c : Client) : Value :=
  .object [("client_type", .string c.clientType.name), ("client_secret", .string c.secret),
    ("created_at", .time c.createdAt), ("updated_at", .time c.updatedAt),
    ("deleted_at", .optionalTime c.deletedAt)]

/-- The fields met so far in an object. -/
structure Slots where
  clientType : Option ClientType := none
  secret : Option String := none
  createdAt : Option Timestamp := none
  updatedAt : Option Timestamp := none
  deletedAt : Option (Option Timestamp) := none

/-- Reads a client; a missing deletion is none, and other members are passed over. -/
def reader : Reader Client :=
  Reader.record {}
    (fun (p : Slots) key => do
      match key with
      | "client_type" =>
        return { p with clientType := ← Reader.field p.clientType ClientType.reader }
      | "client_secret" => return { p with secret := ← Reader.field p.secret Reader.string }
      | "created_at" => return { p with createdAt := ← Reader.field p.createdAt Reader.time }
      | "updated_at" => return { p with updatedAt := ← Reader.field p.updatedAt Reader.time }
      | "deleted_at" =>
        return { p with deletedAt := ← Reader.field p.deletedAt (Reader.optional Reader.time) }
      | _ => do
        Reader.skip
        return p)
    (fun p => do
      return ⟨← Reader.required p.clientType, ← Reader.required p.secret,
        ← Reader.required p.createdAt, ← Reader.required p.updatedAt, p.deletedAt.getD none⟩)
    (do
      return ⟨← Reader.item true ClientType.reader, ← Reader.item false Reader.string,
        ← Reader.item false Reader.time, ← Reader.item false Reader.time,
        ← Reader.item false (Reader.optional Reader.time)⟩)

end Client

end BearerAuth
