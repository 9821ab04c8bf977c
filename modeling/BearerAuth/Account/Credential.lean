import BearerAuth.Json.Timestamp
import BearerAuth.Password.Basic

/-! # Credentials

What a user can prove its identity with. The only kind is a password, kept as its hash.
-/

namespace BearerAuth

open BearerAuth.Time BearerAuth.Json

inductive CredentialKind where
  | password
deriving DecidableEq, Repr, Inhabited

namespace CredentialKind

def name : CredentialKind → String
  | password => "PASSWORD"

/-- The kind of that name. -/
def ofName? (name : String) : Option CredentialKind :=
  if name = "PASSWORD" then some password else none

/-- The kind that a caller names. -/
def parse (name : String) : Except AuthError CredentialKind :=
  match ofName? name with
  | some kind => .ok kind
  | none => .error (.validation ("unsupported credential type: " ++ name))

end CredentialKind

/-- A proof of identity that a user can give. -/
structure Credential where
  kind : CredentialKind
  hash : String
  userId : String
  createdAt : Timestamp
  updatedAt : Timestamp
deriving DecidableEq, Inhabited

namespace Credential

/-- A password set at `now`, hashed with a salt of sixteen drawn bytes. -/
def ofPassword (userId password : String) (salt : List UInt8) (now : Instant) :
    Except AuthError Credential := do
  let stored ← Password.store password salt
  return ⟨.password, stored.toText, userId, now, now⟩

/-- The password is the one the credential was made from. -/
def isPasswordValid (c : Credential) (password : String) : Bool :=
  match c.kind with
  | .password => Password.verify c.hash password

def toJson (c : Credential) : Value :=
  .object [("kind", .string c.kind.name), ("hash", .string c.hash), ("user_id", .string c.userId),
    ("created_at", .time c.createdAt), ("updated_at", .time c.updatedAt)]

/-- The fields met so far in an object. -/
structure Slots where
  kind : Option CredentialKind := none
  hash : Option String := none
  userId : Option String := none
  createdAt : Option Timestamp := none
  updatedAt : Option Timestamp := none

/-- Reads a credential; other members are passed over. -/
def reader : Reader Credential :=
  Reader.record {}
    (fun (p : Slots) key => do
      match key with
      | "kind" =>
        return { p with kind := ← Reader.field p.kind (Reader.named CredentialKind.ofName?) }
      | "hash" => return { p with hash := ← Reader.field p.hash Reader.string }
      | "user_id" => return { p with userId := ← Reader.field p.userId Reader.string }
      | "created_at" => return { p with createdAt := ← Reader.field p.createdAt Reader.time }
      | "updated_at" => return { p with updatedAt := ← Reader.field p.updatedAt Reader.time }
      | _ => do
        Reader.skip
        return p)
    (fun p => do
      return ⟨← Reader.required p.kind, ← Reader.required p.hash, ← Reader.required p.userId,
        ← Reader.required p.createdAt, ← Reader.required p.updatedAt⟩)
    (do
      return ⟨← Reader.item true (Reader.named CredentialKind.ofName?),
        ← Reader.item false Reader.string, ← Reader.item false Reader.string,
        ← Reader.item false Reader.time,
        ← Reader.item false Reader.time⟩)

end Credential

end BearerAuth
