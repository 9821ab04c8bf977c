import BearerAuth.Account.Credential
import BearerAuth.Account.Role
import BearerAuth.Entropy
import BearerAuth.Text.Blank

/-! # Users

A user is registered with a username, an email address and a password, and confirmed later; an
anonymous one has random names and no password. The JSON form of a user never holds its credentials.
-/

namespace BearerAuth

open BearerAuth.Time BearerAuth.Json

structure User where
  id : String
  username : String
  email : String
  enabled : Bool
  verified : Bool
  anonymous : Bool
  roles : List RoleAssignment
  credentials : List Credential
  createdAt : Timestamp
  updatedAt : Timestamp
deriving DecidableEq, Inhabited

namespace User

/-- Usernames have at least this many characters. -/
def minUsernameLength : Nat := 3

/-- Registers a user, with two draws: for its id and for the salt of its password. -/
def register (username email password : String) (idDraw saltDraw : List UInt8) (now : Instant) :
    Except AuthError User := do
  if username.length < minUsernameLength then
    throw (.validation
      ("username must be at least " ++ toString minUsernameLength ++ " characters long"))
  let email := Text.trim email
  if email.isEmpty then throw (.validation "email address cannot be empty")
  let id := Entropy.uuid idDraw
  let credential ← Credential.ofPassword id password saltDraw now
  return {
    id, username, email
    enabled := false
    verified := false
    anonymous := false
    roles := [RoleAssignment.new id .user now]
    credentials := [credential]
    createdAt := now
    updatedAt := now }

/-- Makes an anonymous user, with three draws: for its id, username and email address. -/
def registerAnonymous (idDraw usernameDraw emailDraw : List UInt8) (now : Instant) : User :=
  let id := Entropy.uuid idDraw
  { id
    username := Entropy.uuid usernameDraw
    email := Entropy.uuid emailDraw
    enabled := true
    verified := true
    anonymous := true
    roles := [RoleAssignment.new id .anonymous now]
    credentials := []
    createdAt := now
    updatedAt := now }

/-- One of the user's credentials is that password. -/
def isPasswordValid (u : User) (password : String) : Bool :=
  u.credentials.any fun c => c.kind = .password && c.isPasswordValid password

/-- The names of the roles that have not been withdrawn, in order of assignment. -/
def roleNames (u : User) : List RoleName := (u.roles.filter RoleAssignment.isActive).map (·.name)

def hasRole (u : User) (role : RoleName) : Bool := u.roles.any fun r => r.isActive && r.name = role

/-- The user has one of the required roles. -/
def authorize (u : User) (required : List RoleName) : Except AuthError Unit :=
  if RoleName.hasAny u.roleNames required then .ok ()
  else .error (.forbidden ("user " ++ u.id ++ " lacks any of the required roles"))

/-- Confirms the email address, which enables the user. -/
def confirm (u : User) (now : Instant) : User :=
  { u with verified := true, enabled := true, updatedAt := now }

/-- The user without its credentials, which are left out. -/
def toJson (u : User) : Value :=
  .object [("id", .string u.id), ("username", .string u.username), ("email", .string u.email),
    ("enabled", .bool u.enabled), ("verified", .bool u.verified), ("anonymous", .bool u.anonymous),
    ("roles", .list (u.roles.map RoleAssignment.toJson)), ("created_at", .time u.createdAt),
    ("updated_at", .time u.updatedAt)]

/-- The fields met so far in an object. -/
structure Slots where
  id : Option String := none
  username : Option String := none
  email : Option String := none
  enabled : Option Bool := none
  verified : Option Bool := none
  anonymous : Option Bool := none
  roles : Option (List RoleAssignment) := none
  credentials : Option (List Credential) := none
  createdAt : Option Timestamp := none
  updatedAt : Option Timestamp := none

/-- Reads a user; roles and credentials may be missing, and other members are passed over. -/
def reader : Reader User :=
  Reader.record {}
    (fun (p : Slots) key => do
      match key with
      | "id" => return { p with id := ← Reader.field p.id Reader.string }
      | "username" => return { p with username := ← Reader.field p.username Reader.string }
      | "email" => return { p with email := ← Reader.field p.email Reader.string }
      | "enabled" => return { p with enabled := ← Reader.field p.enabled Reader.bool }
      | "verified" => return { p with verified := ← Reader.field p.verified Reader.bool }
      | "anonymous" => return { p with anonymous := ← Reader.field p.anonymous Reader.bool }
      | "roles" =>
        return { p with roles := ← Reader.field p.roles (Reader.list RoleAssignment.reader) }
      | "credentials" =>
        return { p with
          credentials := ← Reader.field p.credentials (Reader.list Credential.reader) }
      | "created_at" => return { p with createdAt := ← Reader.field p.createdAt Reader.time }
      | "updated_at" => return { p with updatedAt := ← Reader.field p.updatedAt Reader.time }
      | _ => do
        Reader.skip
        return p)
    (fun p => do
      return ⟨← Reader.required p.id, ← Reader.required p.username, ← Reader.required p.email,
        ← Reader.required p.enabled, ← Reader.required p.verified, ← Reader.required p.anonymous,
        p.roles.getD [], p.credentials.getD [], ← Reader.required p.createdAt,
        ← Reader.required p.updatedAt⟩)
    (do
      return ⟨← Reader.item true Reader.string, ← Reader.item false Reader.string,
        ← Reader.item false Reader.string, ← Reader.item false Reader.bool,
        ← Reader.item false Reader.bool, ← Reader.item false Reader.bool,
        ← Reader.item false (Reader.list RoleAssignment.reader),
        ← Reader.item false (Reader.list Credential.reader), ← Reader.item false Reader.time,
        ← Reader.item false Reader.time⟩)

end User

end BearerAuth
