import BearerAuth.Error
import BearerAuth.Json.Timestamp

/-! # Roles

A user has the roles assigned to it whose assignment has not been withdrawn.
-/

namespace BearerAuth

open BearerAuth.Time BearerAuth.Json

inductive RoleName where
  | user
  | anonymous
deriving DecidableEq, Repr, Inhabited

namespace RoleName

def name : RoleName → String
  | user => "USER"
  | anonymous => "ANONYMOUS"

/-- The role of that name. -/
def ofName? (name : String) : Option RoleName :=
  if name = "USER" then some user else if name = "ANONYMOUS" then some anonymous else none

/-- The role that a caller names. -/
def parse (name : String) : Except AuthError RoleName :=
  match ofName? name with
  | some role => .ok role
  | none => .error (.validation ("unsupported role name: " ++ name))

/-- One of the required roles is among the assigned ones, or none is required. -/
def hasAny (assigned required : List RoleName) : Bool :=
  required.isEmpty || required.any fun role => assigned.contains role

end RoleName

/-- A role given to a user, possibly withdrawn later. -/
structure RoleAssignment where
  userId : String
  name : RoleName
  createdAt : Timestamp
  deletedAt : Option Timestamp
deriving DecidableEq, Inhabited

namespace RoleAssignment

/-- A role given at `now`. -/
def new (userId : String) (name : RoleName) (now : Instant) : RoleAssignment :=
  ⟨userId, name, now, none⟩

/-- A role, given by its name. -/
def assign (userId name : String) (now : Instant) : Except AuthError RoleAssignment := do
  return new userId (← RoleName.parse name) now

def isActive (r : RoleAssignment) : Bool := r.deletedAt.isNone

def toJson (r : RoleAssignment) : Value :=
  .object [("user_id", .string r.userId), ("name", .string r.name.name),
    ("created_at", .time r.createdAt), ("deleted_at", .optionalTime r.deletedAt)]

/-- The fields met so far in an object. -/
structure Slots where
  userId : Option String := none
  name : Option RoleName := none
  createdAt : Option Timestamp := none
  deletedAt : Option (Option Timestamp) := none

/-- Reads an assignment; a missing withdrawal is none, and other members are passed over. -/
def reader : Reader RoleAssignment :=
  Reader.record {}
    (fun (p : Slots) key => do
      match key with
      | "user_id" => return { p with userId := ← Reader.field p.userId Reader.string }
      | "name" => return { p with name := ← Reader.field p.name (Reader.named RoleName.ofName?) }
      | "created_at" => return { p with createdAt := ← Reader.field p.createdAt Reader.time }
      | "deleted_at" =>
        return { p with deletedAt := ← Reader.field p.deletedAt (Reader.optional Reader.time) }
      | _ => do
        Reader.skip
        return p)
    (fun p => do
      return ⟨← Reader.required p.userId, ← Reader.required p.name, ← Reader.required p.createdAt,
        p.deletedAt.getD none⟩)
    (do
      return ⟨← Reader.item true Reader.string, ← Reader.item false (Reader.named RoleName.ofName?),
        ← Reader.item false Reader.time, ← Reader.item false (Reader.optional Reader.time)⟩)

end RoleAssignment

end BearerAuth
