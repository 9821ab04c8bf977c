import BearerAuth.Account.Client
import BearerAuth.Account.User
import BearerAuth.Cache.Call
import BearerAuth.Proofs.Json.Records
import BearerAuth.Proofs.Time.Rfc3339

/-! # Accounts read back

A role and a client are read back from their text as they were, and a user without the credentials,
which are never written.
-/

namespace BearerAuth

open BearerAuth.Time BearerAuth.Json BearerAuth.Json.Reader BearerAuth.Text

theorem Json.Reader.time_reads (t : Timestamp) : Reads time (utf8 (Value.time t).compact) t :=
  parsed_reads t.ofText?_toText

theorem Json.Reader.optionalTime_reads (t : Option Timestamp) :
    Reads (optional time) (utf8 (Value.optionalTime t).compact) t := by
  cases t with
  | none => exact optional_null time
  | some t => exact optional_string (time_reads t)

theorem RoleName.ofName?_name (role : RoleName) : ofName? role.name = some role := by
  cases role <;> rfl

namespace RoleAssignment

theorem reads (r : RoleAssignment) : Reads reader (utf8 r.toJson.compact) r := by
  refine record_reads ⟨some r.userId, some r.name, some r.createdAt, some r.deletedAt⟩ ?_ fun _ => rfl
  apply Fills.cons
  · simp only
    exact (field_reads (string_reads r.userId)).bind fun _ => rfl
  apply Fills.cons
  · simp only
    exact (field_reads (named_reads r.name.ofName?_name)).bind fun _ => rfl
  apply Fills.cons
  · simp only
    exact (field_reads (time_reads r.createdAt)).bind fun _ => rfl
  apply Fills.cons
  · simp only
    exact (field_reads (optionalTime_reads r.deletedAt)).bind fun _ => rfl
  exact .nil

/-- The roles of a user are written as objects. -/
theorem list_reads (roles : List RoleAssignment) :
    Reads (list reader) (utf8 (Value.list (roles.map toJson)).compact) roles := by
  refine Reader.list_reads ?_
  induction roles with
  | nil => exact .nil
  | cons r roles ih => exact .cons ⟨beginsItem_object _, reads r⟩ ih

end RoleAssignment

namespace User

theorem reads (u : User) : Reads reader (utf8 u.toJson.compact) { u with credentials := [] } := by
  refine record_reads ⟨some u.id, some u.username, some u.email, some u.enabled, some u.verified,
    some u.anonymous, some u.roles, none, some u.createdAt, some u.updatedAt⟩ ?_ fun _ => rfl
  have string (s : String) := field_reads (string_reads s)
  have bool (b : Bool) := field_reads (bool_reads b)
  have time (t : Timestamp) := field_reads (time_reads t)
  apply Fills.cons
  · simp only
    exact (string u.id).bind fun _ => rfl
  apply Fills.cons
  · simp only
    exact (string u.username).bind fun _ => rfl
  apply Fills.cons
  · simp only
    exact (string u.email).bind fun _ => rfl
  apply Fills.cons
  · simp only
    exact (bool u.enabled).bind fun _ => rfl
  apply Fills.cons
  · simp only
    exact (bool u.verified).bind fun _ => rfl
  apply Fills.cons
  · simp only
    exact (bool u.anonymous).bind fun _ => rfl
  apply Fills.cons
  · simp only
    exact (field_reads (RoleAssignment.list_reads u.roles)).bind fun _ => rfl
  apply Fills.cons
  · simp only
    exact (time u.createdAt).bind fun _ => rfl
  apply Fills.cons
  · simp only
    exact (time u.updatedAt).bind fun _ => rfl
  exact .nil

/-- A copy of a user is read back, its credentials apart. -/
theorem decodeCached_toJson (u : User) :
    decodeCached reader (utf8 u.toJson.compact) = .ok { u with credentials := [] } := by
  rw [decodeCached, u.reads.run]

end User

theorem ClientType.reads (c : ClientType) :
    Reads reader (utf8 (Value.string c.name).compact) c :=
  (string_reads c.name).bind fun _ => rfl

namespace Client

theorem reads (c : Client) : Reads reader (utf8 c.toJson.compact) c := by
  refine record_reads ⟨some c.clientType, some c.secret, some c.createdAt, some c.updatedAt,
    some c.deletedAt⟩ ?_ fun _ => rfl
  apply Fills.cons
  · simp only
    exact (field_reads c.clientType.reads).bind fun _ => rfl
  apply Fills.cons
  · simp only
    exact (field_reads (string_reads c.secret)).bind fun _ => rfl
  apply Fills.cons
  · simp only
    exact (field_reads (time_reads c.createdAt)).bind fun _ => rfl
  apply Fills.cons
  · simp only
    exact (field_reads (time_reads c.updatedAt)).bind fun _ => rfl
  apply Fills.cons
  · simp only
    exact (field_reads (optionalTime_reads c.deletedAt)).bind fun _ => rfl
  exact .nil

/-- A copy of a client is read back. -/
theorem decodeCached_toJson (c : Client) : decodeCached reader (utf8 c.toJson.compact) = .ok c := by
  rw [decodeCached, c.reads.run]

end Client

end BearerAuth
