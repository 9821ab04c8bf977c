import BearerAuth.Proofs.Account.Reading
import BearerAuth.Proofs.Token.Signing
import BearerAuth.Token.Json

/-! # Records survive being written

Every record is read back from its text as it was, whatever strings and times it holds. A user is
the exception: its credentials stay behind, and two users have one text exactly if they differ in
nothing else. Nothing that decides on a user's roles can tell a user from the copy read back.
-/

namespace BearerAuth

open BearerAuth.Time BearerAuth.Json BearerAuth.Json.Reader BearerAuth.Text

/-- A value is read back from its text. -/
def Json.ReadsBack {α : Type} (reader : Reader α) (toJson : α → Value) (a : α) : Prop :=
  reader.run (utf8 (toJson a).compact) = some a

theorem CredentialKind.ofName?_name (kind : CredentialKind) : ofName? kind.name = some kind := by
  cases kind
  rfl

theorem TokenKind.ofName?_name (kind : TokenKind) : ofName? kind.name = some kind := by
  cases kind <;> rfl

theorem Credential.reads (c : Credential) : Reads reader (utf8 c.toJson.compact) c := by
  refine record_reads ⟨some c.kind, some c.hash, some c.userId, some c.createdAt, some c.updatedAt⟩
    ?_ fun _ => rfl
  have string (s : String) := field_reads (string_reads s)
  have time (t : Timestamp) := field_reads (time_reads t)
  apply Fills.cons
  · simp only
    exact (field_reads (named_reads c.kind.ofName?_name)).bind fun _ => rfl
  apply Fills.cons
  · simp only
    exact (string c.hash).bind fun _ => rfl
  apply Fills.cons
  · simp only
    exact (string c.userId).bind fun _ => rfl
  apply Fills.cons
  · simp only
    exact (time c.createdAt).bind fun _ => rfl
  apply Fills.cons
  · simp only
    exact (time c.updatedAt).bind fun _ => rfl
  exact .nil

theorem Token.reads (t : Token) : Reads reader (utf8 t.toJson.compact) t := by
  refine record_reads ⟨some t.id, some t.userId, some t.kind, some t.clientType, some t.issuedAt,
    some t.expiresAt, some t.raw⟩ ?_ fun _ => rfl
  have string (s : String) := field_reads (string_reads s)
  have time (t : Timestamp) := field_reads (time_reads t)
  apply Fills.cons
  · simp only
    exact (string t.id).bind fun _ => rfl
  apply Fills.cons
  · simp only
    exact (string t.userId).bind fun _ => rfl
  apply Fills.cons
  · simp only
    exact (field_reads (named_reads t.kind.ofName?_name)).bind fun _ => rfl
  apply Fills.cons
  · simp only
    exact (field_reads t.clientType.reads).bind fun _ => rfl
  apply Fills.cons
  · simp only
    exact (time t.issuedAt).bind fun _ => rfl
  apply Fills.cons
  · simp only
    exact (time t.expiresAt).bind fun _ => rfl
  apply Fills.cons
  · simp only
    exact (string t.raw).bind fun _ => rfl
  exact .nil

theorem TokenPair.reads (p : TokenPair) : Reads reader (utf8 p.toJson.compact) p := by
  refine record_reads ⟨some p.access, some p.refresh⟩ ?_ fun _ => rfl
  apply Fills.cons
  · simp only
    exact (field_reads p.access.reads).bind fun _ => rfl
  apply Fills.cons
  · simp only
    exact (field_reads p.refresh.reads).bind fun _ => rfl
  exact .nil

namespace User

/-- A decision on a user's roles depends on its id and its roles alone. -/
theorem authorize_congr {u v : User} (id : u.id = v.id) (roles : u.roles = v.roles)
    (required : List RoleName) : u.authorize required = v.authorize required := by
  have names : u.roleNames = v.roleNames := by rw [roleNames, roles, roleNames]
  rw [authorize, authorize, names, id]

/-- The text of a user tells everything about it except its credentials. -/
theorem compact_toJson_eq_iff {u v : User} :
    u.toJson.compact = v.toJson.compact ↔
      { u with credentials := [] } = { v with credentials := [] } := by
  constructor
  · intro same
    have read := u.reads.run
    rw [same, v.reads.run] at read
    exact (Option.some.inj read).symm
  · intro same
    have written (w : User) : w.toJson = { w with credentials := [] : User }.toJson := rfl
    rw [written u, same, ← written v]

end User

/-- Each record is read back as it was, with any strings, any times of the calendar and any marker
of deletion; claims, with any expiry that fits their word. A user is read back without its
credentials, every decision on its roles comes out the same on that copy, and the credentials are
all that its text leaves out. -/
theorem Json.records_read_back :
    (∀ client : Client, ReadsBack Client.reader Client.toJson client) ∧
    (∀ token : Token, ReadsBack Token.reader Token.toJson token) ∧
    (∀ pair : TokenPair, ReadsBack TokenPair.reader TokenPair.toJson pair) ∧
    (∀ claims : Claims, claims.InRange → ReadsBack Claims.reader Claims.toJson claims) ∧
    (∀ role : RoleAssignment, ReadsBack RoleAssignment.reader RoleAssignment.toJson role) ∧
    (∀ credential : Credential, ReadsBack Credential.reader Credential.toJson credential) ∧
    (∀ user : User, ∃ copy, User.reader.run (utf8 user.toJson.compact) = some copy ∧
      copy = { user with credentials := [] } ∧
      ∀ required, copy.authorize required = user.authorize required) ∧
    (∀ user other : User, user.toJson.compact = other.toJson.compact ↔
      { user with credentials := [] } = { other with credentials := [] }) := by
  refine ⟨fun client => client.reads.run, fun token => token.reads.run, fun pair => pair.reads.run,
    fun claims inRange => (Claims.reads inRange).run, fun role => role.reads.run,
    fun credential => credential.reads.run, ?_, fun _ _ => User.compact_toJson_eq_iff⟩
  intro user
  refine ⟨{ user with credentials := [] }, user.reads.run, rfl, ?_⟩
  exact User.authorize_congr rfl rfl

/-- Claims whose id has a quotation mark, a control character and a sign beyond the first 65536, at
the least expiry. -/
theorem Json.records_read_back_least :
    (⟨"a\"\u0007𝄞", "", -9223372036854775808⟩ : Claims).InRange ∧
      ReadsBack Claims.reader Claims.toJson ⟨"a\"\u0007𝄞", "", -9223372036854775808⟩ := by
  have inRange : (⟨"a\"\u0007𝄞", "", -9223372036854775808⟩ : Claims).InRange := by
    constructor <;> decide
  exact ⟨inRange, records_read_back.2.2.2.1 _ inRange⟩

end BearerAuth
