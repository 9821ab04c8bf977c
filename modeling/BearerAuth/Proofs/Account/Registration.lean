import BearerAuth.Account.User
import BearerAuth.Proofs.Checks
import BearerAuth.Proofs.Password.StoredText
import Mathlib.Data.List.DropRight

/-! # Registered users

Registering needs a username, an email address and a password that are long enough. The address is kept without
the blanks around it, and of the password only its hash, which fits that password from then on: confirming the
user does not touch it, and whatever other credentials a user has cannot speak against one that fits.
-/

namespace BearerAuth

namespace Text

/-- Text without blanks at either end is left as it is. -/
theorem trim_trim (s : String) : trim (trim s) = trim s := by
  have prefixed (cs : List Char) : trimChars cs <+: trimStart cs := List.rdropWhile_prefix isBlank _
  have started (cs : List Char) : trimStart (trimChars cs) = trimChars cs := by
    rw [trimStart, List.dropWhile_eq_self_iff]
    intro positive
    have whole := List.dropWhile_idempotent isBlank cs
    rw [List.dropWhile_eq_self_iff] at whole
    have longer := (prefixed cs).length_le
    have first := (prefixed cs).getElem positive
    rw [first]
    exact whole (Nat.lt_of_lt_of_le positive longer)
  have ended (cs : List Char) : trimChars (trimChars cs) = trimChars cs := by
    rw [trimChars, started]
    exact List.rdropWhile_idempotent isBlank _
  rw [trim, trim, String.toList_ofList, ended]

end Text

namespace User

variable {username email password : String} {idDraw saltDraw : List UInt8} {now : Time.Instant} {u : User}

/-- What registering a user takes, and what comes of it. -/
theorem register_eq_ok_iff : register username email password idDraw saltDraw now = .ok u ↔
    minUsernameLength ≤ username.length ∧ (Text.trim email).isEmpty = false ∧
      ∃ s, Password.store password saltDraw = .ok s ∧
        u = {
          id := Entropy.uuid idDraw, username, email := Text.trim email
          enabled := false, verified := false, anonymous := false
          roles := [RoleAssignment.new (Entropy.uuid idDraw) .user now]
          credentials := [⟨.password, s.toText, Entropy.uuid idDraw, now, now⟩]
          createdAt := now, updatedAt := now } := by
  rw [register, passed_iff, passed_iff, Nat.not_lt, Bool.not_eq_true]
  refine and_congr_right fun _ => and_congr_right fun _ => ?_
  simp only [Credential.ofPassword]
  cases Password.store password saltDraw with
  | error e =>
    constructor
    · intro registered
      cases registered
    · rintro ⟨_, ⟨⟩, -⟩
  | ok s =>
    constructor
    · intro registered
      cases registered
      exact ⟨s, rfl, rfl⟩
    · rintro ⟨_, ⟨⟩, rfl⟩
      rfl

/-- A registered user is found by its address, however that is looked up: nothing is left to trim. -/
theorem trim_email_of_register
    (registered : register username email password idDraw saltDraw now = .ok u) :
    Text.trim u.email = u.email := by
  obtain ⟨-, -, s, -, rfl⟩ := register_eq_ok_iff.mp registered
  exact Text.trim_trim email

/-- One credential that fits is enough. -/
theorem isPasswordValid_of_mem {c : Credential} (member : c ∈ u.credentials)
    (fits : Password.verify c.hash password = true) : u.isPasswordValid password = true := by
  refine List.any_eq_true.mpr ⟨c, member, ?_⟩
  cases kind : c.kind
  simpa [Credential.isPasswordValid, kind] using fits

/-- Every password that is not too short and not too long can be stored, and what is stored fits it, and beyond
it only what has the same hash. So the password that a user was registered with is valid, confirmed or not, as
long as the user has the credential that was made of it, whatever others there are. -/
theorem password_fits_own_hash :
    (∀ {password : String} {salt : List UInt8}, salt.length = 16 →
      ((∃ s, Password.store password salt = .ok s) ↔
        8 ≤ password.length ∧ (Text.utf8 password).length ≤ 4294967295) ∧
      ∀ s, Password.store password salt = .ok s →
        Password.verify s.toText password = true ∧
        ∀ candidate, Password.verify s.toText candidate = true ↔
          (Text.utf8 candidate).length ≤ 4294967295 ∧
            Password.defaultHash candidate salt = Password.defaultHash password salt) ∧
    ∀ {username email password : String} {idDraw saltDraw : List UInt8} {now : Time.Instant} {u : User},
      saltDraw.length = 16 → register username email password idDraw saltDraw now = .ok u →
        ∀ w : User, u.credentials ⊆ w.credentials →
          w.isPasswordValid password = true ∧
            ∀ later, (w.confirm later).isPasswordValid password = true := by
  have fits {password : String} {salt : List UInt8} {s : Password.Stored} (sized : salt.length = 16)
      (stored : Password.store password salt = .ok s) : Password.verify s.toText password = true := by
    have short := (Password.store_eq_ok_iff.mp stored).1.2
    exact (Password.verify_of_store stored (by omega) password).mpr ⟨short, rfl⟩
  constructor
  · intro password salt sized
    refine ⟨?_, fun s stored => ⟨fits sized stored, Password.verify_of_store stored (by omega)⟩⟩
    constructor
    · rintro ⟨s, stored⟩
      exact (Password.store_eq_ok_iff.mp stored).1
    · intro allowed
      exact ⟨_, Password.store_eq_ok_iff.mpr ⟨allowed, rfl⟩⟩
  · intro _ _ password _ _ _ u sized registered w kept
    obtain ⟨-, -, s, stored, rfl⟩ := register_eq_ok_iff.mp registered
    have member := kept (List.mem_singleton.mpr rfl)
    have fitting := fits sized stored
    exact ⟨isPasswordValid_of_mem member fitting, fun later =>
      isPasswordValid_of_mem (u := w.confirm later) member fitting⟩

/-- A password of eight letters of two bytes each, for a user who has got another credential that
nobody can read, and is confirmed then. -/
theorem password_fits_own_hash_unreadable :
    let password := "κωδικοίς"
    let other : Credential := ⟨.password, "$argon2id$", "ann", Time.Instant.epoch, Time.Instant.epoch⟩
    (∃ s, Password.store password (List.replicate 16 255) = .ok s ∧
      Password.verify s.toText password = true) ∧
    ∃ u, register "ann" " Ann@x.org " password (List.replicate 16 1) (List.replicate 16 255) .epoch = .ok u ∧
      other.isPasswordValid password = false ∧
      ({ u with credentials := other :: u.credentials }.confirm .epoch).isPasswordValid password = true := by
  intro password other
  have stored : Password.store password (List.replicate 16 255) = .ok _ :=
    Password.store_eq_ok_iff.mpr ⟨by decide, rfl⟩
  have registered : register "ann" " Ann@x.org " password (List.replicate 16 1) (List.replicate 16 255)
      .epoch = .ok _ :=
    register_eq_ok_iff.mpr ⟨by decide, by decide, _, stored, rfl⟩
  refine ⟨⟨_, stored, ?_⟩, _, registered, by decide, ?_⟩
  · exact ((password_fits_own_hash.1 rfl).2 _ stored).1
  · exact (password_fits_own_hash.2 rfl registered _ (List.subset_cons_self ..)).2 _

end User

end BearerAuth
