import BearerAuth.Proofs.Checks
import BearerAuth.Proofs.Token.Signing

/-! # When a token counts

A genuine token is validated to its own claims up to the very instant of its expiry, and is expired
from then on. Validation never tells one genuine token from another that makes the same claims.
-/

namespace BearerAuth.Token

open BearerAuth.Time

/-- The token was signed with the secret and expires at a whole second. -/
structure Genuine (secret : String) (t : Token) : Prop where
  raw : t.raw = Signed.sign secret (Claims.ofToken t)
  whole : t.expiresAt.instant.nanos = t.expiresAt.seconds * 1000000000
  plain : t.expiresAt.inLeapSecond = false

/-- Only the claims of a signed token are accepted. -/
theorem claims_of_validate {raw secret : String} {now : Instant} {claims : Claims}
    (valid : validate raw secret now = .ok claims) : Signed.claims secret raw.toList = .ok claims := by
  obtain ⟨-, valid⟩ := passed_iff.mp valid
  obtain ⟨-, valid⟩ := passed_iff.mp valid
  split at valid
  · cases valid
  · rename_i found
    rw [found]
    split at valid
    · cases valid
    · exact congrArg Except.ok (Except.ok.inj (passed_iff.mp valid).2)

/-- What it takes to find an expiry, and which one is found. -/
theorem expiry_ok {userId secret : String} {clientType : ClientType} {ttl : Duration}
    {now expiresAt : Instant} (found : expiry userId clientType secret ttl now = .ok expiresAt) :
    secret.isEmpty = false ∧ userId.isEmpty = false ∧ clientType.isEmpty = false ∧
      ttl.seconds ≠ 0 ∧ expiresAt.nanos = (now.seconds + ttl.seconds) * 1000000000 := by
  obtain ⟨secretSet, found⟩ := passed_iff.mp found
  obtain ⟨userSet, found⟩ := passed_iff.mp found
  obtain ⟨typeSet, found⟩ := passed_iff.mp found
  obtain ⟨lasting, found⟩ := passed_iff.mp found
  split at found
  · rename_i shown
    cases found
    exact ⟨by simpa using secretSet, by simpa using userSet, by simpa using typeSet, lasting,
      Instant.addSeconds?_eq_some_iff.mp shown⟩
  · cases found

/-- An expiry is found where nothing speaks against it. -/
theorem expiry_of_instant {userId secret : String} {clientType : ClientType} {ttl : Duration}
    {now expiresAt : Instant} (secretSet : secret.isEmpty = false) (userSet : userId.isEmpty = false)
    (typeSet : clientType.isEmpty = false) (lasting : ttl.seconds ≠ 0)
    (shown : Instant.ofSeconds? (now.seconds + ttl.seconds) = some expiresAt) :
    expiry userId clientType secret ttl now = .ok expiresAt := by
  rw [Instant.ofSeconds?, Instant.ofNanos?_eq_some_iff, ← Instant.addSeconds?_eq_some_iff] at shown
  simp only [expiry, secretSet, userSet, typeSet, lasting, shown, Bool.false_eq_true, ↓reduceIte]
  rfl

/-- A token is genuine if its expiry was found for it. -/
theorem genuine_signed {userId secret : String} {clientType : ClientType} {ttl : Duration}
    {now expiresAt : Instant} (found : expiry userId clientType secret ttl now = .ok expiresAt)
    (id : String) (kind : TokenKind) (issuedAt : Instant) :
    Genuine secret (signed id userId clientType kind secret issuedAt expiresAt) := by
  obtain ⟨-, -, -, -, nanos⟩ := expiry_ok found
  refine ⟨by simp only [signed, Claims.ofToken], ?_, rfl⟩
  simp only [signed, Timestamp.seconds, Timestamp.ofInstant, Instant.seconds]
  omega

/-- The time left of a token is counted to the nanosecond. -/
theorem remaining_nanos {t : Token} (plain : t.expiresAt.inLeapSecond = false) (now : Instant) :
    (t.remaining now).nanos = (t.expiresAt.instant.nanos - now.nanos).toNat := by
  rw [remaining, Timestamp.nanosAfter_of_plain plain]

/-- A token expires once a reading is past its expiry. -/
theorem isExpired_eq_decide {t : Token} (plain : t.expiresAt.inLeapSecond = false) (now : Instant) :
    t.isExpired now = decide (t.expiresAt.instant < now) :=
  Timestamp.passedBy_of_plain plain now

private theorem inRange_ofToken (t : Token) : (Claims.ofToken t).InRange := by
  have inCalendar := t.expiresAt.instant.inCalendar
  simp only [Claims.InRange, Claims.ofToken, Timestamp.seconds, Instant.seconds]
  omega

private theorem isEmpty_sign (secret : String) (c : Claims) :
    (Signed.sign secret c).isEmpty = false := by
  simp [Signed.sign]

/-- A genuine token from 1970 on is validated to its own claims until it has expired. -/
theorem validate_genuine {secret : String} {t : Token} (genuine : Genuine secret t)
    (secretSet : secret.isEmpty = false) (now : Instant) :
    validate t.raw secret now =
      if 0 ≤ t.expiresAt.seconds then
        if t.isExpired now then .error (.unauthorized .tokenExpired) else .ok (Claims.ofToken t)
      else .error (.unauthorized .malformedToken) := by
  have claims := Signed.claims_sign secret (inRange_ofToken t)
  have expiresAt : (Claims.ofToken t).expiresAt? = some t.expiresAt.instant := by
    rw [Claims.expiresAt?, Instant.ofSeconds?, Instant.ofNanos?_eq_some_iff]
    exact genuine.whole
  have expired := isExpired_eq_decide genuine.plain now
  have exp : (Claims.ofToken t).expiry = t.expiresAt.seconds := rfl
  rw [exp] at claims
  simp only [validate, secretSet, genuine.raw, isEmpty_sign, claims, expired, Bool.false_eq_true,
    ↓reduceIte, decide_eq_true_eq]
  split_ifs with positive past
  · simp [expiresAt, past]
    rfl
  · simp [expiresAt, past]
    rfl
  · rfl

/-- A genuine token that expires in 1970 or later is validated until it has expired. -/
theorem Genuine.validate {secret : String} {t : Token} (genuine : Genuine secret t)
    (secretSet : secret.isEmpty = false) (recent : Instant.epoch ≤ t.expiresAt.instant) (now : Instant) :
    Token.validate t.raw secret now =
      if t.expiresAt.instant < now then .error (.unauthorized .tokenExpired)
      else .ok (Claims.ofToken t) := by
  have positive : 0 ≤ t.expiresAt.seconds := by
    change (0 : Int) ≤ t.expiresAt.instant.nanos at recent
    have whole := genuine.whole
    omega
  simp only [validate_genuine genuine secretSet, if_pos positive, isExpired_eq_decide genuine.plain,
    decide_eq_true_eq]

end BearerAuth.Token
