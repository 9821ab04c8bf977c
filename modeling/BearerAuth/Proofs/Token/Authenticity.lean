import BearerAuth.Proofs.Token.Validity

/-! # Only authentic tokens count

A raw token is three parts at its last two points. It is authentic under a secret if its header names the
one algorithm there is, its signature is the keyed hash of the two parts before it, and its payload says
which token it is and when it expires. Validation settles this without looking at the clock: what is not
authentic is refused for the same reason at any time, and what is authentic counts up to the very instant
of its expiry and is expired from the next nanosecond on.
-/

namespace BearerAuth

open BearerAuth.Time BearerAuth.Json BearerAuth.Text

namespace Signed

theorem splitLast_eq_none_iff {cs : List Char} : splitLast cs = none ↔ '.' ∉ cs := by
  refine ⟨?_, splitLast_of_not_mem⟩
  intro none
  induction cs with
  | nil => exact List.not_mem_nil
  | cons c cs ih =>
    rw [splitLast] at none
    split at none
    · cases none
    · rename_i rest
      split_ifs at none with point
      simp only [List.mem_cons, not_or]
      exact ⟨Ne.symm point, ih rest⟩

/-- Text parts at its last point. -/
theorem splitLast_eq_some_iff {cs before after : List Char} :
    splitLast cs = some (before, after) ↔ cs = before ++ '.' :: after ∧ '.' ∉ after := by
  refine ⟨?_, fun ⟨whole, absent⟩ => whole ▸ splitLast_append before absent⟩
  intro found
  induction cs generalizing before with
  | nil => cases found
  | cons c cs ih =>
    rw [splitLast] at found
    split at found
    · rename_i rest
      cases found
      obtain ⟨rfl, absent⟩ := ih rest
      exact ⟨rfl, absent⟩
    · rename_i rest
      split_ifs at found with point
      cases found
      exact ⟨congrArg (· :: after) point, splitLast_eq_none_iff.mp rest⟩

/-- The three parts of a raw token. Points part them, and only the header may have further ones. -/
structure Parts where
  header : List Char
  payload : List Char
  signature : List Char
  payload_plain : '.' ∉ payload
  signature_plain : '.' ∉ signature

namespace Parts

/-- The text that is signed. -/
def message (p : Parts) : List Char := p.header ++ '.' :: p.payload

/-- The raw token. -/
def text (p : Parts) : String := String.ofList (p.message ++ '.' :: p.signature)

/-- What the signature has to be: the keyed hash of the message, in base 64. -/
def expected (secret : String) (p : Parts) : List Char :=
  Base64.encode Base64.urlSafe (Digest.Hmac.sha256 (utf8 secret) (utf8 (String.ofList p.message)))

/-- The parts were signed with the secret, and make the claims. -/
structure Authentic (secret : String) (p : Parts) (claims : Claims) : Prop where
  header : ∃ bytes header, Base64.decode? Base64.urlSafe p.header = some bytes ∧
    Header.reader.run bytes = some header ∧ header.algorithm = "HS256"
  signature : p.signature = p.expected secret
  payload : ∃ bytes, Base64.decode? Base64.urlSafe p.payload = some bytes ∧
    Claims.reader.run bytes = some claims ∧ Registered.acceptable bytes = true

theorem splitLast_text (p : Parts) : splitLast p.text.toList = some (p.message, p.signature) := by
  rw [text, String.toList_ofList]
  exact splitLast_append _ p.signature_plain

theorem splitLast_message (p : Parts) : splitLast p.message = some (p.header, p.payload) :=
  splitLast_append _ p.payload_plain

/-- No token goes without a signature. -/
theorem expected_ne_nil (secret : String) (p : Parts) : p.expected secret ≠ [] := by
  have hashed (key message : List UInt8) :
      ∃ x y z rest, Digest.Hmac.sha256 key message = x :: y :: z :: rest := ⟨_, _, _, _, rfl⟩
  obtain ⟨x, y, z, rest, bytes⟩ := hashed (utf8 secret) (utf8 (String.ofList p.message))
  rw [expected, bytes, Base64.encode]
  exact List.cons_ne_nil _ _

/-- The message and the signature are told by the raw token. -/
theorem text_inj {p q : Parts} (same : p.text = q.text) :
    p.message = q.message ∧ p.signature = q.signature := by
  have parts := p.splitLast_text
  rw [same, q.splitLast_text] at parts
  exact Prod.mk.inj (Option.some.inj parts.symm)

end Parts

/-- What is found of a raw token whatever its age: it is malformed, its signature is not the one that is
expected, or it is authentic. -/
inductive Judged (secret : String) (raw : List Char) : Except UnauthorizedReason Claims → Prop
  | malformed : Judged secret raw (.error .malformedToken)
  | forged (p : Parts) (whole : raw = p.text.toList) (differs : p.signature ≠ p.expected secret) :
    Judged secret raw (.error .invalidSignature)
  | authentic {claims : Claims} (p : Parts) (whole : raw = p.text.toList)
    (authentic : p.Authentic secret claims) : Judged secret raw (.ok claims)

theorem judged_text (secret : String) (p : Parts) :
    Judged secret p.text.toList (claims secret p.text.toList) := by
  simp only [claims, p.splitLast_text, p.splitLast_message]
  cases headerBytes : decodePart? p.header with
  | none => exact .malformed
  | some bytes =>
  simp only
  cases headerRead : Header.reader.run bytes with
  | none => exact .malformed
  | some header =>
  refine check_cases (fun _ => .malformed) fun known => ?_
  refine check_cases (fun differs => .forged p rfl differs) fun signed => ?_
  have signedWith : p.signature = p.expected secret := not_not.mp signed
  cases payloadBytes : decodePart? p.payload with
  | none => exact .malformed
  | some bytes' =>
  simp only
  cases claimsRead : Claims.reader.run bytes' with
  | none => exact .malformed
  | some claims =>
  simp only
  split_ifs with acceptable
  · exact .authentic p rfl ⟨⟨bytes, header, headerBytes, headerRead, not_not.mp known⟩, signedWith,
      bytes', payloadBytes, claimsRead, acceptable⟩
  · exact .malformed

/-- Text without two points has no parts, and is malformed. -/
theorem judged_claims (secret : String) (raw : List Char) : Judged secret raw (claims secret raw) := by
  cases outer : splitLast raw with
  | none =>
    rw [claims, outer]
    exact .malformed
  | some found =>
    obtain ⟨message, signature⟩ := found
    cases inner : splitLast message with
    | none =>
      simp only [claims, outer, inner]
      exact .malformed
    | some found =>
      obtain ⟨header, payload⟩ := found
      obtain ⟨rfl, signaturePlain⟩ := splitLast_eq_some_iff.mp outer
      obtain ⟨rfl, payloadPlain⟩ := splitLast_eq_some_iff.mp inner
      have judged := judged_text secret ⟨header, payload, signature, payloadPlain, signaturePlain⟩
      rwa [Parts.text, String.toList_ofList] at judged

/-- The parts of a raw token that is signed here. -/
def Parts.ofClaims (secret : String) (c : Claims) : Parts where
  header := encodePart (utf8 Header.issued.compact)
  payload := encodePart (utf8 c.toJson.compact)
  signature := Signed.signature secret (Signed.message c)
  payload_plain := Base64.point_not_mem_encode _
  signature_plain := Base64.point_not_mem_encode _

theorem Parts.text_ofClaims (secret : String) (c : Claims) : (ofClaims secret c).text = sign secret c := by
  simp only [ofClaims, text, message, sign, Signed.message]

/-- What is signed here is authentic, unless it expires before 1970. -/
theorem authentic_ofClaims (secret : String) {c : Claims} (inRange : c.InRange) (recent : 0 ≤ c.expiry) :
    (Parts.ofClaims secret c).Authentic secret c := by
  have decoded (bytes : List UInt8) : Base64.decode? Base64.urlSafe (encodePart bytes) = some bytes :=
    Base64.decode?_encode Base64.urlSafe_faithful bytes
  have acceptable : Registered.acceptable (utf8 c.toJson.compact) = true := by
    rw [Registered.acceptable_toJson inRange]
    exact decide_eq_true recent
  constructor
  · refine ⟨utf8 Header.issued.compact, ⟨Header.signingAlgorithm⟩, ?_, Header.reads.run, rfl⟩
    simp only [Parts.ofClaims, decoded]
  · simp only [Parts.ofClaims, Parts.expected, Parts.message, Signed.signature, Signed.message, encodePart]
  · refine ⟨utf8 c.toJson.compact, ?_, (Claims.reads inRange).run, acceptable⟩
    simp only [Parts.ofClaims, decoded]

/-- The claims of authentic parts are read. -/
theorem claims_text {secret : String} {p : Parts} {c : Claims} (authentic : p.Authentic secret c) :
    claims secret p.text.toList = .ok c := by
  obtain ⟨⟨bytes, header, headerBytes, headerRead, known⟩, signed, bytes', payloadBytes, claimsRead,
    acceptable⟩ := authentic
  have signature : p.signature = signature secret p.message := signed
  simp only [claims, p.splitLast_text, p.splitLast_message, decodePart?, headerBytes, headerRead, known,
    Header.signingAlgorithm, signature, payloadBytes, claimsRead, acceptable, ne_eq, not_true_eq_false,
    ↓reduceIte]
  rfl

end Signed

namespace Claims

/-- The calendar holds the expiry. -/
def InCalendar (c : Claims) : Prop := ∃ expiresAt : Instant, expiresAt.nanos = c.expiry * 1000000000

/-- The answer about claims that were signed: they count up to the very instant of their expiry. -/
def answer (c : Claims) (now : Instant) : Except AuthError Claims :=
  if c.expiry * 1000000000 < now.nanos then .error (.unauthorized .tokenExpired) else .ok c

theorem answer_cases (c : Claims) (now : Instant) :
    c.answer now = .error (.unauthorized .tokenExpired) ∨ c.answer now = .ok c := by
  rw [answer]
  split_ifs
  · exact .inl rfl
  · exact .inr rfl

theorem answer_eq_ok_iff {c : Claims} {now : Instant} :
    c.answer now = .ok c ↔ now.nanos ≤ c.expiry * 1000000000 := by
  rw [answer]
  split_ifs with past
  · exact iff_of_false nofun (by omega)
  · exact iff_of_true rfl (by omega)

theorem answer_eq_expired_iff {c : Claims} {now : Instant} :
    c.answer now = .error (.unauthorized .tokenExpired) ↔ c.expiry * 1000000000 + 1 ≤ now.nanos := by
  rw [answer]
  split_ifs with past
  · exact iff_of_true rfl (by omega)
  · exact iff_of_false nofun (by omega)

end Claims

namespace Token

open Signed

variable {secret raw : String} {now : Instant} {c : Claims}

/-- The reasons to refuse a raw token that was not signed. -/
def unsignedReasons : List UnauthorizedReason := [.malformedToken, .invalidSignature]

/-- The token is found to be signed, be it still good or expired. -/
def Passes (raw secret : String) (now : Instant) : Prop :=
  validate raw secret now = .error (.unauthorized .tokenExpired) ∨
    ∃ claims, validate raw secret now = .ok claims

theorem validate_of_error {reason : UnauthorizedReason} (secretSet : secret.isEmpty = false)
    (found : Signed.claims secret raw.toList = .error reason) (now : Instant) :
    validate raw secret now = .error (.unauthorized reason) := by
  simp only [validate, secretSet, found, Bool.false_eq_true, ↓reduceIte]
  split_ifs with empty
  · -- Text of no characters has no parts either.
    obtain rfl := String.isEmpty_iff.mp empty
    cases found
    rfl
  · rfl

theorem validate_of_ok (secretSet : secret.isEmpty = false)
    (found : Signed.claims secret raw.toList = .ok c) (inCalendar : c.InCalendar) (now : Instant) :
    validate raw secret now = c.answer now := by
  obtain ⟨expiresAt, nanos⟩ := inCalendar
  have filled : raw.isEmpty = false := by
    refine Bool.eq_false_iff.mpr fun empty => ?_
    obtain rfl := String.isEmpty_iff.mp empty
    cases found
  have shown : c.expiresAt? = some expiresAt := Instant.ofNanos?_eq_some_iff.mpr nanos
  have past : expiresAt < now ↔ c.expiry * 1000000000 < now.nanos := by
    rw [← nanos]
    exact Iff.rfl
  simp only [validate, secretSet, filled, found, shown, Claims.answer, past, Bool.false_eq_true, ↓reduceIte]
  rfl

/-- Claims that expire outside the calendar are none. -/
theorem validate_of_beyond (secretSet : secret.isEmpty = false)
    (found : Signed.claims secret raw.toList = .ok c) (beyond : ¬c.InCalendar) (now : Instant) :
    validate raw secret now = .error (.unauthorized .malformedToken) := by
  have hidden : c.expiresAt? = none := by
    refine Option.eq_none_iff_forall_ne_some.mpr fun expiresAt shown => ?_
    exact beyond ⟨expiresAt, Instant.ofNanos?_eq_some_iff.mp shown⟩
  simp only [validate, secretSet, found, hidden, Bool.false_eq_true, ↓reduceIte]
  split_ifs <;> rfl

/-- How a raw token is answered at all times: with one and the same refusal, or as its claims say. -/
inductive Settled (secret raw : String) : (Instant → Except AuthError Claims) → Prop
  | refused {reason : UnauthorizedReason} (among : reason ∈ unsignedReasons) :
    Settled secret raw fun _ => .error (.unauthorized reason)
  | authentic {claims : Claims} (p : Parts) (whole : raw = p.text) (authentic : p.Authentic secret claims)
    (inCalendar : claims.InCalendar) : Settled secret raw claims.answer

theorem settled (secretSet : secret.isEmpty = false) (raw : String) :
    Settled secret raw (validate raw secret) := by
  have judged := judged_claims secret raw.toList
  generalize found : Signed.claims secret raw.toList = result at judged
  cases judged with
  | malformed =>
    rw [funext (validate_of_error secretSet found)]
    exact .refused (by decide)
  | forged =>
    rw [funext (validate_of_error secretSet found)]
    exact .refused (by decide)
  | @authentic claims p whole authentic =>
    by_cases inCalendar : claims.InCalendar
    · rw [funext (validate_of_ok secretSet found inCalendar)]
      exact .authentic p (String.toList_inj.mp whole) authentic inCalendar
    · rw [funext (validate_of_beyond secretSet found inCalendar)]
      exact .refused (by decide)

/-- Authentic parts are answered as their claims say. -/
theorem validate_text {p : Parts} (secretSet : secret.isEmpty = false) (authentic : p.Authentic secret c)
    (inCalendar : c.InCalendar) (now : Instant) : validate p.text secret now = c.answer now :=
  validate_of_ok secretSet (claims_text authentic) inCalendar now

/-- A raw token passes at any time if it is authentic, and at no time if it is not. -/
theorem passes_iff (secretSet : secret.isEmpty = false) : Passes raw secret now ↔
    ∃ (p : Parts) (claims : Claims),
      raw = p.text ∧ p.Authentic secret claims ∧ claims.InCalendar := by
  constructor
  · intro passes
    rw [Passes] at passes
    have settled := settled secretSet raw
    generalize validate raw secret = answers at settled passes
    cases settled with
    | refused among =>
      rcases passes with expired | ⟨claims, ok⟩
      · cases expired
        exact absurd among (by decide)
      · cases ok
    | authentic p whole authentic inCalendar => exact ⟨p, _, whole, authentic, inCalendar⟩
  · rintro ⟨p, claims, rfl, authentic, inCalendar⟩
    rw [Passes, validate_text secretSet authentic inCalendar]
    exact (claims.answer_cases now).imp_right fun counts => ⟨claims, counts⟩

theorem signature_of_passes {p : Parts} (secretSet : secret.isEmpty = false)
    (passes : Passes p.text secret now) : p.signature = p.expected secret := by
  obtain ⟨q, claims, same, authentic, -⟩ := (passes_iff secretSet).mp passes
  obtain ⟨messages, signatures⟩ := Parts.text_inj same
  rw [signatures, authentic.signature, Parts.expected, Parts.expected, messages]

namespace Settled

variable {answers : Instant → Except AuthError Claims}

/-- What is not found to be signed is refused for one reason. -/
theorem refusal (settled : Settled secret raw answers)
    (fails : ¬(answers now = .error (.unauthorized .tokenExpired) ∨ ∃ claims, answers now = .ok claims)) :
    ∃ reason ∈ unsignedReasons, ∀ t, answers t = .error (.unauthorized reason) := by
  cases settled with
  | refused among => exact ⟨_, among, fun _ => rfl⟩
  | @authentic claims p whole authentic inCalendar =>
    exact absurd ((claims.answer_cases now).imp_right fun counts => ⟨claims, counts⟩) fails

theorem steady {reason : UnauthorizedReason} (settled : Settled secret raw answers)
    (among : reason ∈ unsignedReasons) (found : answers now = .error (.unauthorized reason)) (t : Instant) :
    answers t = .error (.unauthorized reason) := by
  cases settled with
  | refused => exact found
  | authentic =>
    rw [Claims.answer] at found
    split_ifs at found
    -- Authentic claims are refused for their age only, which is no reason of these.
    cases found
    exact absurd among (by decide)

theorem counted_before {claims : Claims} {earlier later : Instant} (settled : Settled secret raw answers)
    (passed : earlier ≤ later) (found : answers later = .ok claims) : answers earlier = .ok claims := by
  cases settled with
  | refused => cases found
  | @authentic claims' p whole authentic inCalendar =>
    obtain rfl : claims' = claims := by
      rw [Claims.answer] at found
      split_ifs at found
      exact Except.ok.inj found
    exact Claims.answer_eq_ok_iff.mpr (Int.le_trans passed (Claims.answer_eq_ok_iff.mp found))

theorem expired_after {earlier later : Instant} (settled : Settled secret raw answers)
    (passed : earlier ≤ later) (found : answers earlier = .error (.unauthorized .tokenExpired)) :
    answers later = .error (.unauthorized .tokenExpired) := by
  cases settled with
  | refused => exact found
  | authentic =>
    exact Claims.answer_eq_expired_iff.mpr (Int.le_trans (Claims.answer_eq_expired_iff.mp found) passed)

end Settled

/-- Only authentic tokens pass, so no signature but the expected one does. Whatever does not pass is
refused for one and the same reason at all times. What passes counts up to the very instant of its expiry:
an answer that it counts held before as well, and an answer that it has expired holds from then on. -/
theorem validate_only_authentic (secretSet : secret.isEmpty = false) :
    (∀ raw now, Passes raw secret now ↔
      ∃ (p : Parts) (claims : Claims),
        raw = p.text ∧ p.Authentic secret claims ∧ claims.InCalendar) ∧
    (∀ (p q : Parts) (now later : Instant), p.message = q.message →
      Passes p.text secret now → Passes q.text secret later → p.text = q.text) ∧
    (∀ p : Parts, p.signature ≠ p.expected secret → ∀ now, ¬Passes p.text secret now) ∧
    (∀ raw now, ¬Passes raw secret now →
      ∃ reason ∈ unsignedReasons, ∀ t, validate raw secret t = .error (.unauthorized reason)) ∧
    (∀ raw now, ∀ reason ∈ unsignedReasons, validate raw secret now = .error (.unauthorized reason) →
      ∀ t, validate raw secret t = .error (.unauthorized reason)) ∧
    (∀ raw (earlier later : Instant), earlier ≤ later →
      (∀ claims, validate raw secret later = .ok claims → validate raw secret earlier = .ok claims) ∧
      (validate raw secret earlier = .error (.unauthorized .tokenExpired) →
        validate raw secret later = .error (.unauthorized .tokenExpired))) ∧
    ∀ (p : Parts) (claims : Claims), p.Authentic secret claims → claims.InCalendar → ∀ now,
      (validate p.text secret now = .ok claims ↔ now.nanos ≤ claims.expiry * 1000000000) ∧
      (validate p.text secret now = .error (.unauthorized .tokenExpired) ↔
        claims.expiry * 1000000000 + 1 ≤ now.nanos) := by
  refine ⟨fun raw now => passes_iff secretSet, ?_, ?_, ?_, ?_, ?_, ?_⟩
  · intro p q now later messages first second
    have expected : p.expected secret = q.expected secret := by
      rw [Parts.expected, Parts.expected, messages]
    rw [Parts.text, Parts.text, messages, signature_of_passes secretSet first, expected,
      ← signature_of_passes secretSet second]
  · intro p differs now passes
    exact differs (signature_of_passes secretSet passes)
  · intro raw now fails
    exact (settled secretSet raw).refusal fails
  · intro raw now reason among found
    exact (settled secretSet raw).steady among found
  · intro raw earlier later passed
    have settled := settled secretSet raw
    exact ⟨fun claims found => settled.counted_before passed found, settled.expired_after passed⟩
  · intro p claims authentic inCalendar now
    rw [validate_text secretSet authentic inCalendar]
    exact ⟨Claims.answer_eq_ok_iff, Claims.answer_eq_expired_iff⟩

/-- A token for the first minute of 1970: it counts at the first instant as it does at the last one, has
expired for good a nanosecond later, and never passes without its signature. -/
theorem validate_only_authentic_minute :
    let claims : Claims := ⟨"id", "user", 60⟩
    ∃ p bare : Parts, p.text = sign "key" claims ∧ bare.message = p.message ∧ bare.signature = [] ∧
      "key".isEmpty = false ∧ validate p.text "key" ⟨60000000000, by decide⟩ = .ok claims ∧
      validate p.text "key" .epoch = .ok claims ∧
      validate p.text "key" ⟨60000000001, by decide⟩ = .error (.unauthorized .tokenExpired) ∧
      validate p.text "key" ⟨3600000000000, by decide⟩ = .error (.unauthorized .tokenExpired) ∧
      ∀ now, ¬Passes bare.text "key" now := by
  intro claims
  have authentic : (Parts.ofClaims "key" claims).Authentic "key" claims :=
    authentic_ofClaims "key" ⟨by decide, by decide⟩ (by decide)
  have text := Parts.text_ofClaims "key" claims
  generalize Parts.ofClaims "key" claims = p at authentic text
  let bare : Parts := { p with signature := [], signature_plain := List.not_mem_nil }
  have secretSet : "key".isEmpty = false := by decide
  obtain ⟨-, -, forged, -, -, ordered, switch⟩ := validate_only_authentic secretSet
  have switch := switch p claims authentic ⟨⟨60000000000, by decide⟩, rfl⟩
  have counts : validate p.text "key" ⟨60000000000, by decide⟩ = .ok claims :=
    (switch _).1.mpr (by decide)
  have expired : validate p.text "key" ⟨60000000001, by decide⟩ =
      .error (.unauthorized .tokenExpired) := (switch _).2.mpr (by decide)
  exact ⟨p, bare, text, rfl, rfl, secretSet, counts, (ordered _ .epoch _ (by decide)).1 _ counts, expired,
    (ordered _ _ _ (by decide)).2 expired, forged bare (bare.expected_ne_nil "key").symm⟩

end Token

end BearerAuth
