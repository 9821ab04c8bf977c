import BearerAuth.Proofs.Token.Markers
import BearerAuth.Proofs.Token.Validity

/-! # What was issued is validated

A token that is issued carries what it was issued with, and validation gives its claims back up to
the very instant of its expiry. A pair is two tokens that were issued like this, one after the other.
-/

namespace BearerAuth.Token

open BearerAuth.Time

variable {id userId secret : String} {clientType : ClientType} {kind : TokenKind} {ttl : Duration}
  {now : Instant} {t : Token}

/-- Issuing finds an expiry, and signs. -/
theorem issue_eq_ok_iff : issue id userId clientType kind secret ttl now = .ok t ↔
    ∃ expiresAt, expiry userId clientType secret ttl now = .ok expiresAt ∧
      t = signed id userId clientType kind secret now expiresAt := by
  rw [issue]
  cases expiry userId clientType secret ttl now with
  | error e =>
    constructor
    · intro issued
      cases issued
    · rintro ⟨expiresAt, found, -⟩
      cases found
  | ok expiresAt =>
    constructor
    · intro issued
      cases issued
      exact ⟨expiresAt, rfl, rfl⟩
    · rintro ⟨_, ⟨⟩, rfl⟩
      rfl

/-- The two tokens of a pair are issued one after the other, or none is. -/
theorem issuePair_eq_ok_iff {accessId refreshId : String} {config : TokenConfig} {later : Instant}
    {p : TokenPair} : issuePair accessId refreshId userId clientType config now later = .ok p ↔
      issue accessId userId clientType .access config.secret config.accessTtl now = .ok p.access ∧
      issue refreshId userId clientType .refresh config.secret config.refreshTtl later =
        .ok p.refresh := by
  rw [issuePair]
  cases issue accessId userId clientType .access config.secret config.accessTtl now with
  | error e =>
    constructor
    · intro issued
      cases issued
    · rintro ⟨⟨⟩, -⟩
  | ok access =>
    cases issue refreshId userId clientType .refresh config.secret config.refreshTtl later with
    | error e =>
      constructor
      · intro issued
        cases issued
      · rintro ⟨-, ⟨⟩⟩
    | ok refresh =>
      constructor
      · intro issued
        cases issued
        exact ⟨rfl, rfl⟩
      · rintro ⟨⟨⟩, ⟨⟩⟩
        rfl

/-- The token was issued under that id, at that reading, to the user on the client type. -/
structure IssuedAs (id userId : String) (clientType : ClientType) (kind : TokenKind) (now : Instant)
    (t : Token) : Prop where
  id : t.id = id
  userId : t.userId = userId
  clientType : t.clientType = clientType
  kind : t.kind = kind
  issuedAt : t.issuedAt = now
  /-- The expiry is a whole second, and no leap second. -/
  expiresAt : t.expiresAt.instant.nanos = t.expiresAt.seconds * 1000000000 ∧
    t.expiresAt.inLeapSecond = false

/-- Validation gives the claims of the token up to the very instant of its expiry, and from then on
finds it expired. -/
structure RoundTrips (secret : String) (t : Token) : Prop where
  counts : ∀ now, now ≤ t.expiresAt.instant →
    validate t.raw secret now = .ok ⟨t.id, t.userId, t.expiresAt.seconds⟩
  expired : ∀ now, t.expiresAt.instant < now →
    validate t.raw secret now = .error (.unauthorized .tokenExpired)

theorem issuedAs_of_issue (issued : issue id userId clientType kind secret ttl now = .ok t) :
    t.IssuedAs id userId clientType kind now := by
  obtain ⟨expiresAt, found, rfl⟩ := issue_eq_ok_iff.mp issued
  have genuine := genuine_signed found id kind now
  exact ⟨rfl, rfl, rfl, rfl, rfl, genuine.whole, genuine.plain⟩

theorem roundTrips_of_issue (issued : issue id userId clientType kind secret ttl now = .ok t)
    (recent : Instant.epoch ≤ t.expiresAt.instant) : t.RoundTrips secret := by
  obtain ⟨expiresAt, found, rfl⟩ := issue_eq_ok_iff.mp issued
  have genuine := genuine_signed found id kind now
  have secretSet := (expiry_ok found).1
  constructor
  · intro reading counts
    have alive : ¬_ < reading := Int.not_lt.mpr counts
    rw [genuine.validate secretSet recent, if_neg alive]
    rfl
  · intro reading past
    rw [genuine.validate secretSet recent, if_pos past]

/-- Whatever a token is issued with, validation gives its claims back until it has expired, unless it
expires before 1970. A pair is two such tokens of one user and client type, and their ids differ unless
the same random bits were drawn for both. -/
theorem issue_then_validate :
    (∀ {id userId secret : String} {clientType : ClientType} {kind : TokenKind} {ttl : Duration}
      {now : Instant} {t : Token}, issue id userId clientType kind secret ttl now = .ok t →
      t.IssuedAs id userId clientType kind now ∧
        (Instant.epoch ≤ t.expiresAt.instant → t.RoundTrips secret)) ∧
    ∀ {first second : List UInt8} {userId : String} {clientType : ClientType} {config : TokenConfig}
      {now later : Instant} {p : TokenPair},
      issuePair (Entropy.uuid first) (Entropy.uuid second) userId clientType config now later = .ok p →
      p.access.IssuedAs (Entropy.uuid first) userId clientType .access now ∧
        p.refresh.IssuedAs (Entropy.uuid second) userId clientType .refresh later ∧
        (first.length = 16 → second.length = 16 →
          (p.access.id = p.refresh.id ↔ Entropy.markUuid first = Entropy.markUuid second)) ∧
        ∀ t ∈ [p.access, p.refresh], Instant.epoch ≤ t.expiresAt.instant →
          t.RoundTrips config.secret := by
  constructor
  · intro _ _ _ _ _ _ _ _ issued
    exact ⟨issuedAs_of_issue issued, roundTrips_of_issue issued⟩
  · intro _ _ _ _ _ _ _ p issued
    obtain ⟨access, refresh⟩ := issuePair_eq_ok_iff.mp issued
    have first := issuedAs_of_issue access
    have second := issuedAs_of_issue refresh
    refine ⟨first, second, ?_, ?_⟩
    · intro sized sized'
      rw [first.id, second.id]
      exact Entropy.uuid_inj sized sized'
    · intro t member recent
      rcases List.mem_pair.mp member with rfl | rfl
      · exact roundTrips_of_issue access recent
      · exact roundTrips_of_issue refresh recent

/-- A pair for a user whose name would break the text of its claims: its access token in the last
nanosecond that it counts, and just after. -/
theorem issue_then_validate_quoted : ∃ p : TokenPair,
    issuePair (Entropy.uuid (List.replicate 16 1)) (Entropy.uuid (List.replicate 16 2)) "a\"\\\n."
        ⟨"WEB"⟩ ⟨"key", .ofSeconds 60, .ofSeconds 3600⟩ .epoch = .ok p ∧
      p.access.id ≠ p.refresh.id ∧
      validate p.access.raw "key" ⟨60000000000, by decide⟩ =
        .ok ⟨"01010101-0101-4101-8101-010101010101", "a\"\\\n.", 60⟩ ∧
      validate p.access.raw "key" ⟨60000000001, by decide⟩ = .error (.unauthorized .tokenExpired) := by
  let token (draw : List UInt8) (kind : TokenKind) (expiresAt : Instant) : Token :=
    signed (Entropy.uuid draw) "a\"\\\n." ⟨"WEB"⟩ kind "key" .epoch expiresAt
  let access := token (List.replicate 16 1) .access ⟨60000000000, by decide⟩
  let refresh := token (List.replicate 16 2) .refresh ⟨3600000000000, by decide⟩
  have accessIssued : issue (Entropy.uuid (List.replicate 16 1)) "a\"\\\n." ⟨"WEB"⟩ .access "key"
      (.ofSeconds 60) .epoch = .ok access :=
    issue_eq_ok_iff.mpr ⟨_, expiry_of_instant (by decide) (by decide) (by decide) (by decide)
      (by decide), rfl⟩
  have refreshIssued : issue (Entropy.uuid (List.replicate 16 2)) "a\"\\\n." ⟨"WEB"⟩ .refresh "key"
      (.ofSeconds 3600) .epoch = .ok refresh :=
    issue_eq_ok_iff.mpr ⟨_, expiry_of_instant (by decide) (by decide) (by decide) (by decide)
      (by decide), rfl⟩
  have issued : issuePair (Entropy.uuid (List.replicate 16 1)) (Entropy.uuid (List.replicate 16 2))
      "a\"\\\n." ⟨"WEB"⟩ ⟨"key", .ofSeconds 60, .ofSeconds 3600⟩ .epoch = .ok ⟨access, refresh⟩ :=
    issuePair_eq_ok_iff.mpr ⟨accessIssued, refreshIssued⟩
  obtain ⟨-, -, ids, -⟩ := issue_then_validate.2 issued
  obtain ⟨counts, expired⟩ := (issue_then_validate.1 accessIssued).2 (by decide)
  have text : access.id = "01010101-0101-4101-8101-010101010101" := by decide
  refine ⟨⟨access, refresh⟩, issued, ?_, ?_, ?_⟩
  · intro same
    exact absurd ((ids rfl rfl).mp same) (by decide)
  · exact text ▸ counts _ (by decide)
  · exact expired _ (by decide)

end BearerAuth.Token
