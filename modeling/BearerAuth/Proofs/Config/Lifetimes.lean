import BearerAuth.Config.Basic
import BearerAuth.Proofs.Cache.Expiry
import BearerAuth.Proofs.Token.Issued

/-! # Lifetimes that the calendar holds

The check of a configuration asks that every lifetime be positive, and sets no upper bound. Tokens and
cached copies can only be kept until an instant of the calendar, though, so whether a checked configuration
can drive the core depends on the reading of the clock: it does exactly while every lifetime ends within the
calendar. That is so up to the end of the year 9999 for lifetimes of at most 7956864576000 seconds.
-/

namespace BearerAuth

open BearerAuth.Time

/-! ## Whole seconds from a reading -/

namespace Time.Instant

/-- The end of the year 9999, to the nanosecond. -/
def endOf9999 : Instant := ⟨253402300799999999999, by decide⟩

example : (endOf9999 : Timestamp).toText = "9999-12-31T23:59:59.999999999Z" := by decide

/-- Only the seconds of a reading count for how far ahead whole seconds reach. -/
theorem reaches_ofSeconds_iff {now : Instant} {secs : Nat} :
    now.Reaches (.ofSeconds secs) ↔ now.seconds + secs ≤ 8210266876799 := by
  rw [reaches_iff]
  simp only [Duration.ofSeconds, seconds]
  omega

end Time.Instant

namespace Token

variable {id userId secret : String} {clientType : ClientType} {kind : TokenKind} {secs : Nat}
  {now : Instant}

/-- A token of so many seconds is issued exactly if an instant lies that far ahead. -/
theorem issue_ofSeconds_iff (id : String) (kind : TokenKind) (secretSet : secret.isEmpty = false)
    (userSet : userId.isEmpty = false) (typeSet : clientType.isEmpty = false) (lasting : secs ≠ 0) :
    (∃ t, issue id userId clientType kind secret (.ofSeconds secs) now = .ok t) ↔
      now.Reaches (.ofSeconds secs) := by
  have whole : (Duration.ofSeconds secs).seconds = secs := Duration.seconds_ofSeconds secs
  rw [Instant.reaches_ofSeconds_iff]
  constructor
  · rintro ⟨t, issued⟩
    obtain ⟨expiresAt, found, -⟩ := issue_eq_ok_iff.mp issued
    obtain ⟨-, -, -, -, nanos⟩ := expiry_ok found
    rw [whole] at nanos
    have last := expiresAt.inCalendar.2
    omega
  · intro within
    have first := now.inCalendar.1
    have inCalendar : -8334601228800000000000 ≤ (now.seconds + secs) * 1000000000 ∧
        (now.seconds + secs) * 1000000000 < 8210266876800000000000 := by
      simp only [Instant.seconds] at within ⊢
      omega
    have shown : Instant.ofSeconds? (now.seconds + (Duration.ofSeconds secs).seconds) =
        some ⟨(now.seconds + secs) * 1000000000, inCalendar⟩ := by
      rw [whole, Instant.ofSeconds?, Instant.ofNanos?_eq_some_iff]
    have long : (Duration.ofSeconds secs).seconds ≠ 0 := by
      rw [whole]
      exact lasting
    have found := expiry_of_instant secretSet userSet typeSet long shown
    exact ⟨_, issue_eq_ok_iff.mpr ⟨_, found, rfl⟩⟩

/-- A token that lasts some seconds counts at the reading it was issued at, if that is in 1970 or later. -/
theorem validate_of_issue {t : Token}
    (issued : issue id userId clientType kind secret (.ofSeconds secs) now = .ok t)
    (recent : Instant.epoch ≤ now) : validate t.raw secret now = .ok (Claims.ofToken t) := by
  obtain ⟨expiresAt, found, rfl⟩ := issue_eq_ok_iff.mp issued
  obtain ⟨-, -, -, lasting, nanos⟩ := expiry_ok found
  have later : now.nanos ≤ expiresAt.nanos := by
    simp only [Instant.seconds] at nanos
    omega
  have positive : Instant.epoch ≤ expiresAt := Int.le_trans recent later
  exact (roundTrips_of_issue issued positive).counts now later

end Token

namespace Config

/-- The configuration can drive the core at a reading: whoever signs in gets a pair of tokens that both
count, and copies of clients and users are kept. -/
structure Drives (c : Config) (now : Instant) : Prop where
  issues : ∀ userId clientType, userId.isEmpty = false → clientType.isEmpty = false →
    ∀ accessId refreshId, ∃ p,
      Token.issuePair accessId refreshId userId clientType c.tokenConfig now = .ok p ∧
      ∀ t ∈ [p.access, p.refresh],
        Token.validate t.raw c.tokenConfig.secret now = .ok (Claims.ofToken t)
  keeps : ∀ ttl ∈ [c.sessionConfig.clientCacheTtl, c.sessionConfig.userCacheTtl],
    ∀ (cache : MemoryCache) area key value, (cache.perform now (.set area key ttl value)).1 = .ok ()

/-- The lifetimes of tokens and copies, in seconds. -/
def lifetimes (c : Config) : List Nat :=
  [c.tokens.accessTtlSecs, c.tokens.refreshTtlSecs, c.sessions.clientCacheTtlSecs,
    c.sessions.userCacheTtlSecs]

/-- The configuration with other lifetimes. -/
def withLifetimes (c : Config) (access refresh client user : Nat) : Config :=
  { c with
    tokens := { c.tokens with accessTtlSecs := access, refreshTtlSecs := refresh }
    sessions := { c.sessions with clientCacheTtlSecs := client, userCacheTtlSecs := user } }

variable {c : Config} {now : Instant}

/-- A checked configuration has a secret, and no lifetime is zero. -/
theorem lifetimes_ne_zero (checked : c.validate = .ok ()) :
    c.tokens.secret.isEmpty = false ∧ ∀ secs ∈ c.lifetimes, secs ≠ 0 := by
  obtain ⟨secretSet, checked⟩ := passed_iff.mp checked
  obtain ⟨-, checked⟩ := passed_iff.mp checked
  obtain ⟨tokens, checked⟩ := passed_iff.mp checked
  obtain ⟨sessions, -⟩ := passed_iff.mp checked
  constructor
  · simpa using secretSet
  · intro secs member
    simp only [lifetimes, List.mem_cons, List.not_mem_nil, or_false] at member
    omega

/-- The check asks nothing of lifetimes but that they are positive. -/
theorem validate_withLifetimes (checked : c.validate = .ok ()) {access refresh client user : Nat}
    (positive : ∀ secs ∈ [access, refresh, client, user], secs ≠ 0) :
    (c.withLifetimes access refresh client user).validate = .ok () := by
  simp only [List.forall_mem_cons, List.not_mem_nil, false_implies, implies_true, and_true] at positive
  obtain ⟨secretSet, checked⟩ := passed_iff.mp checked
  obtain ⟨secretLong, checked⟩ := passed_iff.mp checked
  obtain ⟨-, checked⟩ := passed_iff.mp checked
  obtain ⟨-, checked⟩ := passed_iff.mp checked
  apply passed_iff.mpr ⟨secretSet, _⟩
  apply passed_iff.mpr ⟨secretLong, _⟩
  refine passed_iff.mpr ⟨?_, passed_iff.mpr ⟨?_, checked⟩⟩
  · simp only [withLifetimes]
    omega
  · simp only [withLifetimes]
    omega

/-- A checked configuration drives the core exactly while all of its lifetimes end within the calendar. -/
theorem drives_iff (checked : c.validate = .ok ()) (recent : Instant.epoch ≤ now) :
    c.Drives now ↔ ∀ secs ∈ c.lifetimes, now.Reaches (.ofSeconds secs) := by
  obtain ⟨secretSet, lasting⟩ := lifetimes_ne_zero checked
  simp only [lifetimes, List.forall_mem_cons, List.not_mem_nil, false_implies, implies_true,
    and_true] at lasting ⊢
  obtain ⟨access, refresh, -, -⟩ := lasting
  constructor
  · intro drives
    obtain ⟨p, issued, -⟩ := drives.issues "u" .web (by decide) (by decide) "" ""
    obtain ⟨accessIssued, refreshIssued⟩ := Token.issuePair_eq_ok_iff.mp issued
    have kept (ttl : Duration)
        (member : ttl ∈ [c.sessionConfig.clientCacheTtl, c.sessionConfig.userCacheTtl]) :
        now.Reaches ttl := by
      obtain ⟨reaches, -⟩ | ⟨-, reason, refused⟩ :=
        MemoryCache.perform_set_cases .empty now "" "" ttl []
      · exact reaches
      · have accepted := drives.keeps ttl member .empty "" "" []
        rw [refused] at accepted
        cases accepted
    refine ⟨?_, ?_, kept _ (by simp [sessionConfig]), kept _ (by simp [sessionConfig])⟩
    · exact (Token.issue_ofSeconds_iff _ _ secretSet (by decide) (by decide) access).mp ⟨_, accessIssued⟩
    · exact (Token.issue_ofSeconds_iff _ _ secretSet (by decide) (by decide) refresh).mp
        ⟨_, refreshIssued⟩
  · rintro ⟨reachesAccess, reachesRefresh, reachesClient, reachesUser⟩
    constructor
    · intro userId clientType userSet typeSet accessId refreshId
      obtain ⟨first, accessIssued⟩ :=
        (Token.issue_ofSeconds_iff accessId .access secretSet userSet typeSet access).mpr reachesAccess
      obtain ⟨second, refreshIssued⟩ :=
        (Token.issue_ofSeconds_iff refreshId .refresh secretSet userSet typeSet refresh).mpr
          reachesRefresh
      refine ⟨⟨first, second⟩, Token.issuePair_eq_ok_iff.mpr ⟨accessIssued, refreshIssued⟩, ?_⟩
      intro t member
      rcases List.mem_pair.mp member with rfl | rfl
      · exact Token.validate_of_issue accessIssued recent
      · exact Token.validate_of_issue refreshIssued recent
    · intro ttl member cache area key value
      have reaches : now.Reaches ttl := by
        rcases List.mem_pair.mp member with rfl | rfl
        · exact reachesClient
        · exact reachesUser
      obtain ⟨-, accepted⟩ | ⟨short, -⟩ := cache.perform_set_cases now area key ttl value
      · exact accepted
      · exact absurd reaches short

/-- A checked configuration drives the core at exactly those readings from which all of its lifetimes end
within the calendar, so up to the end of the year 9999 exactly if none is longer than 7956864576000 seconds.
The check is no help there: it passes with any positive lifetimes. -/
theorem drives_while_in_calendar {c : Config} (checked : c.validate = .ok ()) :
    (∀ now, Instant.epoch ≤ now →
      (c.Drives now ↔ ∀ secs ∈ c.lifetimes, now.Reaches (.ofSeconds secs))) ∧
    ((∀ now, Instant.epoch ≤ now → now ≤ Instant.endOf9999 → c.Drives now) ↔
      ∀ secs ∈ c.lifetimes, secs ≤ 7956864576000) ∧
    ∀ access refresh client user, (∀ secs ∈ [access, refresh, client, user], secs ≠ 0) →
      (c.withLifetimes access refresh client user).validate = .ok () := by
  refine ⟨fun now recent => drives_iff checked recent, ?_,
    fun _ _ _ _ positive => validate_withLifetimes checked positive⟩
  constructor
  · intro always secs member
    have last := always .endOf9999 (by decide) (Int.le_refl _)
    have reaches := (drives_iff checked (by decide)).mp last secs member
    rw [Instant.reaches_ofSeconds_iff] at reaches
    have seconds : Instant.endOf9999.seconds = 253402300799 := by decide
    omega
  · intro short now recent before
    apply (drives_iff checked recent).mpr
    intro secs member
    have bound := short secs member
    have le : now.nanos ≤ 253402300799999999999 := before
    rw [Instant.reaches_ofSeconds_iff]
    simp only [Instant.seconds]
    omega

/-- The usual settings with a secret drive the core up to the end of the year 9999. With access tokens that
last one second too long for the calendar the check passes as well, and on 2025-06-01 no pair is issued. -/
theorem drives_while_in_calendar_2025 :
    let usual : Config := { tokens := { secret := "0123456789abcdef0123456789abcdef" } }
    let long := usual.withLifetimes 8208518097600 604800 3600 300
    let now : Instant := ⟨1748779200000000000, by decide⟩
    usual.validate = .ok () ∧ long.validate = .ok () ∧
      (∀ reading, Instant.epoch ≤ reading → reading ≤ Instant.endOf9999 → usual.Drives reading) ∧
      ¬long.Drives now ∧
      Token.issuePair "a" "b" "u1" .web long.tokenConfig now =
        .error (.validation "token ttl out of range") := by
  intro usual long now
  have checked : usual.validate = .ok () := by decide +kernel
  obtain ⟨-, inRange, others⟩ := drives_while_in_calendar checked
  have passes : long.validate = .ok () := others _ _ _ _ (by decide)
  obtain ⟨exactly, -⟩ := drives_while_in_calendar passes
  refine ⟨checked, passes, inRange.mpr (by decide), ?_, by decide⟩
  intro drives
  exact absurd ((exactly now (by decide)).mp drives _ (List.mem_cons_self ..)) (by decide)

end Config

end BearerAuth
