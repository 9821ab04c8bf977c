import BearerAuth.Proofs.Session.Effects
import BearerAuth.Proofs.Token.Validity

/-! # Issuing a session alone

When nothing interferes, issuing replaces the markers of the earlier pair by those of the new one.
A marker is kept at least until its token expires, however much time passes between the reading its
lifetime is taken from and the one it is counted from.
-/

namespace BearerAuth

open BearerAuth.Time

/-- A marker is kept at least until its token expires. -/
private theorem MemoryCache.le_expiry {t : Token} (plain : t.expiresAt.inLeapSecond = false)
    {now reading expiresAt : Instant} (later : now ≤ reading)
    (fits : MemoryCache.expiry reading (t.remaining now) = .ok expiresAt) :
    t.expiresAt.instant ≤ expiresAt := by
  obtain ⟨-, nanos⟩ := MemoryCache.expiry_eq_ok_iff.mp fits
  rw [Token.remaining_nanos plain] at nanos
  change t.expiresAt.instant.nanos ≤ expiresAt.nanos
  change now.nanos ≤ reading.nanos at later
  omega

/-- If a marker can no longer be kept, the token could no longer be issued either. -/
private theorem Token.expiry_error {userId secret : String} {clientType : ClientType} {ttl : Duration}
    {first now reading expiresAt : Instant} {t : Token} {e : CacheError}
    (found : Token.expiry userId clientType secret ttl first = .ok expiresAt)
    (same : t.expiresAt = expiresAt) (early : first ≤ now) (later : now ≤ reading)
    (failed : MemoryCache.expiry reading (t.remaining now) = .error e) :
    ∃ e, Token.expiry userId clientType secret ttl reading = .error e := by
  cases again : Token.expiry userId clientType secret ttl reading with
  | error e => exact ⟨e, rfl⟩
  | ok last =>
    exfalso
    obtain ⟨-, -, -, -, nanos⟩ := Token.expiry_ok found
    obtain ⟨-, -, -, -, nanos'⟩ := Token.expiry_ok again
    have plain : t.expiresAt.inLeapSecond = false := by rw [same]; rfl
    have left := Token.remaining_nanos plain now
    have shown : t.expiresAt.instant = expiresAt := by rw [same]; rfl
    rw [shown] at left
    have bounds := last.inCalendar
    have bounds' := reading.inCalendar
    change first.nanos ≤ now.nanos at early
    change now.nanos ≤ reading.nanos at later
    simp only [Instant.seconds] at nanos nanos'
    -- The lifetime that is left is at most the whole one, which still fits at this reading.
    have fits : -8334601228800000000000 ≤ reading.nanos + (t.remaining now).nanos ∧
        reading.nanos + (t.remaining now).nanos < 8210266876800000000000 := by omega
    have short : t.remaining now ≤ Duration.longestSpan := by
      change (t.remaining now).nanos ≤ 9223372036854775807 * 1000000
      omega
    have kept : MemoryCache.expiry reading (t.remaining now) =
        .ok ⟨reading.nanos + (t.remaining now).nanos, fits⟩ :=
      MemoryCache.expiry_eq_ok_iff.mpr ⟨short, rfl⟩
    cases failed.symm.trans kept

/-- The cache has a live marker of the token. -/
def Token.liveIn (t : Token) (cache : MemoryCache) (now : Instant) : Bool :=
  cache.holds now (markerArea t.kind t.userId t.clientType) t.id

theorem Token.liveIn_eq (t : Token) (cache : MemoryCache) (now : Instant) :
    t.liveIn cache now = (cache.lookup? t.markerKey).any (!·.isExpired now) := rfl

namespace Session

variable {source : Nat → List UInt8} {latest : Instant} {w w' : World} {config : SessionConfig}

/-- The areas of a user's markers on one client type. -/
def areasOn (userId : String) (clientType : ClientType) : List String :=
  [markerArea .access userId clientType, markerArea .refresh userId clientType]

/-- The token was issued with the draw of that number, between the readings of the two worlds. -/
def Fresh (source : Nat → List UInt8) (config : TokenConfig) (kind : TokenKind) (userId : String)
    (clientType : ClientType) (w w' : World) (n : Nat) (t : Token) : Prop :=
  ∃ now expiresAt, w.clock ≤ now ∧ now ≤ w'.clock ∧
    Token.expiry userId clientType config.secret (config.ttl kind) now = .ok expiresAt ∧
    t = Token.signed (Entropy.uuid (source n)) userId clientType kind config.secret now expiresAt

theorem Fresh.fields {config : TokenConfig} {kind : TokenKind} {userId : String}
    {clientType : ClientType} {n : Nat} {t : Token}
    (fresh : Fresh source config kind userId clientType w w' n t) :
    t.id = Entropy.uuid (source n) ∧ t.kind = kind ∧ t.userId = userId ∧ t.clientType = clientType := by
  obtain ⟨now, expiresAt, -, -, -, same⟩ := fresh
  rw [same]
  exact ⟨rfl, rfl, rfl, rfl⟩

/-- A token that was issued is genuine. -/
theorem Fresh.genuine {config : TokenConfig} {kind : TokenKind} {userId : String}
    {clientType : ClientType} {n : Nat} {t : Token}
    (fresh : Fresh source config kind userId clientType w w' n t) :
    t.Genuine config.secret ∧ config.secret.isEmpty = false := by
  obtain ⟨now, expiresAt, -, -, found, same⟩ := fresh
  obtain ⟨secretSet, -⟩ := Token.expiry_ok found
  rw [same]
  exact ⟨Token.genuine_signed found _ _ _, secretSet⟩

theorem Fresh.later {config : TokenConfig} {kind : TokenKind} {userId : String}
    {clientType : ClientType} {n : Nat} {t : Token} {w'' : World}
    (fresh : Fresh source config kind userId clientType w w' n t) (later : w'.clock ≤ w''.clock) :
    Fresh source config kind userId clientType w w'' n t := by
  obtain ⟨now, expiresAt, early, within, found, same⟩ := fresh
  exact ⟨now, expiresAt, early, Int.le_trans within later, found, same⟩

theorem Fresh.earlier {config : TokenConfig} {kind : TokenKind} {userId : String}
    {clientType : ClientType} {n : Nat} {t : Token} {w₀ : World}
    (fresh : Fresh source config kind userId clientType w w' n t) (earlier : w₀.clock ≤ w.clock) :
    Fresh source config kind userId clientType w₀ w' n t := by
  obtain ⟨now, expiresAt, early, within, found, same⟩ := fresh
  exact ⟨now, expiresAt, Int.le_trans earlier early, within, found, same⟩

/-- A token has not expired when it is issued. -/
theorem Fresh.le_expiresAt {config : TokenConfig} {kind : TokenKind} {userId : String}
    {clientType : ClientType} {n : Nat} {t : Token}
    (fresh : Fresh source config kind userId clientType w w' n t) : w.clock ≤ t.expiresAt.instant := by
  obtain ⟨now, expiresAt, later, -, found, same⟩ := fresh
  obtain ⟨-, -, -, lasting, nanos⟩ := Token.expiry_ok found
  have shown : t.expiresAt.instant = expiresAt := by rw [same]; rfl
  rw [shown]
  change w.clock.nanos ≤ expiresAt.nanos
  change w.clock.nanos ≤ now.nanos at later
  simp only [Instant.seconds] at nanos
  omega

/-- The marker of a token is kept at least until it expires. -/
private theorem Fresh.le_expiry {config : TokenConfig} {kind : TokenKind} {userId : String}
    {clientType : ClientType} {n : Nat} {t : Token} {now reading expiresAt : Instant}
    (fresh : Fresh source config kind userId clientType w w' n t) (later : now ≤ reading)
    (fits : MemoryCache.expiry reading (t.remaining now) = .ok expiresAt) :
    t.expiresAt.instant ≤ expiresAt := by
  obtain ⟨first, expiresAt, -, -, -, same⟩ := fresh
  exact MemoryCache.le_expiry (by rw [same]; rfl) later fits

/-- If the marker of a token can no longer be kept, the token could no longer be issued either. -/
private theorem Fresh.expiry_error {config : TokenConfig} {kind : TokenKind} {userId : String}
    {clientType : ClientType} {n : Nat} {t : Token} {now reading : Instant} {e : CacheError}
    (fresh : Fresh source config kind userId clientType w w' n t) (later : w'.clock ≤ now)
    (within : now ≤ reading) (failed : MemoryCache.expiry reading (t.remaining now) = .error e) :
    ∃ e, Token.expiry userId clientType config.secret (config.ttl kind) reading = .error e := by
  obtain ⟨first, expiresAt, -, early, found, same⟩ := fresh
  exact Token.expiry_error found (by rw [same]; rfl) (Int.le_trans early later) within failed

/-- The marker of a token lies in the area it is issued in. -/
private theorem Fresh.liesIn {config : TokenConfig} {kind : TokenKind} {userId : String}
    {clientType : ClientType} {n : Nat} {t : Token}
    (fresh : Fresh source config kind userId clientType w w' n t) :
    liesIn (markerArea kind userId clientType) t.markerKey = true := by
  obtain ⟨id, kinds, user, type⟩ := fresh.fields
  have plain : ColonFree t.id := id ▸ Entropy.colonFree_uuid _
  rw [← kinds, ← user, ← type]
  exact (liesIn_markerArea plain).mpr ⟨rfl, List.prefix_rfl⟩

private theorem Fresh.ne_of_beyond {config : TokenConfig} {kind : TokenKind} {userId : String}
    {clientType : ClientType} {n : Nat} {t t' : Token}
    (fresh : Fresh source config kind userId clientType w w' n t)
    (beyond : World.Beyond (areasOn userId clientType) t') : t'.markerKey ≠ t.markerKey := by
  intro same
  have member : markerArea kind userId clientType ∈ areasOn userId clientType := by
    cases kind <;> simp [areasOn]
  have outside := beyond _ member
  rw [same, fresh.liesIn] at outside
  cases outside

/-- The pair has taken the place of an earlier one. -/
structure Begun (source : Nat → List UInt8) (config : TokenConfig) (userId : String)
    (clientType : ClientType) (w w' : World) (p : TokenPair) : Prop where
  access : Fresh source config .access userId clientType w w' w.drawn p.access
  refresh : Fresh source config .refresh userId clientType w w' (w.drawn + 1) p.refresh
  drawn : w'.drawn = w.drawn + 2
  leaves : w.Leaves (World.Beyond (areasOn userId clientType)) w'
  /-- No other marker is left in the two areas. -/
  others : ∀ t : Token, t.markerKey ≠ p.access.markerKey → t.markerKey ≠ p.refresh.markerKey →
    w'.cache.lookup? t.markerKey = if (areasOn userId clientType).any (liesIn · t.markerKey) then none
      else w.cache.lookup? t.markerKey
  /-- The markers of the pair are kept as long as its tokens count. -/
  marked : ∀ t ∈ [p.access, p.refresh], ∃ entry, w'.cache.lookup? t.markerKey = some entry ∧
    t.expiresAt.instant ≤ entry.expiresAt

/-- The tokens of a pair are live from the beginning until they expire. -/
theorem Begun.live {config : TokenConfig} {userId : String} {clientType : ClientType} {p : TokenPair}
    (begun : Begun source config userId clientType w w' p) {t : Token}
    (member : t ∈ [p.access, p.refresh]) {now : Instant} (early : now ≤ t.expiresAt.instant) :
    t.liveIn w'.cache now = true := by
  obtain ⟨entry, kept, lasting⟩ := begun.marked t member
  have alive : ¬entry.expiresAt < now := fun past =>
    Int.not_lt.mpr (Int.le_trans early lasting) past
  rw [Token.liveIn_eq, kept]
  simpa [CacheEntry.isExpired] using alive

/-- The tokens of a pair are made one after the other, before anything is written. -/
private theorem mint_mint_ensures {userId : String} {clientType : ClientType} {α : Type}
    {goal : α → World → Prop} {refusal : AuthError → World → Prop} {rest : Token → Token → Session α}
    (failed : ∀ e w' kind, w.Leaves (fun _ => True) w' → w'.clock ≤ latest →
      (∃ e, Token.expiry userId clientType config.tokens.secret (config.tokens.ttl kind) w'.clock =
        .error e) → refusal e w')
    (minted : ∀ access refresh w', w.Leaves (fun _ => True) w' → w'.cache = w.cache →
      w'.drawn = w.drawn + 2 →
      Fresh source config.tokens .access userId clientType w w' w.drawn access →
      Fresh source config.tokens .refresh userId clientType w w' (w.drawn + 1) refresh →
        Ensures source latest goal refusal (rest access refresh) w') :
    Ensures source latest goal refusal (do
      let access ← mint config.tokens .access userId clientType
      let refresh ← mint config.tokens .refresh userId clientType
      rest access refresh) w := by
  refine Ensures.bind ((mint_ensures .access userId clientType).weaken ?_ ?_)
  swap
  · rintro e w₁ ⟨leaves, within, error⟩
    exact failed e w₁ .access leaves within error
  rintro access w₁ ⟨leaves₁, cache₁, drawn₁, expiry₁, found₁, same₁⟩
  refine Ensures.bind ((mint_ensures .refresh userId clientType).weaken ?_ ?_)
  swap
  · rintro e w₂ ⟨leaves₂, within, error⟩
    exact failed e w₂ .refresh (leaves₁.trans leaves₂) within error
  rintro refresh w₂ ⟨leaves₂, cache₂, drawn₂, expiry₂, found₂, same₂⟩
  have leaves := leaves₁.trans leaves₂
  refine minted access refresh w₂ leaves (cache₂.trans cache₁) (by omega) ?_ ?_
  · exact ⟨w₁.clock, expiry₁, leaves₁.clock, leaves₂.clock, found₁, same₁⟩
  · exact ⟨w₂.clock, expiry₂, leaves.clock, Int.le_refl _, found₂, by rw [same₂, drawn₁]⟩

/-- The markers of a pair are set one after the other. -/
private theorem mark_mark_ensures {now : Instant} {access refresh : Token} {α : Type}
    {goal : α → World → Prop} {refusal : AuthError → World → Prop} {rest : Session α}
    (apart : access.markerKey ≠ refresh.markerKey)
    (failed : ∀ e w', ∀ t ∈ [access, refresh],
      w.Leaves (fun t' => ∀ t ∈ [access, refresh], t'.markerKey ≠ t.markerKey) w' → w'.clock ≤ latest →
      (∃ e, MemoryCache.expiry w'.clock (t.remaining now) = .error e) → refusal e w')
    (marked : ∀ w', w.Leaves (fun t' => ∀ t ∈ [access, refresh], t'.markerKey ≠ t.markerKey) w' →
      w'.drawn = w.drawn → (∀ t ∈ [access, refresh], ∃ entry reading, w.clock ≤ reading ∧
        w'.cache.lookup? t.markerKey = some entry ∧
          MemoryCache.expiry reading (t.remaining now) = .ok entry.expiresAt) →
        Ensures source latest goal refusal rest w') :
    Ensures source latest goal refusal (do
      mark config now access
      mark config now refresh
      rest) w := by
  have first (t' : Token) (other : ∀ t ∈ [access, refresh], t'.markerKey ≠ t.markerKey) :
      t'.markerKey ≠ access.markerKey := other access (by simp)
  have second (t' : Token) (other : ∀ t ∈ [access, refresh], t'.markerKey ≠ t.markerKey) :
      t'.markerKey ≠ refresh.markerKey := other refresh (by simp)
  refine Ensures.bind ((mark_ensures now access).weaken ?_ ?_)
  swap
  · rintro e w₁ ⟨leaves, within, error⟩
    exact failed e w₁ access (by simp) (leaves.mono first) within error
  rintro - w₁ ⟨leaves₁, drawn₁, entry₁, kept₁, fits₁⟩
  refine Ensures.bind ((mark_ensures now refresh).weaken ?_ ?_)
  swap
  · rintro e w₂ ⟨leaves₂, within, error⟩
    exact failed e w₂ refresh (by simp) ((leaves₁.mono first).trans (leaves₂.mono second)) within error
  rintro - w₂ ⟨leaves₂, drawn₂, entry₂, kept₂, fits₂⟩
  have leaves := (leaves₁.mono first).trans (leaves₂.mono second)
  refine marked w₂ leaves (drawn₂.trans drawn₁) fun t member => ?_
  rcases List.mem_pair.mp member with rfl | rfl
  · exact ⟨entry₁, w₁.clock, leaves₁.clock, (leaves₂.markers _ apart).trans kept₁, fits₁⟩
  · exact ⟨entry₂, w₂.clock, leaves.clock, kept₂, fits₂⟩

/-- Issuing replaces the earlier pair, unless the client is not active or the settings do not allow
tokens for the user at some reading. -/
theorem issueSession_ensures (client : Client) (userId : String) :
    Ensures source latest
      (fun p w' => client.isActive = true ∧
        Begun source config.tokens userId client.clientType w w' p)
      (fun _ w' => w.Leaves (World.Beyond (areasOn userId client.clientType)) w' ∧
        (client.isActive = false ∧ w.Quiet w' ∨ ∃ kind now e, w.clock ≤ now ∧ now ≤ latest ∧
          Token.expiry userId client.clientType config.tokens.secret (config.tokens.ttl kind) now =
            .error e))
      (issueSession config client userId) w := by
  refine ensures_check (fun inactive => ?_) fun active => ?_
  · exact ⟨.refl w, .inl ⟨by simpa using inactive, .refl w⟩⟩
  have active : client.isActive = true := by simpa using active
  refine Ensures.bind (revoke_revoke_ensures fun w₁ revoked => ?_)
  refine mint_mint_ensures (fun _ w₂ kind leaves within failed => ?_)
    fun access refresh w₂ minted cache drawn freshAccess freshRefresh => ?_
  · have leaves := revoked.leaves.trans (leaves.mono fun _ _ => trivial)
    exact ⟨leaves, .inr ⟨kind, w₂.clock, failed.choose, leaves.clock, within, failed.choose_spec⟩⟩
  have leaves₂ := revoked.leaves.trans (minted.mono fun _ _ => trivial)
  refine Ensures.bind (ensures_readClock fun now later _ => ?_)
  have leaves₃ := leaves₂.trans (World.leaves_setClock later)
  have apart : access.markerKey ≠ refresh.markerKey := by
    intro same
    have kinds := Token.kind_eq_of_markerKey same
    rw [freshAccess.fields.2.1, freshRefresh.fields.2.1] at kinds
    cases kinds
  -- The new markers lie in the areas that were evicted, so what lies beyond these is left alone.
  have others (t' : Token) (beyond : World.Beyond (areasOn userId client.clientType) t') (t : Token)
      (member : t ∈ [access, refresh]) : t'.markerKey ≠ t.markerKey := by
    rcases List.mem_pair.mp member with rfl | rfl
    · exact freshAccess.ne_of_beyond beyond
    · exact freshRefresh.ne_of_beyond beyond
  refine mark_mark_ensures apart (fun _ w₄ t member leaves within failed => ?_)
    fun w₄ leaves drawn' marked => ?_
  · obtain ⟨e, failed⟩ := failed
    have leaves₄ := leaves₃.trans (leaves.mono others)
    rcases List.mem_pair.mp member with rfl | rfl
    · obtain ⟨e, failed⟩ := freshAccess.expiry_error later leaves.clock failed
      exact ⟨leaves₄, .inr ⟨.access, w₄.clock, e, leaves₄.clock, within, failed⟩⟩
    · obtain ⟨e, failed⟩ := freshRefresh.expiry_error later leaves.clock failed
      exact ⟨leaves₄, .inr ⟨.refresh, w₄.clock, e, leaves₄.clock, within, failed⟩⟩
  have early := revoked.leaves.clock
  have late : w₂.clock ≤ w₄.clock := Int.le_trans later leaves.clock
  refine ensures_pure ⟨active, ?_, ?_, ?_, leaves₃.trans (leaves.mono others), ?_, ?_⟩
  · exact revoked.drawn ▸ (freshAccess.earlier early).later late
  · exact revoked.drawn ▸ (freshRefresh.earlier early).later late
  · rw [drawn', World.setClock_drawn, drawn, revoked.drawn]
  · intro t access refresh
    rw [leaves.markers t (by simp [access, refresh]), World.setClock_cache, cache]
    exact revoked.entries t.markerKey
  · intro t member
    obtain ⟨entry, reading, since, kept, fits⟩ := marked t member
    refine ⟨entry, kept, ?_⟩
    rcases List.mem_pair.mp member with rfl | rfl
    · exact freshAccess.le_expiry since fits
    · exact freshRefresh.le_expiry since fits

/-- The settings allow tokens for the user on the client type at every reading in between. -/
def Serves (config : TokenConfig) (userId : String) (clientType : ClientType) (first last : Instant) :
    Prop :=
  ∀ kind now, first ≤ now → now ≤ last →
    ∃ expiresAt, Token.expiry userId clientType config.secret (config.ttl kind) now = .ok expiresAt

/-- Where a pair was issued while time stood still, the settings allow tokens. -/
theorem Begun.serves {config : TokenConfig} {userId : String} {clientType : ClientType} {p : TokenPair}
    (begun : Begun source config userId clientType w w' p) (still : w'.clock = w.clock) :
    Serves config userId clientType w.clock w.clock := by
  intro kind now later within
  have found {kind : TokenKind} {n : Nat} {t : Token}
      (fresh : Fresh source config kind userId clientType w w' n t) : ∃ expiresAt,
        Token.expiry userId clientType config.secret (config.ttl kind) now = .ok expiresAt := by
    obtain ⟨reading, expiresAt, early, late, found, -⟩ := fresh
    rw [still] at late
    rw [Instant.le_antisymm within later, Instant.le_antisymm early late]
    exact ⟨expiresAt, found⟩
  cases kind with
  | access => exact found begun.access
  | refresh => exact found begun.refresh

/-- Where the settings allow tokens, issuing for an active client is not refused. -/
theorem issueSession_succeeds {client : Client} {userId : String} (active : client.isActive = true)
    (serves : Serves config.tokens userId client.clientType w.clock latest) :
    Ensures source latest (fun p w' => Begun source config.tokens userId client.clientType w w' p)
      (fun _ _ => False) (issueSession config client userId) w := by
  refine (issueSession_ensures client userId).weaken (fun p w' issued => issued.2) ?_
  rintro - w' ⟨-, ⟨inactive, -⟩ | ⟨kind, now, e, later, within, failed⟩⟩
  · cases active.symm.trans inactive
  · obtain ⟨expiresAt, found⟩ := serves kind now later within
    cases failed.symm.trans found

end Session

end BearerAuth
