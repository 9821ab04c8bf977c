import BearerAuth.Proofs.Cache.Entries
import BearerAuth.Proofs.Session.Running
import BearerAuth.Proofs.Token.Markers

/-! # What operations leave as it was

Most of what an operation does leaves all markers alone. `World.Leaves` says which markers are left,
and that accounts stay on record; it is proved for each call and put together along the operations.
What signing in and out change is stated on its own.
-/

namespace BearerAuth

open BearerAuth.Time

/-- Users are on record under their own ids. -/
def MemoryDirectory.WellKept (d : MemoryDirectory) : Prop :=
  ∀ userId user, d.users.get? userId = some user → user.id = userId

/-- A user with that id is on record. -/
def MemoryDirectory.Records (d : MemoryDirectory) (userId : String) : Prop :=
  ∃ key user, d.users.get? key = some user ∧ user.id = userId

namespace World

/-- What is kept under the id of a user is a copy of a user with that id. -/
def Faithful (w : World) : Prop :=
  ∀ userId entry, w.cache.lookup? (cacheKey Session.userArea userId) = some entry →
    ∃ user : User, user.id = userId ∧ entry.value = Text.utf8 user.toJson.compact

/-- The markers of these tokens are as before, and so are the users on record. -/
structure Leaves (spared : Token → Prop) (w w' : World) : Prop where
  markers : ∀ t, spared t → w'.cache.lookup? t.markerKey = w.cache.lookup? t.markerKey
  users : w'.directory.users = w.directory.users
  emails : w'.directory.emails = w.directory.emails
  drawn : w.drawn ≤ w'.drawn
  clock : w.clock ≤ w'.clock
  faithful : w.directory.WellKept → w.Faithful → w'.Faithful

/-- No marker has changed, and no random bytes were drawn. -/
structure Quiet (w w' : World) : Prop extends Leaves (fun _ => True) w w' where
  still : w'.drawn = w.drawn

variable {spared spared' : Token → Prop} {w w' w'' : World}

theorem Leaves.refl (w : World) : Leaves spared w w :=
  ⟨fun _ _ => rfl, rfl, rfl, Nat.le_refl _, Int.le_refl _, fun _ same => same⟩

theorem Leaves.wellKept (leaves : Leaves spared w w') (kept : w.directory.WellKept) :
    w'.directory.WellKept := by
  intro userId user found
  rw [leaves.users] at found
  exact kept userId user found

theorem Leaves.trans (first : Leaves spared w w') (second : Leaves spared w' w'') :
    Leaves spared w w'' :=
  ⟨fun t spares => (second.markers t spares).trans (first.markers t spares),
    second.users.trans first.users, second.emails.trans first.emails,
    Nat.le_trans first.drawn second.drawn, Int.le_trans first.clock second.clock,
    fun kept faithful => second.faithful (first.wellKept kept) (first.faithful kept faithful)⟩

theorem Leaves.mono (leaves : Leaves spared w w') (fewer : ∀ t, spared' t → spared t) :
    Leaves spared' w w' := { leaves with markers := fun t spares => leaves.markers t (fewer t spares) }

theorem Quiet.leaves (quiet : Quiet w w') : Leaves spared w w' :=
  quiet.toLeaves.mono fun _ _ => trivial

theorem Quiet.refl (w : World) : Quiet w w := ⟨.refl w, rfl⟩

theorem Quiet.trans (first : Quiet w w') (second : Quiet w' w'') : Quiet w w'' :=
  ⟨first.toLeaves.trans second.toLeaves, second.still.trans first.still⟩

theorem Leaves.findWithRoles (leaves : Leaves spared w w') (userId : String) :
    w'.directory.findWithRoles userId = w.directory.findWithRoles userId := by
  simp only [MemoryDirectory.findWithRoles, leaves.users]

/-! ## Calls -/

theorem leaves_setClock {now : Instant} (later : w.clock ≤ now) : Leaves spared w (w.setClock now) :=
  ⟨fun _ _ => rfl, rfl, rfl, Nat.le_refl _, later, fun _ same => same⟩

theorem quiet_setClock {now : Instant} (later : w.clock ≤ now) : Quiet w (w.setClock now) :=
  ⟨leaves_setClock later, rfl⟩

/-- A call draws no random bytes. -/
theorem quiet_call {now : Instant} {call : Call} (later : w.clock ≤ now)
    (leaves : Leaves (fun _ => True) (w.setClock now) ((w.setClock now).perform call).2) :
    Quiet w ((w.setClock now).perform call).2 :=
  ⟨(leaves_setClock later).trans leaves, perform_drawn _ _⟩

theorem leaves_drawn (w : World) : Leaves spared w { w with drawn := w.drawn + 1 } :=
  ⟨fun _ _ => rfl, rfl, rfl, Nat.le_succ _, Int.le_refl _, fun _ same => same⟩

/-- A call to the directory changes no user on record. -/
theorem leaves_directory (w : World) (call : DirectoryCall) :
    Leaves spared w (w.perform (.directory call)).2 := by
  have same : (w.directory.perform call).2.users = w.directory.users ∧
      (w.directory.perform call).2.emails = w.directory.emails := by
    cases call with
    | deleteClient secret now =>
      simp only [MemoryDirectory.perform, MemoryDirectory.deleteClient]
      split <;> exact ⟨rfl, rfl⟩
    | _ => exact ⟨rfl, rfl⟩
  exact ⟨fun _ _ => rfl, same.1, same.2, Nat.le_refl _, Int.le_refl _, fun _ same => same⟩

/-- A call to the cache leaves what it does not set or drop. -/
theorem leaves_cache {call : CacheCall}
    (markers : ∀ t, spared t → (w.cache.perform w.clock call).2.lookup? t.markerKey =
      w.cache.lookup? t.markerKey)
    (copies : ∀ area key ttl value userId, call = .set area key ttl value →
      cacheKey area key = cacheKey Session.userArea userId → w.directory.WellKept →
        ∃ user : User, user.id = userId ∧ value = Text.utf8 user.toJson.compact) :
    Leaves spared w (w.perform (.cache call)).2 := by
  refine ⟨markers, rfl, rfl, Nat.le_refl _, Int.le_refl _, fun kept faithful userId entry found => ?_⟩
  rcases MemoryCache.lookup?_perform found with before | ⟨area, key, ttl, rfl, same, -⟩
  · exact faithful userId entry before
  · exact copies area key ttl entry.value userId rfl same kept

theorem leaves_get {area key : String} (other : ∀ t : Token, t.markerKey ≠ cacheKey area key) :
    Leaves spared w (w.perform (.cache (.get area key))).2 := by
  refine leaves_cache (fun t _ => ?_) (by rintro _ _ _ _ _ ⟨⟩)
  rw [MemoryCache.lookup?_get, if_neg (other t)]

theorem leaves_evict {area key : String} (other : ∀ t : Token, t.markerKey ≠ cacheKey area key) :
    Leaves spared w (w.perform (.cache (.evict area key))).2 := by
  refine leaves_cache (fun t _ => ?_) (by rintro _ _ _ _ _ ⟨⟩)
  rw [MemoryCache.lookup?_evict, if_neg (other t)]

theorem leaves_evictArea {area : String} (beyond : ∀ t, spared t → liesIn area t.markerKey = false) :
    Leaves spared w (w.perform (.cache (.evictArea area))).2 := by
  refine leaves_cache (fun t spares => ?_) (by rintro _ _ _ _ _ ⟨⟩)
  rw [MemoryCache.lookup?_evictArea, beyond t spares]
  rfl

private theorem lookup?_set_ne {c : MemoryCache} {now : Instant} {area key wholeKey : String}
    {ttl : Duration} {value : List UInt8} (other : wholeKey ≠ cacheKey area key) :
    (c.perform now (.set area key ttl value)).2.lookup? wholeKey = c.lookup? wholeKey := by
  cases fits : MemoryCache.expiry now ttl with
  | error e => rw [MemoryCache.perform_set, fits]
  | ok expiresAt => rw [MemoryCache.lookup?_set c area key wholeKey value fits, if_neg other]

/-- Keeping a copy of a client leaves all markers. -/
theorem leaves_setClient (w : World) (secret : String) (ttl : Duration) (value : Json.Value) :
    Leaves spared w (w.perform (.cache (.setJson Session.clientArea secret ttl value))).2 := by
  refine leaves_cache (fun t _ => lookup?_set_ne (clientKey_ne_marker secret t).symm) ?_
  rintro area key ttl value userId ⟨⟩ same
  exact absurd same.symm (userKey_ne_clientKey userId secret)

/-- Keeping a copy of a user leaves all markers. -/
theorem leaves_setUser {userId : String} {user : User} (own : w.directory.WellKept → user.id = userId)
    (ttl : Duration) :
    Leaves spared w (w.perform (.cache (.setJson Session.userArea userId ttl user.toJson))).2 := by
  refine leaves_cache (fun t _ => lookup?_set_ne (userKey_ne_marker userId t).symm) ?_
  rintro area key ttl value otherId ⟨⟩ same kept
  exact ⟨user, (own kept).trans (userKey_inj same), rfl⟩

/-- Setting a marker leaves the others. -/
theorem leaves_mark {t : Token} (others : ∀ t', spared t' → t'.markerKey ≠ t.markerKey)
    (ttl : Duration) (value : List UInt8) : Leaves spared w
      (w.perform (.cache (.set (markerArea t.kind t.userId t.clientType) t.id ttl value))).2 := by
  refine leaves_cache (fun t' spares => lookup?_set_ne (others t' spares)) ?_
  rintro area key ttl value userId ⟨⟩ same
  exact absurd same.symm (userKey_ne_marker userId t)

/-! ## Revocations -/

/-- The marker of the token lies in none of the areas. -/
def Beyond (areas : List String) (t : Token) : Prop := ∀ area ∈ areas, liesIn area t.markerKey = false

/-- The areas were evicted, and nothing else has changed. -/
structure Revoked (areas : List String) (w w' : World) : Prop where
  leaves : Leaves (Beyond areas) w w'
  drawn : w'.drawn = w.drawn
  entries : ∀ wholeKey, w'.cache.lookup? wholeKey =
    if areas.any (liesIn · wholeKey) then none else w.cache.lookup? wholeKey

theorem revoked_evictArea {now : Instant} (later : w.clock ≤ now) (area : String) :
    Revoked [area] w ((w.setClock now).perform (.cache (.evictArea area))).2 := by
  refine ⟨(leaves_setClock later).trans (leaves_evictArea fun t beyond => ?_), rfl, fun wholeKey => ?_⟩
  · exact beyond area (List.mem_singleton_self area)
  · rw [List.any_cons, List.any_nil, Bool.or_false]
    exact MemoryCache.lookup?_evictArea w.cache now area wholeKey

theorem Revoked.append {areas areas' : List String} (first : Revoked areas w w')
    (second : Revoked areas' w' w'') : Revoked (areas ++ areas') w w'' := by
  refine ⟨?_, second.drawn.trans first.drawn, fun wholeKey => ?_⟩
  · refine (first.leaves.mono fun t beyond area member => ?_).trans
      (second.leaves.mono fun t beyond area member => ?_)
    · exact beyond area (List.mem_append_left _ member)
    · exact beyond area (List.mem_append_right _ member)
  · rw [second.entries, first.entries, List.any_append]
    cases areas.any (liesIn · wholeKey) <;> cases areas'.any (liesIn · wholeKey) <;> rfl

end World

/-! ## Operations -/

namespace Session

variable {source : Nat → List UInt8} {latest : Instant} {w : World} {config : SessionConfig}
  {refusal : AuthError → World → Prop}

theorem quiet_directory {now : Instant} (later : w.clock ≤ now) (call : DirectoryCall) :
    w.Quiet ((w.setClock now).perform (.directory call)).2 :=
  World.quiet_call later (World.leaves_directory _ _)

theorem findByEmail_ensures (email : String) :
    Ensures source latest (fun user w' => w.Quiet w' ∧ w.directory.findByEmail email = some user)
      (fun _ w' => w.Quiet w' ∧
        ((Text.trim email).isEmpty = true ∨ w.directory.findByEmail email = none))
      (findByEmail config email) w := by
  refine ensures_check (fun blank => ⟨.refl w, .inl blank⟩) fun _ => ?_
  refine Ensures.bind (ensures_answer (.directory (.findByEmail email))
    (fun w => w.directory.findByEmail email) (fun _ => rfl) fun now later _ => ?_)
  have quiet := quiet_directory later (.findByEmail email)
  cases found : w.directory.findByEmail email with
  | none =>
    simp only [World.setClock_directory, found]
    exact ensures_throw ⟨quiet, .inr trivial⟩
  | some user =>
    simp only [World.setClock_directory, found]
    exact ensures_pure ⟨quiet, rfl⟩

theorem findUser_ensures (userId : String) :
    Ensures source latest (fun user w' => w.Quiet w' ∧ w.directory.findWithRoles userId = some user)
      (fun _ w' => w.Quiet w' ∧ w.directory.findWithRoles userId = none) (findUser config userId) w := by
  refine Ensures.bind (ensures_answer (.directory (.findWithRoles userId))
    (fun w => w.directory.findWithRoles userId) (fun _ => rfl) fun now later _ => ?_)
  have quiet := quiet_directory later (.findWithRoles userId)
  cases found : w.directory.findWithRoles userId with
  | none =>
    simp only [World.setClock_directory, found]
    exact ensures_throw ⟨quiet, trivial⟩
  | some user =>
    simp only [World.setClock_directory, found]
    exact ensures_pure ⟨quiet, rfl⟩

theorem requireMarker_ensures {kind : TokenKind} {userId tokenId : String} {clientType : ClientType}
    {goal : Unit → World → Prop}
    (absent : ∀ now, w.clock ≤ now → now ≤ latest →
      w.cache.holds now (markerArea kind userId clientType) tokenId = false →
        refusal (.unauthorized .tokenRevoked) (w.setClock now))
    (held : ∀ now, w.clock ≤ now → now ≤ latest →
      w.cache.holds now (markerArea kind userId clientType) tokenId = true →
        goal () (w.setClock now)) :
    Ensures source latest goal refusal (requireMarker config kind userId clientType tokenId) w := by
  refine Ensures.bind (ensures_answer
    (.cache (.holds (markerArea kind userId clientType) tokenId))
    (fun w => w.cache.holds w.clock (markerArea kind userId clientType) tokenId)
    (fun _ => rfl) fun now later within => ?_)
  simp only [World.setClock_cache, World.setClock_clock, Bool.not_eq_true']
  split
  · exact ensures_throw (absent now later within ‹_›)
  · rename_i marked
    exact ensures_pure (held now later within (Bool.of_not_eq_false marked))

/-- A raw token is validated, and then its marker is looked for. -/
theorem accept_ensures {kind : TokenKind} {clientType : ClientType} {raw : String} {α : Type}
    {goal : α → World → Prop} {rest : Claims → Session α}
    (invalid : ∀ e now, w.clock ≤ now → now ≤ latest →
      Token.validate raw config.tokens.secret now = .error e → refusal e (w.setClock now))
    (unmarked : ∀ claims first now, w.clock ≤ first → first ≤ now → now ≤ latest →
      Token.validate raw config.tokens.secret first = .ok claims →
      w.cache.holds now (markerArea kind claims.userId clientType) claims.tokenId = false →
        refusal (.unauthorized .tokenRevoked) (w.setClock now))
    (accepted : ∀ claims first now, w.clock ≤ first → first ≤ now → now ≤ latest →
      Token.validate raw config.tokens.secret first = .ok claims →
      w.cache.holds now (markerArea kind claims.userId clientType) claims.tokenId = true →
        Ensures source latest goal refusal (rest claims) (w.setClock now)) :
    Ensures source latest goal refusal (do
      let claims ← validated config raw
      requireMarker config kind claims.userId clientType claims.tokenId
      rest claims) w := by
  refine Ensures.bind (Ensures.bind (ensures_readClock fun first early within => ?_))
  refine ensures_of_except (fun claims valid => ?_) fun e failed => invalid e first early within failed
  refine Ensures.bind (requireMarker_ensures (fun now later within absent => ?_)
    fun now later within held => ?_)
  · exact unmarked claims first now early later within valid absent
  · exact accepted claims first now early later within valid held

/-- While time stands still, both are done at the same reading. -/
theorem accept_ensures_still {kind : TokenKind} {clientType : ClientType} {raw : String} {α : Type}
    {goal : α → World → Prop} {rest : Claims → Session α}
    (invalid : ∀ e, Token.validate raw config.tokens.secret w.clock = .error e → refusal e w)
    (unmarked : ∀ claims, Token.validate raw config.tokens.secret w.clock = .ok claims →
      w.cache.holds w.clock (markerArea kind claims.userId clientType) claims.tokenId = false →
        refusal (.unauthorized .tokenRevoked) w)
    (accepted : ∀ claims, Token.validate raw config.tokens.secret w.clock = .ok claims →
      w.cache.holds w.clock (markerArea kind claims.userId clientType) claims.tokenId = true →
        Ensures source w.clock goal refusal (rest claims) w) :
    Ensures source w.clock goal refusal (do
      let claims ← validated config raw
      requireMarker config kind claims.userId clientType claims.tokenId
      rest claims) w := by
  have still {now : Instant} (later : w.clock ≤ now) (within : now ≤ w.clock) : now = w.clock :=
    Instant.le_antisymm within later
  refine accept_ensures (fun e now later within failed => ?_)
    (fun claims first now early later within valid absent => ?_)
    fun claims first now early later within valid held => ?_
  · obtain rfl := still later within
    exact invalid e failed
  · obtain rfl := still early (Int.le_trans later within)
    obtain rfl := still later within
    exact unmarked claims valid absent
  · obtain rfl := still early (Int.le_trans later within)
    obtain rfl := still later within
    exact accepted claims valid held

theorem revoke_ensures {area : String} {goal : Unit → World → Prop}
    (reached : ∀ w', w.Revoked [area] w' → goal () w') :
    Ensures source latest goal refusal (revoke config area) w :=
  Ensures.bind (ensures_answer (.cache (.evictArea area))
    (fun w => (w.cache.evictArea area).1) (fun _ => rfl) fun _ later _ =>
      ensures_pure (reached _ (World.revoked_evictArea later area)))

/-- Two areas are evicted one after the other. -/
theorem revoke_revoke_ensures {area area' : String} {goal : Unit → World → Prop}
    (reached : ∀ w', w.Revoked [area, area'] w' → goal () w') :
    Ensures source latest goal refusal (do
      revoke config area
      revoke config area') w := by
  refine Ensures.bind (revoke_ensures fun w₁ first => ?_)
  exact revoke_ensures fun w₂ second => reached w₂ (first.append second)

theorem mint_ensures (kind : TokenKind) (userId : String) (clientType : ClientType) :
    Ensures source latest
      (fun t w' => w.Leaves (fun _ => True) w' ∧ w'.cache = w.cache ∧
        w'.drawn = w.drawn + 1 ∧ ∃ expiresAt,
        Token.expiry userId clientType config.tokens.secret (config.tokens.ttl kind) w'.clock =
          .ok expiresAt ∧
        t = Token.signed (Entropy.uuid (source w.drawn)) userId clientType kind
          config.tokens.secret w'.clock expiresAt)
      (fun _ w' => w.Leaves (fun _ => True) w' ∧ w'.clock ≤ latest ∧ ∃ e, Token.expiry userId clientType
        config.tokens.secret (config.tokens.ttl kind) w'.clock = .error e)
      (mint config.tokens kind userId clientType) w := by
  refine Ensures.bind (ensures_readClock fun now later within => ?_)
  have leaves : w.Leaves (fun _ => True) (w.setClock now) := World.leaves_setClock later
  cases found : Token.expiry userId clientType config.tokens.secret (config.tokens.ttl kind) now with
  | error e => exact Ensures.bind (ensures_throw ⟨leaves, within, e, found⟩)
  | ok expiresAt =>
    refine Ensures.bind (ensures_pure (Ensures.bind (ensures_drawBytes ?_)))
    exact ensures_pure ⟨leaves.trans (World.leaves_drawn _), rfl, rfl, expiresAt, found, rfl⟩

theorem mark_ensures (now : Instant) (t : Token) :
    Ensures source latest
      (fun _ w' => w.Leaves (fun t' => t'.markerKey ≠ t.markerKey) w' ∧ w'.drawn = w.drawn ∧
        ∃ entry, w'.cache.lookup? t.markerKey = some entry ∧
          MemoryCache.expiry w'.clock (t.remaining now) = .ok entry.expiresAt)
      (fun _ w' => w.Leaves (fun t' => t'.markerKey ≠ t.markerKey) w' ∧ w'.clock ≤ latest ∧
        ∃ e, MemoryCache.expiry w'.clock (t.remaining now) = .error e)
      (mark config now t) w := by
  have leaves {reading : Instant} (later : w.clock ≤ reading) :
      w.Leaves (fun t' => t'.markerKey ≠ t.markerKey) ((w.setClock reading).perform (.cache
        (.set (markerArea t.kind t.userId t.clientType) t.id (t.remaining now) markerValue))).2 :=
    (World.leaves_setClock later).trans (World.leaves_mark (fun _ other => other) _ _)
  refine ensures_request (.cache (.set _ _ _ _)) (fun reading _ later _ answered => ?_)
    fun reading _ later within answered => ?_
  · refine ⟨leaves later, rfl, ?_⟩
    cases fits : MemoryCache.expiry reading (t.remaining now) with
    | error e => simp [World.perform, MemoryCache.perform_set, fits, Except.mapError] at answered
    | ok expiresAt =>
      refine ⟨⟨markerValue, expiresAt⟩, ?_, fits⟩
      exact (MemoryCache.lookup?_set _ _ _ _ _ fits).trans (if_pos rfl)
  · refine ⟨leaves later, within, ?_⟩
    cases fits : MemoryCache.expiry reading (t.remaining now) with
    | error e => exact ⟨e, fits⟩
    | ok expiresAt => simp [World.perform, MemoryCache.perform_set, fits, Except.mapError] at answered

end Session

end BearerAuth
