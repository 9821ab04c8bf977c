import BearerAuth.Proofs.Session.Conduct
import BearerAuth.Entropy

/-! # What session operations do, whoever answers

A marker is only written for an id that the operation has drawn itself, and once; a pair is returned
only after both areas of its user were revoked and both markers written, and a raw token is accepted
only after its marker was seen. Nothing is assumed of the answers here.
-/

namespace BearerAuth

open BearerAuth.Time

namespace Trace

/-- The ids that were drawn, the latest first. -/
def ids : Trace → List String
  | [] => []
  | .drew bytes :: past => Entropy.uuid bytes :: ids past
  | _ :: past => ids past

/-- The call was made and answered so. -/
def Answered (past : Trace) (call : Call) (answer : call.Answer) : Prop :=
  Step.called call (.ok answer) ∈ past

/-- Everything in the area was evicted. -/
def Evicted (past : Trace) (area : String) : Prop :=
  ∃ count : Nat, past.Answered (.cache (.evictArea area)) count

/-- The keys under which something was set, or may have been, the latest first. -/
def keysSet : Trace → List String
  | [] => []
  | .called (.cache (.set _ key _ _)) _ :: past => key :: keysSet past
  | _ :: past => keysSet past

/-- Copies of accounts may always be kept. A marker is only set for an id that was drawn before and
under which nothing was set yet, and is only asked for before anything is revoked. -/
def Orderly (past : Trace) : Call → Prop
  | .cache (.set area key _ _) => area = Session.clientArea ∨ area = Session.userArea ∨
      (∃ kind userId clientType, area = markerArea kind userId clientType) ∧
        key ∈ past.ids ∧ (past.ids.Nodup → key ∉ past.keysSet)
  | .cache (.holds ..) => ∀ area, ¬past.Evicted area
  | _ => True

/-- Nothing was drawn or set so far. -/
structure Unissued (past : Trace) : Prop where
  ids : past.ids = []
  keysSet : past.keysSet = []

/-- The token is one that the settings issue to the user on the client type. -/
def Mints (config : TokenConfig) (kind : TokenKind) (userId : String) (clientType : ClientType)
    (t : Token) : Prop :=
  ∃ now expiresAt,
    Token.expiry userId clientType config.secret (config.ttl kind) now = .ok expiresAt ∧
      t = Token.signed t.id userId clientType kind config.secret now expiresAt

/-- The marker of the token was set. -/
def Marked (past : Trace) (t : Token) : Prop :=
  ∃ ttl, past.Answered (.cache (.set (markerArea t.kind t.userId t.clientType) t.id ttl
    Session.markerValue)) ()

/-- The pair was issued to the user on the client type, in place of an earlier one. -/
structure Issued (config : TokenConfig) (userId : String) (clientType : ClientType) (past : Trace)
    (p : TokenPair) : Prop where
  access : Mints config .access userId clientType p.access
  refresh : Mints config .refresh userId clientType p.refresh
  ids : past.ids = [p.refresh.id, p.access.id]
  revokedAccess : past.Evicted (markerArea .access userId clientType)
  revokedRefresh : past.Evicted (markerArea .refresh userId clientType)
  markedAccess : past.Marked p.access
  markedRefresh : past.Marked p.refresh

/-- The raw token was valid, and its marker of that kind on the client type was seen. -/
structure Accepted (config : TokenConfig) (kind : TokenKind) (clientType : ClientType)
    (raw : String) (claims : Claims) (past : Trace) : Prop where
  valid : ∃ now, Token.validate raw config.secret now = .ok claims
  seen : past.Answered (.cache (.holds (markerArea kind claims.userId clientType) claims.tokenId))
    true

theorem Accepted.later {config : TokenConfig} {kind : TokenKind} {clientType : ClientType}
    {raw : String} {claims : Claims} {past past' : Trace}
    (accepted : Accepted config kind clientType raw claims past) (later : past <:+ past') :
    Accepted config kind clientType raw claims past' :=
  ⟨accepted.valid, later.subset accepted.seen⟩

theorem Evicted.later {past past' : Trace} {area : String} (evicted : past.Evicted area)
    (later : past <:+ past') : past'.Evicted area := by
  obtain ⟨count, answered⟩ := evicted
  exact ⟨count, later.subset answered⟩

theorem Marked.later {past past' : Trace} {t : Token} (marked : past.Marked t)
    (later : past <:+ past') : past'.Marked t := by
  obtain ⟨ttl, answered⟩ := marked
  exact ⟨ttl, later.subset answered⟩

theorem mem_keysSet {past : Trace} {area key : String} {ttl : Duration} {value : List UInt8}
    {answer : Except Failure (Call.cache (.set area key ttl value)).Answer}
    (member : Step.called (.cache (.set area key ttl value)) answer ∈ past) : key ∈ past.keysSet := by
  induction past with
  | nil => cases member
  | cons step past ih =>
    rcases List.mem_cons.mp member with rfl | earlier
    · exact List.mem_cons_self ..
    · have found := ih earlier
      unfold keysSet
      split
      · contradiction
      · rename_i same
        cases same
        exact List.mem_cons_of_mem _ found
      · rename_i same
        cases same
        exact found

end Trace

namespace Session

open Trace

variable {config : SessionConfig} {past : Trace}

/-- Revoking evicts the area, and issues nothing. -/
theorem revoke_abides (area : String) :
    Abides Orderly (fun past' _ => past <:+ past' ∧ past'.ids = past.ids ∧
      past'.keysSet = past.keysSet ∧ past'.Evicted area) past (revoke config area) := by
  refine Abides.bind (abides_request (.cache (.evictArea area)) trivial fun count => ?_)
  exact abides_pure ⟨List.suffix_cons .., rfl, rfl, count, List.mem_cons_self ..⟩

theorem revokeOn_abides (userId : String) (clientType : ClientType) :
    Abides Orderly (fun past' _ => past <:+ past' ∧ past'.ids = past.ids ∧
      past'.keysSet = past.keysSet ∧ past'.Evicted (markerArea .access userId clientType) ∧
      past'.Evicted (markerArea .refresh userId clientType)) past
      (revokeOn config userId clientType) := by
  refine Abides.bind ((revoke_abides _).weaken fun past₁ _ ⟨later₁, ids₁, keys₁, evicted₁⟩ => ?_)
  refine (revoke_abides _).weaken fun past₂ _ ⟨later₂, ids₂, keys₂, evicted₂⟩ => ?_
  exact ⟨later₁.trans later₂, ids₂.trans ids₁, keys₂.trans keys₁, evicted₁.later later₂, evicted₂⟩

/-- A token is minted with an id that was just drawn. -/
theorem mint_abides (kind : TokenKind) (userId : String) (clientType : ClientType) :
    Abides Orderly (fun past' t => past <:+ past' ∧ past'.ids = t.id :: past.ids ∧
      past'.keysSet = past.keysSet ∧ Mints config.tokens kind userId clientType t) past
      (mint config.tokens kind userId clientType) := by
  refine Abides.bind (abides_readClock fun now => ?_)
  cases found : Token.expiry userId clientType config.tokens.secret (config.tokens.ttl kind) now with
  | error e => exact Abides.bind (abides_throw e)
  | ok expiresAt =>
    refine Abides.bind (abides_pure ?_)
    refine Abides.bind (abides_drawBytes fun bytes => ?_)
    exact abides_pure ⟨(List.suffix_cons ..).trans (List.suffix_cons ..), rfl, rfl, now, expiresAt,
      found, rfl⟩

/-- A token whose id was drawn, and under which nothing was set yet, may be marked. -/
theorem mark_abides {now : Instant} {t : Token} (drawn : t.id ∈ past.ids)
    (unset : past.ids.Nodup → t.id ∉ past.keysSet) :
    Abides Orderly (fun past' _ => past <:+ past' ∧ past'.ids = past.ids ∧
      past'.keysSet = t.id :: past.keysSet ∧ past'.Marked t) past (mark config now t) :=
  abides_request (.cache (.set _ _ _ _)) (.inr (.inr ⟨⟨_, _, _, rfl⟩, drawn, unset⟩))
    fun _ => ⟨List.suffix_cons .., rfl, rfl, _, List.mem_cons_self ..⟩

/-- Issuing revokes first, and marks the two tokens that it returns. -/
theorem issueSession_abides {client : Client} {userId : String} (unissued : Unissued past) :
    Abides Orderly (fun past' p => past <:+ past' ∧
      Issued config.tokens userId client.clientType past' p) past
      (issueSession config client userId) := by
  obtain ⟨noIds, noKeys⟩ := unissued
  refine abides_check fun _ => ?_
  refine Abides.bind ((revokeOn_abides userId client.clientType).weaken ?_)
  rintro past₁ - ⟨later₁, ids₁, keys₁, evictedAccess, evictedRefresh⟩
  refine Abides.bind ((mint_abides .access userId client.clientType).weaken ?_)
  rintro past₂ access ⟨later₂, ids₂, keys₂, mintsAccess⟩
  refine Abides.bind ((mint_abides .refresh userId client.clientType).weaken ?_)
  rintro past₃ refresh ⟨later₃, ids₃, keys₃, mintsRefresh⟩
  have ids : past₃.ids = [refresh.id, access.id] := by rw [ids₃, ids₂, ids₁, noIds]
  have keys : past₃.keysSet = [] := by rw [keys₃, keys₂, keys₁, noKeys]
  refine Abides.bind (abides_readClock fun now => ?_)
  have later₄ : past₃ <:+ .read now :: past₃ := List.suffix_cons ..
  refine Abides.bind ((mark_abides ?_ ?_).weaken ?_)
  · simp [Trace.ids, ids]
  · simp [Trace.keysSet, keys]
  rintro past₅ - ⟨later₅, ids₅, keys₅, markedAccess⟩
  have ids : past₅.ids = [refresh.id, access.id] := ids₅.trans ids
  have keys : past₅.keysSet = [access.id] := by simp [keys₅, Trace.keysSet, keys]
  refine Abides.bind ((mark_abides ?_ ?_).weaken ?_)
  · simp [ids]
  · simp [ids, keys]
  rintro past₆ - ⟨later₆, ids₆, -, markedRefresh⟩
  have later : past₁ <:+ past₆ :=
    later₂.trans (later₃.trans (later₄.trans (later₅.trans later₆)))
  exact abides_pure ⟨later₁.trans later, mintsAccess, mintsRefresh, ids₆.trans ids,
    evictedAccess.later later, evictedRefresh.later later, markedAccess.later later₆, markedRefresh⟩

/-! ## Operations -/

theorem validated_abides (raw : String) :
    Abides Orderly (fun past' claims => ∃ now, past' = .read now :: past ∧
      Token.validate raw config.tokens.secret now = .ok claims) past (validated config raw) := by
  refine Abides.bind (abides_readClock fun now => ?_)
  exact abides_of_except fun claims valid => ⟨now, rfl, valid⟩

/-- A raw token is accepted once its marker was seen. -/
theorem accept_abides {kind : TokenKind} {clientType : ClientType} {raw : String} {α : Type}
    {goal : Trace → α → Prop} {rest : Claims → Session α}
    (accepted : ∀ past claims, Unissued past → Accepted config.tokens kind clientType raw claims past →
      Abides Orderly goal past (rest claims)) :
    Abides Orderly goal [] (do
      let claims ← validated config raw
      requireMarker config kind claims.userId clientType claims.tokenId
      rest claims) := by
  refine Abides.bind ((validated_abides raw).weaken ?_)
  rintro past claims ⟨now, rfl, valid⟩
  have before (area : String) : ¬Evicted [.read now] area := by
    rintro ⟨count, member⟩
    simp [Answered] at member
  refine Abides.bind (Abides.bind (abides_request (.cache (.holds _ _)) before fun present => ?_))
  cases present with
  | false => exact abides_throw _
  | true => exact abides_pure (accepted _ _ ⟨rfl, rfl⟩ ⟨⟨now, valid⟩, List.mem_cons_self ..⟩)

theorem findByEmail_abides (email : String) :
    Abides Orderly (fun past' user => past' = .called (.directory (.findByEmail email))
      (.ok (some user)) :: past) past (findByEmail config email) := by
  refine abides_check fun _ => ?_
  refine Abides.bind (abides_request (.directory (.findByEmail email)) trivial ?_)
  rintro (_ | user)
  · exact abides_throw _
  · exact abides_pure rfl

theorem findUser_abides (userId : String) :
    Abides Orderly (fun past' user => past' = .called (.directory (.findWithRoles userId))
      (.ok (some user)) :: past) past (findUser config userId) := by
  refine Abides.bind (abides_request (.directory (.findWithRoles userId)) trivial ?_)
  rintro (_ | user)
  · exact abides_throw _
  · exact abides_pure rfl

theorem cachedUser_abides (userId : String) :
    Abides Orderly (fun past' _ => past <:+ past') past (cachedUser config userId) := by
  refine Abides.bind (abides_readCached trivial fun answer copy => ?_)
  cases copy with
  | some user => exact abides_pure (List.suffix_cons ..)
  | none =>
    refine Abides.bind ((findUser_abides userId).weaken ?_)
    rintro past user rfl
    refine Abides.bind (abides_keepCopy (.inr (.inl rfl)) fun answer => ?_)
    exact abides_pure ((List.suffix_cons ..).trans
      ((List.suffix_cons ..).trans (List.suffix_cons ..)))

theorem resolveClient_abides (secret : String) :
    Abides Orderly (fun _ _ => True) past (resolveClient config secret) := by
  refine abides_check fun _ => ?_
  refine Abides.bind (abides_readCached trivial fun answer copy => ?_)
  cases copy with
  | some client =>
    dsimp only
    split
    · exact abides_pure trivial
    · exact abides_throw _
  | none =>
    refine Abides.bind (abides_request (.directory (.findClient secret)) trivial ?_)
    rintro (_ | client)
    · exact abides_throw _
    · refine abides_check fun _ => ?_
      refine Abides.bind (abides_keepCopy (.inl rfl) fun answer => ?_)
      exact abides_pure trivial

theorem evictClient_abides (secret : String) :
    Abides Orderly (fun _ _ => True) past (evictClient config secret) :=
  abides_request (.cache (.evict _ _)) trivial fun _ => trivial

theorem evictUser_abides (userId : String) :
    Abides Orderly (fun _ _ => True) past (evictUser config userId) :=
  abides_request (.cache (.evict _ _)) trivial fun _ => trivial

theorem deleteClient_abides (secret : String) :
    Abides Orderly (fun _ _ => True) past (deleteClient config secret) := by
  refine abides_check fun _ => ?_
  refine Abides.bind (abides_readClock fun now => ?_)
  refine Abides.bind (abides_request (.directory (.deleteClient secret now)) trivial ?_)
  intro found
  exact abides_check fun _ => evictClient_abides secret

/-- A user who was looked up by email address and passes the check is signed in. -/
private theorem signIn_abides {client : Client} {email : String} (check : User → Bool) :
    Abides Orderly (fun past p => ∃ userId, Issued config.tokens userId client.clientType past p) []
      (do
        let user ← findByEmail config email
        if !check user then throw (.unauthorized .invalidCredentials)
        issueSession config client user.id) := by
  have found : Abides Orderly _ [] (findByEmail config email) := findByEmail_abides email
  refine Abides.bind (found.weaken ?_)
  rintro past user rfl
  refine abides_check fun _ => ?_
  have unissued : Unissued [.called (.directory (.findByEmail email)) (.ok (some user))] :=
    ⟨rfl, rfl⟩
  have issued : Abides Orderly _ _ (issueSession config client user.id) := issueSession_abides unissued
  exact issued.weaken fun past p ⟨_, issued⟩ => ⟨user.id, issued⟩

theorem login_abides (client : Client) (email password : String) :
    Abides Orderly (fun past p => ∃ userId, Issued config.tokens userId client.clientType past p) []
      (login config client email password) :=
  signIn_abides (·.isPasswordValid password)

theorem loginAnonymous_abides (client : Client) (email : String) :
    Abides Orderly (fun past p => ∃ userId, Issued config.tokens userId client.clientType past p) []
      (loginAnonymous config client email) :=
  signIn_abides (·.anonymous)

theorem refresh_abides (client : Client) (raw : String) :
    Abides Orderly (fun past p => ∃ claims user,
      Accepted config.tokens .refresh client.clientType raw claims past ∧
      past.Answered (.directory (.findWithRoles claims.userId)) (some user) ∧
      Issued config.tokens user.id client.clientType past p) []
      (refresh config client raw) := by
  refine accept_abides fun past claims unissued accepted => ?_
  have found : Abides Orderly _ past (findUser config claims.userId) := findUser_abides claims.userId
  refine Abides.bind (found.weaken ?_)
  rintro past' user rfl
  have still : Unissued (.called (.directory (.findWithRoles claims.userId)) (.ok (some user)) ::
      past) := ⟨unissued.ids, unissued.keysSet⟩
  have issued : Abides Orderly _ _ (issueSession config client user.id) := issueSession_abides still
  refine issued.weaken fun past' p ⟨later, issued⟩ => ?_
  exact ⟨claims, user, accepted.later ((List.suffix_cons ..).trans later),
    later.subset (List.mem_cons_self ..), issued⟩

theorem authenticate_abides (client : Client) (raw : String) :
    Abides Orderly (fun past _ => ∃ claims,
      Accepted config.tokens .access client.clientType raw claims past) []
      (authenticate config client raw) := by
  refine accept_abides fun past claims _ accepted => ?_
  refine (cachedUser_abides claims.userId).weaken fun past' _ later => ?_
  exact ⟨claims, accepted.later later⟩

theorem logout_abides (userId : String) (clientType : ClientType) :
    Abides Orderly (fun past _ => past.Evicted (markerArea .access userId clientType) ∧
      past.Evicted (markerArea .refresh userId clientType)) []
      (logout config userId clientType) := by
  refine abides_check fun _ => ?_
  exact (revokeOn_abides userId clientType).weaken fun past _ ⟨_, _, _, evicted⟩ => evicted

theorem logoutAll_abides (userId : String) :
    Abides Orderly (fun past _ => past.Evicted (userMarkerArea .access userId) ∧
      past.Evicted (userMarkerArea .refresh userId)) []
      (logoutAll config userId) := by
  refine abides_check fun _ => ?_
  refine Abides.bind ((revoke_abides _).weaken fun past₁ _ ⟨_, _, _, evicted₁⟩ => ?_)
  refine (revoke_abides _).weaken fun past₂ _ ⟨later, _, _, evicted₂⟩ => ?_
  exact ⟨evicted₁.later later, evicted₂⟩

end Session

end BearerAuth
