import BearerAuth.Proofs.Session.Issuing
import BearerAuth.Proofs.Session.Operation

/-! # What one operation alone changes

Operations that sign in or out act on a target, the session of a user on one client type or all
sessions of a user, and change no marker outside the target's areas. All other operations change no
marker at all, and neither does a refusal, unless the settings do not allow tokens for the user.
-/

namespace BearerAuth

open BearerAuth.Time

/-- Whose tokens an operation issues or revokes. -/
inductive Target where
  | session (userId : String) (clientType : ClientType)
  | user (userId : String)

namespace Target

/-- The areas in which the markers of the target are kept. -/
def areas : Target → List String
  | session userId clientType => Session.areasOn userId clientType
  | user userId => [userMarkerArea .access userId, userMarkerArea .refresh userId]

end Target

namespace Operation

/-- The target of an operation, as the directory has it; operations on accounts have none. -/
def target? (config : TokenConfig) (directory : MemoryDirectory) : Operation → Option Target
  | login client email _ | loginAnonymous client email => do
    let user ← directory.findByEmail email
    some (.session user.id client.clientType)
  | refresh client raw => do
    let claims ← (Signed.claims config.secret raw.toList).toOption
    let user ← directory.findWithRoles claims.userId
    some (.session user.id client.clientType)
  | logout userId clientType => some (.session userId clientType)
  | logoutAll userId => some (.user userId)
  | resolveClient _ | deleteClient _ | evictClient _ | evictUser _ | authenticate _ _ => none

end Operation

/-- The pair was issued for the target, in place of an earlier one. -/
def Target.Begins (source : Nat → List UInt8) (config : TokenConfig) (target : Option Target)
    (w : World) (p : TokenPair) (w' : World) : Prop :=
  ∃ userId clientType w₁, target = some (.session userId clientType) ∧
    w.directory.Records userId ∧ w.Quiet w₁ ∧ Session.Begun source config userId clientType w₁ w' p

/-- No marker has changed, or only those of the target, for which the settings do not allow tokens at
some reading. -/
def Target.Spoils (config : TokenConfig) (latest : Instant) (target : Option Target)
    (w w' : World) : Prop :=
  w.Quiet w' ∨ ∃ userId clientType, target = some (.session userId clientType) ∧
    w.Leaves (World.Beyond (Session.areasOn userId clientType)) w' ∧
      ∃ kind now e, w.clock ≤ now ∧ now ≤ latest ∧
        Token.expiry userId clientType config.secret (config.ttl kind) now = .error e

/-- What an operation alone has changed if it ends so. -/
def Operation.Changes (source : Nat → List UInt8) (config : TokenConfig) (operation : Operation)
    (w : World) : Outcome → World → Prop
  | .pair p, w' => Target.Begins source config (operation.target? config w.directory) w p w'
  | .finished, w' => match operation.target? config w.directory with
    | some target => w.Revoked target.areas w'
    | none => w.Quiet w'
  | _, w' => operation.target? config w.directory = none ∧ w.Quiet w'

namespace Session

variable {source : Nat → List UInt8} {latest : Instant} {w : World} {config : SessionConfig}

/-! ## Accounts -/

theorem cachedUser_ensures (userId : String) :
    Ensures source latest (fun _ w' => w.Quiet w') (fun _ w' => w.Quiet w')
      (cachedUser config userId) w := by
  have other (t : Token) := (userKey_ne_marker userId t).symm
  have read {now : Instant} (later : w.clock ≤ now) := World.quiet_call later (World.leaves_get other)
  refine Ensures.bind (ensures_readCached (fun now later _ _ => ?_)
    (fun now _ user later _ _ _ => ensures_pure (read later)) fun now _ e later _ _ _ => read later)
  refine Ensures.bind ((findUser_ensures userId).weaken ?_ fun _ w' ⟨quiet, _⟩ => (read later).trans quiet)
  rintro user w₁ ⟨quiet, found⟩
  refine Ensures.bind (ensures_keepCopy fun now' later' _ => ensures_pure ?_)
  refine (read later).trans (quiet.trans (World.quiet_call later' (World.leaves_setUser (fun kept => ?_) _)))
  have kept' : w₁.directory.WellKept := kept
  have found' := (quiet.findWithRoles userId).trans found
  exact kept' userId user found'

theorem resolveClient_ensures (secret : String) :
    Ensures source latest (fun _ w' => w.Quiet w') (fun _ w' => w.Quiet w')
      (resolveClient config secret) w := by
  have other (t : Token) := (clientKey_ne_marker secret t).symm
  have read {now : Instant} (later : w.clock ≤ now) := World.quiet_call later (World.leaves_get other)
  refine ensures_check (fun _ => .refl w) fun _ => ?_
  refine Ensures.bind (ensures_readCached (fun now later _ _ => ?_)
    (fun now _ client later _ _ _ => ?_) fun now _ e later _ _ _ => read later)
  · refine Ensures.bind (ensures_answer (.directory (.findClient secret))
      (fun w => w.directory.findClient secret) (fun _ => rfl) fun now' later' _ => ?_)
    have looked := (read later).trans (quiet_directory later' (.findClient secret))
    split
    · exact ensures_throw looked
    · refine ensures_check (fun _ => looked) fun _ => ?_
      refine Ensures.bind (ensures_keepCopy fun reading later'' _ => ensures_pure ?_)
      exact looked.trans (World.quiet_call later'' (World.leaves_setClient _ _ _ _))
  · simp only
    split
    · exact ensures_pure (read later)
    · exact ensures_throw (read later)

theorem evictClient_ensures (secret : String) :
    Ensures source latest (fun _ w' => w.Quiet w') (fun _ w' => w.Quiet w')
      (evictClient config secret) w :=
  ensures_answer (.cache (.evict clientArea secret)) (fun _ => ()) (fun _ => rfl)
    fun _ later _ => World.quiet_call later
      (World.leaves_evict fun t => (clientKey_ne_marker secret t).symm)

theorem evictUser_ensures (userId : String) :
    Ensures source latest (fun _ w' => w.Quiet w') (fun _ w' => w.Quiet w')
      (evictUser config userId) w :=
  ensures_answer (.cache (.evict userArea userId)) (fun _ => ()) (fun _ => rfl)
    fun _ later _ => World.quiet_call later (World.leaves_evict fun t => (userKey_ne_marker userId t).symm)

theorem deleteClient_ensures (secret : String) :
    Ensures source latest (fun _ w' => w.Quiet w') (fun _ w' => w.Quiet w')
      (deleteClient config secret) w := by
  refine ensures_check (fun _ => .refl w) fun _ => ?_
  refine Ensures.bind (ensures_readClock fun now later _ => ?_)
  refine Ensures.bind (ensures_answer (.directory (.deleteClient secret now))
    (fun w => (w.directory.deleteClient secret now).1) (fun _ => rfl) fun now' later' _ => ?_)
  have quiet := (World.quiet_setClock later).trans (quiet_directory later' (.deleteClient secret now))
  refine ensures_check (fun _ => quiet) fun _ => ?_
  exact (evictClient_ensures secret).weaken (fun _ _ => quiet.trans) fun _ _ => quiet.trans

theorem authenticate_ensures (client : Client) (raw : String) :
    Ensures source latest (fun _ w' => w.Quiet w') (fun _ w' => w.Quiet w')
      (authenticate config client raw) w := by
  refine accept_ensures (fun e now later _ _ => World.quiet_setClock later)
    (fun claims first now early later _ _ _ => World.quiet_setClock (Int.le_trans early later))
    fun claims first now early later _ _ _ => ?_
  have quiet : w.Quiet (w.setClock now) := World.quiet_setClock (Int.le_trans early later)
  exact (cachedUser_ensures claims.userId).weaken (fun _ _ => quiet.trans) fun _ _ => quiet.trans

/-! ## Sessions -/

/-- A session is issued after nothing that matters has changed. -/
private theorem begin_ensures {w₁ : World} {client : Client} {userId : String} {target : Option Target}
    (before : w.Quiet w₁) (same : target = some (.session userId client.clientType))
    (records : w.directory.Records userId) :
    Ensures source latest (Target.Begins source config.tokens target w)
      (fun _ w' => Target.Spoils config.tokens latest target w w')
      (issueSession config client userId) w₁ := by
  refine (issueSession_ensures client userId).weaken ?_ ?_
  · rintro p w' ⟨-, begun⟩
    exact ⟨userId, client.clientType, w₁, same, records, before, begun⟩
  · rintro - w' ⟨leaves, ⟨-, quiet⟩ | ⟨kind, now, e, later, within, failed⟩⟩
    · exact .inl (before.trans quiet)
    · exact .inr ⟨userId, client.clientType, same, before.leaves.trans leaves, kind, now, e,
        Int.le_trans before.clock later, within, failed⟩

/-- A user who was looked up by email address and passes the check is signed in. -/
private theorem signIn_ensures {client : Client} {email : String} {target : Option Target}
    (check : User → Bool) (targets : ∀ user, w.directory.findByEmail email = some user →
      target = some (.session user.id client.clientType)) :
    Ensures source latest (Target.Begins source config.tokens target w)
      (fun _ w' => Target.Spoils config.tokens latest target w w')
      (do
        let user ← findByEmail config email
        if !check user then throw (.unauthorized .invalidCredentials)
        issueSession config client user.id) w := by
  refine Ensures.bind ((findByEmail_ensures email).weaken ?_ fun _ w' ⟨quiet, _⟩ => .inl quiet)
  rintro user w₁ ⟨quiet, found⟩
  have records : w.directory.Records user.id := by
    obtain ⟨key, -, found⟩ := Option.bind_eq_some_iff.mp found
    exact ⟨key, user, found, rfl⟩
  exact ensures_check (fun _ => .inl quiet) fun _ => begin_ensures quiet (targets user found) records

theorem login_ensures (client : Client) (email password : String) :
    Ensures source latest (Target.Begins source config.tokens
        ((Operation.login client email password).target? config.tokens w.directory) w)
      (fun _ w' => Target.Spoils config.tokens latest
        ((Operation.login client email password).target? config.tokens w.directory) w w')
      (login config client email password) w :=
  signIn_ensures (·.isPasswordValid password) fun user found => by simp [Operation.target?, found]

theorem loginAnonymous_ensures (client : Client) (email : String) :
    Ensures source latest (Target.Begins source config.tokens
        ((Operation.loginAnonymous client email).target? config.tokens w.directory) w)
      (fun _ w' => Target.Spoils config.tokens latest
        ((Operation.loginAnonymous client email).target? config.tokens w.directory) w w')
      (loginAnonymous config client email) w :=
  signIn_ensures (·.anonymous) fun user found => by simp [Operation.target?, found]

/-- An anonymous user on record can sign in on an active client. -/
theorem loginAnonymous_succeeds {client : Client} {email : String} {user : User}
    (named : (Text.trim email).isEmpty = false)
    (found : w.directory.findByEmail email = some user) (anonymous : user.anonymous = true)
    (active : client.isActive = true)
    (serves : Serves config.tokens user.id client.clientType w.clock latest) :
    Ensures source latest
      (fun p w' => ∃ w₁, w.Quiet w₁ ∧ Begun source config.tokens user.id client.clientType w₁ w' p)
      (fun _ _ => False) (loginAnonymous config client email) w := by
  refine Ensures.bind ((findByEmail_ensures email).weaken ?_ ?_)
  · rintro user' w₁ ⟨quiet, found'⟩
    obtain rfl := Option.some.inj (found.symm.trans found')
    refine ensures_check (fun refused => by simp [anonymous] at refused) fun _ => ?_
    refine (issueSession_succeeds active fun kind now later => ?_).weaken
      (fun p w' begun => ⟨w₁, quiet, begun⟩) fun _ _ => id
    exact serves kind now (Int.le_trans quiet.clock later)
  · rintro - w₁ ⟨-, blank | missing⟩
    · cases named.symm.trans blank
    · cases found.symm.trans missing

theorem logout_succeeds {userId : String} (clientType : ClientType) (named : userId.isEmpty = false) :
    Ensures source latest (fun _ w' => w.Revoked (areasOn userId clientType) w') (fun _ _ => False)
      (logout config userId clientType) w := by
  refine ensures_check (fun blank => by simp [named] at blank) fun _ => ?_
  exact revoke_revoke_ensures fun w' revoked => revoked

theorem refresh_ensures (client : Client) (raw : String) :
    Ensures source latest (Target.Begins source config.tokens
        ((Operation.refresh client raw).target? config.tokens w.directory) w)
      (fun _ w' => Target.Spoils config.tokens latest
        ((Operation.refresh client raw).target? config.tokens w.directory) w w')
      (refresh config client raw) w := by
  refine accept_ensures (fun e now later _ _ => .inl (World.quiet_setClock later))
    (fun claims first now early later _ _ _ =>
      .inl (World.quiet_setClock (Int.le_trans early later)))
    fun claims first now early later _ valid _ => ?_
  have passed : w.Quiet (w.setClock now) := World.quiet_setClock (Int.le_trans early later)
  refine Ensures.bind ((findUser_ensures claims.userId).weaken ?_
    fun _ w' ⟨quiet, _⟩ => .inl (passed.trans quiet))
  rintro user w₁ ⟨quiet, found⟩
  have signed := Token.claims_of_validate valid
  have found : w.directory.findWithRoles claims.userId = some user := found
  exact begin_ensures (passed.trans quiet)
    (by simp [Operation.target?, signed, found, Except.toOption]) ⟨claims.userId, user, found, rfl⟩

theorem logout_ensures (userId : String) (clientType : ClientType) :
    Ensures source latest (fun _ w' => w.Revoked (areasOn userId clientType) w')
      (fun _ w' => w.Quiet w') (logout config userId clientType) w :=
  ensures_check (fun _ => .refl w) fun _ => revoke_revoke_ensures fun _ revoked => revoked

theorem logoutAll_ensures (userId : String) :
    Ensures source latest (fun _ w' => w.Revoked (Target.user userId).areas w')
      (fun _ w' => w.Quiet w') (logoutAll config userId) w :=
  ensures_check (fun _ => .refl w) fun _ => revoke_revoke_ensures fun _ revoked => revoked

end Session

/-- What an operation changes when nothing interferes with it. -/
theorem Operation.ensures (source : Nat → List UInt8) (latest : Instant) {w : World}
    {config : SessionConfig} (operation : Operation) :
    Session.Ensures source latest (operation.Changes source config.tokens w)
      (fun _ w' => Target.Spoils config.tokens latest (operation.target? config.tokens w.directory) w w')
      (operation.program config) w := by
  have passOn {α : Type} {goal : α → World → Prop} {refusal : AuthError → World → Prop}
      {x : Session α} (f : α → Outcome) (ensures : Session.Ensures source latest goal refusal x w)
      (changes : ∀ a w', goal a w' → operation.Changes source config.tokens w (f a) w')
      (refused : ∀ e w', refusal e w' → Target.Spoils config.tokens latest
        (operation.target? config.tokens w.directory) w w') :
      Session.Ensures source latest (operation.Changes source config.tokens w)
        (fun _ w' => Target.Spoils config.tokens latest
          (operation.target? config.tokens w.directory) w w') (x >>= fun a => pure (f a)) w :=
    Session.Ensures.bind (ensures.weaken (fun a w' reached => Session.ensures_pure (changes a w' reached))
      refused)
  cases operation with
  | resolveClient secret =>
    exact passOn .client (Session.resolveClient_ensures secret) (fun _ _ quiet => ⟨rfl, quiet⟩)
      fun _ _ => .inl
  | deleteClient secret =>
    exact passOn (fun _ => .finished) (Session.deleteClient_ensures secret) (fun _ _ => id)
      fun _ _ => .inl
  | evictClient secret =>
    exact passOn (fun _ => .finished) (Session.evictClient_ensures secret) (fun _ _ => id)
      fun _ _ => .inl
  | evictUser userId =>
    exact passOn (fun _ => .finished) (Session.evictUser_ensures userId) (fun _ _ => id)
      fun _ _ => .inl
  | login client email password =>
    exact passOn .pair (Session.login_ensures client email password) (fun _ _ => id) fun _ _ => id
  | loginAnonymous client email =>
    exact passOn .pair (Session.loginAnonymous_ensures client email) (fun _ _ => id) fun _ _ => id
  | refresh client raw =>
    exact passOn .pair (Session.refresh_ensures client raw) (fun _ _ => id) fun _ _ => id
  | authenticate client raw =>
    exact passOn .user (Session.authenticate_ensures client raw) (fun _ _ quiet => ⟨rfl, quiet⟩)
      fun _ _ => .inl
  | logout userId clientType =>
    exact passOn (fun _ => .finished) (Session.logout_ensures userId clientType) (fun _ _ => id)
      fun _ _ => .inl
  | logoutAll userId =>
    exact passOn (fun _ => .finished) (Session.logoutAll_ensures userId) (fun _ _ => id)
      fun _ _ => .inl

/-- However it ends, an operation that has no target changes no marker. -/
theorem Operation.quiet {source : Nat → List UInt8} {w w' : World} {config : SessionConfig}
    {operation : Operation} {result : Except AuthError Outcome}
    (ends : (operation.program config).Ends source w result w')
    (idle : operation.target? config.tokens w.directory = none) : w.Quiet w' := by
  have changes := (operation.ensures source w'.clock).ends ends (Int.le_refl _)
  cases result with
  | error e =>
    rcases changes.2 e rfl with quiet | ⟨userId, clientType, same, -⟩
    · exact quiet
    · cases idle.symm.trans same
  | ok outcome =>
    have changed := changes.1 outcome rfl
    cases outcome with
    | pair p =>
      obtain ⟨userId, clientType, w₁, same, -⟩ := changed
      cases idle.symm.trans same
    | finished =>
      simp only [Changes, idle] at changed
      exact changed
    | client client => exact changed.2
    | user user => exact changed.2

end BearerAuth
