import BearerAuth.Proofs.Session.Alone

/-! # Refused callers

Whoever signs in or refreshes takes the place of an earlier session. A caller that is refused, for what
it showed or for what is not on record, must not get that far: all such checks come before the first
eviction, and after it nothing is refused for the caller's sake.
-/

namespace BearerAuth

open BearerAuth.Time

/-- The caller is refused for what it shows, or because there is no such account. -/
def AuthError.RefusesCaller : AuthError → Prop
  | unauthorized _ | notFound _ => True
  | validation _ | forbidden _ | internal _ => False

/-- Only the settings, the names and the time decide on an expiry. -/
theorem Token.expiry_refusal {userId secret : String} {clientType : ClientType} {ttl : Duration}
    {now : Instant} {e : AuthError} (failed : expiry userId clientType secret ttl now = .error e) :
    ∃ message, e = .validation message := by
  rw [expiry, refused_iff, refused_iff, refused_iff, refused_iff] at failed
  obtain ⟨-, rfl⟩ | ⟨-, ⟨-, rfl⟩ | ⟨-, ⟨-, rfl⟩ | ⟨-, ⟨-, rfl⟩ | ⟨-, failed⟩⟩⟩⟩ := failed
  · exact ⟨_, rfl⟩
  · exact ⟨_, rfl⟩
  · exact ⟨_, rfl⟩
  · exact ⟨_, rfl⟩
  split at failed
  · cases failed
  · cases failed
    exact ⟨_, rfl⟩

namespace World

/-- The session cache holds the same entries, and the same accounts are on record. -/
structure Untouched (w w' : World) : Prop where
  cache : w'.cache = w.cache
  users : w'.directory.users = w.directory.users
  emails : w'.directory.emails = w.directory.emails
  clients : w'.directory.clients = w.directory.clients

variable {w w' w'' : World}

theorem Untouched.trans (first : Untouched w w') (second : Untouched w' w'') : Untouched w w'' :=
  ⟨second.cache.trans first.cache, second.users.trans first.users, second.emails.trans first.emails,
    second.clients.trans first.clients⟩

theorem untouched_setClock (w : World) (now : Instant) : w.Untouched (w.setClock now) :=
  ⟨rfl, rfl, rfl, rfl⟩

theorem untouched_findByEmail (w : World) (now : Instant) (email : String) :
    w.Untouched ((w.setClock now).perform (.directory (.findByEmail email))).2 := ⟨rfl, rfl, rfl, rfl⟩

theorem untouched_findWithRoles (w : World) (now : Instant) (userId : String) :
    w.Untouched ((w.setClock now).perform (.directory (.findWithRoles userId))).2 := ⟨rfl, rfl, rfl, rfl⟩

end World

namespace Session

variable {source : Nat → List UInt8} {latest : Instant} {w : World} {config : SessionConfig} {α : Type}

/-- A caller that is refused has changed nothing since the world was so. -/
def Undisturbed (w : World) (e : AuthError) (w' : World) : Prop := e.RefusesCaller → w.Untouched w'

/-- Nothing is refused for the caller's sake. -/
def Obliges (source : Nat → List UInt8) (latest : Instant) (x : Session α) : Prop :=
  ∀ w, Ensures source latest (fun _ _ => True) (fun e _ => ¬e.RefusesCaller) x w

theorem Obliges.bind {β : Type} {x : Session α} {f : α → Session β} (first : Obliges source latest x)
    (rest : ∀ a, Obliges source latest (f a)) : Obliges source latest (x >>= f) :=
  fun w => Ensures.bind ((first w).weaken (fun a w' _ => rest a w') fun _ _ => id)

theorem revoke_obliges (area : String) : Obliges source latest (revoke config area) :=
  fun _ => revoke_ensures fun _ _ => trivial

theorem mint_obliges (kind : TokenKind) (userId : String) (clientType : ClientType) :
    Obliges source latest (mint config.tokens kind userId clientType) := by
  intro w
  refine Ensures.bind (ensures_readClock fun now _ _ => ?_)
  refine Ensures.bind (ensures_of_except ?_ ?_)
  · intro expiresAt _
    exact Ensures.bind (ensures_drawBytes (ensures_pure trivial))
  · intro e failed
    obtain ⟨message, rfl⟩ := Token.expiry_refusal failed
    exact id

theorem mark_obliges (now : Instant) (t : Token) : Obliges source latest (mark config now t) := by
  intro w
  refine ensures_request (.cache (.set _ _ _ _)) (fun _ _ _ _ _ => trivial) ?_
  intro reading failure _ _ _
  cases failure <;> exact id

/-- The client is checked before anything is evicted. -/
theorem issueSession_undisturbed (client : Client) (userId : String) :
    Ensures source latest (fun _ _ => True) (Undisturbed w) (issueSession config client userId) w := by
  refine ensures_check (fun _ _ => ⟨rfl, rfl, rfl, rfl⟩) fun _ => ?_
  have replaced : Obliges source latest (do
      revokeOn config userId client.clientType
      let access ← mint config.tokens .access userId client.clientType
      let refresh ← mint config.tokens .refresh userId client.clientType
      let now ← readClock
      mark config now access
      mark config now refresh
      return (⟨access, refresh⟩ : TokenPair)) := by
    refine Obliges.bind (Obliges.bind (revoke_obliges _) fun _ => revoke_obliges _) fun _ => ?_
    refine Obliges.bind (mint_obliges _ _ _) fun access => ?_
    refine Obliges.bind (mint_obliges _ _ _) fun refresh => ?_
    refine Obliges.bind (fun _ => ensures_readClock fun _ _ _ => trivial) fun now => ?_
    refine Obliges.bind (mark_obliges now access) fun _ => ?_
    exact Obliges.bind (mark_obliges now refresh) fun _ _ => ensures_pure trivial
  exact (replaced w).weaken (fun _ _ => id) fun e w' obliged refuses => absurd refuses obliged

theorem findByEmail_undisturbed (email : String) :
    Ensures source latest (fun _ w' => w.Untouched w') (Undisturbed w) (findByEmail config email) w := by
  refine ensures_check (fun _ => False.elim) fun _ => ?_
  refine Ensures.bind (ensures_answer (.directory (.findByEmail email))
    (fun w => w.directory.findByEmail email) (fun _ => rfl) fun now _ _ => ?_)
  have untouched := w.untouched_findByEmail now email
  split
  · exact ensures_pure untouched
  · exact ensures_throw fun _ => untouched

theorem findUser_undisturbed (userId : String) :
    Ensures source latest (fun _ w' => w.Untouched w') (Undisturbed w) (findUser config userId) w := by
  refine Ensures.bind (ensures_answer (.directory (.findWithRoles userId))
    (fun w => w.directory.findWithRoles userId) (fun _ => rfl) fun now _ _ => ?_)
  have untouched := w.untouched_findWithRoles now userId
  split
  · exact ensures_pure untouched
  · exact ensures_throw fun _ => untouched

/-- What is refused after nothing was touched has touched nothing. -/
private theorem Undisturbed.after {w₁ w' : World} {e : AuthError} (before : w.Untouched w₁)
    (undisturbed : Undisturbed w₁ e w') : Undisturbed w e w' :=
  fun refuses => before.trans (undisturbed refuses)

/-- A user who was looked up by email address is signed in if the check is passed. -/
private theorem signIn_undisturbed {client : Client} {email : String} (check : User → Bool) :
    Ensures source latest (fun _ _ => True) (Undisturbed w) (do
      let user ← findByEmail config email
      if !check user then throw (.unauthorized .invalidCredentials)
      issueSession config client user.id) w := by
  refine Ensures.bind ((findByEmail_undisturbed email).weaken ?_ fun _ _ => id)
  intro user w₁ untouched
  refine ensures_check (fun _ _ => untouched) fun _ => ?_
  exact (issueSession_undisturbed client user.id).weaken (fun _ _ => id) fun _ _ => .after untouched

theorem login_undisturbed (client : Client) (email password : String) :
    Ensures source latest (fun _ _ => True) (Undisturbed w) (login config client email password) w :=
  signIn_undisturbed (·.isPasswordValid password)

theorem loginAnonymous_undisturbed (client : Client) (email : String) :
    Ensures source latest (fun _ _ => True) (Undisturbed w) (loginAnonymous config client email) w :=
  signIn_undisturbed (·.anonymous)

/-- Neither validating a token nor looking for its marker and its user touches anything. -/
theorem refresh_undisturbed (client : Client) (raw : String) :
    Ensures source latest (fun _ _ => True) (Undisturbed w) (refresh config client raw) w := by
  refine accept_ensures (fun _ now _ _ _ _ => w.untouched_setClock now)
    (fun _ _ now _ _ _ _ _ _ => w.untouched_setClock now) ?_
  intro claims first now _ _ _ _ _
  have accepted := w.untouched_setClock now
  refine Ensures.bind ((findUser_undisturbed claims.userId).weaken ?_ fun _ _ => .after accepted)
  intro user w₁ found
  exact (issueSession_undisturbed client user.id).weaken (fun _ _ => id)
    fun _ _ => .after (accepted.trans found)

end Session

namespace Operation

/-- The operation starts a session, in place of an earlier one. -/
def SignsIn : Operation → Prop
  | login .. | loginAnonymous .. | refresh .. => True
  | _ => False

/-- A caller that is refused a session has touched no entry of the cache and no account. -/
theorem refused_untouched {config : SessionConfig} {operation : Operation} (signsIn : operation.SignsIn)
    {source : Nat → List UInt8} {w w' : World} {e : AuthError}
    (ends : (operation.program config).Ends source w (.error e) w') (refused : e.RefusesCaller) :
    w.Untouched w' := by
  have passOn {x : Session TokenPair} (undisturbed : Session.Ensures source w'.clock (fun _ _ => True)
      (Session.Undisturbed w) x w) : Session.Ensures source w'.clock (fun _ _ => True)
        (Session.Undisturbed w) (x >>= fun p => pure (.pair p : Outcome)) w :=
    Session.Ensures.bind (undisturbed.weaken (fun _ _ _ => Session.ensures_pure trivial) fun _ _ => id)
  have undisturbed : Session.Ensures source w'.clock (fun _ _ => True) (Session.Undisturbed w)
      (operation.program config) w := by
    cases operation with
    | login client email password => exact passOn (Session.login_undisturbed client email password)
    | loginAnonymous client email => exact passOn (Session.loginAnonymous_undisturbed client email)
    | refresh client raw => exact passOn (Session.refresh_undisturbed client raw)
    | _ => exact signsIn.elim
  exact (undisturbed.ends ends (Int.le_refl _)).2 e rfl refused

/-- A wrong password leaves the session of the user whose password is guessed at. -/
theorem refused_untouched_guess :
    let marker := cacheKey (markerArea .access "ann" .web) "id"
    let w : World := ⟨⟨Table.empty.insert marker ⟨Session.markerValue, .epoch⟩⟩, Sample.directory "ann",
      .epoch, 0⟩
    let operation := Operation.login (Sample.client "WEB") "guest" "guess"
    let ended := (operation.program Sample.config).runIn Sample.source w
    operation.SignsIn ∧ ended.1 = .error (.unauthorized .invalidCredentials) ∧ w.Untouched ended.2 ∧
      ended.2.cache.lookup? marker = some ⟨Session.markerValue, .epoch⟩ := by
  intro marker w operation ended
  have signsIn : operation.SignsIn := trivial
  have guessed : Session.Ensures Sample.source w.clock (fun _ _ => False)
      (fun e _ => e = .unauthorized .invalidCredentials) (operation.program Sample.config) w := by
    refine Session.Ensures.bind (Session.Ensures.bind
      ((Session.findByEmail_ensures "guest").weaken ?_ ?_))
    · rintro user w₁ ⟨-, found⟩
      obtain rfl := Option.some.inj ((Sample.findByEmail_directory "ann").symm.trans found)
      exact Session.ensures_check (fun _ => rfl) fun passed => absurd rfl passed
    · rintro - - ⟨-, blank | missing⟩
      · exact absurd blank (by decide +kernel)
      · cases (Sample.findByEmail_directory "ann").symm.trans missing
  have ends : (operation.program Sample.config).Ends Sample.source w ended.1 ended.2 :=
    Session.ends_runIn Sample.source _ w
  obtain ⟨passed, refused⟩ := guessed.runIn
  cases result : ended.1 with
  | ok outcome => exact (passed outcome result).elim
  | error e =>
    obtain rfl := refused e result
    rw [result] at ends
    have untouched : w.Untouched ended.2 := refused_untouched signsIn ends trivial
    refine ⟨signsIn, rfl, untouched, ?_⟩
    rw [untouched.cache]
    exact (Table.get?_insert _ _ _ _).trans (if_pos rfl)

end Operation

end BearerAuth
