import BearerAuth.Proofs.Session.Faults
import BearerAuth.Proofs.Session.Operation

/-! # Failures are refusals

A failed call ends the whole operation with an internal error, since whatever cannot be confirmed
counts as refused. Only the call that keeps a copy of an account may fail unnoticed, and that call is
the last one. So failures can hide what an operation would have resulted in, and never change it.
-/

namespace BearerAuth

open BearerAuth.Time

namespace Program

variable {σ α β : Type}

/-- A failed call ends the program. It is refused as an internal error if the call is vital; a spared
call ends the program with the same result whether it fails or not. -/
inductive FailsClosed (vital spared : Call → Prop) : Program (Except AuthError α) → Prop
  | done (result : Except AuthError α) : FailsClosed vital spared (.done result)
  | vital {call : Call} {next : Except Failure call.Answer → Program (Except AuthError α)}
      (matters : vital call)
      (refused : ∀ failure, ∃ message, next (.error failure) = .done (.error (.internal message)))
      (rest : ∀ answer, FailsClosed vital spared (next answer)) : FailsClosed vital spared (.call call next)
  | spared {call : Call} {next : Except Failure call.Answer → Program (Except AuthError α)}
      {result : Except AuthError α} (lost : spared call) (same : ∀ answer, next answer = .done result) :
      FailsClosed vital spared (.call call next)
  | clock {next : Instant → Program (Except AuthError α)}
      (rest : ∀ now, FailsClosed vital spared (next now)) : FailsClosed vital spared (.clock next)
  | draw {next : List UInt8 → Program (Except AuthError α)}
      (rest : ∀ bytes, FailsClosed vital spared (next bytes)) : FailsClosed vital spared (.draw next)

variable {vital spared : Call → Prop}

/-- A program without spared calls may come first if what follows passes its refusals on. -/
theorem FailsClosed.andThen {p : Program (Except AuthError α)}
    {f : Except AuthError α → Program (Except AuthError β)} (first : FailsClosed vital (fun _ => False) p)
    (refusals : ∀ e, f (.error e) = .done (.error e)) (rest : ∀ a, FailsClosed vital spared (f (.ok a))) :
    FailsClosed vital spared (p.andThen f) := by
  induction first with
  | done result =>
    cases result with
    | error e =>
      change FailsClosed vital spared (f (.error e))
      rw [refusals]
      exact .done (.error e)
    | ok a => exact rest a
  | vital matters refused _ ih =>
    refine .vital matters ?_ ih
    intro failure
    obtain ⟨message, ended⟩ := refused failure
    refine ⟨message, ?_⟩
    rw [ended]
    exact refusals (.internal message)
  | spared lost _ => exact lost.elim
  | clock _ ih => exact .clock ih
  | draw _ ih => exact .draw ih

/-- What follows a spared call may take no steps. -/
theorem FailsClosed.endWith {p : Program (Except AuthError α)}
    {f : Except AuthError α → Program (Except AuthError β)} (closed : FailsClosed vital spared p)
    (refusals : ∀ e, f (.error e) = .done (.error e)) (ends : ∀ a, ∃ b, f (.ok a) = .done (.ok b)) :
    FailsClosed vital spared (p.andThen f) := by
  have ended (result : Except AuthError α) : ∃ result', f result = .done result' := by
    cases result with
    | error e => exact ⟨_, refusals e⟩
    | ok a =>
      obtain ⟨b, same⟩ := ends a
      exact ⟨_, same⟩
  induction closed with
  | done result =>
    obtain ⟨result', same⟩ := ended result
    change FailsClosed vital spared (f result)
    rw [same]
    exact .done result'
  | vital matters refused _ ih =>
    refine .vital matters ?_ ih
    intro failure
    obtain ⟨message, same⟩ := refused failure
    refine ⟨message, ?_⟩
    rw [same]
    exact refusals (.internal message)
  | @spared _ _ result lost same =>
    obtain ⟨result', same'⟩ := ended result
    refine .spared lost (?_ : ∀ answer, _ = Program.done result')
    intro answer
    rw [same]
    exact same'
  | clock _ ih => exact .clock ih
  | draw _ ih => exact .draw ih

/-- If a vital call fails, the result is an internal error; if none does, it is the one without
faults. -/
theorem FailsClosed.run {p : Program (Except AuthError α)}
    (closed : FailsClosed (fun call => ¬spared call) spared p) (s : Surroundings σ)
    (faults : Nat → Option (Fault σ)) {w : Faulted σ} (before : w.failed = []) :
    ((∃ call ∈ (p.run (s.withFaults faults) w).2.failed, ¬spared call) →
      ∃ message, (p.run (s.withFaults faults) w).1 = .error (.internal message)) ∧
    ((∀ call ∈ (p.run (s.withFaults faults) w).2.failed, spared call) →
      (p.run (s.withFaults faults) w).1 = (p.run s w.state).1) := by
  induction closed generalizing w with
  | done result =>
    constructor
    · rintro ⟨call, member, -⟩
      have member : call ∈ w.failed := member
      rw [before] at member
      cases member
    · intro _
      rfl
  | @vital call next matters refused _ ih =>
    cases planned : faults w.made with
    | none =>
      simp only [Program.run, Surroundings.perform_spared planned]
      exact ih _ before
    | some fault =>
      -- The program is over, so this is the only call that failed.
      obtain ⟨message, ended⟩ := refused fault.failure
      simp only [Program.run, Surroundings.perform_faulted planned, ended, before]
      constructor
      · intro _
        exact ⟨message, rfl⟩
      · intro all
        exact absurd (all call (List.mem_singleton_self call)) matters
  | @spared call next result lost same =>
    cases planned : faults w.made with
    | none =>
      simp only [Program.run, Surroundings.perform_spared planned, same, before]
      constructor
      · rintro ⟨_, ⟨⟩, -⟩
      · intro _
        trivial
    | some fault =>
      simp only [Program.run, Surroundings.perform_faulted planned, same, before]
      constructor
      · rintro ⟨other, member, matters⟩
        obtain rfl := List.mem_singleton.mp member
        exact absurd lost matters
      · intro _
        trivial
  | clock _ ih => exact ih _ before
  | draw _ ih => exact ih _ before

end Program

/-! ## Operations -/

namespace Session

variable {α β : Type} {vital spared : Call → Prop} {config : SessionConfig}

/-- A failed call ends the operation, as an internal error if the call is vital. -/
structure FailsClosed (vital spared : Call → Prop) (x : Session α) : Prop where
  steps : Program.FailsClosed vital spared x.run

theorem FailsClosed.bind {x : Session α} {f : α → Session β}
    (first : FailsClosed vital (fun _ => False) x) (rest : ∀ a, FailsClosed vital spared (f a)) :
    FailsClosed vital spared (x >>= f) :=
  ⟨first.steps.andThen (fun _ => rfl) fun a => (rest a).steps⟩

theorem FailsClosed.map {x : Session α} (closed : FailsClosed vital spared x) (f : α → β) :
    FailsClosed vital spared (x >>= fun a => pure (f a)) :=
  ⟨closed.steps.endWith (fun _ => rfl) fun a => ⟨f a, rfl⟩⟩

theorem failsClosed_of_except (result : Except AuthError α) :
    FailsClosed vital spared (ExceptT.mk (pure result)) := ⟨.done result⟩

theorem failsClosed_pure (a : α) : FailsClosed vital spared (pure a) := ⟨.done (.ok a)⟩

theorem failsClosed_throw (e : AuthError) : FailsClosed vital spared (throw e : Session α) :=
  ⟨.done (.error e)⟩

/-- A check that refuses comes before the rest. -/
theorem failsClosed_check {c : Prop} [Decidable c] {e : AuthError} {rest : Session α}
    (passed : FailsClosed vital spared rest) :
    FailsClosed vital spared (if c then throw e >>= fun _ : PUnit => rest else rest) := by
  split
  · exact ⟨.done (.error e)⟩
  · exact passed

theorem failsClosed_readClock : FailsClosed vital spared readClock := ⟨.clock fun now => .done (.ok now)⟩

theorem failsClosed_drawBytes : FailsClosed vital spared drawBytes :=
  ⟨.draw fun bytes => .done (.ok bytes)⟩

/-- Every failure is reported as an internal error. -/
theorem failed_internal (config : SessionConfig) (operation : String) (failure : Failure) :
    ∃ message, failed config operation failure = .internal message := by
  cases failure with
  | cache e => exact ⟨e.message, rfl⟩
  | directory e => exact ⟨e.message, rfl⟩
  | timedOut => exact ⟨operation ++ " timed out after " ++ config.operationTimeout.text, rfl⟩

theorem failsClosed_request {operation : String} {call : Call} (matters : vital call) :
    FailsClosed vital spared (request config operation call) := by
  refine ⟨.vital matters ?_ fun answer => .done _⟩
  intro failure
  obtain ⟨message, same⟩ := failed_internal config operation failure
  exact ⟨message, congrArg (fun e => Program.done (Except.error e)) same⟩

theorem failsClosed_readCached {operation area key : String} {reader : Json.Reader α}
    (matters : vital (.cache (.get area key))) :
    FailsClosed vital spared (readCached config operation area key reader) := by
  refine FailsClosed.bind (failsClosed_request matters) ?_
  rintro (_ | bytes)
  · exact failsClosed_pure none
  · dsimp only
    split
    · exact failsClosed_pure _
    · exact failsClosed_throw _

/-- Whether a copy could be kept makes no difference if nothing comes after it. -/
theorem failsClosed_keepCopy {operation area key : String} {ttl : Duration} {value : Json.Value}
    (lost : spared (.cache (.setJson area key ttl value))) (a : α) :
    FailsClosed vital spared (keepCopy config operation area key ttl value >>= fun _ => pure a) := by
  refine ⟨.spared lost (?_ : ∀ answer, _ = Program.done (Except.ok a))⟩
  rintro (failure | answer)
  · rfl
  · rfl

theorem findUser_failsClosed {userId : String} (matters : vital (.directory (.findWithRoles userId))) :
    FailsClosed vital spared (findUser config userId) := by
  refine FailsClosed.bind (failsClosed_request matters) ?_
  rintro (_ | user)
  · exact failsClosed_throw _
  · exact failsClosed_pure user

/-- A raw token is validated, and its marker is asked for. -/
theorem accept_failsClosed {kind : TokenKind} {clientType : ClientType} {raw : String}
    {rest : Claims → Session α} (matters : ∀ area key, vital (.cache (.holds area key)))
    (accepted : ∀ claims, FailsClosed vital spared (rest claims)) :
    FailsClosed vital spared (do
      let claims ← validated config raw
      requireMarker config kind claims.userId clientType claims.tokenId
      rest claims) := by
  refine FailsClosed.bind (FailsClosed.bind failsClosed_readClock fun now => ?_) fun claims => ?_
  · exact failsClosed_of_except _
  refine FailsClosed.bind (FailsClosed.bind (failsClosed_request (matters _ _)) fun present => ?_) ?_
  · cases present with
    | false => exact failsClosed_throw _
    | true => exact failsClosed_pure ()
  · intro _
    exact accepted claims

theorem cachedUser_failsClosed {userId : String} (read : vital (.cache (.get userArea userId)))
    (found : vital (.directory (.findWithRoles userId)))
    (lost : ∀ ttl value, spared (.cache (.set userArea userId ttl value))) :
    FailsClosed vital spared (cachedUser config userId) := by
  refine FailsClosed.bind (failsClosed_readCached read) ?_
  rintro (_ | user)
  · refine FailsClosed.bind (findUser_failsClosed found) ?_
    intro user
    exact failsClosed_keepCopy (lost _ _) user
  · exact failsClosed_pure user

theorem resolveClient_failsClosed {secret : String} (read : vital (.cache (.get clientArea secret)))
    (found : vital (.directory (.findClient secret)))
    (lost : ∀ ttl value, spared (.cache (.set clientArea secret ttl value))) :
    FailsClosed vital spared (resolveClient config secret) := by
  refine failsClosed_check ?_
  refine FailsClosed.bind (failsClosed_readCached read) ?_
  rintro (_ | client)
  · refine FailsClosed.bind (failsClosed_request found) ?_
    rintro (_ | client)
    · exact failsClosed_throw _
    · exact failsClosed_check (failsClosed_keepCopy (lost _ _) client)
  · dsimp only
    split
    · exact failsClosed_pure client
    · exact failsClosed_throw _

/-! Every call of the others is vital. -/

section

variable (all : ∀ call, vital call)

include all

theorem evictClient_failsClosed (secret : String) :
    FailsClosed vital spared (evictClient config secret) := failsClosed_request (all _)

theorem evictUser_failsClosed (userId : String) :
    FailsClosed vital spared (evictUser config userId) := failsClosed_request (all _)

theorem deleteClient_failsClosed (secret : String) :
    FailsClosed vital spared (deleteClient config secret) := by
  refine failsClosed_check ?_
  refine FailsClosed.bind failsClosed_readClock fun now => ?_
  refine FailsClosed.bind (failsClosed_request (all _)) fun found => ?_
  exact failsClosed_check (evictClient_failsClosed all secret)

theorem revoke_failsClosed (area : String) : FailsClosed vital spared (revoke config area) :=
  FailsClosed.bind (failsClosed_request (all _)) fun _ => failsClosed_pure ()

theorem revokeOn_failsClosed (userId : String) (clientType : ClientType) :
    FailsClosed vital spared (revokeOn config userId clientType) :=
  FailsClosed.bind (revoke_failsClosed all _) fun _ => revoke_failsClosed all _

omit all in
theorem mint_failsClosed (config : TokenConfig) (kind : TokenKind) (userId : String)
    (clientType : ClientType) : FailsClosed vital spared (mint config kind userId clientType) := by
  refine FailsClosed.bind failsClosed_readClock fun now => ?_
  refine FailsClosed.bind (failsClosed_of_except _) fun expiresAt => ?_
  exact FailsClosed.bind failsClosed_drawBytes fun bytes => failsClosed_pure _

theorem issueSession_failsClosed (client : Client) (userId : String) :
    FailsClosed vital spared (issueSession config client userId) := by
  refine failsClosed_check ?_
  refine FailsClosed.bind (revokeOn_failsClosed all userId client.clientType) fun _ => ?_
  refine FailsClosed.bind (mint_failsClosed _ _ _ _) fun access => ?_
  refine FailsClosed.bind (mint_failsClosed _ _ _ _) fun refresh => ?_
  refine FailsClosed.bind failsClosed_readClock fun now => ?_
  refine FailsClosed.bind (failsClosed_request (all _)) fun _ => ?_
  exact FailsClosed.bind (failsClosed_request (all _)) fun _ => failsClosed_pure _

/-- A user who was looked up by email address and passes the check is signed in. -/
private theorem signIn_failsClosed {client : Client} {email : String} (check : User → Bool) :
    FailsClosed vital spared (do
      let user ← findByEmail config email
      if !check user then throw (.unauthorized .invalidCredentials)
      issueSession config client user.id) := by
  refine FailsClosed.bind (failsClosed_check (FailsClosed.bind (failsClosed_request (all _)) ?_)) ?_
  · rintro (_ | user)
    · exact failsClosed_throw _
    · exact failsClosed_pure user
  · intro user
    exact failsClosed_check (issueSession_failsClosed all client user.id)

theorem login_failsClosed (client : Client) (email password : String) :
    FailsClosed vital spared (login config client email password) :=
  signIn_failsClosed all (·.isPasswordValid password)

theorem loginAnonymous_failsClosed (client : Client) (email : String) :
    FailsClosed vital spared (loginAnonymous config client email) := signIn_failsClosed all (·.anonymous)

theorem refresh_failsClosed (client : Client) (raw : String) :
    FailsClosed vital spared (refresh config client raw) := by
  refine accept_failsClosed (fun _ _ => all _) fun claims => ?_
  refine FailsClosed.bind (findUser_failsClosed (all _)) fun user => ?_
  exact issueSession_failsClosed all client user.id

theorem logout_failsClosed (userId : String) (clientType : ClientType) :
    FailsClosed vital spared (logout config userId clientType) :=
  failsClosed_check (revokeOn_failsClosed all userId clientType)

theorem logoutAll_failsClosed (userId : String) :
    FailsClosed vital spared (logoutAll config userId) := by
  refine failsClosed_check ?_
  exact FailsClosed.bind (revoke_failsClosed all _) fun _ => revoke_failsClosed all _

end

end Session

namespace Operation

/-- The call may fail unnoticed: it keeps a copy of the account that the operation looks up. -/
def Spares : Operation → Call → Prop
  | resolveClient secret, .cache (.set area key _ _) => area = Session.clientArea ∧ key = secret
  | authenticate _ _, .cache (.set area _ _ _) => area = Session.userArea
  | _, _ => False

theorem program_failsClosed (config : SessionConfig) (operation : Operation) :
    Session.FailsClosed (fun call => ¬operation.Spares call) operation.Spares
      (operation.program config) := by
  have passOn {α : Type} {x : Session α} (f : α → Outcome)
      (closed : Session.FailsClosed (fun call => ¬operation.Spares call) operation.Spares x) :
      Session.FailsClosed (fun call => ¬operation.Spares call) operation.Spares
        (x >>= fun a => pure (f a)) := closed.map f
  cases operation with
  | resolveClient secret =>
    exact passOn .client (Session.resolveClient_failsClosed id id fun _ _ => ⟨rfl, rfl⟩)
  | deleteClient secret =>
    exact passOn (fun _ => .finished) (Session.deleteClient_failsClosed (fun _ => id) secret)
  | evictClient secret =>
    exact passOn (fun _ => .finished) (Session.evictClient_failsClosed (fun _ => id) secret)
  | evictUser userId =>
    exact passOn (fun _ => .finished) (Session.evictUser_failsClosed (fun _ => id) userId)
  | login client email password =>
    exact passOn .pair (Session.login_failsClosed (fun _ => id) client email password)
  | loginAnonymous client email =>
    exact passOn .pair (Session.loginAnonymous_failsClosed (fun _ => id) client email)
  | refresh client raw =>
    exact passOn .pair (Session.refresh_failsClosed (fun _ => id) client raw)
  | authenticate client raw =>
    refine passOn .user (Session.accept_failsClosed (fun _ _ => id) fun claims => ?_)
    exact Session.cachedUser_failsClosed id id fun _ _ => rfl
  | logout userId clientType =>
    exact passOn (fun _ => .finished) (Session.logout_failsClosed (fun _ => id) userId clientType)
  | logoutAll userId =>
    exact passOn (fun _ => .finished) (Session.logoutAll_failsClosed (fun _ => id) userId)

/-- Whichever calls of an operation fail, and whatever they leave behind, the operation results in what
it results in without faults, or in an internal error. It is an internal error if any call has failed
but the one that keeps a copy; if no other has failed, it is the result without faults. -/
theorem fails_closed {σ : Type} (config : SessionConfig) (operation : Operation)
    (s : Program.Surroundings σ) (state : σ) (faults : Nat → Option (Fault σ)) :
    let sound := (Program.run s (operation.program config).run state).1
    let run := (operation.program config).attempt s faults state
    (run.1 = sound ∨ ∃ message, run.1 = .error (.internal message)) ∧
      ((∃ call ∈ run.2.failed, ¬operation.Spares call) →
        ∃ message, run.1 = .error (.internal message)) ∧
      ((∀ call ∈ run.2.failed, operation.Spares call) → run.1 = sound) ∧
      ((∃ e, sound = .error e) → ∃ e, run.1 = .error e) := by
  intro sound run
  have closed := (operation.program_failsClosed config).steps
  obtain ⟨vital, spared⟩ := closed.run s faults (w := ⟨state, 0, []⟩) rfl
  have either : run.1 = sound ∨ ∃ message, run.1 = .error (.internal message) := by
    by_cases lost : ∀ call ∈ run.2.failed, operation.Spares call
    · exact .inl (spared lost)
    · simp only [Classical.not_forall] at lost
      obtain ⟨call, member, matters⟩ := lost
      exact .inr (vital ⟨call, member, matters⟩)
  refine ⟨either, vital, spared, ?_⟩
  rintro ⟨e, refused⟩
  rcases either with same | ⟨message, internal⟩
  · exact ⟨e, same.trans refused⟩
  · exact ⟨.internal message, internal⟩

end Operation

end BearerAuth
