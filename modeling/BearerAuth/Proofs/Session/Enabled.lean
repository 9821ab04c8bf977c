import BearerAuth.Proofs.Session.Alone

/-! # Accounts that are not enabled

An account says whether it may log in, and nothing that signs a user in asks. So the flag decides
nothing: two surroundings that differ in the flags of the accounts on record, and in nothing else, see
the same results. `Program.Blind` is what the texts of the programs have in common, and `Blind.run`
compares the two runs.
-/

namespace BearerAuth

open BearerAuth.Time

/-- The same account, which may log in. -/
def User.enable (u : User) : User := { u with enabled := true }

theorem User.enable_id (u : User) : u.enable.id = u.id := rfl

/-- The answer to a call if every account may log in. -/
def Call.masked : (call : Call) → call.Answer → call.Answer
  | .directory (.findByEmail _), user => Option.map User.enable user
  | .directory (.findWithRoles _), user => Option.map User.enable user
  | .directory (.findClient _), client => client
  | .directory (.deleteClient _ _), found => found
  | .cache _, answer => answer

/-- The answers are the same but for the flags. -/
def Call.Alike (call : Call) (a b : Except Failure call.Answer) : Prop :=
  a.map call.masked = b.map call.masked

theorem Call.alike_cache {call : CacheCall} {a b : Except Failure call.Answer}
    (alike : Call.Alike (.cache call) a b) : a = b := by
  cases a <;> cases b <;> cases alike <;> rfl

/-- Answers to a lookup of a user are the same, or the same user with two flags. -/
theorem alike_user {a b : Except Failure (Option User)}
    (alike : a.map (Option.map User.enable) = b.map (Option.map User.enable)) :
    a = b ∨ ∃ u v, a = .ok (some u) ∧ b = .ok (some v) ∧ u.enable = v.enable := by
  cases a with
  | error e => cases b <;> cases alike; exact .inl rfl
  | ok u =>
    cases b with
    | error e => cases alike
    | ok v =>
      cases u with
      | none => cases v <;> cases alike; exact .inl rfl
      | some u =>
        cases v with
        | none => cases alike
        | some v => exact .inr ⟨u, v, rfl, rfl, Option.some.inj (Except.ok.inj alike)⟩

namespace Program

variable {σ τ α β : Type}

/-- What the program does next is the same for answers that are alike. -/
inductive Blind : Program α → Prop
  | done (result : α) : Blind (.done result)
  | call {call : Call} {next : Except Failure call.Answer → Program α}
      (unseen : ∀ a b, call.Alike a b → next a = next b) (rest : ∀ answer, Blind (next answer)) :
      Blind (.call call next)
  | clock {next : Instant → Program α} (rest : ∀ now, Blind (next now)) : Blind (.clock next)
  | draw {next : List UInt8 → Program α} (rest : ∀ bytes, Blind (next bytes)) : Blind (.draw next)

theorem Blind.andThen {p : Program α} {f : α → Program β} (first : Blind p)
    (rest : ∀ a, Blind (f a)) : Blind (p.andThen f) := by
  induction first with
  | done result => exact rest result
  | call unseen _ ih => exact .call (fun a b alike => congrArg (Program.andThen · f) (unseen a b alike)) ih
  | clock _ ih => exact .clock ih
  | draw _ ih => exact .draw ih

/-- Related states give the same answers but for the flags, and lead to related states. -/
structure Surroundings.Twins (s : Surroundings σ) (t : Surroundings τ) (related : σ → τ → Prop) :
    Prop where
  perform {a : σ} {b : τ} : related a b → ∀ call,
    call.Alike (s.perform call a).1 (t.perform call b).1 ∧
      related (s.perform call a).2 (t.perform call b).2
  clock {a : σ} {b : τ} : related a b → s.clock a = t.clock b
  draw {a : σ} {b : τ} : related a b →
    (s.draw a).1 = (t.draw b).1 ∧ related (s.draw a).2 (t.draw b).2

/-- A program that is blind ends alike in both surroundings. -/
theorem Blind.run {p : Program α} (blind : Blind p) {s : Surroundings σ} {t : Surroundings τ}
    {related : σ → τ → Prop} (twins : s.Twins t related) {a : σ} {b : τ} (start : related a b) :
    (p.run s a).1 = (p.run t b).1 ∧ related (p.run s a).2 (p.run t b).2 := by
  induction blind generalizing a b with
  | done result => exact ⟨rfl, start⟩
  | @call call next unseen _ ih =>
    -- The two answers may differ, but the program goes on with the same rest.
    obtain ⟨alike, later⟩ := twins.perform start call
    simp only [Program.run]
    rw [unseen _ _ alike]
    exact ih _ later
  | @clock next _ ih =>
    simp only [Program.run]
    rw [twins.clock start]
    exact ih _ start
  | @draw next _ ih =>
    obtain ⟨same, later⟩ := twins.draw start
    simp only [Program.run]
    rw [same]
    exact ih _ later

end Program

/-! ## Signing in -/

namespace Session

variable {α β : Type} {config : SessionConfig}

/-- What the operation does next is the same for answers that are alike. -/
structure Blind (x : Session α) : Prop where
  steps : Program.Blind x.run

theorem Blind.bind {x : Session α} {f : α → Session β} (first : Blind x) (rest : ∀ a, Blind (f a)) :
    Blind (x >>= f) := by
  refine ⟨first.steps.andThen ?_⟩
  rintro (e | a)
  · exact .done _
  · exact (rest a).steps

theorem blind_of_except (result : Except AuthError α) : Blind (ExceptT.mk (pure result)) :=
  ⟨.done result⟩

theorem blind_pure (a : α) : Blind (pure a) := blind_of_except (.ok a)

theorem blind_throw (e : AuthError) : Blind (throw e : Session α) := blind_of_except (.error e)

/-- A check that refuses comes before the rest. -/
theorem blind_check {c : Prop} [Decidable c] {e : AuthError} {rest : Session α} (passed : Blind rest) :
    Blind (if c then throw e >>= fun _ : PUnit => rest else rest) := by
  split
  · exact (blind_throw e).bind fun _ => passed
  · exact passed

theorem blind_readClock : Blind readClock := ⟨.clock fun _ => .done _⟩

theorem blind_drawBytes : Blind drawBytes := ⟨.draw fun _ => .done _⟩

theorem blind_askCache {operation : String} (call : CacheCall) :
    Blind (askCache config operation call) :=
  ⟨.call (fun _ _ alike => by rw [Call.alike_cache alike]) fun _ => .done _⟩

theorem revoke_blind (area : String) : Blind (revoke config area) :=
  Blind.bind (blind_askCache _) fun _ => blind_pure ()

theorem revokeOn_blind (userId : String) (clientType : ClientType) :
    Blind (revokeOn config userId clientType) :=
  Blind.bind (revoke_blind _) fun _ => revoke_blind _

theorem mint_blind (config : TokenConfig) (kind : TokenKind) (userId : String)
    (clientType : ClientType) : Blind (mint config kind userId clientType) := by
  refine Blind.bind blind_readClock fun now => ?_
  refine Blind.bind (blind_of_except _) fun expiresAt => ?_
  exact Blind.bind blind_drawBytes fun bytes => blind_pure _

theorem issueSession_blind (client : Client) (userId : String) :
    Blind (issueSession config client userId) := by
  refine blind_check ?_
  refine Blind.bind (revokeOn_blind userId client.clientType) fun _ => ?_
  refine Blind.bind (mint_blind _ _ _ _) fun access => ?_
  refine Blind.bind (mint_blind _ _ _ _) fun refresh => ?_
  refine Blind.bind blind_readClock fun now => ?_
  exact Blind.bind (blind_askCache _) fun _ => Blind.bind (blind_askCache _) fun _ => blind_pure _

/-- What comes after a lookup by email address may not look at the flag. -/
theorem findByEmail_blind {email : String} {f : User → Session α}
    (unseen : ∀ u v : User, u.enable = v.enable → f u = f v) (rest : ∀ user, Blind (f user)) :
    Blind (findByEmail config email >>= f) := by
  rw [findByEmail]
  split
  · exact blind_throw _
  · refine ⟨.call (fun a b alike => ?_) ?_⟩
    · rcases alike_user alike with rfl | ⟨u, v, rfl, rfl, same⟩
      · rfl
      · exact congrArg ExceptT.run (unseen u v same)
    · rintro (e | _ | user)
      · exact .done _
      · exact .done _
      · exact (rest user).steps

/-- What comes after a lookup by id may not look at the flag. -/
theorem findUser_blind {userId : String} {f : User → Session α}
    (unseen : ∀ u v : User, u.enable = v.enable → f u = f v) (rest : ∀ user, Blind (f user)) :
    Blind (findUser config userId >>= f) := by
  refine ⟨.call (fun a b alike => ?_) ?_⟩
  · rcases alike_user alike with rfl | ⟨u, v, rfl, rfl, same⟩
    · rfl
    · exact congrArg ExceptT.run (unseen u v same)
  · rintro (e | _ | user)
    · exact .done _
    · exact .done _
    · exact (rest user).steps

/-- Users are signed in by what a check says of them, and by their id. -/
private theorem signIn_blind {client : Client} {email : String} (check : User → Bool)
    (unseen : ∀ u, check u = check u.enable) : Blind (do
      let user ← findByEmail config email
      if !check user then throw (.unauthorized .invalidCredentials)
      issueSession config client user.id) := by
  -- Only the check and the id are taken from the account, and enabling it leaves both as they are.
  refine findByEmail_blind (fun u v same => ?_) fun user => blind_check (issueSession_blind client user.id)
  rw [unseen u, unseen v, ← u.enable_id, same, v.enable_id]

theorem login_blind (client : Client) (email password : String) :
    Blind (login config client email password) :=
  signIn_blind (·.isPasswordValid password) fun _ => rfl

theorem loginAnonymous_blind (client : Client) (email : String) :
    Blind (loginAnonymous config client email) := signIn_blind (·.anonymous) fun _ => rfl

theorem refresh_blind (client : Client) (raw : String) : Blind (refresh config client raw) := by
  refine Blind.bind (Blind.bind blind_readClock fun now => blind_of_except _) fun claims => ?_
  refine Blind.bind (Blind.bind (blind_askCache _) fun present => ?_) fun _ => ?_
  · exact blind_check (blind_pure ())
  · refine findUser_blind (fun u v same => ?_) fun user => issueSession_blind client user.id
    rw [← u.enable_id, same, v.enable_id]

end Session

/-- The operation signs a user in. -/
def Operation.signsIn : Operation → Bool
  | login .. | loginAnonymous .. | refresh .. => true
  | _ => false

theorem Operation.program_blind (config : SessionConfig) {operation : Operation}
    (entry : operation.signsIn = true) : Session.Blind (operation.program config) := by
  cases operation with
  | login client email password =>
    exact (Session.login_blind client email password).bind fun _ => Session.blind_pure _
  | loginAnonymous client email =>
    exact (Session.loginAnonymous_blind client email).bind fun _ => Session.blind_pure _
  | refresh client raw => exact (Session.refresh_blind client raw).bind fun _ => Session.blind_pure _
  | _ => cases entry

/-! ## In memory -/

/-- The same is on record but for the flags of the accounts. -/
structure MemoryDirectory.Twins (d e : MemoryDirectory) : Prop where
  clients : d.clients = e.clients
  byEmail (email : String) :
    (d.findByEmail email).map User.enable = (e.findByEmail email).map User.enable
  byId (userId : String) :
    (d.findWithRoles userId).map User.enable = (e.findWithRoles userId).map User.enable

theorem MemoryDirectory.Twins.perform {d e : MemoryDirectory} (twins : d.Twins e)
    (call : DirectoryCall) :
    Call.Alike (.directory call) (.ok (d.perform call).1) (.ok (e.perform call).1) ∧
      (d.perform call).2.Twins (e.perform call).2 := by
  have counted : d.lookedUp.Twins e.lookedUp := ⟨twins.clients, twins.byEmail, twins.byId⟩
  cases call with
  | findByEmail email => exact ⟨congrArg Except.ok (twins.byEmail email), counted⟩
  | findWithRoles userId => exact ⟨congrArg Except.ok (twins.byId userId), counted⟩
  | findClient secret =>
    have same : d.findClient secret = e.findClient secret := by rw [findClient, findClient, twins.clients]
    exact ⟨congrArg Except.ok same, counted⟩
  | deleteClient secret now =>
    simp only [MemoryDirectory.perform, deleteClient, ← twins.clients]
    split
    · exact ⟨rfl, rfl, twins.byEmail, twins.byId⟩
    · exact ⟨rfl, twins⟩

/-- The worlds are the same but for the flags of the accounts on record. -/
structure World.Twins (w w' : World) : Prop where
  cache : w.cache = w'.cache
  directory : w.directory.Twins w'.directory
  clock : w.clock = w'.clock
  drawn : w.drawn = w'.drawn

theorem World.twins_surroundings (source : Nat → List UInt8) :
    (surroundings source).Twins (surroundings source) Twins where
  perform {w w'} twins call := by
    cases call with
    | cache call =>
      have answer : (w.perform (.cache call)).1 = (w'.perform (.cache call)).1 := by
        simp only [World.perform, twins.cache, twins.clock]
      have kept : (w.perform (.cache call)).2.cache = (w'.perform (.cache call)).2.cache := by
        simp only [World.perform, twins.cache, twins.clock]
      exact ⟨congrArg (Except.map _) answer, kept, twins.directory, twins.clock, twins.drawn⟩
    | directory call =>
      obtain ⟨alike, later⟩ := twins.directory.perform call
      exact ⟨alike, twins.cache, later, twins.clock, twins.drawn⟩
  clock twins := twins.clock
  draw {w w'} twins :=
    ⟨congrArg source twins.drawn, twins.cache, twins.directory, twins.clock,
      congrArg (· + 1) twins.drawn⟩

/-- However the flags of the accounts stand, signing in and refreshing have the same result, whoever
answers, and leave the same behind. -/
theorem Operation.enabled_decides_nothing {σ τ : Type} {s : Program.Surroundings σ}
    {t : Program.Surroundings τ} {related : σ → τ → Prop} (twins : s.Twins t related)
    (config : SessionConfig) {operation : Operation} (entry : operation.signsIn = true) {a : σ} {b : τ}
    (start : related a b) :
    let program := (operation.program config).run
    (program.run s a).1 = (program.run t b).1 ∧ related (program.run s a).2 (program.run t b).2 :=
  (program_blind config entry).steps.run twins start

namespace Sample

/-- An anonymous user is on record, who may log in or not. -/
def guestWorld (enabled : Bool) : World :=
  ⟨.empty, MemoryDirectory.empty.insertUser { user "ann" with enabled }, .epoch, 0⟩

theorem findByEmail_guestWorld (enabled : Bool) :
    (guestWorld enabled).directory.findByEmail "guest" = some { user "ann" with enabled } := by
  have trimmed : MemoryDirectory.emailKey (Text.trim "guest") = MemoryDirectory.emailKey "guest" := by
    decide +kernel
  simp [MemoryDirectory.findByEmail, guestWorld, MemoryDirectory.insertUser, MemoryDirectory.empty,
    Table.get?_insert, trimmed, user]

theorem twins_guestWorld (enabled enabled' : Bool) :
    (guestWorld enabled).Twins (guestWorld enabled') := by
  have byId (userId : String) : ((guestWorld enabled).directory.findWithRoles userId).map User.enable =
      ((guestWorld enabled').directory.findWithRoles userId).map User.enable := by
    simp only [MemoryDirectory.findWithRoles, guestWorld, MemoryDirectory.insertUser, user,
      Table.get?_insert]
    split <;> rfl
  refine ⟨rfl, ⟨rfl, fun email => ?_, byId⟩, rfl, rfl⟩
  -- The addresses name the same ids in both, and an account is looked up by its id.
  rw [MemoryDirectory.findByEmail, MemoryDirectory.findByEmail]
  exact (Option.map_bind ..).trans
    ((congrArg (Option.bind _) (funext byId)).trans (Option.map_bind ..).symm)

end Sample

/-- A user who may not log in does. -/
theorem Operation.enabled_decides_nothing_disabled :
    let entry : Operation := .loginAnonymous (Sample.client "WEB") "guest"
    let run (enabled : Bool) :=
      (entry.program Sample.config).runIn Sample.source (Sample.guestWorld enabled)
    (Sample.guestWorld false).directory.findByEmail "guest" =
        some { Sample.user "ann" with enabled := false } ∧
      (∃ p, (run false).1 = .ok (.pair p) ∧ p.access.userId = "ann") ∧
      (run false).1 = (run true).1 ∧ World.Twins (run false).2 (run true).2 := by
  intro entry run
  have found := Sample.findByEmail_guestWorld false
  have blank : (Text.trim "guest").isEmpty = false := by decide +kernel
  have serves : Session.Serves Sample.config.tokens "ann" ⟨"WEB"⟩ .epoch .epoch :=
    Sample.serves (by decide) (by decide)
  have signIn : Session.Ensures Sample.source (Sample.guestWorld false).clock _ _
      (Session.loginAnonymous Sample.config (Sample.client "WEB") "guest") (Sample.guestWorld false) :=
    Session.loginAnonymous_succeeds blank found rfl rfl serves
  have whole : Session.Ensures Sample.source (Sample.guestWorld false).clock
      (fun outcome _ => ∃ p, outcome = .pair p ∧ p.access.userId = "ann") (fun _ _ => False)
      (entry.program Sample.config) (Sample.guestWorld false) :=
    Session.Ensures.bind (signIn.weaken (fun p w' ⟨_, _, begun⟩ =>
      Session.ensures_pure ⟨p, rfl, begun.access.fields.2.2.1⟩) fun _ _ => id)
  obtain ⟨reached, refused⟩ := whole.runIn
  have signedIn : ∃ p, (run false).1 = .ok (.pair p) ∧ p.access.userId = "ann" := by
    cases result : (run false).1 with
    | error e => exact (refused e result).elim
    | ok outcome =>
      obtain ⟨p, rfl, owned⟩ := reached outcome result
      exact ⟨p, rfl, owned⟩
  have signsIn : entry.signsIn = true := rfl
  exact ⟨found, signedIn, enabled_decides_nothing (World.twins_surroundings Sample.source)
    Sample.config signsIn (Sample.twins_guestWorld false true)⟩

end BearerAuth
