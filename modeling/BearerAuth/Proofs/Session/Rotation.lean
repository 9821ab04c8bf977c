import BearerAuth.Proofs.Session.Revocation

/-! # How often a refresh token works

A refresh looks for the marker of its token and evicts it by a later call. Refreshes of one token that
do not overlap between the two succeed once; those that do may all succeed.
-/

namespace BearerAuth

open BearerAuth.Time

/-- Nothing was evicted in which the key lies. -/
def Trace.Spares (past : Trace) (key : String) : Prop :=
  ∀ area, past.Evicted area → liesIn area key = false

/-- An orderly trace that has just asked for a marker has evicted nothing. -/
theorem Trace.Kept.spares {past : Trace} {area id : String} {answer : Except Failure Bool}
    (kept : Trace.Kept Trace.Orderly (.called (.cache (.holds area id)) answer :: past)) (key : String) :
    Trace.Spares (.called (.cache (.holds area id)) answer :: past) key := by
  rintro area' ⟨count, evicted⟩
  rcases List.mem_cons.mp evicted with same | earlier
  · cases same
  · exact absurd ⟨count, earlier⟩ (kept.1 area')

namespace System

variable {config : SessionConfig} {source : Nat → List UInt8} {s s' : System} {k i j : Nat} {t : Token}

/-- The task has seen a marker under the token's id. -/
def Saw (s : System) (i : Nat) (t : Token) : Prop := ∃ task, s.tasks[i]? = some task ∧ task.past.Saw t.id

/-- The task has not evicted the token's marker yet. -/
def Spares (s : System) (i : Nat) (t : Token) : Prop :=
  ∀ task, s.tasks[i]? = some task → task.past.Spares t.markerKey

/-- Both tasks have seen the token's marker, and neither has evicted it yet. -/
structure Overlap (s : System) (i j : Nat) (t : Token) : Prop where
  saw : s.Saw i t ∧ s.Saw j t
  spares : s.Spares i t ∧ s.Spares j t

theorem Overlap.symm (overlap : s.Overlap i j t) : s.Overlap j i t :=
  ⟨overlap.saw.symm, overlap.spares.symm⟩

/-- The second one of two tasks has just seen the marker, and so neither has evicted it. -/
private theorem overlap_of_saw {n : Nat} (turn : Turn config source s s') (settled : s.Settled k t)
    (sound : Sound config s) (drawn : Drawn source s) (evicting : Evicting n t.markerKey s)
    (later : n ≤ i) (distinct : i ≠ j) (first : s'.Saw i t) (second : s'.Saw j t)
    (unseen : ¬s.Saw j t) : s'.Overlap i j t := by
  obtain ⟨task', found', saw⟩ := second
  rcases turn.saw settled sound drawn found' saw with
    ⟨task, found, before⟩ | ⟨there, ⟨area, task, past, -⟩, alone⟩
  · exact absurd ⟨task, found, before⟩ unseen
  · refine ⟨⟨first, task', found', saw⟩, fun other found area evicted => ?_, fun other found => ?_⟩
    · rw [alone i distinct] at found
      by_contra within
      have absent := evicting.finished i other area later found evicted (Bool.of_not_eq_false within)
      simp [there] at absent
    · obtain rfl := Option.some.inj (found'.symm.trans found)
      have kept := (sound.turn turn).kept j task' found'
      rw [past] at kept ⊢
      exact kept.spares t.markerKey

private theorem overlap_of_turn {n : Nat} (turn : Turn config source s s') (settled : s.Settled k t)
    (sound : Sound config s) (drawn : Drawn source s) (evicting : Evicting n t.markerKey s)
    (laterI : n ≤ i) (laterJ : n ≤ j) (distinct : i ≠ j) (first : s'.Saw i t) (second : s'.Saw j t)
    (before : ¬(s.Saw i t ∧ s.Saw j t)) : s'.Overlap i j t := by
  by_cases unseen : s.Saw j t
  · have unseen' : ¬s.Saw i t := fun saw => before ⟨saw, unseen⟩
    exact (overlap_of_saw turn settled sound drawn evicting laterJ distinct.symm second first
      unseen').symm
  · exact overlap_of_saw turn settled sound drawn evicting laterI distinct first second unseen

/-- Two tasks that have come to see the marker have overlapped at some time. -/
private theorem overlap_of_run {n bound : Nat} {events : List Event} (apart : DrawsApart source bound)
    (sound : Sound config s) (drawn : Drawn source s) (settled : s.Settled k t)
    (evicting : Evicting n t.markerKey s) (laterI : n ≤ i) (laterJ : n ≤ j) (distinct : i ≠ j)
    (before : ¬(s.Saw i t ∧ s.Saw j t)) (run : s.replay? config source events = some s')
    (within : s'.world.drawn ≤ bound) (first : s'.Saw i t) (second : s'.Saw j t) :
    ∃ past rest middle, events = past ++ rest ∧ s.replay? config source past = some middle ∧
      middle.Overlap i j t := by
  induction events generalizing s with
  | nil =>
    cases run
    exact absurd ⟨first, second⟩ before
  | cons event events ih =>
    obtain ⟨next, happens, onward⟩ := Option.bind_eq_some_iff.mp run
    have turn := turn_of_step? happens
    have single : s.replay? config source [event] = some next := by
      simp only [replay?, happens, Option.bind_some]
    by_cases both : next.Saw i t ∧ next.Saw j t
    · exact ⟨[event], events, next, rfl, single, overlap_of_turn turn settled sound drawn evicting laterI
        laterJ distinct both.1 both.2 before⟩
    · have drawn' := drawn.turn apart turn (Nat.le_trans (drawn_le_of_replay? onward) within)
      have evicting' := evicting.turn turn fun absent => settled.absent sound drawn' absent turn
      obtain ⟨past, rest, middle, split, reached, overlap⟩ := ih (sound.turn turn) drawn'
        (settled.turn turn) evicting' both onward
      refine ⟨event :: past, rest, middle, congrArg (event :: ·) split, ?_, overlap⟩
      simp only [replay?, happens, Option.bind_some, reached]

end System

/-! ## Refreshes that overlap -/

namespace Session

variable {source : Nat → List UInt8} {config : SessionConfig} {w : World} {client : Client}
  {raw : String} {user : User}

/-- What a refresh does before it evicts anything. -/
def approve (config : SessionConfig) (client : Client) (raw : String) : Session User := do
  let claims ← validated config raw
  requireMarker config .refresh claims.userId client.clientType claims.tokenId
  findUser config claims.userId

/-- What a refresh does after that. -/
def replace (config : SessionConfig) (client : Client) (user : User) : Session Outcome := do
  return .pair (← issueSession config client user.id)

theorem refresh_program (config : SessionConfig) (client : Client) (raw : String) :
    (Operation.refresh client raw).program config =
      approve config client raw >>= fun user => replace config client user := by
  simp only [Operation.program, refresh, approve, replace, bind_assoc]

/-- The user whom a refresh of the raw token on the client is for. -/
def Admits (config : SessionConfig) (client : Client) (raw : String) (w : World) (user : User) : Prop :=
  ∃ claims, Token.validate raw config.tokens.secret w.clock = .ok claims ∧
    w.cache.holds w.clock (markerArea .refresh claims.userId client.clientType) claims.tokenId = true ∧
      w.directory.findWithRoles claims.userId = some user

theorem Admits.congr {w' : World} (admits : Admits config client raw w user)
    (cache : w'.cache = w.cache) (clock : w'.clock = w.clock)
    (users : w'.directory.users = w.directory.users) : Admits config client raw w' user := by
  obtain ⟨claims, valid, held, found⟩ := admits
  refine ⟨claims, clock ▸ valid, ?_, ?_⟩
  · rw [cache, clock]
    exact held
  · rw [MemoryDirectory.findWithRoles, users]
    exact found

/-- A refresh gets as far as to evict something, and has not changed anything that matters then. -/
theorem approve_succeeds (admits : Admits config client raw w user) :
    Ensures source w.clock (fun user' w' => user' = user ∧ w'.cache = w.cache ∧ w'.clock = w.clock ∧
      w'.directory.users = w.directory.users ∧ w'.drawn = w.drawn) (fun _ _ => False)
      (approve config client raw) w := by
  obtain ⟨claims, valid, held, found⟩ := admits
  refine accept_ensures_still (fun e failed => ?_) (fun claims' valid' absent => ?_)
    fun claims' valid' _ => ?_
  · cases valid.symm.trans failed
  · obtain rfl := Except.ok.inj (valid.symm.trans valid')
    cases held.symm.trans absent
  · obtain rfl := Except.ok.inj (valid.symm.trans valid')
    refine Ensures.bind (ensures_answer (.directory (.findWithRoles claims.userId))
      (fun w => w.directory.findWithRoles claims.userId) (fun _ => rfl) fun now later within => ?_)
    simp only [World.setClock_directory, found]
    exact ensures_pure ⟨rfl, rfl, Instant.le_antisymm within later, rfl, rfl⟩

/-- What it takes that a refresh alone succeeds. -/
theorem refresh_needs {p : TokenPair}
    (succeeds : (((Operation.refresh client raw).program config).runIn source w).1 = .ok (.pair p)) :
    ∃ user, Admits config client raw w user ∧ client.isActive = true ∧
      Serves config.tokens user.id client.clientType w.clock w.clock := by
  have needs : Ensures source w.clock (fun _ w' => ∃ user w₁ p, Admits config client raw w user ∧
      client.isActive = true ∧ w.clock ≤ w₁.clock ∧
        Begun source config.tokens user.id client.clientType w₁ w' p) (fun _ _ => True)
      ((Operation.refresh client raw).program config) w := by
    rw [refresh_program]
    refine Ensures.bind (accept_ensures_still (fun _ _ => trivial) (fun _ _ _ => trivial)
      fun claims valid held => ?_)
    refine (findUser_ensures claims.userId).weaken ?_ fun _ _ _ => trivial
    rintro user w₁ ⟨quiet, found⟩
    refine Ensures.bind ((issueSession_ensures client user.id).weaken ?_ fun _ _ _ => trivial)
    rintro p w' ⟨active, begun⟩
    exact ensures_pure ⟨user, w₁, p, ⟨claims, valid, held, found⟩, active, quiet.clock, begun⟩
  obtain ⟨user, w₁, p, admits, active, later, begun⟩ := needs.runIn.1 _ succeeds
  have last := begun.leaves.clock
  rw [runIn_clock] at last
  have still : w₁.clock = w.clock := Instant.le_antisymm last later
  have serves := begun.serves ((runIn_clock ..).trans still.symm)
  rw [still] at serves
  exact ⟨user, admits, active, serves⟩

theorem replace_succeeds (source : Nat → List UInt8) (active : client.isActive = true)
    (serves : Serves config.tokens user.id client.clientType w.clock w.clock) :
    ∃ p w', (replace config client user).Ends source w (.ok (.pair p)) w' ∧ w'.clock = w.clock ∧
      w'.drawn = w.drawn + 2 := by
  have issues : Ensures source w.clock _ _ (issueSession config client user.id) w :=
    issueSession_succeeds active serves
  obtain ⟨p, w', ends, clock, begun⟩ := issues.ends_ok
  exact ⟨p, w', Session.Ends.passOn Outcome.pair ends, clock, begun.drawn⟩

/-- A refresh that is admitted on an active client succeeds if it is alone. -/
theorem refresh_succeeds (source : Nat → List UInt8) (admits : Admits config client raw w user)
    (active : client.isActive = true)
    (serves : Serves config.tokens user.id client.clientType w.clock w.clock) :
    ∃ p, (((Operation.refresh client raw).program config).runIn source w).1 = .ok (.pair p) := by
  have succeeds : Ensures source w.clock (fun outcome _ => ∃ p, outcome = .pair p) (fun _ _ => False)
      ((Operation.refresh client raw).program config) w := by
    rw [refresh_program]
    refine Ensures.bind ((approve_succeeds admits).weaken ?_ fun _ _ impossible => impossible)
    rintro _ w₁ ⟨rfl, -, clock, -⟩
    rw [← clock] at serves ⊢
    exact Ensures.bind ((issueSession_succeeds active serves).weaken
      (fun p _ _ => ensures_pure ⟨p, rfl⟩) fun _ _ impossible => impossible)
  obtain ⟨reached, refused⟩ := succeeds.runIn
  cases result : (((Operation.refresh client raw).program config).runIn source w).1 with
  | error e => exact (refused e result).elim
  | ok outcome =>
    obtain ⟨p, rfl⟩ := reached outcome result
    exact ⟨p, rfl⟩

/-- A pair that has begun admits a refresh on its client type until it has expired. -/
theorem Begun.admits {w' : World} (client : Client) {userId : String} {p : TokenPair}
    (begun : Begun source config.tokens userId client.clientType w w' p)
    (recent : Instant.epoch ≤ w.clock) (found : w'.directory.findWithRoles userId = some user)
    (early : w'.clock ≤ p.refresh.expiresAt.instant) : Admits config client p.refresh.raw w' user := by
  obtain ⟨genuine, secretSet⟩ := begun.refresh.genuine
  obtain ⟨-, kind, same, type⟩ := begun.refresh.fields
  have valid := genuine.validate secretSet (Int.le_trans recent begun.refresh.le_expiresAt) w'.clock
  rw [if_neg (Instant.not_lt_of_le early)] at valid
  refine ⟨Claims.ofToken p.refresh, valid, ?_, ?_⟩
  · have live := begun.live (by simp) early
    rwa [Token.liveIn, kind, type] at live
  · change w'.directory.findWithRoles p.refresh.userId = some user
    rw [same, found]

end Session

namespace System

variable {config : SessionConfig} {source : Nat → List UInt8} {s : System} {client : Client}
  {raw : String} {user : User}

/-- A refresh that has looked up its user and has not evicted anything. -/
def Waiting (config : SessionConfig) (client : Client) (raw : String) (user : User) (t : Task) : Prop :=
  ∃ past, t = ⟨.refresh client raw, past, (Session.replace config client user).run, none⟩

/-- A refresh that has returned a pair. -/
def Refreshed (client : Client) (raw : String) (t : Task) : Prop :=
  ∃ past p, t = ⟨.refresh client raw, past, .done (.ok (.pair p)), none⟩

/-- One more refresh can get as far as to evict something. -/
private theorem replay?_approve (source : Nat → List UInt8)
    (admits : Session.Admits config client raw s.world user) :
    ∃ events s' task, s.replay? config source events = some s' ∧ s'.tasks = s.tasks ++ [task] ∧
      Waiting config client raw user task ∧ Session.Admits config client raw s'.world user ∧
        s'.world.clock = s.world.clock ∧ s'.world.drawn = s.world.drawn := by
  have approve : Session.Ensures source s.world.clock _ _ (Session.approve config client raw) s.world :=
    Session.approve_succeeds admits
  obtain ⟨_, w, ends, -, rfl, cache, clock, users, drawn⟩ := approve.ends_ok
  let begun : System := { s with tasks := s.tasks ++ [.begin config (.refresh client raw)] }
  have found : begun.tasks[s.tasks.length]? = some (.begin config (.refresh client raw)) :=
    List.getElem?_concat_length
  rw [Task.begin, Session.refresh_program, ExceptT.run_bind] at found
  obtain ⟨events, past, run⟩ := replay?_of_ends found ends
  refine ⟨.start (.refresh client raw) :: events, _, ⟨_, past, _, none⟩, run, ?_, ⟨past, rfl⟩,
    admits.congr cache clock users, clock, drawn⟩
  simp [begun]

/-- Any number of refreshes can get as far as to evict something. -/
private theorem replay?_wait (source : Nat → List UInt8)
    (admits : Session.Admits config client raw s.world user) (n : Nat) :
    ∃ events s' waiting, s.replay? config source events = some s' ∧ s'.tasks = s.tasks ++ waiting ∧
      waiting.length = n ∧ (∀ t ∈ waiting, Waiting config client raw user t) ∧
        s'.world.clock = s.world.clock ∧ s'.world.drawn = s.world.drawn := by
  induction n generalizing s with
  | zero => exact ⟨[], s, [], rfl, by simp, rfl, by simp, rfl, rfl⟩
  | succ n ih =>
    obtain ⟨first, middle, task, admitted, tasks, waits, admits, clock, drawn⟩ :=
      replay?_approve source admits
    obtain ⟨events, s', waiting, run, tasks', length, wait, clock', drawn'⟩ := ih admits
    refine ⟨first ++ events, s', task :: waiting, ?_, ?_, congrArg (· + 1) length, ?_,
      clock'.trans clock, drawn'.trans drawn⟩
    · rw [replay?_append, admitted, Option.bind_some, run]
    · rw [tasks', tasks, List.append_assoc]
      rfl
    · exact List.forall_mem_cons.mpr ⟨waits, wait⟩

/-- Refreshes that have got so far can all return a pair, one after the other. -/
private theorem replay?_finish (source : Nat → List UInt8) {front waiting : List Task} (tasks : s.tasks = front ++ waiting)
    (wait : ∀ t ∈ waiting, Waiting config client raw user t) (active : client.isActive = true)
    (serves : Session.Serves config.tokens user.id client.clientType s.world.clock s.world.clock) :
    ∃ events s' finished, s.replay? config source events = some s' ∧ s'.tasks = front ++ finished ∧
      finished.length = waiting.length ∧ (∀ t ∈ finished, Refreshed client raw t) ∧
        s'.world.clock = s.world.clock ∧ s'.world.drawn = s.world.drawn + 2 * waiting.length := by
  induction waiting generalizing s front with
  | nil => exact ⟨[], s, [], rfl, tasks, rfl, by simp, rfl, rfl⟩
  | cons task waiting ih =>
    obtain ⟨⟨past, rfl⟩, others⟩ := List.forall_mem_cons.mp wait
    have found : s.tasks[front.length]? = some ⟨.refresh client raw, past,
        (Session.replace config client user).run.andThen .done, none⟩ := by
      rw [tasks, Program.andThen_done]
      simp
    obtain ⟨p, w, ends, clock, drawn⟩ := Session.replace_succeeds source active serves
    obtain ⟨first, past', replaced⟩ := replay?_of_ends found ends
    have moved : s.tasks.set front.length ⟨.refresh client raw, past', .done (.ok (.pair p)), none⟩ =
        (front ++ [⟨.refresh client raw, past', .done (.ok (.pair p)), none⟩]) ++ waiting := by
      simp [tasks]
    obtain ⟨events, s', finished, run, tasks', length, all, clock', drawn'⟩ :=
      ih (s := ⟨w, _, s.stray⟩) moved others (by rw [clock]; exact serves)
    refine ⟨first ++ events, s', _ :: finished, ?_, ?_, congrArg (· + 1) length,
      List.forall_mem_cons.mpr ⟨⟨past', p, rfl⟩, all⟩, clock'.trans clock, ?_⟩
    · rw [replay?_append, replaced, Option.bind_some, run]
    · rw [tasks', List.append_assoc]
      rfl
    · rw [drawn', drawn, List.length_cons]
      omega

/-! ## The result -/

/-- The task is a refresh with the raw token that has returned a pair. -/
def Redeemed (s : System) (i : Nat) (client : Client) (raw : String) : Prop :=
  s.operation? i = some (.refresh client raw) ∧ ∃ p, s.result? i = some (.ok (.pair p))

/-- Two tasks that have both redeemed the refresh token of a pair have overlapped since it was
returned. -/
private theorem overlap_of_redeemed {directory : MemoryDirectory} {clock : Instant}
    {events₁ events₂ : List Event} {s₁ s₂ : System} {issuing i j : Nat} {p : TokenPair}
    {client client' : Client} (apart : DrawsApart source s₂.world.drawn)
    (run₁ : (initial directory clock).replay? config source events₁ = some s₁)
    (returned : s₁.result? issuing = some (.ok (.pair p)))
    (run₂ : s₁.replay? config source events₂ = some s₂) (laterI : s₁.tasks.length ≤ i)
    (laterJ : s₁.tasks.length ≤ j) (distinct : i ≠ j) (first : s₂.Redeemed i client p.refresh.raw)
    (second : s₂.Redeemed j client' p.refresh.raw) :
    ∃ past rest middle, events₂ = past ++ rest ∧ s₁.replay? config source past = some middle ∧
      middle.Overlap i j p.refresh := by
  have within : s₁.world.drawn ≤ s₂.world.drawn := drawn_le_of_replay? run₂
  obtain ⟨sound₁, drawn₁⟩ := sound_of_run apart run₁ within
  obtain ⟨past, userId, clientType, issued⟩ := sound₁.returned returned
  obtain ⟨minted, settled⟩ := issued p.refresh (by simp [TokenPair.tokens])
  obtain ⟨sound₂, -⟩ := sound₁.run apart drawn₁ run₂ (Nat.le_refl _)
  have saw {k : Nat} {client : Client} (redeemed : s₂.Redeemed k client p.refresh.raw) :
      s₂.Saw k p.refresh := by
    obtain ⟨operation, q, result⟩ := redeemed
    obtain ⟨task, found, achieved⟩ := sound₂.ended operation result
    have presents : (Operation.refresh client p.refresh.raw).Presents p.refresh.raw := rfl
    exact ⟨task, found, presents.seen achieved minted.genuine minted.secretSet⟩
  have before : ¬(s₁.Saw i p.refresh ∧ s₁.Saw j p.refresh) := by
    rintro ⟨⟨task, found, -⟩, -⟩
    rw [List.getElem?_eq_none laterI] at found
    cases found
  exact overlap_of_run apart sound₁ drawn₁ settled (evicting_length s₁ _) laterI laterJ distinct before
    run₂ (Nat.le_refl _) (saw first) (saw second)

/-- Where one refresh with a raw token would succeed alone, any number of them can succeed together. -/
private theorem redeemed_together
    (succeeds : ∃ p, (((Operation.refresh client raw).program config).runIn source s.world).1 =
      .ok (.pair p)) (n : Nat) :
    ∃ events s', s.replay? config source events = some s' ∧ s'.world.clock = s.world.clock ∧
      s'.world.drawn = s.world.drawn + 2 * n ∧
        ∀ k < n, s'.Redeemed (s.tasks.length + k) client raw := by
  obtain ⟨p, succeeds⟩ := succeeds
  obtain ⟨user, admits, active, serves⟩ := Session.refresh_needs succeeds
  -- First all of them are let through, and then one after the other replaces the tokens.
  obtain ⟨first, middle, waiting, waited, tasks, length, wait, clock, drawn⟩ :=
    replay?_wait source admits n
  rw [← clock] at serves
  obtain ⟨events, s', finished, run, tasks', length', all, clock', drawn'⟩ :=
    replay?_finish source tasks wait active serves
  refine ⟨first ++ events, s', ?_, clock'.trans clock, ?_, fun k less => ?_⟩
  · rw [replay?_append, waited, Option.bind_some, run]
  · rw [drawn', drawn, length]
  · have bound : k < finished.length := by omega
    obtain ⟨past, q, same⟩ := all finished[k] (List.getElem_mem bound)
    have found : s'.tasks[s.tasks.length + k]? =
        some ⟨.refresh client raw, past, .done (.ok (.pair q)), none⟩ := by
      rw [tasks', List.getElem?_append_right (Nat.le_add_right ..), Nat.add_sub_cancel_left,
        List.getElem?_eq_getElem bound, same]
    exact ⟨by simp [operation?, found], q, by simp [result?, found, Task.result?]⟩

/-- Two refreshes redeem the refresh token of a pair that was returned only if they overlap: at some
time both have seen its marker, and neither has evicted it. Whenever one refresh would redeem it
alone, any number of them can do so together. -/
theorem redeemed_once_unless_overlap {directory : MemoryDirectory} {clock : Instant}
    {events₁ : List Event} {s₁ : System} {issuing : Nat} {p : TokenPair}
    (run₁ : (initial directory clock).replay? config source events₁ = some s₁)
    (returned : s₁.result? issuing = some (.ok (.pair p))) :
    (∀ (events₂ : List Event) (s₂ : System) (i j : Nat) (client client' : Client),
      DrawsApart source s₂.world.drawn → s₁.replay? config source events₂ = some s₂ →
      s₁.tasks.length ≤ i → s₁.tasks.length ≤ j → i ≠ j →
      s₂.Redeemed i client p.refresh.raw → s₂.Redeemed j client' p.refresh.raw →
      ∃ past rest middle, events₂ = past ++ rest ∧ s₁.replay? config source past = some middle ∧
        middle.Overlap i j p.refresh) ∧
    ∀ client : Client, (∃ q, (((Operation.refresh client p.refresh.raw).program config).runIn source
        s₁.world).1 = .ok (.pair q)) → ∀ n, ∃ events₂ s₂,
      s₁.replay? config source events₂ = some s₂ ∧ s₂.world.clock = s₁.world.clock ∧
      s₂.world.drawn = s₁.world.drawn + 2 * n ∧
      ∀ k < n, s₂.Redeemed (s₁.tasks.length + k) client p.refresh.raw :=
  ⟨fun _ _ _ _ _ _ apart run₂ laterI laterJ distinct first second =>
    overlap_of_redeemed apart run₁ returned run₂ laterI laterJ distinct first second,
    fun _ succeeds n => redeemed_together succeeds n⟩

/-- Ann signs in, and two refreshes redeem her refresh token. -/
theorem redeemed_once_unless_overlap_twice : ∃ (s₁ s₂ middle : System)
    (events₁ events₂ past rest : List Event) (p : TokenPair),
    (initial (Sample.directory "ann") .epoch).replay? Sample.config Sample.source events₁ = some s₁ ∧
    s₁.result? 0 = some (.ok (.pair p)) ∧
    s₁.replay? Sample.config Sample.source events₂ = some s₂ ∧
    s₂.Redeemed 1 (Sample.client "WEB") p.refresh.raw ∧
    s₂.Redeemed 2 (Sample.client "WEB") p.refresh.raw ∧ events₂ = past ++ rest ∧
    s₁.replay? Sample.config Sample.source past = some middle ∧ middle.Overlap 1 2 p.refresh := by
  obtain ⟨events₁, trace, p, v, w, run₁, clock, quiet, begun⟩ :=
    Sample.signIn "ann" "WEB" (by decide) (by decide)
  let s₁ : System := ⟨w, [⟨.loginAnonymous (Sample.client "WEB") "guest", trace,
    .done (.ok (.pair p)), none⟩], []⟩
  have returned : s₁.result? 0 = some (.ok (.pair p)) := rfl
  have recent : Instant.epoch ≤ v.clock := quiet.clock
  have found : w.directory.findWithRoles "ann" = some (Sample.user "ann") := by
    rw [begun.leaves.findWithRoles, quiet.findWithRoles]
    rfl
  have admits := Session.Begun.admits (Sample.client "WEB") begun recent found
    (by rw [clock]; exact Int.le_trans recent begun.refresh.le_expiresAt)
  have serves : Session.Serves Sample.config.tokens "ann" ⟨"WEB"⟩ w.clock w.clock := by
    rw [clock]
    exact Sample.serves (by decide) (by decide)
  have alone := Session.refresh_succeeds Sample.source admits rfl serves
  obtain ⟨overlap, together⟩ := redeemed_once_unless_overlap run₁ returned
  obtain ⟨events₂, s₂, run₂, -, drawn, redeemed⟩ := together (Sample.client "WEB") alone 2
  have first := redeemed 0 (by decide)
  have second := redeemed 1 (by decide)
  have two : s₁.world.drawn = 2 := begun.drawn.trans (congrArg (· + 2) quiet.still)
  have six : s₂.world.drawn = 6 := drawn.trans (congrArg (· + 2 * 2) two)
  have apart : DrawsApart Sample.source s₂.world.drawn := drawsApart_sample (Nat.le_of_eq six)
  obtain ⟨past, rest, middle, split, reached, overlaps⟩ := overlap events₂ s₂ 1 2 _ _ apart run₂
    (Nat.le_refl 1) (Nat.le_succ 1) (by decide) first second
  exact ⟨s₁, s₂, middle, events₁, events₂, past, rest, p, run₁, returned, run₂, first, second, split,
    reached, overlaps⟩

end System

end BearerAuth
