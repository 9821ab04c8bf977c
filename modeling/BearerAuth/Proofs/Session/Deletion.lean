import BearerAuth.Proofs.Session.Alone
import BearerAuth.Proofs.Session.Lookups
import BearerAuth.Proofs.Session.Revocation

/-! # Deleting a client while others resolve it

A client is looked up by one call and its copy kept by another, and between the two it may be deleted
and its copy evicted. Such a copy is on its way when the deletion returns. It is the only thing by which
a deleted client comes to be resolved: `Cleared` is what holds from the deletion on if there is none.
-/

namespace BearerAuth

open BearerAuth.Time

/-- An active client with that secret is put on record. -/
def Event.Inserts (secret : String) : Event → Prop
  | .record directory => ∃ client, directory.findClient secret = some client ∧ client.isActive = true
  | _ => False

theorem World.without_perform {w : World} {secret : String} (without : w.Without secret) (call : Call) :
    (w.perform call).2.Without secret := by
  have meets : w.Meets call (w.perform call).1 (w.perform call).2 :=
    ⟨.inr rfl, fun _ same => ⟨same, rfl⟩⟩
  exact meets.without without

namespace System

variable {config : SessionConfig} {source : Nat → List UInt8} {s s' : System} {secret : String}
  {n i d : Nat}

/-- Every task abides by the rule for copies. -/
def Copying (config : SessionConfig) (s : System) : Prop :=
  Abiding (Trace.Copying config) (fun operation past o => operation.Tells config past o) s

theorem Copying.turn (copying : Copying config s) (turn : Turn config source s s') : Copying config s' :=
  Abiding.turn (Operation.program_copying config) copying turn

/-- The task has done the operation, and was not refused. -/
def Succeeded (s : System) (i : Nat) (operation : Operation) : Prop :=
  s.operation? i = some operation ∧ ∃ outcome, s.result? i = some (.ok outcome)

theorem succeeded_iff {operation : Operation} : s.Succeeded i operation ↔ ∃ t outcome,
    s.tasks[i]? = some t ∧ t.operation = operation ∧ t.rest = .done (.ok outcome) := by
  constructor
  · rintro ⟨asked, outcome, result⟩
    obtain ⟨t, found, ended⟩ := result?_eq_some result
    exact ⟨t, outcome, found, by simpa [operation?, found] using asked, ended⟩
  · rintro ⟨t, outcome, found, asked, ended⟩
    exact ⟨by simp [operation?, found, asked], outcome, by simp [result?, found, Task.result?, ended]⟩

/-- A call that was answered, and is no eviction key by key, was performed. -/
theorem Answers.performed_ok {t : Task} {call : Call} {answer : call.Answer} {world : World}
    {stray : List Call} (answers : Answers source s t (.called call (.ok answer)) world stray)
    (whole : ∀ area, call ≠ .cache (.evictArea area)) :
    (s.world.perform call).1 = .ok answer ∧ world = (s.world.perform call).2 := by
  generalize same : Step.called call (.ok answer) = step at answers
  cases answers with
  | performed call' idle =>
    obtain rfl : call' = call := by
      injection same with calls
      exact calls.symm
    exact ⟨(eq_of_heq (Step.called.inj same).2).symm, rfl⟩
  | failed call failure => cases same
  | swept area count finished =>
    obtain rfl : call = .cache (.evictArea area) := by injection same
    exact absurd rfl (whole area)
  | read => cases same
  | drew => cases same

/-! ## Copies on their way -/

/-- A copy of the client may still be kept: a task that is not over was told of it, or the call to keep
it was given up. -/
inductive OnItsWay (s : System) (secret : String) : Prop
  | told {i : Nat} {t : Task} {client : Client} (present : s.tasks[i]? = some t)
      (unfinished : ∀ result, t.rest ≠ .done result)
      (told : t.past.Answered (.directory (.findClient secret)) (some client))
      (active : client.isActive = true)
  | given {ttl : Duration} {copy : List UInt8}
      (given : .cache (.set Session.clientArea secret ttl copy) ∈ s.stray)

/-- A task that may still make a step is not over. -/
theorem unfinished_of_next {p rest : Program (Except AuthError Outcome)} {step : Step}
    (next : p.Next step rest) (result : Except AuthError Outcome) : p ≠ .done result := by
  rintro rfl
  cases next

/-- What is set under the key of a copy is a copy of the client, of whom the directory has told. -/
theorem set_copy {past : Trace} {area key : String} {ttl : Duration} {value : List UInt8}
    (allowed : past.Copying config (.cache (.set area key ttl value)))
    (same : cacheKey area key = (Account.client secret).copyKey) :
    area = Session.clientArea ∧ key = secret ∧ past.Found (.client secret) value := by
  rcases allowed with ⟨kind, userId, clientType, rfl⟩ | ⟨a, rfl, rfl, -, found⟩
  · exact absurd same.symm ((Account.client secret).copyKey_ne_marker kind userId clientType key)
  · obtain rfl : a = .client secret := Account.copyKey_inj same
    exact ⟨rfl, rfl, found⟩

/-- A call that was given up and sets something under the key of a copy is one to keep the copy. -/
theorem Copying.given (copying : Copying config s) {area key : String} {ttl : Duration}
    {value : List UInt8} (given : .cache (.set area key ttl value) ∈ s.stray)
    (same : cacheKey area key = (Account.client secret).copyKey) : s.OnItsWay secret := by
  obtain ⟨failure, i, t, found, member⟩ := copying.stray _ given
  obtain ⟨before, -, allowed⟩ := (copying.kept i t found).of_mem member
  obtain ⟨rfl, rfl, -⟩ := set_copy allowed same
  exact .given given

/-- A task that sets something under the key of a copy was told of the client. -/
theorem onItsWay_of_set {t : Task} {area key : String} {ttl : Duration} {value : List UInt8}
    {answer : Except Failure Unit} (present : s.tasks[i]? = some t)
    (unfinished : ∀ result, t.rest ≠ .done result)
    (kept : Trace.Kept (Trace.Copying config) (.called (.cache (.set area key ttl value)) answer :: t.past))
    (same : cacheKey area key = (Account.client secret).copyKey) : s.OnItsWay secret := by
  obtain ⟨-, -, client, told, active, -⟩ := set_copy kept.1 same
  exact .told present unfinished told active

/-! ## Clients that are gone -/

/-- The client is deleted or not on record, no copy of it is kept, and none is on its way. -/
structure Cleared (s : System) (secret : String) : Prop where
  without : s.world.Without secret
  dropped : s.has (Account.client secret).copyKey = false
  still : ¬s.OnItsWay secret

/-- The directory tells of no active client if there is none. -/
theorem not_told {t : Task} {client : Client} {world : World} {stray : List Call}
    (without : s.world.Without secret) (active : client.isActive = true) :
    ¬Answers source s t (.called (.directory (.findClient secret)) (.ok (some client))) world stray := by
  intro answers
  have known := (answers.performed_ok fun _ => nofun).1
  cases active.symm.trans (without client (Except.ok.inj known))

theorem Cleared.turn (cleared : s.Cleared secret) (copying : Copying config s)
    (turn : Turn config source s s') (without : s'.world.Without secret) : s'.Cleared secret := by
  refine ⟨without, ?_, ?_⟩
  · -- Whatever writes a copy, a task or a call that was given up, had it on its way before.
    by_contra there
    rcases turn.has (Bool.of_not_eq_false there) with
      before | ⟨area, k, ttl, value, same, ⟨i, t, t', answer, present, present', unfinished, past⟩ | given⟩
    · cases cleared.dropped.symm.trans before
    · have kept := (copying.turn turn).kept i t' present'
      rw [past] at kept
      exact cleared.still (onItsWay_of_set present unfinished kept same)
    · exact cleared.still (copying.given given same)
  · rintro (⟨present', unfinished', told, active⟩ | @⟨ttl, copy, given⟩)
    · rcases turn.origin present' with
        ⟨-, operation, rfl⟩ | ⟨t, present, -, ⟨past, rest⟩ | ⟨step, next, past, -, answers⟩⟩
      · cases told
      · rw [past] at told
        rw [rest] at unfinished'
        exact cleared.still (.told present unfinished' told active)
      · rw [past] at told
        rcases List.mem_cons.mp told with rfl | earlier
        · exact not_told cleared.without active answers
        · exact cleared.still (.told present (unfinished_of_next next) earlier active)
    · -- Only a call that fails is given up, and its task was told of the client by then.
      have before (earlier : .cache (.set Session.clientArea secret ttl copy) ∈ s.stray) : False :=
        cleared.still (.given earlier)
      cases turn with
      | @stepped i t step rest world stray present next answers =>
        cases answers with
        | failed call failure =>
          rcases List.mem_cons.mp given with rfl | earlier
          · have kept := (copying.abides i t present).kept next (copying.kept i t present)
            exact cleared.still (onItsWay_of_set present (unfinished_of_next next) kept rfl)
          · exact before earlier
        | _ => exact before given
      | landed _ => exact before (List.mem_of_mem_eraseIdx given)
      | _ => exact before given

/-- No task from some number on has read a copy of the client or was told of it. -/
def Unobtained (n : Nat) (secret : String) (s : System) : Prop :=
  ∀ (i : Nat) (t : Task), n ≤ i → s.tasks[i]? = some t → ∀ copy, ¬t.past.Obtained (.client secret) copy

theorem unobtained_length (s : System) (secret : String) : Unobtained s.tasks.length secret s := by
  intro i t later found
  rw [List.getElem?_eq_none later] at found
  cases found

theorem Unobtained.turn (unobtained : Unobtained n secret s) (cleared : s.Cleared secret)
    (turn : Turn config source s s') : Unobtained n secret s' := by
  intro i t' later present' copy obtained
  rcases turn.origin present' with
    ⟨-, operation, rfl⟩ | ⟨t, present, -, ⟨past, -⟩ | ⟨step, -, past, -, answers⟩⟩
  · rcases obtained with read | ⟨client, told, -⟩
    · cases read
    · cases told
  · rw [past] at obtained
    exact unobtained i t later present copy obtained
  · rw [past] at obtained
    rcases obtained with read | ⟨client, told, active, copied⟩
    · rcases List.mem_cons.mp read with rfl | earlier
      · have served := (answers.performed_ok fun _ => nofun).1
        obtain ⟨entry, there, -⟩ := MemoryCache.live_of_get (Except.ok.inj served)
        have kept : s.has (Account.client secret).copyKey = true :=
          Option.isSome_iff_exists.mpr ⟨entry, there⟩
        cases cleared.dropped.symm.trans kept
      · exact unobtained i t later present copy (.inl earlier)
    · rcases List.mem_cons.mp told with rfl | earlier
      · exact not_told cleared.without active answers
      · exact unobtained i t later present copy (.inr ⟨client, earlier, active, copied⟩)

/-! ## From the deletion on -/

/-- A client that is deleted or not on record stays so unless one with its secret is put there. -/
theorem without_of_step? {event : Event} (happens : s.step? config source event = some s')
    (other : ¬event.Inserts secret) (without : s.world.Without secret) : s'.world.Without secret := by
  cases event with
  | start operation => cases happens; exact without
  | advance i =>
    obtain ⟨t, -, happens⟩ := Option.bind_eq_some_iff.mp happens
    dsimp only at happens
    split at happens
    · cases happens; exact World.without_perform without _
    · cases happens; exact without
    · cases happens; exact without
    · cases happens
  | fail i failure =>
    obtain ⟨t, -, happens⟩ := Option.bind_eq_some_iff.mp happens
    dsimp only at happens
    split at happens <;> cases happens
    exact without
  | sweep i =>
    obtain ⟨t, -, happens⟩ := Option.bind_eq_some_iff.mp happens
    split at happens <;> cases happens
    exact without
  | gone i key =>
    obtain ⟨t, -, happens⟩ := Option.bind_eq_some_iff.mp happens
    split_ifs at happens
    cases happens
    exact without
  | swept i count =>
    obtain ⟨t, -, happens⟩ := Option.bind_eq_some_iff.mp happens
    dsimp only at happens
    split at happens <;> cases happens
    exact without
  | land n =>
    obtain ⟨call, -, happens⟩ := Option.bind_eq_some_iff.mp happens
    cases happens
    exact World.without_perform without call
  | lose key => cases happens; exact without
  | tick now => cases happens; exact without
  | record directory =>
    cases happens
    intro client found
    by_contra active
    exact other ⟨client, found, Bool.of_not_eq_false active⟩

/-- A deletion that a task from some number on was told of has left no active client. -/
def Deleted (n : Nat) (secret : String) (s : System) : Prop :=
  ∀ (i : Nat) (t : Task) (now : Instant), n ≤ i → s.tasks[i]? = some t →
    t.past.Answered (.directory (.deleteClient secret now)) true → s.world.Without secret

theorem deleted_length (s : System) (secret : String) : Deleted s.tasks.length secret s := by
  intro i t now later found
  rw [List.getElem?_eq_none later] at found
  cases found

theorem Deleted.step {event : Event} (deleted : Deleted n secret s)
    (happens : s.step? config source event = some s') (other : ¬event.Inserts secret) :
    Deleted n secret s' := by
  intro i t' now later present' told
  rcases (turn_of_step? happens).origin present' with
    ⟨-, operation, rfl⟩ | ⟨t, present, -, ⟨past, -⟩ | ⟨step, -, past, -, answers⟩⟩
  · cases told
  · rw [past] at told
    exact without_of_step? happens other (deleted i t now later present told)
  · rw [past] at told
    rcases List.mem_cons.mp told with rfl | earlier
    · rw [(answers.performed_ok fun _ => nofun).2]
      exact s.world.without_of_deleteClient secret now
    · exact without_of_step? happens other (deleted i t now later present earlier)

/-- When the deletion returns, the copy is dropped. -/
theorem cleared_of_turn (copying : Copying config s) (turn : Turn config source s s')
    (deleted : Deleted n secret s') (later : n ≤ d)
    (pending : ¬s.Succeeded d (.deleteClient secret)) (finished : s'.Succeeded d (.deleteClient secret))
    (still : ¬s'.OnItsWay secret) : s'.Cleared secret := by
  obtain ⟨t', outcome, present', asked, ended⟩ := succeeded_iff.mp finished
  have tells := (copying.turn turn).reached present' ended
  rw [asked] at tells
  obtain ⟨⟨before, dropped⟩, now, told⟩ := tells
  refine ⟨deleted d t' now later present' told, ?_, still⟩
  -- The turn at which the deletion ends is its last call's, which evicted the copy.
  rcases turn.origin present' with
    ⟨-, operation, rfl⟩ | ⟨t, present, same, ⟨past, rest⟩ | ⟨step, -, past, -, answers⟩⟩
  · cases dropped
  · exact absurd (succeeded_iff.mpr ⟨t, outcome, present, same.symm.trans asked, rest ▸ ended⟩) pending
  · obtain ⟨rfl, -⟩ := List.cons.inj (past.symm.trans dropped)
    have evicted := (answers.performed_ok fun _ => nofun).2
    have gone := s.world.cache.lookup?_evict s.world.clock Session.clientArea secret
      (Account.client secret).copyKey
    have own : (Account.client secret).copyKey = cacheKey Session.clientArea secret := rfl
    rw [if_pos own] at gone
    rw [has, evicted]
    exact congrArg Option.isSome gone

/-- A client that is cleared is not resolved by tasks that start from then on. -/
theorem Cleared.run {events : List Event} (copying : Copying config s) (cleared : s.Cleared secret)
    (unobtained : Unobtained n secret s) (run : s.replay? config source events = some s')
    (other : ∀ event ∈ events, ¬event.Inserts secret) :
    Copying config s' ∧ s'.Cleared secret ∧ Unobtained n secret s' := by
  induction events generalizing s with
  | nil =>
    cases run
    exact ⟨copying, cleared, unobtained⟩
  | cons event events ih =>
    obtain ⟨next, happens, onward⟩ := Option.bind_eq_some_iff.mp run
    obtain ⟨now, others⟩ := List.forall_mem_cons.mp other
    have turn := turn_of_step? happens
    exact ih (copying.turn turn) (cleared.turn copying turn (without_of_step? happens now cleared.without))
      (unobtained.turn cleared turn) onward others

/-- When a deletion has returned, its client is cleared unless a copy was on its way then. -/
private theorem cleared_or_on_its_way {events : List Event} (copying : Copying config s)
    (deleted : Deleted n secret s) (later : n ≤ d) (pending : ¬s.Succeeded d (.deleteClient secret))
    (run : s.replay? config source events = some s') (other : ∀ event ∈ events, ¬event.Inserts secret)
    (finished : s'.Succeeded d (.deleteClient secret)) :
    Copying config s' ∧ s'.Cleared secret ∨ ∃ past rest middle, events = past ++ rest ∧
      s.replay? config source past = some middle ∧ middle.Succeeded d (.deleteClient secret) ∧
        middle.OnItsWay secret := by
  induction events generalizing s with
  | nil =>
    cases run
    exact absurd finished pending
  | cons event events ih =>
    obtain ⟨next, happens, onward⟩ := Option.bind_eq_some_iff.mp run
    obtain ⟨now, others⟩ := List.forall_mem_cons.mp other
    have turn := turn_of_step? happens
    have deleted' := deleted.step happens now
    -- At the turn by which the deletion has returned, a copy is on its way or the client is cleared for good.
    by_cases returned : next.Succeeded d (.deleteClient secret)
    · by_cases still : next.OnItsWay secret
      · have single : s.replay? config source [event] = some next := by
          simp only [replay?, happens, Option.bind_some]
        exact .inr ⟨[event], events, next, rfl, single, returned, still⟩
      · have cleared := cleared_of_turn copying turn deleted' later pending returned still
        obtain ⟨copying', cleared', -⟩ :=
          cleared.run (copying.turn turn) (unobtained_length next secret) onward others
        exact .inl ⟨copying', cleared'⟩
    · rcases ih (copying.turn turn) deleted' returned onward others with
        cleared | ⟨past, rest, middle, split, reached, overtaken⟩
      · exact .inl cleared
      · refine .inr ⟨event :: past, rest, middle, congrArg (event :: ·) split, ?_, overtaken⟩
        simp only [replay?, happens, Option.bind_some, reached]

/-- A client is resolved after its deletion has returned only if a copy of it was on its way by then. -/
theorem on_its_way_of_resolved {directory : MemoryDirectory} {clock : Instant}
    {events₁ events₂ events₃ : List Event} {s₁ s₂ s₃ : System} {d r : Nat}
    (run₁ : (initial directory clock).replay? config source events₁ = some s₁)
    (run₂ : s₁.replay? config source events₂ = some s₂) (after₁ : s₁.tasks.length ≤ d)
    (deleted : s₂.Succeeded d (.deleteClient secret))
    (run₃ : s₂.replay? config source events₃ = some s₃) (after₂ : s₂.tasks.length ≤ r)
    (resolved : s₃.Succeeded r (.resolveClient secret))
    (other : ∀ event ∈ events₂ ++ events₃, ¬event.Inserts secret) :
    ∃ past rest middle, events₂ = past ++ rest ∧ s₁.replay? config source past = some middle ∧
      middle.Succeeded d (.deleteClient secret) ∧ middle.OnItsWay secret := by
  have copying₁ : Copying config s₁ := replay?_preserves (Copying config)
    (fun _ _ _ copying happens => copying.turn (turn_of_step? happens)) (abiding_initial directory clock)
    run₁
  have pending : ¬s₁.Succeeded d (.deleteClient secret) := by
    intro finished
    obtain ⟨t, -, found, -⟩ := succeeded_iff.mp finished
    rw [List.getElem?_eq_none after₁] at found
    cases found
  obtain ⟨other₂, other₃⟩ := List.forall_mem_append.mp other
  rcases cleared_or_on_its_way copying₁ (deleted_length s₁ secret) after₁ pending run₂ other₂ deleted with
    ⟨copying₂, cleared⟩ | overtaken
  · obtain ⟨copying₃, -, unobtained⟩ := cleared.run copying₂ (unobtained_length s₂ secret) run₃ other₃
    obtain ⟨t, outcome, found, asked, ended⟩ := succeeded_iff.mp resolved
    have tells := copying₃.reached found ended
    rw [asked] at tells
    obtain ⟨client, -, -, copy, obtained, -⟩ := tells
    exact absurd obtained (unobtained r t after₂ found copy)
  · exact overtaken

end System

end BearerAuth
