import BearerAuth.Proofs.Session.Deletion

/-! # A deletion that is overtaken

`Program.Leads` takes a program some steps on while nothing else happens, so that the steps of several
operations can be put in order by hand. A resolution that was told of a client, its deletion, and then
the rest of the resolution leave a copy that the next resolution reads.
-/

namespace BearerAuth

open BearerAuth.Time

variable {α β : Type} {config : SessionConfig} {source : Nat → List UInt8} {secret : String}
  {client : Client} {w w' w'' : World}

namespace Program

/-- The steps of a program alone lead from one to the other while time stands still. -/
inductive Leads : Program α → World → Program α → World → Prop
  | here (p : Program α) (w : World) : Leads p w p w
  | call {c : Call} {next : Except Failure c.Answer → Program α} {w w' w'' : World}
      {answer : Except Failure c.Answer} {q : Program α} (answered : w.perform c = (answer, w'))
      (rest : Leads (next answer) w' q w'') : Leads (.call c next) w q w''
  | clock {next : Instant → Program α} {w w' : World} {q : Program α}
      (rest : Leads (next w.clock) w q w') : Leads (.clock next) w q w'

theorem Leads.andThen {p : Program α} {a : α} {f : α → Program β} {q : Program β}
    (first : Leads p w (.done a) w') (rest : Leads (f a) w' q w'') : Leads (p.andThen f) w q w'' := by
  generalize ended : Program.done a = e at first
  induction first with
  | here p w => subst ended; exact rest
  | call answered _ ih => exact .call answered (ih rest ended)
  | clock _ ih => exact .clock (ih rest ended)

end Program

/-! ## One operation at a time -/

namespace Session

/-- What is left of a resolution that has been told of the client. -/
def saving (config : SessionConfig) (secret : String) (client : Client) : Session Outcome := do
  keepCopy config "client cache write" clientArea secret config.clientCacheTtl client.toJson
  return .client client

theorem leads_bind {x : Session α} {a : α} {f : α → Session β} {y : Session β}
    (first : x.run.Leads w (.done (.ok a)) w') (rest : (f a).run.Leads w' y.run w'') :
    (x >>= f).run.Leads w y.run w'' := first.andThen rest

/-- If no copy can be read, the directory is asked. -/
theorem resolveClient_told (config : SessionConfig) (named : secret.isEmpty = false)
    (missed : (w.cache.get w.clock clientArea secret).1 = none)
    (found : w.directory.findClient secret = some client) (active : client.isActive = true) :
    ((Operation.resolveClient secret).program config).run.Leads w (saving config secret client).run
      ⟨(w.cache.get w.clock clientArea secret).2, w.directory.lookedUp, w.clock, w.drawn⟩ := by
  have read : w.perform (.cache (.get clientArea secret)) =
      (.ok (none : Option (List UInt8)),
        { w with cache := (w.cache.get w.clock clientArea secret).2 }) := by
    rw [← missed]
    rfl
  have told : World.perform { w with cache := (w.cache.get w.clock clientArea secret).2 }
      (.directory (.findClient secret)) = (.ok (some client),
        ⟨(w.cache.get w.clock clientArea secret).2, w.directory.lookedUp, w.clock, w.drawn⟩) := by
    rw [← found]
    rfl
  simp only [Operation.program, resolveClient, named, Bool.false_eq_true, if_false, bind_assoc]
  refine leads_bind (.call read (.here _ _)) ?_
  simp only [bind_assoc]
  refine leads_bind (.call told (.here _ _)) ?_
  simp only [active, Bool.not_true, Bool.false_eq_true, if_false, bind_assoc, pure_bind]
  exact .here _ _

/-- A copy that can be read is all that is looked at. -/
theorem resolveClient_kept (config : SessionConfig) {copy : List UInt8} (named : secret.isEmpty = false)
    (active : client.isActive = true) (decoded : decodeCached Client.reader copy = .ok client)
    (kept : (w.cache.get w.clock clientArea secret).1 = some copy) :
    ((Operation.resolveClient secret).program config).run.Leads w (.done (.ok (.client client)))
      { w with cache := (w.cache.get w.clock clientArea secret).2 } := by
  have read : w.perform (.cache (.get clientArea secret)) =
      (.ok (some copy : Option (List UInt8)),
        { w with cache := (w.cache.get w.clock clientArea secret).2 }) := by
    rw [← kept]
    rfl
  simp only [Operation.program, resolveClient, readCached, named, Bool.false_eq_true, if_false,
    bind_assoc]
  refine leads_bind (.call read (.here _ _)) ?_
  simp only [decoded, active, pure_bind, if_true]
  exact .here _ _

theorem deleteClient_leads (config : SessionConfig) (named : secret.isEmpty = false)
    (found : w.directory.findClient secret = some client) :
    ((Operation.deleteClient secret).program config).run.Leads w (.done (.ok .finished))
      ((w.perform (.directory (.deleteClient secret w.clock))).2.perform
        (.cache (.evict clientArea secret))).2 := by
  have deleted : (w.perform (.directory (.deleteClient secret w.clock))).1 = .ok true := by
    have known : w.directory.clients.get? secret = some client := found
    simp [World.perform, MemoryDirectory.perform, MemoryDirectory.deleteClient, known]
  simp only [Operation.program, deleteClient, named]
  exact .clock (.call (Prod.ext deleted rfl) (.call rfl (.here _ _)))

/-- The copy is kept until its time is over. -/
theorem saving_leads (secret : String) {copy : List UInt8} {expiresAt : Instant}
    (copied : Text.utf8 client.toJson.compact = copy)
    (fits : MemoryCache.expiry w.clock config.clientCacheTtl = .ok expiresAt) :
    (saving config secret client).run.Leads w (.done (.ok (.client client)))
      { w with cache := ⟨w.cache.entries.insert (cacheKey clientArea secret) ⟨copy, expiresAt⟩⟩ } := by
  have kept : w.perform (.cache (.setJson clientArea secret config.clientCacheTtl client.toJson)) =
      (.ok (), { w with
        cache := ⟨w.cache.entries.insert (cacheKey clientArea secret) ⟨copy, expiresAt⟩⟩ }) := by
    simp only [World.perform, CacheCall.setJson, MemoryCache.perform_set, fits, copied]
    rfl
  exact .call kept (.here _ _)

end Session

/-! ## Operations among others -/

/-- Nothing happens but that an operation is started or the next step of a task is answered. -/
def Event.IsPlain : Event → Prop
  | .start _ | .advance _ => True
  | _ => False

theorem Event.IsPlain.not_inserts {event : Event} (plain : event.IsPlain) : ¬event.Inserts secret := by
  cases event with
  | record directory => cases plain
  | _ => exact id

namespace System

variable {s s' : System} {i : Nat}

/-- One leads to the other, and nothing else happens than that operations do their steps. -/
def Comes (config : SessionConfig) (source : Nat → List UInt8) (s s' : System) : Prop :=
  ∃ events, (∀ event ∈ events, event.IsPlain) ∧ s.replay? config source events = some s'

theorem comes_refl (config : SessionConfig) (source : Nat → List UInt8) (s : System) :
    s.Comes config source s := ⟨[], List.forall_mem_nil _, rfl⟩

theorem comes_of_step? (event : Event) (plain : event.IsPlain)
    (happens : s.step? config source event = some s') : s.Comes config source s' :=
  ⟨[event], List.forall_mem_singleton.mpr plain, by rw [replay?, happens, Option.bind_some, replay?]⟩

theorem Comes.trans {middle : System} (first : s.Comes config source middle)
    (second : middle.Comes config source s') : s.Comes config source s' := by
  obtain ⟨events, plain, run⟩ := first
  obtain ⟨events', plain', run'⟩ := second
  exact ⟨events ++ events', List.forall_mem_append.mpr ⟨plain, plain'⟩,
    by rw [replay?_append, run, Option.bind_some, run']⟩

/-- A task takes the steps that its program leads to. -/
theorem comes_of_leads (config : SessionConfig) (source : Nat → List UInt8) {operation : Operation}
    {past : Trace} {p q : Program (Except AuthError Outcome)}
    (found : s.tasks[i]? = some ⟨operation, past, p, none⟩) (leads : p.Leads s.world q w') :
    ∃ past', s.Comes config source ⟨w', s.tasks.set i ⟨operation, past', q, none⟩, s.stray⟩ := by
  generalize start : s.world = w at leads
  induction leads generalizing s past with
  | here p w =>
    subst start
    obtain ⟨bound, same⟩ := List.getElem?_eq_some_iff.mp found
    have unchanged : s.tasks.set i ⟨operation, past, p, none⟩ = s.tasks := by
      rw [← same, List.set_getElem_self]
    refine ⟨past, ?_⟩
    rw [unchanged]
    exact comes_refl config source s
  | @call c next w w₁ w' answer q answered rest ih =>
    subst start
    have step : s.step? config source (.advance i) = some ⟨w₁,
        s.tasks.set i ⟨operation, .called c answer :: past, next answer, none⟩, s.stray⟩ := by
      simp only [step?, found]
      change some (System.mk (s.world.perform c).2 (s.tasks.set i ⟨operation,
        .called c (s.world.perform c).1 :: past, next (s.world.perform c).1, none⟩) s.stray) = _
      rw [answered]
    obtain ⟨past', onward⟩ := ih (s := ⟨w₁, _, s.stray⟩) (getElem?_set_of_found found) rfl
    rw [List.set_set] at onward
    exact ⟨past', (comes_of_step? (.advance i) trivial step).trans onward⟩
  | @clock next w w' q rest ih =>
    subst start
    have step : s.step? config source (.advance i) = some ⟨s.world,
        s.tasks.set i ⟨operation, .read s.world.clock :: past, next s.world.clock, none⟩, s.stray⟩ := by
      simp only [step?, found]
      rfl
    obtain ⟨past', onward⟩ := ih (s := ⟨s.world, _, s.stray⟩) (getElem?_set_of_found found) rfl
    rw [List.set_set] at onward
    exact ⟨past', (comes_of_step? (.advance i) trivial step).trans onward⟩

/-- An operation is started, and takes the steps that its program leads to. -/
theorem comes_of_begin (source : Nat → List UInt8) {operation : Operation}
    {q : Program (Except AuthError Outcome)}
    (leads : (operation.program config).run.Leads s.world q w') :
    ∃ past, s.Comes config source ⟨w', s.tasks ++ [⟨operation, past, q, none⟩], s.stray⟩ := by
  let begun : System := { s with tasks := s.tasks ++ [.begin config operation] }
  have found : begun.tasks[s.tasks.length]? = some (.begin config operation) :=
    List.getElem?_concat_length
  obtain ⟨past, onward⟩ := comes_of_leads config source found leads
  have set : begun.tasks.set s.tasks.length ⟨operation, past, q, none⟩ =
      s.tasks ++ [⟨operation, past, q, none⟩] := by simp [begun]
  rw [set] at onward
  exact ⟨past, (comes_of_step? (.start operation) trivial rfl).trans onward⟩

/-- The operation that was started last has succeeded. -/
theorem succeeded_last (world : World) (tasks : List Task) (stray : List Call) (operation : Operation)
    (past : Trace) (outcome : Outcome) :
    Succeeded ⟨world, tasks ++ [⟨operation, past, .done (.ok outcome), none⟩], stray⟩ tasks.length
      operation :=
  succeeded_iff.mpr ⟨_, outcome, List.getElem?_concat_length, rfl, rfl⟩

/-- A task that was told of an active client and has not kept its copy. -/
def Saving (config : SessionConfig) (secret : String) (client : Client) (t : Task) : Prop :=
  ∃ past, t = ⟨.resolveClient secret, past, (Session.saving config secret client).run, none⟩

/-- An active client of whom no copy is kept can be deleted while a copy is on its way. -/
private theorem deleted_while_saving (config : SessionConfig) (source : Nat → List UInt8)
    (named : secret.isEmpty = false) (found : s.world.directory.findClient secret = some client)
    (active : client.isActive = true)
    (missed : (s.world.cache.get s.world.clock Session.clientArea secret).1 = none) :
    ∃ s' saving deleting, s.Comes config source s' ∧ s'.world.clock = s.world.clock ∧
      s'.tasks = s.tasks ++ [saving, deleting] ∧ Saving config secret client saving ∧
      s'.Succeeded (s.tasks.length + 1) (.deleteClient secret) := by
  -- The resolution stops between the lookup and keeping the copy; then the deletion runs as a whole.
  obtain ⟨past₁, first⟩ :=
    comes_of_begin source (Session.resolveClient_told config named missed found active)
  let saving : Task := ⟨.resolveClient secret, past₁, (Session.saving config secret client).run, none⟩
  let middle : System := ⟨⟨(s.world.cache.get s.world.clock Session.clientArea secret).2,
    s.world.directory.lookedUp, s.world.clock, s.world.drawn⟩, s.tasks ++ [saving], s.stray⟩
  have found' : middle.world.directory.findClient secret = some client := found
  obtain ⟨past₂, second⟩ := comes_of_begin source (Session.deleteClient_leads config named found')
  let deleting : Task := ⟨.deleteClient secret, past₂, .done (.ok .finished), none⟩
  have tasks : middle.tasks ++ [deleting] = s.tasks ++ [saving, deleting] := by simp [middle]
  have last : middle.tasks.length = s.tasks.length + 1 := by simp [middle]
  refine ⟨_, saving, deleting, first.trans second, rfl, tasks, ⟨past₁, rfl⟩, ?_⟩
  rw [← last]
  exact succeeded_last ..

/-- A copy that is on its way arrives, and is read. -/
private theorem resolved_of_saving {expiresAt : Instant} {t : Task} (source : Nat → List UInt8)
    (present : s.tasks[i]? = some t) (saving : Saving config secret client t)
    (named : secret.isEmpty = false) (active : client.isActive = true)
    (fits : MemoryCache.expiry s.world.clock config.clientCacheTtl = .ok expiresAt) :
    ∃ s' r, s.Comes config source s' ∧ s.tasks.length ≤ r ∧ s'.Succeeded r (.resolveClient secret) := by
  obtain ⟨past, rfl⟩ := saving
  have decoded := client.decodeCached_toJson
  generalize copied : Text.utf8 client.toJson.compact = copy at decoded
  obtain ⟨past', first⟩ :=
    comes_of_leads config source present (Session.saving_leads secret copied fits)
  let middle : System := ⟨{ s.world with
      cache := ⟨s.world.cache.entries.insert (cacheKey Session.clientArea secret) ⟨copy, expiresAt⟩⟩ },
    s.tasks.set i ⟨.resolveClient secret, past', .done (.ok (.client client)), none⟩, s.stray⟩
  have there : middle.world.cache.lookup? (cacheKey Session.clientArea secret) =
      some ⟨copy, expiresAt⟩ := (s.world.cache.entries.get?_insert ..).trans (if_pos rfl)
  -- Time stands still, so what was kept just now has not expired.
  have live : CacheEntry.isExpired ⟨copy, expiresAt⟩ middle.world.clock = false := by
    obtain ⟨-, expiry⟩ := MemoryCache.expiry_eq_ok_iff.mp fits
    refine decide_eq_false (Int.not_lt.mpr ?_)
    change s.world.clock.nanos ≤ expiresAt.nanos
    omega
  have kept := MemoryCache.get_of_live there live
  obtain ⟨past'', second⟩ :=
    comes_of_begin source (Session.resolveClient_kept config named active decoded kept)
  have onward : s.tasks.length ≤ middle.tasks.length := by simp [middle]
  exact ⟨_, middle.tasks.length, first.trans second, onward, succeeded_last ..⟩

/-- An active client of whom no copy is kept can be resolved after its deletion has returned. -/
private theorem resolved_after_deletion {expiresAt : Instant} (source : Nat → List UInt8)
    (named : secret.isEmpty = false) (found : s.world.directory.findClient secret = some client)
    (active : client.isActive = true)
    (missed : (s.world.cache.get s.world.clock Session.clientArea secret).1 = none)
    (fits : MemoryCache.expiry s.world.clock config.clientCacheTtl = .ok expiresAt) :
    ∃ s₂ s₃ d r, s.Comes config source s₂ ∧ s.tasks.length ≤ d ∧
      s₂.Succeeded d (.deleteClient secret) ∧ s₂.Comes config source s₃ ∧ s₂.tasks.length ≤ r ∧
      s₃.Succeeded r (.resolveClient secret) := by
  obtain ⟨s₂, saving, deleting, first, clock, tasks, waits, deleted⟩ :=
    deleted_while_saving config source named found active missed
  have present : s₂.tasks[s.tasks.length]? = some saving := by simp [tasks]
  rw [← clock] at fits
  obtain ⟨s₃, r, second, after, resolved⟩ := resolved_of_saving source present waits named active fits
  exact ⟨s₂, s₃, _, r, first, Nat.le_succ _, deleted, second, after, resolved⟩

/-- A client can be resolved after its deletion has returned only if a copy of it was on its way by
then, so long as no other is put on record. Where an active client is on record and no copy of it is
kept, that may come about though no call fails. -/
theorem gone_unless_on_its_way {directory : MemoryDirectory} {clock : Instant} {events₁ : List Event}
    {s₁ : System} (run₁ : (initial directory clock).replay? config source events₁ = some s₁)
    (secret : String) :
    (∀ (events₂ events₃ : List Event) (s₂ s₃ : System) (d r : Nat),
      s₁.replay? config source events₂ = some s₂ → s₁.tasks.length ≤ d →
      s₂.Succeeded d (.deleteClient secret) → s₂.replay? config source events₃ = some s₃ →
      s₂.tasks.length ≤ r → s₃.Succeeded r (.resolveClient secret) →
      (∀ event ∈ events₂ ++ events₃, ¬event.Inserts secret) →
      ∃ past rest middle, events₂ = past ++ rest ∧ s₁.replay? config source past = some middle ∧
        middle.Succeeded d (.deleteClient secret) ∧ middle.OnItsWay secret) ∧
    ∀ (client : Client) (expiresAt : Instant), secret.isEmpty = false →
      s₁.world.directory.findClient secret = some client → client.isActive = true →
      (s₁.world.cache.get s₁.world.clock Session.clientArea secret).1 = none →
      MemoryCache.expiry s₁.world.clock config.clientCacheTtl = .ok expiresAt →
      ∃ s₂ s₃ d r, s₁.Comes config source s₂ ∧ s₁.tasks.length ≤ d ∧
        s₂.Succeeded d (.deleteClient secret) ∧ s₂.Comes config source s₃ ∧ s₂.tasks.length ≤ r ∧
        s₃.Succeeded r (.resolveClient secret) :=
  ⟨fun _ _ _ _ _ _ run₂ after₁ deleted run₃ after₂ resolved other =>
    on_its_way_of_resolved run₁ run₂ after₁ deleted run₃ after₂ resolved other,
    fun _ _ named found active missed fits =>
      resolved_after_deletion source named found active missed fits⟩

/-- A client is deleted while it is looked up, and resolved afterwards. -/
theorem gone_unless_on_its_way_overtaken : ∃ (s₁ s₂ s₃ middle : System)
    (events₂ events₃ past rest : List Event) (d r : Nat),
    s₁ = initial (MemoryDirectory.empty.insertClient (Sample.client "WEB")) .epoch ∧
    (∀ event ∈ events₂ ++ events₃, event.IsPlain) ∧
    s₁.replay? Sample.config Sample.source events₂ = some s₂ ∧ s₂.Succeeded d (.deleteClient "key") ∧
    s₂.replay? Sample.config Sample.source events₃ = some s₃ ∧ s₂.tasks.length ≤ r ∧
    s₃.Succeeded r (.resolveClient "key") ∧ events₂ = past ++ rest ∧
    s₁.replay? Sample.config Sample.source past = some middle ∧
    middle.Succeeded d (.deleteClient "key") ∧ middle.OnItsWay "key" := by
  let s₁ := initial (MemoryDirectory.empty.insertClient (Sample.client "WEB")) .epoch
  have run₁ : s₁.replay? Sample.config Sample.source [] = some s₁ := rfl
  have found : s₁.world.directory.findClient "key" = some (Sample.client "WEB") := by decide +kernel
  have missed : (s₁.world.cache.get s₁.world.clock Session.clientArea "key").1 = none := rfl
  have fits : MemoryCache.expiry s₁.world.clock Sample.config.clientCacheTtl =
      .ok ⟨3600000000000, by decide⟩ := rfl
  obtain ⟨only, overtaken⟩ := gone_unless_on_its_way run₁ "key"
  obtain ⟨s₂, s₃, d, r, ⟨events₂, plain₂, run₂⟩, after₁, deleted, ⟨events₃, plain₃, run₃⟩, after₂,
    resolved⟩ := overtaken (Sample.client "WEB") _ (by decide) found rfl missed fits
  have plain : ∀ event ∈ events₂ ++ events₃, event.IsPlain :=
    List.forall_mem_append.mpr ⟨plain₂, plain₃⟩
  obtain ⟨past, rest, middle, split, reached, finished, onItsWay⟩ := only events₂ events₃ s₂ s₃ d r run₂
    after₁ deleted run₃ after₂ resolved fun event member => (plain event member).not_inserts
  exact ⟨s₁, s₂, s₃, middle, events₂, events₃, past, rest, d, r, rfl, plain, run₂, deleted, run₃, after₂,
    resolved, split, reached, finished, onItsWay⟩

end System

end BearerAuth
