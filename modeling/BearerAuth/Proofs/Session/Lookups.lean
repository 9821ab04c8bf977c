import BearerAuth.Proofs.Session.Copies
import BearerAuth.Proofs.Session.Effects
import BearerAuth.Proofs.Session.Faults

/-! # Lookups in memory

What an operation has seen and left behind of copies and records, when it runs alone in a world that
stands still and where any of its calls may fail, with its effect or without.
-/

namespace BearerAuth

open BearerAuth.Time

/-- A deletion marks the client with that secret, and no other. -/
theorem MemoryDirectory.findClient_deleteClient (d : MemoryDirectory) (secret other : String)
    (now : Instant) : (d.deleteClient secret now).2.findClient other =
      if other = secret then (d.findClient other).map (·.delete now) else d.findClient other := by
  simp only [deleteClient, findClient]
  cases known : d.clients.get? secret with
  | none =>
    split_ifs with same
    · rw [same, known]
      rfl
    · rfl
  | some client =>
    simp only [Table.get?_insert]
    split_ifs with same
    · rw [same, known]
      rfl
    · rfl

/-- How a call fails in a world. -/
structure Lapse where
  failure : Failure
  /-- The call has had its effect all the same. -/
  landed : Bool

def Lapse.fault (lapse : Lapse) : Fault World :=
  ⟨lapse.failure, fun call w => if lapse.landed then (w.perform call).2 else w⟩

/-- The surroundings in memory, but for lapses at the calls of some numbers. -/
def World.lapsing (source : Nat → List UInt8) (lapses : Nat → Option Lapse) :
    Program.Surroundings (Faulted World) :=
  (World.surroundings source).withFaults fun n => (lapses n).map Lapse.fault

/-- Runs an operation in a world where the calls of some numbers fail. -/
def Session.attemptIn {α : Type} (source : Nat → List UInt8) (lapses : Nat → Option Lapse)
    (x : Session α) (w : World) : Except AuthError α × World :=
  let run := x.attempt (World.surroundings source) (fun n => (lapses n).map Lapse.fault) w
  (run.1, run.2.state)

namespace World

variable {w w' : World} {call : Call} {answer : Except Failure call.Answer}

/-- The call was answered from the world, or has failed, with its effect or without. -/
structure Meets (w : World) (call : Call) (answer : Except Failure call.Answer) (w' : World) : Prop where
  change : w' = w ∨ w' = (w.perform call).2
  told : ∀ a, answer = .ok a → (w.perform call).1 = .ok a ∧ w' = (w.perform call).2

/-- Where calls lapse, every call is answered from the world or fails. -/
theorem meets_lapsing (source : Nat → List UInt8) (lapses : Nat → Option Lapse) (w : Faulted World)
    (call : Call) : w.state.Meets call ((lapsing source lapses).perform call w).1
      ((lapsing source lapses).perform call w).2.state := by
  simp only [lapsing, Program.Surroundings.withFaults]
  cases lapses w.made with
  | none => exact ⟨.inr rfl, fun _ same => ⟨same, rfl⟩⟩
  | some lapse =>
    constructor
    · simp only [Option.map_some, Lapse.fault]
      split
      · exact .inr rfl
      · exact .inl rfl
    · rintro a ⟨⟩

theorem Meets.clock (meets : w.Meets call answer w') : w'.clock = w.clock := by
  rcases meets.change with rfl | rfl
  · rfl
  · exact w.perform_clock call

/-- No call changes a user on record. -/
theorem Meets.users (meets : w.Meets call answer w') : w'.directory.users = w.directory.users := by
  rcases meets.change with rfl | rfl
  · rfl
  cases call with
  | cache call => rfl
  | directory call =>
    have leaves : w.Leaves (fun _ => True) (w.perform (.directory call)).2 := leaves_directory w call
    exact leaves.users

/-- Only a deletion changes a client on record. -/
theorem Meets.clients (meets : w.Meets call answer w')
    (other : ∀ secret now, call ≠ .directory (.deleteClient secret now)) :
    w'.directory.clients = w.directory.clients := by
  rcases meets.change with rfl | rfl
  · rfl
  match call with
  | .cache _ | .directory (.findByEmail _) | .directory (.findWithRoles _)
  | .directory (.findClient _) => rfl
  | .directory (.deleteClient secret now) => exact absurd rfl (other secret now)

/-- No active client with that secret is on record. -/
def Without (w : World) (secret : String) : Prop :=
  ∀ client, w.directory.findClient secret = some client → client.isActive = false

/-- Deleting a client leaves a client deleted that is so, or not on record. -/
theorem without_deleteClient (w : World) {secret : String} (other : String) (now : Instant)
    (without : w.Without secret) :
    Without { w with directory := (w.directory.deleteClient other now).2 } secret := by
  intro client found
  rw [MemoryDirectory.findClient_deleteClient] at found
  split_ifs at found
  · obtain ⟨record, -, rfl⟩ := Option.map_eq_some_iff.mp found
    rfl
  · exact without client found

theorem without_of_deleteClient (w : World) (secret : String) (now : Instant) :
    Without { w with directory := (w.directory.deleteClient secret now).2 } secret := by
  intro client found
  rw [MemoryDirectory.findClient_deleteClient, if_pos rfl] at found
  obtain ⟨record, -, rfl⟩ := Option.map_eq_some_iff.mp found
  rfl

/-- A client that is deleted or not on record stays so whatever is called. -/
theorem Meets.without (meets : w.Meets call answer w') {secret : String} (without : w.Without secret) :
    w'.Without secret := by
  rcases meets.change with rfl | rfl
  · exact without
  match call with
  | .cache _ | .directory (.findByEmail _) | .directory (.findWithRoles _)
  | .directory (.findClient _) => exact without
  | .directory (.deleteClient other now) => exact w.without_deleteClient other now without

end World

/-- The copy that may be made of the account as the directory has it. -/
def Account.copy? (d : MemoryDirectory) : Account → Option (List UInt8)
  | client secret => ((d.findClient secret).filter (·.isActive)).map fun c => Text.utf8 c.toJson.compact
  | user userId => (d.findWithRoles userId).map fun u => Text.utf8 u.toJson.compact

/-! ## Whole runs -/

/-- What each step keeps is so at the end of a program, after steps that reach its goal. -/
theorem Program.Abides.met {α : Type} {rule : Trace → Call → Prop} {goal : Trace → α → Prop}
    (kept : Trace → World → Prop) {source : Nat → List UInt8} (lapses : Nat → Option Lapse)
    (called : ∀ {past w call answer w'}, kept past w → rule past call → w.Meets call answer w' →
      kept (.called call answer :: past) w')
    (read : ∀ {past w}, kept past w → kept (.read w.clock :: past) w)
    (drew : ∀ {past w} bytes, kept past w →
      kept (.drew bytes :: past) { w with drawn := w.drawn + 1 })
    {p : Program α} {past : Trace} {w : Faulted World} (abides : p.Abides rule goal past)
    (before : kept past w.state) :
    ∃ past', goal past' (p.run (World.lapsing source lapses) w).1 ∧
      kept past' (p.run (World.lapsing source lapses) w).2.state := by
  induction p generalizing past w with
  | done a => exact ⟨past, abides, before⟩
  | call c next ih =>
    exact ih _ (abides.2 _) (called before abides.1 (World.meets_lapsing source lapses w c))
  | clock next ih => exact ih _ (abides _) (read before)
  | draw next ih => exact ih _ (abides _) (drew _ before)

namespace World

variable {config : SessionConfig} {w w' w'' : World} {past : Trace}

/-- The entry holds a copy of the account that was there before, or one of its record, kept for its
time. -/
def Offers (config : SessionConfig) (w : World) (a : Account) (entry : CacheEntry) : Prop :=
  w.cache.lookup? a.copyKey = some entry ∨ (a.copy? w.directory = some entry.value ∧
    MemoryCache.expiry w.clock (a.ttl config) = .ok entry.expiresAt)

/-- What the steps of an operation that began in one world tell of it, and of the world they led to. -/
structure Seen (config : SessionConfig) (w : World) (past : Trace) (w' : World) : Prop where
  clock : w'.clock = w.clock
  reads : ∀ now, .read now ∈ past → now = w.clock
  users : w'.directory.users = w.directory.users
  clients : ¬past.Deletes → w'.directory.clients = w.directory.clients
  /-- The directory tells of an account as it was on record in the beginning. -/
  found : ∀ a copy, past.Found a copy → a.copy? w.directory = some copy
  /-- No copy was kept but of such accounts. -/
  entries : ∀ a entry, w'.cache.lookup? a.copyKey = some entry → w.Offers config a entry
  got : ∀ a copy, past.Answered (.cache (.get a.area a.key)) (some copy) →
    ∃ entry, w.Offers config a entry ∧ entry.value = copy ∧ entry.isExpired w.clock = false
  dropped : ∀ a, past.Dropped a → w'.cache.lookup? a.copyKey = none
  deleted : ∀ secret now, past.Answered (.directory (.deleteClient secret now)) true → w'.Without secret
  without : ∀ secret, w.Without secret → w'.Without secret

theorem seen_nil (config : SessionConfig) (w : World) : w.Seen config [] w where
  clock := rfl
  reads now member := nomatch member
  users := rfl
  clients _ := rfl
  found a copy found := by
    cases a with
    | client secret => obtain ⟨client, told, -⟩ := found; cases told
    | user userId => obtain ⟨user, told, -⟩ := found; cases told
  entries a entry found := .inl found
  got a copy got := nomatch got
  dropped a dropped := by obtain ⟨before, same⟩ := dropped; cases same
  deleted secret now answered := nomatch answered
  without _ := id

/-- A step that is no call shows nothing new of accounts. -/
theorem Seen.pass {step : Step} (seen : w.Seen config past w')
    (uncalled : ∀ call answer, step ≠ .called call answer)
    (reads : ∀ now, step = .read now → now = w.clock) : w.Seen config (step :: past) w' := by
  have earlier {call : Call} {answer : Except Failure call.Answer}
      (member : .called call answer ∈ step :: past) : .called call answer ∈ past := by
    rcases List.mem_cons.mp member with same | earlier
    · exact absurd same.symm (uncalled call answer)
    · exact earlier
  constructor
  case clock => exact seen.clock
  case reads =>
    intro now member
    rcases List.mem_cons.mp member with same | earlier
    · exact reads now same.symm
    · exact seen.reads now earlier
  case users => exact seen.users
  case clients =>
    intro kept
    refine seen.clients fun ⟨secret, now, answer, member⟩ => ?_
    exact kept ⟨secret, now, answer, List.mem_cons_of_mem _ member⟩
  case found =>
    rintro (secret | userId) copy ⟨record, told, rest⟩
    · exact seen.found (.client secret) copy ⟨record, earlier told, rest⟩
    · exact seen.found (.user userId) copy ⟨record, earlier told, rest⟩
  case entries => exact seen.entries
  case got => exact fun a copy got => seen.got a copy (earlier got)
  case dropped =>
    rintro a ⟨before, same⟩
    exact absurd (List.cons.inj same).1 (uncalled _ _)
  case deleted => exact fun secret now answered => seen.deleted secret now (earlier answered)
  case without => exact seen.without

/-- What the directory tells of an account before any deletion is what it had on record. -/
theorem Seen.found_called {call : Call} {answer : Except Failure call.Answer}
    (seen : w.Seen config past w') (allowed : past.Copying config call)
    (meets : w'.Meets call answer w'') (a : Account) (copy : List UInt8)
    (found : Trace.Found (.called call answer :: past) a copy) : a.copy? w.directory = some copy := by
  cases a with
  | client secret =>
    obtain ⟨client, told, active, copied⟩ := found
    rcases List.mem_cons.mp told with same | earlier
    · cases same
      have known : w'.directory.clients.get? secret = some client :=
        Except.ok.inj (meets.told (some client) rfl).1
      rw [seen.clients allowed] at known
      rw [copied, Account.copy?, MemoryDirectory.findClient, known, Option.filter, if_pos active]
      rfl
    · exact seen.found (.client secret) copy ⟨client, earlier, active, copied⟩
  | user userId =>
    obtain ⟨user, told, copied⟩ := found
    rcases List.mem_cons.mp told with same | earlier
    · cases same
      have known : w'.directory.users.get? userId = some user :=
        Except.ok.inj (meets.told (some user) rfl).1
      rw [seen.users] at known
      rw [copied, Account.copy?, MemoryDirectory.findWithRoles, known]
      rfl
    · exact seen.found (.user userId) copy ⟨user, earlier, copied⟩

/-- An entry is set with a copy of what the directory has told. -/
theorem Seen.entries_called {call : Call} {answer : Except Failure call.Answer}
    (seen : w.Seen config past w') (allowed : past.Copying config call)
    (meets : w'.Meets call answer w'') (a : Account) (entry : CacheEntry)
    (there : w''.cache.lookup? a.copyKey = some entry) : w.Offers config a entry := by
  rcases meets.change with rfl | rfl
  · exact seen.entries a entry there
  cases call with
  | directory call => exact seen.entries a entry there
  | cache call =>
    rcases MemoryCache.lookup?_perform there with before | ⟨area, key, ttl, rfl, same, fits⟩
    · exact seen.entries a entry before
    rcases allowed with ⟨kind, userId, clientType, rfl⟩ | ⟨b, rfl, rfl, rfl, found⟩
    · exact absurd same.symm (a.copyKey_ne_marker kind userId clientType key)
    · obtain rfl : b = a := Account.copyKey_inj same
      rw [seen.clock] at fits
      exact .inr ⟨seen.found b _ found, fits⟩

/-- What a call keeps of what was seen. -/
theorem Seen.called {call : Call} {answer : Except Failure call.Answer} (seen : w.Seen config past w')
    (allowed : past.Copying config call) (meets : w'.Meets call answer w'') :
    w.Seen config (.called call answer :: past) w'' := by
  constructor
  case clock => exact meets.clock.trans seen.clock
  case reads =>
    rintro now (_ | ⟨_, member⟩)
    exact seen.reads now member
  case users => exact meets.users.trans seen.users
  case clients =>
    -- Deletions are the only calls that change the clients on record.
    intro kept
    have other (secret : String) (now : Instant) : call ≠ .directory (.deleteClient secret now) := by
      rintro rfl
      exact kept ⟨secret, now, answer, List.mem_cons_self ..⟩
    refine (meets.clients other).trans (seen.clients fun ⟨secret, now, answer, member⟩ => ?_)
    exact kept ⟨secret, now, answer, List.mem_cons_of_mem _ member⟩
  case found => exact seen.found_called allowed meets
  case entries => exact seen.entries_called allowed meets
  case got =>
    intro a copy got
    rcases List.mem_cons.mp got with same | earlier
    · cases same
      have read : (w'.cache.get w'.clock a.area a.key).1 = some copy :=
        Except.ok.inj (meets.told (some copy) rfl).1
      obtain ⟨entry, there, holds, live⟩ := MemoryCache.live_of_get read
      rw [seen.clock] at live
      exact ⟨entry, seen.entries a entry there, holds, live⟩
    · exact seen.got a copy earlier
  case dropped =>
    rintro a ⟨before, same⟩
    cases same
    rw [(meets.told _ rfl).2]
    exact (w'.cache.lookup?_evict w'.clock a.area a.key a.copyKey).trans (if_pos rfl)
  case deleted =>
    intro secret now answered
    rcases List.mem_cons.mp answered with same | earlier
    · cases same
      rw [(meets.told _ rfl).2]
      exact w'.without_of_deleteClient secret now
    · exact meets.without (seen.deleted secret now earlier)
  case without => exact fun secret without => meets.without (seen.without secret without)

end World

/-- How an operation ends where calls lapse, and what it has seen and left. -/
theorem Operation.seen (config : SessionConfig) (source : Nat → List UInt8)
    (lapses : Nat → Option Lapse) (operation : Operation) (w : World) :
    let ended := (operation.program config).attemptIn source lapses w
    ∃ past, (∀ outcome, ended.1 = .ok outcome → operation.Tells config past outcome) ∧
      w.Seen config past ended.2 := by
  have abides := (operation.program_copying config).steps
  refine abides.met (w.Seen config) lapses ?_ ?_ ?_ (w := ⟨w, 0, []⟩) (w.seen_nil config)
  · exact fun seen allowed meets => seen.called allowed meets
  · intro past w' seen
    refine seen.pass (fun _ _ => nofun) ?_
    rintro now ⟨⟩
    exact seen.clock
  · intro past w' bytes seen
    have passed : w.Seen config (.drew bytes :: past) w' := seen.pass (fun _ _ => nofun) fun _ => nofun
    exact { passed with }

end BearerAuth
