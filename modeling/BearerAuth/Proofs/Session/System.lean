import BearerAuth.Proofs.Cache.Entries
import BearerAuth.Proofs.Session.Operation
import BearerAuth.Session.World

/-! # Many operations at once

Operations are interleaved call by call over one world. A call may fail or be given up, and then
take effect later or never; the clock may be set to anything, keys may get lost, and records may
change in between. An area may be evicted all at once or key by key; all that is known of the latter
is that every key which is there all the time is deleted before the answer comes.
-/

namespace BearerAuth

open BearerAuth.Time

/-- An operation that was started: the steps it has taken, and what is left of it. -/
structure Task where
  operation : Operation
  past : Trace
  rest : Program (Except AuthError Outcome)
  /-- While it evicts an area key by key: the keys that were there and are not known to be gone. -/
  sweeping : Option (List String)

namespace Task

def begin (config : SessionConfig) (operation : Operation) : Task :=
  ⟨operation, [], (operation.program config).run, none⟩

/-- The task after one more step. -/
def after (t : Task) (step : Step) (rest : Program (Except AuthError Outcome)) : Task :=
  ⟨t.operation, step :: t.past, rest, none⟩

/-- What the operation resulted in, if it is over. -/
def result? (t : Task) : Option (Except AuthError Outcome) :=
  match t.rest with
  | .done result => some result
  | _ => none

end Task

/-- What may happen next. -/
inductive Event where
  /-- A caller starts an operation. -/
  | start (operation : Operation)
  /-- The next step of a task is answered. -/
  | advance (task : Nat)
  /-- The next call of a task fails or is given up. -/
  | fail (task : Nat) (failure : Failure)
  /-- A task begins to evict an area key by key. -/
  | sweep (task : Nat)
  /-- A key that a task has to evict is gone. -/
  | gone (task : Nat) (key : String)
  /-- An eviction key by key is answered. -/
  | swept (task : Nat) (count : Nat)
  /-- A call that was given up takes effect. -/
  | land (call : Nat)
  | lose (key : String)
  | tick (now : Instant)
  | record (directory : MemoryDirectory)

structure System where
  world : World
  tasks : List Task
  /-- The calls that failed, each of which may still take effect. -/
  stray : List Call

namespace System

/-- Nothing was started, and nothing is kept in the cache. -/
def initial (directory : MemoryDirectory) (clock : Instant) : System :=
  ⟨⟨.empty, directory, clock, 0⟩, [], []⟩

/-- The keys in an area. -/
def keysIn (s : System) (area : String) : List String :=
  (s.world.cache.entries.rows.map Prod.fst).filter (liesIn area)

/-- Whether something is kept under the key, expired or not. -/
def has (s : System) (key : String) : Bool := (s.world.cache.lookup? key).isSome

/-- What happens at an event, if it can happen. -/
def step? (config : SessionConfig) (source : Nat → List UInt8) (s : System) : Event → Option System
  | .start operation => some { s with tasks := s.tasks ++ [.begin config operation] }
  | .advance i => do
    let t ← s.tasks[i]?
    match t.sweeping, t.rest with
    | none, .call call next =>
      let (answer, world) := s.world.perform call
      some { s with world, tasks := s.tasks.set i (t.after (.called call answer) (next answer)) }
    | none, .clock next =>
      let now := s.world.clock
      some { s with tasks := s.tasks.set i (t.after (.read now) (next now)) }
    | none, .draw next =>
      let bytes := source s.world.drawn
      some { s with
        world := { s.world with drawn := s.world.drawn + 1 }
        tasks := s.tasks.set i (t.after (.drew bytes) (next bytes)) }
    | _, _ => none
  | .fail i failure => do
    let t ← s.tasks[i]?
    match t.rest with
    | .call call next =>
      let step := .called call (.error failure)
      some { s with
        tasks := s.tasks.set i (t.after step (next (.error failure)))
        stray := call :: s.stray }
    | _ => none
  | .sweep i => do
    let t ← s.tasks[i]?
    match t.sweeping, t.rest with
    | none, .call (.cache (.evictArea area)) _ =>
      some { s with tasks := s.tasks.set i { t with sweeping := some (s.keysIn area) } }
    | _, _ => none
  | .gone i key => do
    let t ← s.tasks[i]?
    if s.has key then none
    else some { s with
      tasks := s.tasks.set i { t with sweeping := t.sweeping.map (·.filter (· ≠ key)) } }
  | .swept i count => do
    let t ← s.tasks[i]?
    match t.sweeping, t.rest with
    | some [], .call (.cache (.evictArea area)) next =>
      let step := .called (.cache (.evictArea area)) (.ok count)
      some { s with tasks := s.tasks.set i (t.after step (next (.ok count))) }
    | _, _ => none
  | .land n => do
    let call ← s.stray[n]?
    some { s with world := (s.world.perform call).2, stray := s.stray.eraseIdx n }
  | .lose key => some { s with world.cache := ⟨s.world.cache.entries.erase key⟩ }
  | .tick now => some { s with world.clock := now }
  | .record directory => some { s with world.directory := directory }

/-- What happens at one event after the other, if they can happen. -/
def replay? (config : SessionConfig) (source : Nat → List UInt8) : System → List Event → Option System
  | s, [] => some s
  | s, event :: events => (s.step? config source event).bind fun next => replay? config source next events

variable {config : SessionConfig} {source : Nat → List UInt8} {s s' : System}

theorem replay?_append (s : System) (first second : List Event) :
    s.replay? config source (first ++ second) =
      (s.replay? config source first).bind fun middle => middle.replay? config source second := by
  induction first generalizing s with
  | nil => rfl
  | cons event first ih => simp only [List.cons_append, replay?, ih, Option.bind_assoc]

/-- What every event preserves holds after a run if it held before. -/
theorem replay?_preserves (property : System → Prop) {events : List Event}
    (kept : ∀ s event s', property s → s.step? config source event = some s' → property s')
    (before : property s) (run : s.replay? config source events = some s') : property s' := by
  induction events generalizing s with
  | nil =>
    cases run
    exact before
  | cons event events ih =>
    obtain ⟨middle, step, rest⟩ := Option.bind_eq_some_iff.mp run
    exact ih (kept s event middle before step) rest

end System

/-! ## What can happen -/

/-- The first step of a program, and what is left of it. -/
inductive Program.Next {α : Type} : Program α → Step → Program α → Prop
  | call (call : Call) (next : Except Failure call.Answer → Program α)
      (answer : Except Failure call.Answer) : Next (.call call next) (.called call answer) (next answer)
  | clock (next : Instant → Program α) (now : Instant) : Next (.clock next) (.read now) (next now)
  | draw (next : List UInt8 → Program α) (bytes : List UInt8) :
      Next (.draw next) (.drew bytes) (next bytes)

theorem Program.Abides.next {α : Type} {rule : Trace → Call → Prop} {goal : Trace → α → Prop}
    {past : Trace} {p rest : Program α} {step : Step} (abides : Abides rule goal past p)
    (next : p.Next step rest) : Abides rule goal (step :: past) rest := by
  cases next with
  | call call next answer => exact abides.2 answer
  | clock next now => exact abides now
  | draw next bytes => exact abides bytes

/-- A step keeps to the rule if the program abides by it. -/
theorem Program.Abides.kept {α : Type} {rule : Trace → Call → Prop} {goal : Trace → α → Prop}
    {past : Trace} {p rest : Program α} {step : Step} (abides : Abides rule goal past p)
    (next : p.Next step rest) (before : past.Kept rule) : Trace.Kept rule (step :: past) := by
  cases next with
  | call call next answer => exact ⟨abides.1, before⟩
  | clock next now => exact before
  | draw next bytes => exact before

namespace System

variable {config : SessionConfig} {source : Nat → List UInt8} {s s' : System}

/-- How a step of a task is answered, with the world and the stray calls afterwards. -/
inductive Answers (source : Nat → List UInt8) (s : System) (t : Task) : Step → World → List Call → Prop
  | performed (call : Call) (idle : t.sweeping = none) :
      Answers source s t (.called call (s.world.perform call).1) (s.world.perform call).2 s.stray
  | failed (call : Call) (failure : Failure) :
      Answers source s t (.called call (.error failure)) s.world (call :: s.stray)
  | swept (area : String) (count : Nat) (finished : t.sweeping = some []) :
      Answers source s t (.called (.cache (.evictArea area)) (.ok count)) s.world s.stray
  | read : Answers source s t (.read s.world.clock) s.world s.stray
  | drew : Answers source s t (.drew (source s.world.drawn))
      { s.world with drawn := s.world.drawn + 1 } s.stray

/-- What can happen next: a task is started, takes a step or goes on evicting, or the world changes
by itself. -/
inductive Turn (config : SessionConfig) (source : Nat → List UInt8) (s : System) : System → Prop
  | started (operation : Operation) :
      Turn config source s { s with tasks := s.tasks ++ [.begin config operation] }
  | stepped {i : Nat} {t : Task} {step : Step} {rest : Program (Except AuthError Outcome)}
      {world : World} {stray : List Call} (present : s.tasks[i]? = some t)
      (next : t.rest.Next step rest) (answers : Answers source s t step world stray) :
      Turn config source s ⟨world, s.tasks.set i (t.after step rest), stray⟩
  | sweeps {i : Nat} {t : Task} {area : String}
      {next : Except Failure Nat → Program (Except AuthError Outcome)} (present : s.tasks[i]? = some t)
      (asks : t.rest = .call (.cache (.evictArea area)) next) :
      Turn config source s { s with
        tasks := s.tasks.set i { t with sweeping := some (s.keysIn area) } }
  | gone {i : Nat} {t : Task} {key : String} (present : s.tasks[i]? = some t)
      (absent : s.has key = false) :
      Turn config source s { s with
        tasks := s.tasks.set i { t with sweeping := t.sweeping.map (·.filter (· ≠ key)) } }
  | landed {n : Nat} {call : Call} (given : s.stray[n]? = some call) :
      Turn config source s { s with world := (s.world.perform call).2, stray := s.stray.eraseIdx n }
  | lost (key : String) :
      Turn config source s { s with world.cache := ⟨s.world.cache.entries.erase key⟩ }
  | ticked (now : Instant) : Turn config source s { s with world.clock := now }
  | recorded (directory : MemoryDirectory) :
      Turn config source s { s with world.directory := directory }

/-- Every event is one of the turns. -/
theorem turn_of_step? {event : Event} (happens : s.step? config source event = some s') :
    Turn config source s s' := by
  cases event with
  | start operation => cases happens; exact .started operation
  | advance i =>
    obtain ⟨t, present, happens⟩ := Option.bind_eq_some_iff.mp happens
    dsimp only at happens
    split at happens
    · rename_i call next idle rest
      cases happens
      exact .stepped present (rest ▸ .call call next _) (.performed call idle)
    · rename_i next idle rest
      cases happens
      exact .stepped present (rest ▸ .clock next _) .read
    · rename_i next idle rest
      cases happens
      exact .stepped present (rest ▸ .draw next _) .drew
    · cases happens
  | fail i failure =>
    obtain ⟨t, present, happens⟩ := Option.bind_eq_some_iff.mp happens
    dsimp only at happens
    split at happens
    · rename_i call next rest
      cases happens
      exact .stepped present (rest ▸ .call call next _) (.failed call failure)
    · cases happens
  | sweep i =>
    obtain ⟨t, present, happens⟩ := Option.bind_eq_some_iff.mp happens
    split at happens
    · rename_i area next idle rest
      cases happens
      exact .sweeps present rest
    · cases happens
  | gone i key =>
    obtain ⟨t, present, happens⟩ := Option.bind_eq_some_iff.mp happens
    split_ifs at happens with there
    cases happens
    exact .gone present (by simpa using there)
  | swept i count =>
    obtain ⟨t, present, happens⟩ := Option.bind_eq_some_iff.mp happens
    dsimp only at happens
    split at happens
    · rename_i area next finished rest
      cases happens
      exact .stepped present (rest ▸ .call (.cache (.evictArea area)) next _) (.swept area count finished)
    · cases happens
  | land n =>
    obtain ⟨call, given, happens⟩ := Option.bind_eq_some_iff.mp happens
    cases happens
    exact .landed given
  | lose key => cases happens; exact .lost key
  | tick now => cases happens; exact .ticked now
  | record directory => cases happens; exact .recorded directory

end System

end BearerAuth
