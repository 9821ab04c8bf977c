import BearerAuth.Session.Operations

/-! # What a program does, whoever answers

A program may be answered anything, so what can be said of it in all surroundings is said of the
steps it has taken: which calls it makes after which steps, and what its result tells about them.
`Program.Abides` is proved along the program text, one lemma for each way to put programs together.
-/

namespace BearerAuth

open BearerAuth.Time

/-- A step of a program, with what it was answered. -/
inductive Step where
  | called (call : Call) (answer : Except Failure call.Answer)
  | read (now : Instant)
  | drew (bytes : List UInt8)

/-- The steps a program has taken, the latest first. -/
abbrev Trace := List Step

/-- Each call in the trace was allowed after the steps before it. -/
def Trace.Kept (rule : Trace → Call → Prop) : Trace → Prop
  | [] => True
  | .called call _ :: past => rule past call ∧ Kept rule past
  | _ :: past => Kept rule past

theorem Trace.Kept.tail {rule : Trace → Call → Prop} {step : Step} {past : Trace}
    (kept : Trace.Kept rule (step :: past)) : past.Kept rule := by
  cases step with
  | called call answer => exact kept.2
  | read now => exact kept
  | drew bytes => exact kept

namespace Program

variable {α β : Type} {rule : Trace → Call → Prop}

/-- Whatever the program is answered, each of its calls is allowed by the rule after the steps
before it, and the goal holds of all its steps and its result. -/
def Abides (rule : Trace → Call → Prop) (goal : Trace → α → Prop) : Trace → Program α → Prop
  | past, done result => goal past result
  | past, call c next => rule past c ∧ ∀ answer, Abides rule goal (.called c answer :: past) (next answer)
  | past, clock next => ∀ now, Abides rule goal (.read now :: past) (next now)
  | past, draw next => ∀ bytes, Abides rule goal (.drew bytes :: past) (next bytes)

theorem Abides.andThen {mid : Trace → α → Prop} {goal : Trace → β → Prop} {past : Trace}
    {p : Program α} {f : α → Program β} (first : Abides rule mid past p)
    (second : ∀ past a, mid past a → Abides rule goal past (f a)) :
    Abides rule goal past (p.andThen f) := by
  induction p generalizing past with
  | done a => exact second past a first
  | call c next ih => exact ⟨first.1, fun answer => ih answer (first.2 answer)⟩
  | clock next ih => exact fun now => ih now (first now)
  | draw next ih => exact fun bytes => ih bytes (first bytes)

theorem Abides.weaken {goal goal' : Trace → α → Prop} {past : Trace} {p : Program α}
    (abides : Abides rule goal past p) (weaker : ∀ past a, goal past a → goal' past a) :
    Abides rule goal' past p := by
  induction p generalizing past with
  | done a => exact weaker past a abides
  | call c next ih => exact ⟨abides.1, fun answer => ih answer (abides.2 answer)⟩
  | clock next ih => exact fun now => ih now (abides now)
  | draw next ih => exact fun bytes => ih bytes (abides bytes)

end Program

namespace Session

variable {α β : Type} {rule : Trace → Call → Prop} {past : Trace}

/-- Whatever the program is answered, the rule allows each of its calls, and the goal holds of all
its steps and its result unless it is refused. -/
structure Abides (rule : Trace → Call → Prop) (goal : Trace → α → Prop) (past : Trace)
    (x : Session α) : Prop where
  steps : Program.Abides rule (fun past result => ∀ a, result = .ok a → goal past a) past x.run

theorem Abides.weaken {goal goal' : Trace → α → Prop} {x : Session α}
    (abides : Abides rule goal past x) (weaker : ∀ past a, goal past a → goal' past a) :
    Abides rule goal' past x :=
  ⟨abides.steps.weaken fun past _ reached a ok => weaker past a (reached a ok)⟩

/-- A refusal ends the whole program, and a result is passed on. -/
theorem Abides.bind {goal : Trace → β → Prop} {x : Session α} {f : α → Session β}
    (first : Abides rule (fun past a => Abides rule goal past (f a)) past x) :
    Abides rule goal past (x >>= f) := by
  refine ⟨first.steps.andThen ?_⟩
  rintro past (e | a) rest
  · rintro b ⟨⟩
  · exact (rest a rfl).steps

theorem abides_pure {goal : Trace → α → Prop} {a : α} (reached : goal past a) :
    Abides rule goal past (pure a) := by
  constructor
  rintro b ⟨⟩
  exact reached

theorem abides_throw {goal : Trace → α → Prop} (e : AuthError) :
    Abides rule goal past (throw e) := by
  constructor
  rintro b ⟨⟩

/-- What no step is needed for is either refused or a result. -/
theorem abides_of_except {goal : Trace → α → Prop} {result : Except AuthError α}
    (reached : ∀ a, result = .ok a → goal past a) :
    Abides rule goal past (ExceptT.mk (pure result)) := ⟨reached⟩

/-- A check that refuses comes before the rest. -/
theorem abides_check {goal : Trace → α → Prop} {c : Prop} [Decidable c] {e : AuthError}
    {rest : Session α} (passed : ¬c → Abides rule goal past rest) :
    Abides rule goal past (if c then throw e >>= fun _ : PUnit => rest else rest) := by
  split
  · exact (abides_throw e).bind
  · exact passed ‹_›

theorem abides_readClock {goal : Trace → Instant → Prop} (reached : ∀ now, goal (.read now :: past) now) :
    Abides rule goal past readClock := by
  constructor
  rintro now a ⟨⟩
  exact reached now

theorem abides_drawBytes {goal : Trace → List UInt8 → Prop}
    (reached : ∀ bytes, goal (.drew bytes :: past) bytes) : Abides rule goal past drawBytes := by
  constructor
  rintro bytes a ⟨⟩
  exact reached bytes

/-- A failed call is reported as a refusal; an answer is passed on. -/
theorem abides_request {config : SessionConfig} {operation : String} (call : Call)
    {goal : Trace → call.Answer → Prop} (allowed : rule past call)
    (reached : ∀ answer, goal (.called call (.ok answer) :: past) answer) :
    Abides rule goal past (request config operation call) := by
  refine ⟨allowed, ?_⟩
  rintro (failure | answer) a ok
  · cases ok
  · cases ok
    exact reached answer

/-- Keeping a copy never refuses anything. -/
theorem abides_keepCopy {config : SessionConfig} {operation area key : String} {ttl : Duration}
    {value : Json.Value} {goal : Trace → Unit → Prop}
    (allowed : rule past (.cache (.setJson area key ttl value)))
    (reached : ∀ answer, goal (.called (.cache (.setJson area key ttl value)) answer :: past) ()) :
    Abides rule goal past (keepCopy config operation area key ttl value) := by
  refine ⟨allowed, ?_⟩
  rintro (failure | answer) a _
  · exact reached _
  · exact reached _

/-- A copy is read by one call, if there is one that can be read. -/
theorem abides_readCopy {config : SessionConfig} {operation area key : String}
    {reader : Json.Reader α} {goal : Trace → Option α → Prop}
    (allowed : rule past (.cache (.get area key)))
    (missing : goal (.called (.cache (.get area key)) (.ok (none : Option (List UInt8))) :: past) none)
    (read : ∀ (bytes : List UInt8) a, decodeCached reader bytes = .ok a →
      goal (.called (.cache (.get area key)) (.ok (some bytes)) :: past) (some a)) :
    Abides rule goal past (readCached config operation area key reader) := by
  refine Abides.bind (abides_request _ allowed ?_)
  rintro (_ | bytes)
  · exact abides_pure missing
  · simp only
    split
    · exact abides_pure (read bytes _ ‹_›)
    · exact abides_throw _

/-- A copy is read by one call. -/
theorem abides_readCached {config : SessionConfig} {operation area key : String}
    {reader : Json.Reader α} {goal : Trace → Option α → Prop}
    (allowed : rule past (.cache (.get area key)))
    (reached : ∀ answer copy, goal (.called (.cache (.get area key)) (.ok answer) :: past) copy) :
    Abides rule goal past (readCached config operation area key reader) :=
  abides_readCopy allowed (reached _ _) fun _ _ _ => reached _ _

end Session

end BearerAuth
