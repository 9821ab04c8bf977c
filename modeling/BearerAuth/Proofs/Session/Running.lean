import BearerAuth.Proofs.Session.Conduct
import BearerAuth.Session.World

/-! # Running one operation alone

Nothing interferes with the operation, but time may pass before each of its steps. `Program.Ends` is
one way it may end. `Program.Ensures` is a condition on all of them, computed along the program text:
however the time passes up to some latest reading, the program ends as it should.
-/

namespace BearerAuth

open BearerAuth.Time

theorem Time.Instant.le_antisymm {s t : Instant} (le : s ≤ t) (ge : t ≤ s) : s = t := by
  cases s
  cases t
  exact (Instant.mk.injEq ..).mpr (Int.le_antisymm le ge)

theorem Time.Instant.not_lt_of_le {s t : Instant} (le : s ≤ t) : ¬t < s := Int.not_lt.mpr le

namespace World

/-- The world at another reading of the clock. -/
def setClock (w : World) (now : Instant) : World := { w with clock := now }

@[simp] theorem setClock_clock (w : World) (now : Instant) : (w.setClock now).clock = now := rfl
@[simp] theorem setClock_cache (w : World) (now : Instant) : (w.setClock now).cache = w.cache := rfl
@[simp] theorem setClock_directory (w : World) (now : Instant) :
    (w.setClock now).directory = w.directory := rfl
@[simp] theorem setClock_drawn (w : World) (now : Instant) : (w.setClock now).drawn = w.drawn := rfl

@[simp] theorem perform_clock (w : World) (call : Call) : (w.perform call).2.clock = w.clock := by
  cases call <;> rfl

@[simp] theorem perform_drawn (w : World) (call : Call) : (w.perform call).2.drawn = w.drawn := by
  cases call <;> rfl

end World

variable {α β : Type} {source : Nat → List UInt8} {latest : Instant} {w w' : World}

namespace Program

/-- The program may end so if it runs alone, while time passes before its steps. -/
inductive Ends (source : Nat → List UInt8) : Program α → World → α → World → Prop
  | done (a : α) (w : World) : Ends source (.done a) w a w
  | call {c : Call} {next : Except Failure c.Answer → Program α} {w w' : World} {now : Instant} {a : α}
      (later : w.clock ≤ now)
      (rest : Ends source (next ((w.setClock now).perform c).1) ((w.setClock now).perform c).2 a w') :
      Ends source (.call c next) w a w'
  | clock {next : Instant → Program α} {w w' : World} {now : Instant} {a : α} (later : w.clock ≤ now)
      (rest : Ends source (next now) (w.setClock now) a w') : Ends source (.clock next) w a w'
  | draw {next : List UInt8 → Program α} {w w' : World} {a : α}
      (rest : Ends source (next (source w.drawn)) { w with drawn := w.drawn + 1 } a w') :
      Ends source (.draw next) w a w'

/-- However time passes up to the latest reading, the program ends so if it runs alone. -/
def Ensures (source : Nat → List UInt8) (latest : Instant) (goal : α → World → Prop) :
    Program α → World → Prop
  | done a, w => goal a w
  | call c next, w => ∀ now, w.clock ≤ now → now ≤ latest → Ensures source latest goal
      (next ((w.setClock now).perform c).1) ((w.setClock now).perform c).2
  | clock next, w => ∀ now, w.clock ≤ now → now ≤ latest →
      Ensures source latest goal (next now) (w.setClock now)
  | draw next, w =>
      Ensures source latest goal (next (source w.drawn)) { w with drawn := w.drawn + 1 }

theorem Ends.clock_le {p : Program α} {a : α} (ends : p.Ends source w a w') : w.clock ≤ w'.clock := by
  induction ends with
  | done a w => exact Int.le_refl _
  | call later rest ih =>
    rw [World.perform_clock] at ih
    exact Int.le_trans later ih
  | clock later rest ih => exact Int.le_trans later ih
  | draw rest ih => exact ih

/-- What a program ensures is so at its end. -/
theorem Ensures.ends {goal : α → World → Prop} {p : Program α} {a : α}
    (ensures : p.Ensures source latest goal w) (ends : p.Ends source w a w')
    (within : w'.clock ≤ latest) : goal a w' := by
  induction ends with
  | done a w => exact ensures
  | call later rest ih =>
    have passed := rest.clock_le
    rw [World.perform_clock] at passed
    exact ih (ensures _ later (Int.le_trans passed within)) within
  | clock later rest ih => exact ih (ensures _ later (Int.le_trans rest.clock_le within)) within
  | draw rest ih => exact ih ensures within

/-- Time may also stand still. -/
theorem ends_run (p : Program α) (w : World) :
    p.Ends source w (p.run (World.surroundings source) w).1 (p.run (World.surroundings source) w).2 := by
  induction p generalizing w with
  | done a => exact .done a w
  | call c next ih => exact .call (Int.le_refl w.clock.nanos) (ih _ _)
  | clock next ih => exact .clock (Int.le_refl _) (ih _ _)
  | draw next ih => exact .draw (ih _ _)

theorem run_clock (p : Program α) (w : World) :
    (p.run (World.surroundings source) w).2.clock = w.clock := by
  induction p generalizing w with
  | done a => rfl
  | call c next ih => exact (ih _ _).trans (World.perform_clock w c)
  | clock next ih => exact ih _ _
  | draw next ih => exact ih _ _

/-- What a program ensures while time stands still is so when it is run. -/
theorem Ensures.run {goal : α → World → Prop} {p : Program α}
    (ensures : p.Ensures source w.clock goal w) : goal (p.run (World.surroundings source) w).1
      (p.run (World.surroundings source) w).2 :=
  ensures.ends (ends_run p w) (run_clock p w ▸ Int.le_refl _)

theorem Ensures.weaken {goal goal' : α → World → Prop} {p : Program α}
    (ensures : p.Ensures source latest goal w) (weaker : ∀ a w, goal a w → goal' a w) :
    p.Ensures source latest goal' w := by
  induction p generalizing w with
  | done a => exact weaker a w ensures
  | call c next ih => exact fun now later within => ih _ (ensures now later within)
  | clock next ih => exact fun now later within => ih _ (ensures now later within)
  | draw next ih => exact ih _ ensures

theorem Ensures.andThen {middle : α → World → Prop} {goal : β → World → Prop} {p : Program α}
    {f : α → Program β} (first : p.Ensures source latest middle w)
    (second : ∀ a w, middle a w → (f a).Ensures source latest goal w) :
    (p.andThen f).Ensures source latest goal w := by
  induction p generalizing w with
  | done a => exact second a w first
  | call c next ih => exact fun now later within => ih _ (first now later within)
  | clock next ih => exact fun now later within => ih _ (first now later within)
  | draw next ih => exact ih _ first

theorem Ends.andThen {p : Program α} {f : α → Program β} {w₁ : World} {a : α} {b : β}
    (first : p.Ends source w a w₁) (second : (f a).Ends source w₁ b w') :
    (p.andThen f).Ends source w b w' := by
  induction first with
  | done a w => exact second
  | call later rest ih => exact .call later (ih second)
  | clock later rest ih => exact .clock later (ih second)
  | draw rest ih => exact .draw (ih second)

end Program

namespace Session

/-- The operation may end so if it runs alone, while time passes before its steps. -/
def Ends (source : Nat → List UInt8) (x : Session α) (w : World) (result : Except AuthError α)
    (w' : World) : Prop := Program.Ends source x.run w result w'

/-- Runs an operation alone while time stands still. -/
def runIn (source : Nat → List UInt8) (x : Session α) (w : World) : Except AuthError α × World :=
  Program.run (World.surroundings source) x.run w

/-- However time passes up to the latest reading, an operation that runs alone ends in a result and
a world as they should be, or is refused as it should be. -/
structure Ensures (source : Nat → List UInt8) (latest : Instant) (goal : α → World → Prop)
    (refusal : AuthError → World → Prop) (x : Session α) (w : World) : Prop where
  steps : Program.Ensures source latest (fun result w' =>
    (∀ a, result = .ok a → goal a w') ∧ ∀ e, result = .error e → refusal e w') x.run w

variable {goal : α → World → Prop} {refusal : AuthError → World → Prop}

theorem Ensures.ends {x : Session α} {result : Except AuthError α}
    (ensures : Ensures source latest goal refusal x w) (ends : x.Ends source w result w')
    (within : w'.clock ≤ latest) :
    (∀ a, result = .ok a → goal a w') ∧ ∀ e, result = .error e → refusal e w' :=
  ensures.steps.ends ends within

theorem Ensures.runIn {x : Session α} (ensures : Ensures source w.clock goal refusal x w) :
    (∀ a, (x.runIn source w).1 = .ok a → goal a (x.runIn source w).2) ∧
      ∀ e, (x.runIn source w).1 = .error e → refusal e (x.runIn source w).2 :=
  ensures.steps.run

theorem ends_runIn (source : Nat → List UInt8) (x : Session α) (w : World) :
    Session.Ends source x w (x.runIn source w).1 (x.runIn source w).2 := Program.ends_run _ w

/-- An operation that cannot be refused may end in a result while time stands still. -/
theorem Ensures.ends_ok {x : Session α}
    (ensures : Ensures source w.clock goal (fun _ _ => False) x w) :
    ∃ a w', x.Ends source w (.ok a) w' ∧ w'.clock = w.clock ∧ goal a w' := by
  obtain ⟨reached, refused⟩ := ensures.runIn
  have ends := ends_runIn source x w
  cases result : (x.runIn source w).1 with
  | error e => exact (refused e result).elim
  | ok a =>
    rw [result] at ends
    exact ⟨a, _, ends, Program.run_clock _ w, reached a result⟩

/-- What an operation results in is passed on. -/
theorem Ends.passOn {x : Session α} {a : α} (f : α → β) (ends : x.Ends source w (.ok a) w') :
    Session.Ends source (x >>= fun a => pure (f a)) w (.ok (f a)) w' :=
  Program.Ends.andThen ends (.done _ w')

theorem runIn_clock (x : Session α) (w : World) : (x.runIn source w).2.clock = w.clock :=
  Program.run_clock _ w

theorem Ensures.weaken {goal' : α → World → Prop} {refusal' : AuthError → World → Prop}
    {x : Session α} (ensures : Ensures source latest goal refusal x w)
    (weaker : ∀ a w, goal a w → goal' a w) (refused : ∀ e w, refusal e w → refusal' e w) :
    Ensures source latest goal' refusal' x w :=
  ⟨ensures.steps.weaken fun _ w ⟨reached, refusals⟩ =>
    ⟨fun a same => weaker a w (reached a same), fun e same => refused e w (refusals e same)⟩⟩

/-- A refusal ends the whole operation, and a result is passed on. -/
theorem Ensures.bind {goal : β → World → Prop} {x : Session α} {f : α → Session β}
    (first : Ensures source latest (fun a w => Ensures source latest goal refusal (f a) w) refusal x w) :
    Ensures source latest goal refusal (x >>= f) w := by
  refine ⟨first.steps.andThen ?_⟩
  rintro (e | a) w ⟨passed, refused⟩
  · constructor
    · rintro b ⟨⟩
    · rintro e' ⟨⟩
      exact refused e rfl
  · exact (passed a rfl).steps

theorem ensures_pure {a : α} (reached : goal a w) :
    Ensures source latest goal refusal (pure a) w := by
  constructor
  constructor
  · rintro b ⟨⟩
    exact reached
  · rintro e ⟨⟩

theorem ensures_throw {e : AuthError} (refused : refusal e w) :
    Ensures source latest goal refusal (throw e) w := by
  constructor
  constructor
  · rintro b ⟨⟩
  · rintro e' ⟨⟩
    exact refused

/-- What no step is needed for is either refused or a result. -/
theorem ensures_of_except {result : Except AuthError α} (reached : ∀ a, result = .ok a → goal a w)
    (refused : ∀ e, result = .error e → refusal e w) :
    Ensures source latest goal refusal (ExceptT.mk (pure result)) w := ⟨reached, refused⟩

/-- A check that refuses comes before the rest. -/
theorem ensures_check {c : Prop} [Decidable c] {e : AuthError} {rest : Session α}
    (refused : c → refusal e w) (passed : ¬c → Ensures source latest goal refusal rest w) :
    Ensures source latest goal refusal (if c then throw e >>= fun _ : PUnit => rest else rest) w := by
  split
  · exact (ensures_throw (refused ‹_›)).bind
  · exact passed ‹_›

theorem ensures_readClock {goal : Instant → World → Prop}
    (reached : ∀ now, w.clock ≤ now → now ≤ latest → goal now (w.setClock now)) :
    Ensures source latest goal refusal readClock w := by
  refine ⟨fun now later within => ⟨?_, ?_⟩⟩
  · rintro a ⟨⟩
    exact reached now later within
  · rintro e ⟨⟩

theorem ensures_drawBytes {goal : List UInt8 → World → Prop}
    (reached : goal (source w.drawn) { w with drawn := w.drawn + 1 }) :
    Ensures source latest goal refusal drawBytes w := by
  refine ⟨?_, ?_⟩
  · rintro a ⟨⟩
    exact reached
  · rintro e ⟨⟩

/-- A call is answered from the world, or fails there. -/
theorem ensures_request {config : SessionConfig} {operation : String} (call : Call)
    {goal : call.Answer → World → Prop}
    (reached : ∀ now answer, w.clock ≤ now → now ≤ latest →
      ((w.setClock now).perform call).1 = .ok answer → goal answer ((w.setClock now).perform call).2)
    (refused : ∀ now failure, w.clock ≤ now → now ≤ latest →
      ((w.setClock now).perform call).1 = .error failure →
        refusal (failed config operation failure) ((w.setClock now).perform call).2) :
    Ensures source latest goal refusal (request config operation call) w := by
  refine ⟨fun now later within => ?_⟩
  cases answered : ((w.setClock now).perform call).1 with
  | ok answer =>
    refine ⟨?_, ?_⟩
    · rintro a ⟨⟩
      exact reached now answer later within answered
    · rintro e ⟨⟩
  | error failure =>
    refine ⟨?_, ?_⟩
    · rintro a ⟨⟩
    · rintro e ⟨⟩
      exact refused now failure later within answered

/-- A call that cannot fail is answered from the world. -/
theorem ensures_answer {config : SessionConfig} {operation : String} (call : Call)
    (answer : World → call.Answer) {goal : call.Answer → World → Prop}
    (sure : ∀ w, (World.perform w call).1 = .ok (answer w))
    (reached : ∀ now, w.clock ≤ now → now ≤ latest →
      goal (answer (w.setClock now)) ((w.setClock now).perform call).2) :
    Ensures source latest goal refusal (request config operation call) w := by
  refine ensures_request call (fun now found later within same => ?_) fun now failure later within same => ?_
  · rw [sure] at same
    cases same
    exact reached now later within
  · rw [sure] at same
    cases same

/-- Keeping a copy never refuses anything. -/
theorem ensures_keepCopy {config : SessionConfig} {operation area key : String} {ttl : Duration}
    {value : Json.Value} {goal : Unit → World → Prop}
    (reached : ∀ now, w.clock ≤ now → now ≤ latest →
      goal () ((w.setClock now).perform (.cache (.setJson area key ttl value))).2) :
    Ensures source latest goal refusal (keepCopy config operation area key ttl value) w := by
  refine ⟨fun now later within => ?_⟩
  cases answered : ((w.setClock now).perform (.cache (.setJson area key ttl value))).1 with
  | ok answer => exact ⟨fun _ _ => reached now later within, by rintro e ⟨⟩⟩
  | error failure => exact ⟨fun _ _ => reached now later within, by rintro e ⟨⟩⟩

/-- A copy is read if there is one. -/
theorem ensures_readCached {config : SessionConfig} {operation area key : String}
    {reader : Json.Reader α} {goal : Option α → World → Prop}
    (missing : ∀ now, w.clock ≤ now → now ≤ latest → (w.cache.get now area key).1 = none →
      goal none ((w.setClock now).perform (.cache (.get area key))).2)
    (read : ∀ now bytes a, w.clock ≤ now → now ≤ latest →
      (w.cache.get now area key).1 = some bytes → decodeCached reader bytes = .ok a →
        goal (some a) ((w.setClock now).perform (.cache (.get area key))).2)
    (unread : ∀ now bytes e, w.clock ≤ now → now ≤ latest →
      (w.cache.get now area key).1 = some bytes → decodeCached reader bytes = .error e →
        refusal e.toAuthError ((w.setClock now).perform (.cache (.get area key))).2) :
    Ensures source latest goal refusal (readCached config operation area key reader) w := by
  refine Ensures.bind (ensures_answer (.cache (.get area key))
    (fun w => (w.cache.get w.clock area key).1) (fun w => rfl) fun now later within => ?_)
  cases kept : (w.cache.get now area key).1 with
  | none =>
    simp only [World.setClock_cache, World.setClock_clock, kept]
    exact ensures_pure (missing now later within kept)
  | some bytes =>
    simp only [World.setClock_cache, World.setClock_clock, kept]
    split
    · exact ensures_pure (read now bytes _ later within kept ‹_›)
    · exact ensures_throw (unread now bytes _ later within kept ‹_›)

end Session

end BearerAuth
