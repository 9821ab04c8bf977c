import BearerAuth.Session.Operations

/-! # Calls that fail

A program can be run where some of its calls fail, the first, the third, whichever. What such a call
leaves behind is left open: it may have had its effect or none, and time may have passed.
-/

namespace BearerAuth

open BearerAuth.Time

/-- What happens in place of a call: how it fails, and what it leaves behind. -/
structure Fault (σ : Type) where
  failure : Failure
  leaves : Call → σ → σ

/-- A state of surroundings where calls fail. -/
structure Faulted (σ : Type) where
  state : σ
  /-- How many calls were made. -/
  made : Nat
  /-- The calls that were made to fail, the latest first. -/
  failed : List Call

namespace Program

variable {σ : Type}

/-- The same surroundings, but for faults at the calls of some numbers. -/
def Surroundings.withFaults (s : Surroundings σ) (faults : Nat → Option (Fault σ)) :
    Surroundings (Faulted σ) where
  perform call w := match faults w.made with
    | some fault =>
      (.error fault.failure, ⟨fault.leaves call w.state, w.made + 1, call :: w.failed⟩)
    | none =>
      let (answer, state) := s.perform call w.state
      (answer, ⟨state, w.made + 1, w.failed⟩)
  clock w := s.clock w.state
  draw w :=
    let (bytes, state) := s.draw w.state
    (bytes, { w with state })

theorem Surroundings.perform_spared {s : Surroundings σ} {faults : Nat → Option (Fault σ)}
    {w : Faulted σ} (planned : faults w.made = none) (call : Call) :
    (s.withFaults faults).perform call w =
      ((s.perform call w.state).1, ⟨(s.perform call w.state).2, w.made + 1, w.failed⟩) := by
  simp only [withFaults, planned]

theorem Surroundings.perform_faulted {s : Surroundings σ} {faults : Nat → Option (Fault σ)}
    {w : Faulted σ} {fault : Fault σ} (planned : faults w.made = some fault) (call : Call) :
    (s.withFaults faults).perform call w =
      (.error fault.failure, ⟨fault.leaves call w.state, w.made + 1, call :: w.failed⟩) := by
  simp only [withFaults, planned]

end Program

namespace Session

variable {σ α : Type}

/-- Runs an operation where the calls of some numbers fail. -/
def attempt (s : Program.Surroundings σ) (faults : Nat → Option (Fault σ)) (x : Session α) (state : σ) :
    Except AuthError α × Faulted σ :=
  Program.run (s.withFaults faults) x.run ⟨state, 0, []⟩

end Session

end BearerAuth
