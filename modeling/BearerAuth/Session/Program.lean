import BearerAuth.Cache.Call
import BearerAuth.Directory.Call

/-! # Programs over cache and directory

What a session operation does, apart from its result, is to call the cache and the directory, read
the clock and draw random bytes. A `Program` lists these steps and what follows on each outcome;
nothing is said about who answers. So one program can be run alone, with failing calls, or with its
steps among those of others.
-/

namespace BearerAuth

open BearerAuth.Time

/-- A request to one of the collaborators. -/
inductive Call where
  | cache (call : CacheCall)
  | directory (call : DirectoryCall)
deriving DecidableEq

/-- What a request is answered with. -/
def Call.Answer : Call → Type
  | cache call => call.Answer
  | directory call => call.Answer

/-- Why a call brought no answer. -/
inductive Failure where
  | cache (e : CacheError)
  | directory (e : DirectoryError)
  /-- The answer took too long, and the call was given up. -/
  | timedOut
deriving DecidableEq, Repr

/-- Steps that end in a result. -/
inductive Program (α : Type) where
  | done (result : α)
  | call (call : Call) (next : Except Failure call.Answer → Program α)
  | clock (next : Instant → Program α)
  | draw (next : List UInt8 → Program α)

namespace Program

variable {α β : Type}

/-- One program, and then another that depends on its result. -/
def andThen : Program α → (α → Program β) → Program β
  | done result, f => f result
  | call c next, f => call c fun answer => (next answer).andThen f
  | clock next, f => clock fun now => (next now).andThen f
  | draw next, f => draw fun bytes => (next bytes).andThen f

instance : Monad Program where
  pure := done
  bind := andThen

/-- Who answers the steps of a program, with a state of its own. -/
structure Surroundings (σ : Type) where
  perform : (call : Call) → σ → Except Failure call.Answer × σ
  clock : σ → Instant
  draw : σ → List UInt8 × σ

/-- Runs a program alone to its end. -/
def run {σ : Type} (s : Surroundings σ) : Program α → σ → α × σ
  | done result, state => (result, state)
  | call c next, state =>
    let (answer, state) := s.perform c state
    (next answer).run s state
  | clock next, state => (next (s.clock state)).run s state
  | draw next, state =>
    let (bytes, state) := s.draw state
    (next bytes).run s state

end Program

end BearerAuth
