import BearerAuth.Cache.Memory
import BearerAuth.Directory.Memory
import BearerAuth.Session.Program

/-! # Sessions in memory

The surroundings in which every call is answered from memory at once: a cache, a directory and one
clock for all, which moves only when told to.
-/

namespace BearerAuth

open BearerAuth.Time

structure World where
  cache : MemoryCache
  directory : MemoryDirectory
  clock : Instant
  /-- How many times random bytes were drawn. -/
  drawn : Nat
deriving Inhabited

namespace World

/-- Nothing is kept or on record. -/
def empty (clock : Instant) : World := ⟨.empty, .empty, clock, 0⟩

/-- Answers a call. -/
def perform (w : World) : (call : Call) → Except Failure call.Answer × World
  | .cache call =>
    let (answer, cache) := w.cache.perform w.clock call
    (answer.mapError .cache, { w with cache })
  | .directory call =>
    let (answer, directory) := w.directory.perform call
    (.ok answer, { w with directory })

/-- The surroundings of sessions, where the random bytes come one after the other. -/
def surroundings (source : Nat → List UInt8) : Program.Surroundings World where
  perform call w := w.perform call
  clock w := w.clock
  draw w := (source w.drawn, { w with drawn := w.drawn + 1 })

end World

end BearerAuth
