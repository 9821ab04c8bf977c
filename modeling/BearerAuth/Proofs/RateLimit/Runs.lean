import BearerAuth.Proofs.Cache.Entries
import BearerAuth.RateLimit.Limiter

/-! # Runs of a limiter

A run is a list of requests, each at its own reading of the clock, which may go either way. What a run
was answered is told by its steps. Requests act on one bucket at a time: `bucket?_answer` says what any
request makes of the bucket of any key, and `trackedKeys_answer` what it makes of their number.
-/

namespace BearerAuth.RateLimit

open BearerAuth.Time

/-- What may be asked of a limiter, at a reading of the clock if it is read. -/
inductive Request where
  | allow (key : String) (now : Instant)
  | tokens (key : String)
  | sweep (now : Instant)

namespace Request

/-- The request asks about that key. -/
def isAbout (key : String) : Request → Bool
  | allow other _ => other = key
  | tokens other => other = key
  | sweep _ => false

def isSweep : Request → Bool
  | sweep _ => true
  | _ => false

/-- The reading of the clock that the request is answered at. -/
def reading? : Request → Option Instant
  | allow _ now => some now
  | tokens _ => none
  | sweep now => some now

end Request

/-- What a request is answered. -/
inductive Reply (ν : Type) where
  | admitted (admitted : Bool)
  | held (tokens : Option ν)
  | swept (count : Nat)

/-- How many keys were forgotten. -/
def Reply.forgotten {ν : Type} : Reply ν → Nat
  | swept count => count
  | _ => 0

/-- A request that was answered by a limiter. -/
structure Step (ν : Type) where
  limiter : Limiter ν
  request : Request
  reply : Reply ν

variable {ν : Type}

/-- The answer to a request for admission. -/
def Step.admission? (step : Step ν) : Option Bool :=
  match step.reply with
  | .admitted admitted => some admitted
  | _ => none

namespace Limiter

/-- The bucket of a key. -/
def bucket? (l : Limiter ν) (key : String) : Option (Bucket ν) := l.buckets.get? key

/-- The key is remembered. -/
def tracks (l : Limiter ν) (key : String) : Bool := (l.bucket? key).isSome

@[simp] theorem bucket?_new (settings : Settings ν) (key : String) :
    (new settings).bucket? key = none := rfl

end Limiter

/-- A request for admission of a key that is not remembered. -/
def Step.isSighting (step : Step ν) : Bool :=
  match step.request with
  | .allow key _ => !step.limiter.tracks key
  | _ => false

variable [Quantity ν]

/-- What a request makes of the bucket of a key. -/
def Request.change (settings : Settings ν) (key : String) :
    Request → Option (Bucket ν) → Option (Bucket ν)
  | allow other now, bucket? =>
    if key = other then some ((bucket?.getD (.full settings now)).refill settings now).take.2
    else bucket?
  | tokens _, bucket? => bucket?
  | sweep now, bucket? => bucket?.filter (!·.isIdle settings now)

namespace Limiter

/-- Answers a request. -/
def answer (l : Limiter ν) : Request → Reply ν × Limiter ν
  | .allow key now =>
    let (admitted, l) := l.allow key now
    (.admitted admitted, l)
  | .tokens key => (.held (l.tokens key), l)
  | .sweep now =>
    let (count, l) := l.sweep now
    (.swept count, l)

/-- The limiter after some requests. -/
def after (l : Limiter ν) (requests : List Request) : Limiter ν :=
  requests.foldl (fun l request => (l.answer request).2) l

/-- The steps of a run. -/
def steps (l : Limiter ν) : List Request → List (Step ν)
  | [] => []
  | request :: requests =>
    let (reply, next) := l.answer request
    ⟨l, request, reply⟩ :: next.steps requests

/-- The answers to all requests for admission. -/
def admissions (l : Limiter ν) (requests : List Request) : List Bool :=
  (l.steps requests).filterMap Step.admission?

/-- The answers to all requests about a key. -/
def repliesAbout (l : Limiter ν) (key : String) (requests : List Request) : List (Reply ν) :=
  ((l.steps requests).filter (·.request.isAbout key)).map (·.reply)

/-- How many requests for admission were made of keys that were not remembered. -/
def sightings (l : Limiter ν) (requests : List Request) : Nat :=
  (l.steps requests).countP Step.isSighting

/-- How many keys were forgotten by all sweeps. -/
def forgotten (l : Limiter ν) (requests : List Request) : Nat :=
  (l.steps requests).foldr (fun step count => step.reply.forgotten + count) 0

variable (l : Limiter ν) (key : String) (request : Request)

@[simp] theorem settings_answer : (l.answer request).2.settings = l.settings := by
  cases request <;> rfl

/-- Every request acts on the bucket of a key by itself. -/
theorem bucket?_answer :
    (l.answer request).2.bucket? key = request.change l.settings key (l.bucket? key) := by
  cases request with
  | allow other now =>
    simp only [bucket?, answer, allow, Request.change, Table.get?_insert]
    split_ifs with same
    · rw [same]
    · rfl
  | tokens other => rfl
  | sweep now => exact Table.get?_filter ..

/-- A request for admission is answered from the bucket of its key. -/
theorem allow_admitted (now : Instant) : (l.allow key now).1 =
    (((l.bucket? key).getD (.full l.settings now)).refill l.settings now).take.1 := rfl

section

variable (requests : List Request)

theorem after_cons : l.after (request :: requests) = (l.answer request).2.after requests := rfl

theorem admissions_cons : l.admissions (request :: requests) =
    (Step.admission? ⟨l, request, (l.answer request).1⟩).toList ++
      (l.answer request).2.admissions requests := by
  simp only [admissions, steps, List.filterMap_cons]
  cases Step.admission? (ν := ν) ⟨l, request, (l.answer request).1⟩ <;> rfl

theorem repliesAbout_cons : l.repliesAbout key (request :: requests) =
    if request.isAbout key then (l.answer request).1 :: (l.answer request).2.repliesAbout key requests
    else (l.answer request).2.repliesAbout key requests := by
  simp only [repliesAbout, steps, List.filter_cons]
  split_ifs <;> rfl

theorem sightings_cons : l.sightings (request :: requests) =
    (if Step.isSighting ⟨l, request, (l.answer request).1⟩ then 1 else 0) +
      (l.answer request).2.sightings requests := by
  simp only [sightings, steps, List.countP_cons, Nat.add_comm]

theorem forgotten_cons : l.forgotten (request :: requests) =
    (l.answer request).1.forgotten + (l.answer request).2.forgotten requests := rfl

end

/-- The number of keys grows by those seen, and shrinks by those forgotten. -/
theorem trackedKeys_answer : (l.answer request).2.trackedKeys + (l.answer request).1.forgotten =
    l.trackedKeys + if Step.isSighting ⟨l, request, (l.answer request).1⟩ then 1 else 0 := by
  cases request with
  | allow key now =>
    simp only [answer, allow, trackedKeys, Table.size_insert, Reply.forgotten, Step.isSighting, tracks,
      bucket?, Table.contains]
    by_cases known : (l.buckets.get? key).isSome <;> simp [known]
  | tokens key => rfl
  | sweep now =>
    -- The count is a difference of sizes, which adds up only since sweeping leaves no more keys.
    have fewer : (l.sweep now).2.trackedKeys ≤ l.trackedKeys := List.length_filter_le ..
    simp only [answer, Reply.forgotten, Step.isSighting, Bool.false_eq_true, ↓reduceIte]
    change _ + (l.trackedKeys - (l.sweep now).2.trackedKeys) = _
    omega

end Limiter

end BearerAuth.RateLimit
