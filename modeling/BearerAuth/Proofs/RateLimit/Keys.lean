import BearerAuth.Proofs.RateLimit.Runs

/-! # Keys do not disturb each other

Whatever numbers a limiter counts with, and however the clock moves, what it answers about a key
follows from the requests about that key and from the sweeps. All that keys have in common is their
number: it is how often a key was seen that was not remembered, less the keys that were forgotten.
-/

namespace BearerAuth.RateLimit

variable {ν : Type} [Quantity ν] {key : String} {l m : Limiter ν} {request : Request}

/-- The request is about the key, or may forget it. -/
def Request.concerns (key : String) (request : Request) : Bool :=
  request.isAbout key || request.isSweep

namespace Limiter

/-- The limiters cannot be told apart by requests about the key. -/
structure Agree (key : String) (l m : Limiter ν) : Prop where
  settings : l.settings = m.settings
  bucket : l.bucket? key = m.bucket? key

/-- The same request leaves them so. -/
theorem Agree.answer (agree : Agree key l m) (request : Request) :
    Agree key (l.answer request).2 (m.answer request).2 where
  settings := by rw [settings_answer, settings_answer, agree.settings]
  bucket := by rw [bucket?_answer, bucket?_answer, agree.settings, agree.bucket]

/-- A request that does not concern the key leaves them so if only one is asked. -/
theorem Agree.skip (agree : Agree key l m) (other : request.concerns key = false) :
    Agree key (l.answer request).2 m where
  settings := by rw [settings_answer, agree.settings]
  bucket := by
    rw [bucket?_answer, ← agree.bucket]
    cases request with
    | allow asked now =>
      have differs : key ≠ asked := by
        rintro rfl
        simp [Request.concerns, Request.isAbout] at other
      exact if_neg differs
    | tokens asked => rfl
    | sweep now => cases other

/-- A request about the key is answered alike. -/
theorem Agree.reply (agree : Agree key l m) (about : request.isAbout key = true) :
    (l.answer request).1 = (m.answer request).1 := by
  cases request with
  | allow asked now =>
    obtain rfl : asked = key := of_decide_eq_true about
    simp only [Limiter.answer, allow_admitted, agree.settings, agree.bucket]
  | tokens asked =>
    obtain rfl : asked = key := of_decide_eq_true about
    exact congrArg (fun bucket? => Reply.held (bucket?.map (·.tokens))) agree.bucket
  | sweep now => cases about

theorem Agree.after (agree : Agree key l m) (requests : List Request) :
    Agree key (l.after requests) (m.after (requests.filter (·.concerns key))) := by
  -- A request either concerns the key and is asked in both runs, or is left out of the second.
  induction requests generalizing l m with
  | nil => exact agree
  | cons request requests ih =>
    cases concerned : request.concerns key with
    | true =>
      rw [List.filter_cons_of_pos concerned, after_cons, after_cons]
      exact ih (agree.answer request)
    | false =>
      rw [List.filter_cons_of_neg (by simp [concerned]), after_cons]
      exact ih (agree.skip concerned)

theorem Agree.repliesAbout (agree : Agree key l m) (requests : List Request) :
    l.repliesAbout key requests = m.repliesAbout key (requests.filter (·.concerns key)) := by
  induction requests generalizing l m with
  | nil => rfl
  | cons request requests ih =>
    cases concerned : request.concerns key with
    | true =>
      rw [List.filter_cons_of_pos concerned, repliesAbout_cons, repliesAbout_cons,
        ih (agree.answer request)]
      split_ifs with about
      · rw [agree.reply about]
      · rfl
    | false =>
      have about : request.isAbout key = false := (Bool.or_eq_false_iff.mp concerned).1
      rw [List.filter_cons_of_neg (by simp [concerned]), repliesAbout_cons, about,
        if_neg Bool.false_ne_true, ih (agree.skip concerned)]

/-- No key is lost or made up: those remembered and those forgotten are those seen. -/
theorem trackedKeys_after (l : Limiter ν) (requests : List Request) :
    (l.after requests).trackedKeys + l.forgotten requests = l.trackedKeys + l.sightings requests := by
  induction requests generalizing l with
  | nil => rfl
  | cons request requests ih =>
    have step := l.trackedKeys_answer request
    have rest := ih (l.answer request).2
    rw [after_cons, forgotten_cons, sightings_cons]
    omega

/-- The answers about a key, and whether it is remembered after each step, are those of the run without
the requests about other keys. At each step the number of keys is that of the requests so far that met
a key which was not remembered, less the keys forgotten so far. -/
theorem keys_apart (settings : Settings ν) (key : String) (requests : List Request) :
    (new settings).repliesAbout key requests =
        (new settings).repliesAbout key (requests.filter (·.concerns key)) ∧
      ∀ n, ((new settings).after (requests.take n)).tracks key =
          ((new settings).after ((requests.take n).filter (·.concerns key))).tracks key ∧
        ((new settings).after (requests.take n)).trackedKeys +
          (new settings).forgotten (requests.take n) = (new settings).sightings (requests.take n) := by
  have alike : Agree key (new settings) (new settings) := ⟨rfl, rfl⟩
  refine ⟨alike.repliesAbout requests, fun n => ⟨?_, ?_⟩⟩
  · exact congrArg Option.isSome (alike.after (requests.take n)).bucket
  · have counted := (new settings).trackedKeys_after (requests.take n)
    have none : (new settings).trackedKeys = 0 := rfl
    rwa [none, Nat.zero_add] at counted

end Limiter

end BearerAuth.RateLimit
