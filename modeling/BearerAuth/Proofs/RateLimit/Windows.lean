import BearerAuth.Proofs.RateLimit.Exact
import Mathlib.Data.List.Induction

/-! # Windows of a key's calls

A bucket is one number that is brought up to date when its key is next seen. That number is what the
windows of calls that end now leave to spend: capacity and what has come in since a window began, less what
was admitted in it, whichever window leaves the least. So a call is admitted exactly if no window is
overdrawn by it. Nothing is asked of the clock: what comes in is measured by how far it ran forward.
-/

namespace BearerAuth.RateLimit

open BearerAuth.Time

/-! ## Calls -/

/-- A request for admission and its answer. -/
structure Call where
  reading : Instant
  admitted : Bool

/-- How many of the calls were admitted. -/
def admittedIn (calls : List Call) : Nat := calls.countP (·.admitted)

theorem admittedIn_concat (calls : List Call) (call : Call) :
    admittedIn (calls ++ [call]) = admittedIn calls + if call.admitted then 1 else 0 := by
  rw [admittedIn, List.countP_append, List.countP_singleton]
  rfl

/-- The reading at which the request asks for admission of a key. -/
def Request.asks? (key : String) : Request → Option Instant
  | allow other now => if other = key then some now else none
  | _ => none

/-- The readings at which admission of a key is asked for. -/
def askedAt (key : String) (requests : List Request) : List Instant :=
  requests.filterMap (Request.asks? key)

theorem Request.asks?_eq_some_iff {key : String} {request : Request} {now : Instant} :
    request.asks? key = some now ↔ request = .allow key now := by
  cases request <;> simp [asks?]

/-- The call that a step is on a key. -/
def Step.call? {ν : Type} (key : String) (step : Step ν) : Option Call := do
  return ⟨← step.request.asks? key, ← step.admission?⟩

namespace Limiter

section

variable {ν : Type} [Quantity ν] (l : Limiter ν) (key : String)

/-- The calls that a run makes on a key. -/
def calls (requests : List Request) : List Call := (l.steps requests).filterMap (Step.call? key)

/-- No sweep of the run forgets the key. -/
def Spares (requests : List Request) : Prop :=
  ∀ step ∈ l.steps requests, step.request.isSweep = true → step.limiter.tracks key = true →
    (step.limiter.answer step.request).2.tracks key = true

variable {l key} {request : Request} {requests : List Request}

theorem calls_allow (now : Instant) : l.calls key (.allow key now :: requests) =
    ⟨now, (l.allow key now).1⟩ :: (l.answer (.allow key now)).2.calls key requests := by
  have call : Step.call? key ⟨l, .allow key now, (l.answer (.allow key now)).1⟩ =
      some ⟨now, (l.allow key now).1⟩ := by
    simp only [Step.call?, Request.asks?, ↓reduceIte]
    rfl
  simp only [calls, steps, List.filterMap_cons, call]

theorem calls_of_not_asks (other : request.asks? key = none) :
    l.calls key (request :: requests) = (l.answer request).2.calls key requests := by
  have call : Step.call? key ⟨l, request, (l.answer request).1⟩ = none := by
    simp only [Step.call?, other]
    rfl
  simp only [calls, steps, List.filterMap_cons, call]

/-- The calls on a key are made when they are asked for. -/
theorem reading_calls (l : Limiter ν) (key : String) (requests : List Request) :
    (l.calls key requests).map (·.reading) = askedAt key requests := by
  induction requests generalizing l with
  | nil => rfl
  | cons request requests ih =>
    cases asked : request.asks? key with
    | some now =>
      obtain rfl := Request.asks?_eq_some_iff.mp asked
      rw [calls_allow, List.map_cons, ih, askedAt, askedAt, List.filterMap_cons, asked]
    | none => rw [calls_of_not_asks asked, ih, askedAt, askedAt, List.filterMap_cons, asked]

/-- A run that never sweeps forgets no key. -/
theorem spares_of_no_sweep (none : ∀ request ∈ requests, request.isSweep = false) :
    l.Spares key requests := by
  induction requests generalizing l with
  | nil => intro step member; cases member
  | cons request requests ih =>
    obtain ⟨other, others⟩ := List.forall_mem_cons.mp none
    refine List.forall_mem_cons.mpr ⟨fun sweeps => ?_, ih others⟩
    cases other.symm.trans sweeps

theorem Spares.tail (spares : l.Spares key (request :: requests)) :
    (l.answer request).2.Spares key requests :=
  fun step member => spares step (List.mem_cons_of_mem _ member)

/-- A request that does not ask for admission of a key, and does not forget it, leaves its bucket. -/
theorem bucket?_of_spares (spares : l.Spares key (request :: requests))
    (other : request.asks? key = none) : (l.answer request).2.bucket? key = l.bucket? key := by
  cases request with
  | allow asked now =>
    have differs : key ≠ asked := by
      rintro rfl
      simp [Request.asks?] at other
    rw [bucket?_answer, Request.change, if_neg differs]
  | tokens asked => rfl
  | sweep now =>
    have kept := spares _ (List.mem_cons_self ..) rfl
    simp only [tracks, bucket?_answer, Request.change] at kept ⊢
    cases there : l.bucket? key with
    | none => rfl
    | some b =>
      rw [there] at kept
      exact Option.filter_eq_some_iff.mpr ⟨rfl, by simpa using kept rfl⟩

end

end Limiter

/-! ## Time -/

/-- A reading in seconds since the start of 1970. -/
def secondsAt (t : Instant) : ℚ := t.nanos / 1000000000

theorem secondsAt_le_iff {s t : Instant} : secondsAt s ≤ secondsAt t ↔ s ≤ t := by
  rw [secondsAt, secondsAt, div_le_div_iff_of_pos_right (by norm_num), Int.cast_le]
  rfl

/-- How far a clock ran forward from each reading to the next, in seconds. -/
def forward : List Instant → ℚ
  | s :: t :: rest => inSeconds (t.since s) + forward (t :: rest)
  | _ => 0

/-- How far a clock ran back from each reading to the next, in seconds. -/
def backward : List Instant → ℚ
  | s :: t :: rest => inSeconds (s.since t) + backward (t :: rest)
  | _ => 0

theorem forward_concat (readings : List Instant) (s t : Instant) :
    forward (readings ++ [s, t]) = forward (readings ++ [s]) + inSeconds (t.since s) := by
  induction readings with
  | nil => simp [forward]
  | cons r readings ih =>
    cases readings with
    | nil => simp [forward]
    | cons r' readings =>
      simp only [List.cons_append, forward] at ih ⊢
      rw [ih, add_assoc]

/-- From one reading to another a clock runs forward or back, by the difference of the two. -/
theorem since_sub_since (s t : Instant) :
    inSeconds (t.since s) - inSeconds (s.since t) = secondsAt t - secondsAt s := by
  have nanos : ((t.since s).nanos : ℚ) - (s.since t).nanos = t.nanos - s.nanos := by
    have whole : ((t.since s).nanos : Int) - (s.since t).nanos = t.nanos - s.nanos := by
      simp only [Instant.since]
      omega
    exact_mod_cast whole
  rw [inSeconds_eq, inSeconds_eq, secondsAt, secondsAt, ← sub_div, ← sub_div, nanos]

/-- Where a clock ends is where it began, moved forward and back. -/
theorem forward_eq {readings : List Instant} {s t : Instant} (first : readings.head? = some s)
    (last : readings.getLast? = some t) :
    forward readings = secondsAt t - secondsAt s + backward readings := by
  induction readings generalizing s with
  | nil => cases first
  | cons r readings ih =>
    obtain rfl : r = s := Option.some.inj first
    cases readings with
    | nil =>
      cases last
      simp [forward, backward]
    | cons r' readings =>
      have moved := since_sub_since r r'
      have rest := ih rfl last
      rw [forward, backward, rest]
      linarith

/-- A clock that never goes back runs back by nothing. -/
theorem backward_of_ordered {readings : List Instant} (ordered : readings.Pairwise (· ≤ ·)) :
    backward readings = 0 := by
  induction readings with
  | nil => rfl
  | cons s readings ih =>
    obtain ⟨least, ordered⟩ := List.pairwise_cons.mp ordered
    cases readings with
    | nil => rfl
    | cons t readings =>
      have moved : (s.since t).nanos = 0 := by
        have nanos : s.nanos ≤ t.nanos := least t (List.mem_cons_self ..)
        simp only [Instant.since]
        omega
      rw [backward, ih ordered, inSeconds_eq, moved]
      simp

/-! ## The law of windows -/

/-- Every call is admitted exactly if each window before it leaves it one to spend. -/
def Lawful (settings : Settings ℚ) (before calls : List Call) : Prop :=
  ∀ earlier call later, calls = earlier ++ call :: later →
    (call.admitted = true ↔ ∀ window, window <:+ before ++ earlier →
      (admittedIn window : ℚ) + 1 ≤ settings.capacity +
        settings.refillRate * forward ((window ++ [call]).map (·.reading)))

/-- The calls from the `m`-th to before the `n`-th. -/
def between (calls : List Call) (m n : Nat) : List Call := (calls.take n).drop m

theorem between_succ (calls : List Call) {m n : Nat} (started : m ≤ n) (reached : n < calls.length) :
    between calls m (n + 1) = between calls m n ++ [calls[n]] := by
  rw [between, between, List.take_succ_eq_append_getElem reached, List.drop_append_of_le_length]
  rw [List.length_take]
  omega

/-- The windows before a call are those that begin with an earlier call, and the empty one. -/
theorem Lawful.admitted_iff {settings : Settings ℚ} {calls : List Call}
    (lawful : Lawful settings [] calls) {n : Nat} (reached : n < calls.length) :
    calls[n].admitted = true ↔ ∀ m, m ≤ n →
      (admittedIn (between calls m n) : ℚ) + 1 ≤ settings.capacity +
        settings.refillRate * forward ((between calls m (n + 1)).map (·.reading)) := by
  have split : calls = calls.take n ++ calls[n] :: calls.drop (n + 1) := by
    rw [← List.drop_eq_getElem_cons reached, List.take_append_drop]
  have law := lawful _ _ _ split
  rw [law]
  constructor
  · intro windows m started
    rw [between_succ calls started reached]
    exact windows _ (List.drop_suffix m _)
  · intro windows window latest
    have begins : window = (calls.take n).drop ((calls.take n).length - window.length) :=
      List.suffix_iff_eq_drop.mp latest
    have started : (calls.take n).length - window.length ≤ n := by
      rw [List.length_take]
      omega
    have left := windows _ started
    rwa [between_succ calls started reached, between, ← begins] at left

/-- What is counted in a list is within a bound if it is so at the last element that counts. -/
theorem countP_le_of_last {α : Type} {p : α → Bool} {bound : ℚ} {xs : List α} (nonneg : 0 ≤ bound)
    (last : ∀ earlier x later, xs = earlier ++ x :: later → p x = true →
      (earlier.countP p : ℚ) + 1 ≤ bound) : (xs.countP p : ℚ) ≤ bound := by
  induction xs using List.reverseRecOn with
  | nil => simpa using nonneg
  | append_singleton xs x ih =>
    rw [List.countP_append, List.countP_singleton]
    split_ifs with counts
    · have reached := last xs x [] rfl counts
      push_cast
      exact reached
    · refine ih fun earlier y later split => last earlier y (later ++ [x]) ?_
      rw [split, List.append_assoc, List.cons_append]

namespace Limiter

variable {l : Limiter ℚ} {key : String} {request : Request} {requests : List Request} {calls : List Call}

/-- What a key can spend is told by what was left when it was last seen. -/
theorem level_allow (l : Limiter ℚ) (key : String) (now later : Instant) :
    (l.answer (.allow key now)).2.level key later =
      min (l.level key now - (if (l.allow key now).1 then 1 else 0) +
        l.settings.refillRate * inSeconds (later.since now)) l.settings.capacity := by
  let refilled := ((l.bucket? key).getD (.full l.settings now)).refill l.settings now
  have bucket : (l.answer (.allow key now)).2.bucket? key = some refilled.take.2 := by
    rw [bucket?_answer, Request.change, if_pos rfl]
  have reckoned : refilled.take.2.reckoned = now := by
    rw [Bucket.take]
    split_ifs <;> rfl
  have left : refilled.take.2.tokens = l.level key now - (if (l.allow key now).1 then 1 else 0) := by
    rw [Bucket.take_tokens, allow_eq_level]
    change (if 1 ≤ l.level key now then l.level key now - 1 else l.level key now) = _
    by_cases enough : 1 ≤ l.level key now <;> simp [enough]
  rw [level, bucket, Option.getD_some, Bucket.refill_tokens, reckoned, left,
    mul_comm]
  rfl

/-- What the key can spend at any reading is what all windows of its latest calls leave it. -/
def Accounts (l : Limiter ℚ) (key : String) (calls : List Call) : Prop :=
  ∀ now x, x ≤ l.level key now ↔ ∀ window, window <:+ calls →
    admittedIn window + x ≤
      l.settings.capacity + l.settings.refillRate * forward (window.map (·.reading) ++ [now])

theorem accounts_fresh (fresh : l.bucket? key = none) : l.Accounts key [] := by
  intro now x
  rw [level_of_not_tracked _ _ _ fresh]
  simp [admittedIn, forward]

/-- A call takes its due from every window so far, and begins one of its own. -/
theorem Accounts.allow (accounts : l.Accounts key calls) (now : Instant) :
    (l.answer (.allow key now)).2.Accounts key (calls ++ [⟨now, (l.allow key now).1⟩]) := by
  intro later x
  let call : Call := ⟨now, (l.allow key now).1⟩
  let spent : ℚ := if (l.allow key now).1 then 1 else 0
  have counted (window : List Call) : (admittedIn (window ++ [call]) : ℚ) = admittedIn window + spent := by
    rw [admittedIn_concat]
    push_cast
    rfl
  have moved (window : List Call) : forward ((window ++ [call]).map (·.reading) ++ [later]) =
      forward (window.map (·.reading) ++ [now]) + inSeconds (later.since now) := by
    rw [List.map_append, List.append_assoc]
    exact forward_concat _ now later
  have before := accounts now (x + spent - l.settings.refillRate * inSeconds (later.since now))
  rw [level_allow, le_min_iff, settings_answer]
  constructor
  · rintro ⟨enough, fits⟩ window latest
    rcases List.suffix_concat_iff.mp latest with rfl | ⟨window, rfl, suffix⟩
    · simpa [admittedIn, forward] using fits
    · have left := before.mp (by linarith) window suffix
      rw [counted, moved, mul_add]
      linarith
  · intro windows
    constructor
    · have left := before.mpr fun window latest => by
        have extended := windows (window ++ [call])
          (List.suffix_concat_iff.mpr (.inr ⟨window, rfl, latest⟩))
        rw [counted, moved, mul_add] at extended
        linarith
      linarith
    · simpa [admittedIn, forward] using windows [] List.nil_suffix

theorem Accounts.congr {m : Limiter ℚ} (accounts : l.Accounts key calls)
    (settings : m.settings = l.settings) (bucket : m.bucket? key = l.bucket? key) : m.Accounts key calls := by
  intro now x
  rw [level_congr key now settings bucket, settings]
  exact accounts now x

/-- The windows of a key's calls account for its bucket throughout a run. -/
theorem Accounts.lawful (accounts : l.Accounts key calls) (spares : l.Spares key requests) :
    Lawful l.settings calls (l.calls key requests) := by
  induction requests generalizing l calls with
  | nil =>
    intro earlier call later split
    cases earlier <;> cases split
  | cons request requests ih =>
    cases asked : request.asks? key with
    | none =>
      rw [calls_of_not_asks asked, ← settings_answer l request]
      exact ih (accounts.congr (settings_answer l request) (bucket?_of_spares spares asked)) spares.tail
    | some now =>
      obtain rfl := Request.asks?_eq_some_iff.mp asked
      have rest := ih (accounts.allow now) spares.tail
      intro earlier call later split
      rw [calls_allow] at split
      cases earlier with
      | nil =>
        cases split
        have admitted : (l.allow key now).1 = true ↔ 1 ≤ l.level key now := by
          rw [allow_eq_level, decide_eq_true_iff]
        simp only [List.append_nil, List.map_append]
        exact admitted.trans (accounts now 1)
      | cons first earlier =>
        obtain ⟨rfl, onward⟩ := List.cons.inj split
        have law := rest earlier call later onward
        rwa [List.append_assoc, settings_answer] at law

end Limiter

end BearerAuth.RateLimit
