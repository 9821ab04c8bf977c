import BearerAuth.Proofs.RateLimit.Exact

/-! # Forgetting idle keys

A key that is forgotten starts again with a full bucket. Where the idle timeout is long enough to fill any
bucket, that is what the key would have had, so a run with sweeps and the run without them admit the same
requests: `Alike` relates the two limiters by what their keys can spend from now on.
-/

namespace BearerAuth.RateLimit

open BearerAuth.Time

/-- The readings of the clock in a run. -/
def readings (requests : List Request) : List Instant := requests.filterMap Request.reading?

/-- The clock never goes back. -/
def Ordered (requests : List Request) : Prop := (readings requests).Pairwise (· ≤ ·)

/-- Any bucket is full after the idle timeout. -/
structure Settings.Fills (settings : Settings ℚ) : Prop where
  capacity : 0 ≤ settings.capacity
  rate : 0 ≤ settings.refillRate
  covers : settings.capacity ≤ settings.refillRate * inSeconds settings.idleTimeout

namespace Limiter

variable {l m : Limiter ℚ} {key : String} {request : Request} {requests : List Request}
  {settings : Settings ℚ}

/-- A bucket that has been idle for longer than the timeout is full. -/
theorem level_of_idle {b : Bucket ℚ} {now later : Instant} (fills : l.settings.Fills)
    (solvent : 0 ≤ b.tokens) (there : l.bucket? key = some b)
    (idle : b.isIdle l.settings now = true) (passed : now ≤ later) :
    l.level key later = l.settings.capacity := by
  have waited : l.settings.idleTimeout ≤ later.since b.reckoned :=
    Nat.le_trans (Nat.le_of_lt (of_decide_eq_true idle)) (since_mono passed b.reckoned)
  have gained : l.settings.capacity ≤ inSeconds (later.since b.reckoned) * l.settings.refillRate :=
    calc l.settings.capacity
      _ ≤ l.settings.refillRate * inSeconds l.settings.idleTimeout := fills.covers
      _ ≤ l.settings.refillRate * inSeconds (later.since b.reckoned) :=
        mul_le_mul_of_nonneg_left (inSeconds_mono waited) fills.rate
      _ = _ := mul_comm ..
  -- What was gained alone is a full bucket, so what it held before does not matter.
  rw [level, there, Option.getD_some, Bucket.refill_tokens]
  exact min_eq_right (le_add_of_nonneg_of_le solvent gained)

/-- A sweep changes nothing of what keys can spend from then on. -/
theorem level_sweep {now later : Instant} (fills : l.settings.Fills) (solvent : l.Solvent)
    (passed : now ≤ later) :
    (l.answer (.sweep now)).2.level key later = l.level key later := by
  have swept : (l.answer (.sweep now)).2.bucket? key =
      (l.bucket? key).filter (!·.isIdle l.settings now) := bucket?_answer ..
  cases there : l.bucket? key with
  | none =>
    rw [there] at swept
    exact level_congr key later rfl (swept.trans there.symm)
  | some b =>
    rw [there] at swept
    cases idle : b.isIdle l.settings now with
    | true =>
      have forgotten : (l.answer (.sweep now)).2.bucket? key = none := by simp [swept, idle]
      rw [level_of_not_tracked _ _ _ forgotten,
        level_of_idle fills (solvent key b there) there idle passed]
      rfl
    | false =>
      have kept : (l.answer (.sweep now)).2.bucket? key = some b := by simp [swept, idle]
      exact level_congr key later rfl (kept.trans there.symm)

/-- The requests that are still to come find as much in each bucket. -/
structure Alike (requests : List Request) (l m : Limiter ℚ) : Prop where
  settings : l.settings = m.settings
  solvent : l.Solvent
  level : ∀ key, ∀ now ∈ readings requests, l.level key now = m.level key now

/-- Asking both for admission leaves them so. -/
theorem Alike.allow {now : Instant} (alike : Alike (.allow key now :: requests) l m)
    (fills : l.settings.Fills) :
    Alike requests (l.answer (.allow key now)).2 (m.answer (.allow key now)).2 where
  settings := alike.settings
  solvent := alike.solvent.answer fills.capacity fills.rate _
  level other later among := by
    by_cases same : other = key
    · -- Both have just reckoned the bucket, and found the same in it.
      subst same
      refine level_congr other later alike.settings ?_
      rw [bucket?_answer, bucket?_answer, Request.change, Request.change, if_pos rfl, if_pos rfl]
      have level := alike.level other now (List.mem_cons_self ..)
      have reckoned {b c : Bucket ℚ} (tokens : b.tokens = c.tokens) (times : b.reckoned = c.reckoned) :
          some b.take.2 = some c.take.2 := by
        rw [show b = c by cases b; cases c; cases tokens; cases times; rfl]
      exact reckoned level rfl
    · -- No other bucket was touched.
      have earlier := alike.level other later (List.mem_cons_of_mem _ among)
      have left (n : Limiter ℚ) : (n.answer (.allow key now)).2.level other later = n.level other later :=
        level_congr other later rfl (by rw [bucket?_answer, Request.change, if_neg same])
      rw [left, left, earlier]

/-- So does a sweep of one of them. -/
theorem Alike.sweep {now : Instant} (alike : Alike (.sweep now :: requests) l m)
    (ordered : Ordered (.sweep now :: requests)) (fills : l.settings.Fills) :
    Alike requests (l.answer (.sweep now)).2 m where
  settings := alike.settings
  solvent := alike.solvent.answer fills.capacity fills.rate _
  level key later among := by
    -- A forgotten key is full only from the sweep on, so no reading to come may lie before it.
    have passed : now ≤ later := (List.pairwise_cons.mp ordered).1 later among
    rw [level_sweep fills alike.solvent passed]
    exact alike.level key later (List.mem_cons_of_mem _ among)

/-- Limiters that are alike admit the same requests, with sweeps and without. -/
theorem Alike.admissions (alike : Alike requests l m) (ordered : Ordered requests)
    (fills : l.settings.Fills) :
    l.admissions requests = m.admissions (requests.filter (!·.isSweep)) := by
  induction requests generalizing l m with
  | nil => rfl
  | cons request requests ih =>
    cases request with
    | allow key now =>
      rw [List.filter_cons_of_pos (by rfl), admissions_cons, admissions_cons,
        ih (alike.allow fills) (List.pairwise_cons.mp ordered).2 fills]
      have level := alike.level key now (List.mem_cons_self ..)
      simp only [answer, Step.admission?, allow_eq_level, level]
    | tokens key =>
      rw [List.filter_cons_of_pos (by rfl), admissions_cons, admissions_cons]
      exact congrArg _ (ih ⟨alike.settings, alike.solvent, alike.level⟩ ordered fills)
    | sweep now =>
      rw [List.filter_cons_of_neg (by simp [Request.isSweep]), admissions_cons]
      exact ih (alike.sweep ordered fills) (List.pairwise_cons.mp ordered).2 fills

/-- Where a full bucket holds less than one, nothing is ever admitted. -/
theorem admissions_of_small (small : l.settings.capacity < 1) (small' : m.settings.capacity < 1)
    (requests : List Request) :
    l.admissions requests = m.admissions (requests.filter (!·.isSweep)) := by
  have refused {n : Limiter ℚ} (small : n.settings.capacity < 1) (key : String) (now : Instant) :
      (n.allow key now).1 = false := by
    rw [allow_eq_level]
    exact decide_eq_false (not_le_of_gt (lt_of_le_of_lt (n.level_le_capacity key now) small))
  induction requests generalizing l m with
  | nil => rfl
  | cons request requests ih =>
    have next {n : Limiter ℚ} (small : n.settings.capacity < 1) :
        (n.answer request).2.settings.capacity < 1 := by rwa [settings_answer]
    cases request with
    | allow key now =>
      rw [List.filter_cons_of_pos (by rfl), admissions_cons, admissions_cons, ih (next small) (next small')]
      simp only [answer, Step.admission?, refused small, refused small']
    | tokens key =>
      rw [List.filter_cons_of_pos (by rfl), admissions_cons, admissions_cons, ih (next small) (next small')]
      rfl
    | sweep now =>
      rw [List.filter_cons_of_neg (by simp [Request.isSweep]), admissions_cons, ih (next small) small']
      rfl

/-- If a bucket fills within the idle timeout, sweeps at any points of a run whose clock never goes back
leave every answer to a request for admission as it is without them. -/
theorem admissions_unswept (settings : Settings ℚ)
    (covers : settings.capacity ≤ settings.refillRate * inSeconds settings.idleTimeout)
    (requests : List Request) (ordered : Ordered requests) :
    (new settings).admissions requests = (new settings).admissions (requests.filter (!·.isSweep)) := by
  -- `Fills` needs a rate that is not negative, which `covers` gives only where a bucket holds something.
  rcases lt_or_ge settings.capacity 1 with small | enough
  · exact admissions_of_small small small requests
  · have filled : 0 < settings.refillRate * inSeconds settings.idleTimeout :=
      lt_of_lt_of_le one_pos (enough.trans covers)
    have fills : settings.Fills :=
      ⟨zero_le_one.trans enough, (pos_of_mul_pos_left filled (inSeconds_nonneg _)).le, covers⟩
    have alike : Alike requests (new settings) (new settings) :=
      ⟨rfl, solvent_new settings, fun _ _ _ => rfl⟩
    exact alike.admissions ordered fills

/-- Two requests that empty a bucket, a sweep that forgets it once it is full again, and a burst. -/
def forgetful : List Request :=
  let later := Instant.epoch.advance (.ofSeconds 3)
  [.allow "key" .epoch, .allow "key" .epoch, .sweep later, .allow "key" later, .allow "key" later,
    .allow "key" later]

theorem admissions_forgetful :
    let settings : Settings ℚ := ⟨2, 1, .ofSeconds 2, .ofSeconds 1⟩
    (2 : ℚ) ≤ 1 * inSeconds (.ofSeconds 2) ∧ Ordered forgetful ∧ (new settings).forgotten forgetful = 1 ∧
      (new settings).admissions forgetful =
        (new settings).admissions (forgetful.filter (!·.isSweep)) :=
  have covers : (2 : ℚ) ≤ 1 * inSeconds (.ofSeconds 2) := by decide +kernel
  have ordered : Ordered forgetful := by rw [Ordered]; decide +kernel
  ⟨covers, ordered, by decide +kernel, admissions_unswept _ covers _ ordered⟩

end Limiter

end BearerAuth.RateLimit
