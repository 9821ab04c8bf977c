import BearerAuth.Proofs.RateLimit.Runs
import Mathlib.Algebra.Order.Field.Rat
import Mathlib.Tactic.Linarith
import Mathlib.Tactic.Positivity
import Mathlib.Tactic.Ring

/-! # Limiters that count exactly

Doubles round. What a limiter does apart from that is what it does with exact numbers, where the content
of a bucket is a quantity that can be reasoned about: `Limiter.level` is what a key could spend at some
reading, and admission takes one from it or is refused for want of one.
-/

namespace BearerAuth.RateLimit

open BearerAuth.Time

/-- Exact numbers, with the operations of doubles. -/
instance : Quantity ℚ where
  one := 1
  atMost := min
  reachesOne x := 1 ≤ x
  ofDuration d := d.seconds + d.subsecNanos / 1000000000

/-- A length of time in seconds. -/
def inSeconds (d : Duration) : ℚ := Quantity.ofDuration d

theorem inSeconds_eq (d : Duration) : inSeconds d = d.nanos / 1000000000 := by
  have parts : d.nanos = d.seconds * 1000000000 + d.subsecNanos :=
    congrArg Duration.nanos d.ofParts_eta.symm
  change (d.seconds : ℚ) + (d.subsecNanos : ℚ) / 1000000000 = _
  rw [parts]
  push_cast
  ring

theorem inSeconds_nonneg (d : Duration) : 0 ≤ inSeconds d := by
  rw [inSeconds_eq]
  positivity

theorem inSeconds_mono {d e : Duration} (shorter : d ≤ e) : inSeconds d ≤ inSeconds e := by
  rw [inSeconds_eq, inSeconds_eq]
  have fewer : (d.nanos : ℚ) ≤ e.nanos := Nat.cast_le.mpr shorter
  linarith

theorem inSeconds_since_self (now : Instant) : inSeconds (now.since now) = 0 := by
  simp [inSeconds_eq, Instant.since]

theorem since_mono {now later : Instant} (passed : now ≤ later) (earlier : Instant) :
    now.since earlier ≤ later.since earlier := by
  have nanos : now.nanos ≤ later.nanos := passed
  change (now.nanos - earlier.nanos).toNat ≤ (later.nanos - earlier.nanos).toNat
  omega

namespace Bucket

variable (b : Bucket ℚ)

theorem refill_tokens (settings : Settings ℚ) (now : Instant) : (b.refill settings now).tokens =
    min (b.tokens + inSeconds (now.since b.reckoned) * settings.refillRate) settings.capacity := rfl

theorem take_tokens :
    b.take.2.tokens = if 1 ≤ b.tokens then b.tokens - 1 else b.tokens := by
  by_cases enough : 1 ≤ b.tokens
  · have reaches : Quantity.reachesOne b.tokens = true := decide_eq_true enough
    rw [take, if_pos reaches, if_pos enough]
    rfl
  · have short : Quantity.reachesOne b.tokens = false := decide_eq_false enough
    rw [take, short, if_neg Bool.false_ne_true, if_neg enough]

theorem take_admitted : b.take.1 = decide (1 ≤ b.tokens) := by
  change b.take.1 = Quantity.reachesOne b.tokens
  rw [take]
  split_ifs with reaches
  · exact reaches.symm
  · exact (Bool.eq_false_of_not_eq_true reaches).symm

end Bucket

namespace Limiter

variable (l : Limiter ℚ) (key : String) (now : Instant)

/-- What the bucket of a key holds when it is reckoned at that reading. -/
def level (l : Limiter ℚ) (key : String) (now : Instant) : ℚ :=
  (((l.bucket? key).getD (.full l.settings now)).refill l.settings now).tokens

/-- A request is admitted if there is one to spend. -/
theorem allow_eq_level : (l.allow key now).1 = decide (1 ≤ l.level key now) :=
  Bucket.take_admitted _

theorem level_le_capacity : l.level key now ≤ l.settings.capacity := min_le_right ..

/-- A key that is not remembered has a full bucket. -/
theorem level_of_not_tracked (untracked : l.bucket? key = none) :
    l.level key now = l.settings.capacity := by
  rw [level, untracked, Option.getD_none, Bucket.refill_tokens]
  simp [Bucket.full, inSeconds_since_self]

/-- What a key can spend is told by the settings and by its bucket. -/
theorem level_congr {l m : Limiter ℚ} (settings : l.settings = m.settings)
    (bucket : l.bucket? key = m.bucket? key) : l.level key now = m.level key now := by
  rw [level, level, settings, bucket]

/-- No bucket is in debt. -/
def Solvent (l : Limiter ℚ) : Prop := ∀ key b, l.bucket? key = some b → 0 ≤ b.tokens

theorem solvent_new (settings : Settings ℚ) : (new settings).Solvent := fun key b there => by
  rw [bucket?_new] at there
  cases there

variable {l}

/-- Reckoning finds no debt. -/
theorem Solvent.level_nonneg (solvent : l.Solvent) (capacity : 0 ≤ l.settings.capacity)
    (rate : 0 ≤ l.settings.refillRate) (key : String) (now : Instant) : 0 ≤ l.level key now := by
  -- The key is new and starts full, or its bucket was not in debt.
  have held : 0 ≤ ((l.bucket? key).getD (.full l.settings now)).tokens := by
    cases known : l.bucket? key with
    | none => exact capacity
    | some b => exact solvent key b known
  have gained := mul_nonneg (inSeconds_nonneg
    (now.since ((l.bucket? key).getD (.full l.settings now)).reckoned)) rate
  exact le_min (add_nonneg held gained) capacity

/-- Reckoning and spending leave no debt, and forgetting adds none. -/
theorem Solvent.answer (solvent : l.Solvent) (capacity : 0 ≤ l.settings.capacity)
    (rate : 0 ≤ l.settings.refillRate) (request : Request) : (l.answer request).2.Solvent := by
  intro key b there
  rw [bucket?_answer] at there
  cases request with
  | allow asked now =>
    simp only [Request.change] at there
    split_ifs at there
    · cases there
      have refilled := solvent.level_nonneg capacity rate key now
      rw [Bucket.take_tokens]
      split_ifs with enough
      · linarith
      · exact refilled
    · exact solvent key b there
  | tokens asked => exact solvent key b there
  | sweep now => exact solvent key b (Option.filter_eq_some_iff.mp there).1

end Limiter

end BearerAuth.RateLimit
