import BearerAuth.Proofs.RateLimit.Windows
import Mathlib.Data.List.TakeWhile

/-! # The law of a token bucket

While the clock does not go back, a key is admitted exactly as long as no stretch of time gets more than
capacity and what comes in during it. So every stretch stays within that bound, and a call is refused only
if it would have broken the bound of some stretch that ends with it.
-/

namespace BearerAuth.RateLimit

open BearerAuth.Time

/-- The calls from one time to another, both in seconds and both included. -/
def within (calls : List Call) (start stop : ℚ) : List Call :=
  calls.filter fun call => start ≤ secondsAt call.reading ∧ secondsAt call.reading ≤ stop

/-- The calls were made at readings that never go back. -/
def InOrder (calls : List Call) : Prop := (calls.map (·.reading)).Pairwise (· ≤ ·)

variable {settings : Settings ℚ} {calls : List Call}

/-- The calls from the first one on that is not made before a time. -/
def callsFrom (start : ℚ) (calls : List Call) : List Call :=
  calls.dropWhile fun call => secondsAt call.reading < start

theorem callsFrom_suffix (start : ℚ) (calls : List Call) : callsFrom start calls <:+ calls :=
  List.dropWhile_suffix _

/-- No call of a stretch of time is made before the first one that is not before the stretch. -/
theorem admittedIn_within_le (start stop : ℚ) (calls : List Call) :
    admittedIn (within calls start stop) ≤ admittedIn (callsFrom start calls) := by
  let early (call : Call) : Bool := secondsAt call.reading < start
  have none : within (calls.takeWhile early) start stop = [] := by
    refine List.filter_eq_nil_iff.mpr fun call member => ?_
    have early : early call = true := List.mem_takeWhile_imp member
    have before : secondsAt call.reading < start := of_decide_eq_true early
    simp [not_le.mpr before]
  have parts : within calls start stop = within (callsFrom start calls) start stop := by
    conv_lhs => rw [← calls.takeWhile_append_dropWhile (p := early), within, List.filter_append]
    exact congrArg (· ++ _) none
  rw [parts]
  exact List.filter_sublist.countP_le

/-- The readings from a time up to a call begin at that time or later. -/
theorem head_callsFrom {start : ℚ} {call : Call} (begun : start ≤ secondsAt call.reading)
    (calls : List Call) : ∃ s, ((callsFrom start calls ++ [call]).map (·.reading)).head? = some s ∧
      start ≤ secondsAt s := by
  cases found : callsFrom start calls with
  | nil => exact ⟨call.reading, rfl, begun⟩
  | cons first rest =>
    refine ⟨first.reading, rfl, ?_⟩
    have head := calls.head?_dropWhile_not fun call => secondsAt call.reading < start
    rw [show calls.dropWhile _ = first :: rest from found] at head
    exact not_lt.mp (of_decide_eq_false head)

/-- During orderly calls a clock runs forward by the difference of its readings. -/
theorem InOrder.forward_eq (ordered : InOrder calls) {window : List Call} (among : window.Sublist calls)
    {s t : Instant} (first : (window.map (·.reading)).head? = some s)
    (last : (window.map (·.reading)).getLast? = some t) :
    forward (window.map (·.reading)) = secondsAt t - secondsAt s := by
  rw [RateLimit.forward_eq first last, backward_of_ordered (ordered.sublist (among.map _)), add_zero]

theorem Lawful.within_le (lawful : Lawful settings [] calls) (ordered : InOrder calls)
    (capacity : 0 ≤ settings.capacity) (rate : 0 ≤ settings.refillRate) (start : ℚ) {length : ℚ}
    (lasting : 0 ≤ length) : (admittedIn (within calls start (start + length)) : ℚ) ≤
      settings.capacity + settings.refillRate * length := by
  rw [admittedIn, within, List.countP_filter]
  refine countP_le_of_last (add_nonneg capacity (mul_nonneg rate lasting)) ?_
  intro earlier call later split counts
  simp only [Bool.and_eq_true, decide_eq_true_eq] at counts
  obtain ⟨admitted, begun, ended⟩ := counts
  -- The window that begins with the stretch has all that counts so far, and takes no longer.
  have left := (lawful earlier call later split).mp admitted _ (callsFrom_suffix start earlier)
  have counted := admittedIn_within_le start (start + length) earlier
  rw [admittedIn, within, List.countP_filter, ← Nat.cast_le (α := ℚ)] at counted
  obtain ⟨s, first, late⟩ := head_callsFrom begun earlier
  have among : (callsFrom start earlier ++ [call]).Sublist calls := by
    have one : [call].Sublist (call :: later) := List.singleton_sublist.mpr (List.mem_cons_self ..)
    rw [split]
    exact (callsFrom_suffix start earlier).sublist.append one
  have took : forward ((callsFrom start earlier ++ [call]).map (·.reading)) ≤ length := by
    have last : ((callsFrom start earlier ++ [call]).map (·.reading)).getLast? = some call.reading := by
      simp
    rw [ordered.forward_eq among first last]
    linarith
  have gained := mul_le_mul_of_nonneg_left took rate
  linarith

/-- The readings of a window that ends with a call are those from its first one to that of the call. -/
theorem InOrder.forward_between (ordered : InOrder calls) {m n : Nat} (started : m ≤ n)
    (reached : n < calls.length) : forward ((between calls m (n + 1)).map (·.reading)) =
      secondsAt calls[n].reading - secondsAt calls[m].reading := by
  have first : ((between calls m (n + 1)).map (·.reading)).head? = some calls[m].reading := by
    simp [between, List.head?_drop, Nat.lt_succ_of_le started,
      List.getElem?_eq_getElem (Nat.lt_of_le_of_lt started reached)]
  have last : ((between calls m (n + 1)).map (·.reading)).getLast? = some calls[n].reading := by
    simp [between_succ calls started reached]
  have among : (between calls m (n + 1)).Sublist calls :=
    (List.drop_sublist m _).trans (List.take_sublist _ calls)
  exact ordered.forward_eq among first last

theorem InOrder.seconds_mono (ordered : InOrder calls) {i j : Nat} (before : i ≤ j)
    (reached : j < calls.length) : secondsAt calls[i].reading ≤ secondsAt calls[j].reading := by
  rcases Nat.lt_or_eq_of_le before with before | rfl
  · have passed :=
      List.pairwise_iff_getElem.mp ordered i j (by simp; omega) (by simpa using reached) before
    simp only [List.getElem_map] at passed
    exact secondsAt_le_iff.mpr passed
  · exact le_rfl

/-- The calls of a window are made between its first reading and the one it ends with. -/
theorem InOrder.admittedIn_between_le (ordered : InOrder calls) {m n : Nat} (started : m ≤ n)
    (reached : n < calls.length) : admittedIn (between calls m n) ≤
      admittedIn (within (calls.take n) (secondsAt calls[m].reading) (secondsAt calls[n].reading)) := by
  have whole : (between calls m n).filter (fun call => secondsAt calls[m].reading ≤ secondsAt call.reading ∧
      secondsAt call.reading ≤ secondsAt calls[n].reading) = between calls m n := by
    refine List.filter_eq_self.mpr fun call member => ?_
    obtain ⟨k, inside, rfl⟩ := List.getElem_of_mem member
    simp only [between, List.length_drop, List.length_take] at inside
    simp only [between, List.getElem_drop, List.getElem_take, decide_eq_true_eq]
    exact ⟨ordered.seconds_mono (by omega) (by omega), ordered.seconds_mono (by omega) reached⟩
  rw [← whole]
  exact ((List.drop_sublist m _).filter _).countP_le

namespace Limiter

/-- While the clock does not go back, a call on a key is admitted exactly if with it every window of the
key's calls stays within capacity and what comes in during the window. So every stretch of time stays
within that bound, and a call that is refused would have broken the bound of a stretch that ends with it. -/
theorem admits_as_token_bucket (settings : Settings ℚ) (capacity : 0 ≤ settings.capacity)
    (rate : 0 ≤ settings.refillRate) (key : String) (requests : List Request)
    (spares : (new settings).Spares key requests)
    (ordered : (askedAt key requests).Pairwise (· ≤ ·)) :
    let calls := (new settings).calls key requests
    (∀ n (reached : n < calls.length), calls[n].admitted = true ↔ ∀ m (started : m ≤ n),
      (admittedIn (between calls m n) : ℚ) + 1 ≤ settings.capacity +
        settings.refillRate * (secondsAt calls[n].reading - secondsAt calls[m].reading)) ∧
    (∀ start length : ℚ, 0 ≤ length → (admittedIn (within calls start (start + length)) : ℚ) ≤
      settings.capacity + settings.refillRate * length) ∧
    ∀ n (reached : n < calls.length), calls[n].admitted = false → ∃ start length : ℚ, 0 ≤ length ∧
      start + length = secondsAt calls[n].reading ∧
      settings.capacity + settings.refillRate * length <
        admittedIn (within (calls.take n) start (start + length)) + 1 := by
  intro calls
  have inOrder : InOrder calls := by
    rw [InOrder, reading_calls]
    exact ordered
  have lawful : Lawful settings [] calls := (accounts_fresh (bucket?_new settings key)).lawful spares
  have law (n : Nat) (reached : n < calls.length) : calls[n].admitted = true ↔ ∀ m (started : m ≤ n),
      (admittedIn (between calls m n) : ℚ) + 1 ≤ settings.capacity +
        settings.refillRate * (secondsAt calls[n].reading - secondsAt calls[m].reading) := by
    rw [lawful.admitted_iff reached]
    exact forall₂_congr fun m started => by rw [inOrder.forward_between started reached]
  refine ⟨law, fun start length => lawful.within_le inOrder capacity rate start, ?_⟩
  intro n reached refused
  have broken := (law n reached).not.mp (by simp [refused])
  push Not at broken
  obtain ⟨m, started, broken⟩ := broken
  have counted := inOrder.admittedIn_between_le started reached
  rw [← Nat.cast_le (α := ℚ)] at counted
  refine ⟨secondsAt calls[m].reading, secondsAt calls[n].reading - secondsAt calls[m].reading,
    sub_nonneg.mpr (inOrder.seconds_mono started reached), add_sub_cancel _ _, ?_⟩
  rw [add_sub_cancel]
  linarith

/-- Requests of two keys, looked at and swept in between, with a bucket that fills by half a request a
second. -/
def shared : List Request :=
  let later := Instant.epoch.advance (.ofSeconds 1)
  let last := Instant.epoch.advance (.ofSeconds 2)
  [.allow "key" .epoch, .allow "other" .epoch, .allow "key" .epoch, .tokens "key", .allow "key" later,
    .sweep later, .allow "key" last]

theorem admits_as_token_bucket_shared :
    let settings : Settings ℚ := ⟨2, 1 / 2, .ofSeconds 60, .ofSeconds 1⟩
    let calls := (new settings).calls "key" shared
    0 ≤ settings.capacity ∧ 0 ≤ settings.refillRate ∧ (new settings).Spares "key" shared ∧
      (askedAt "key" shared).Pairwise (· ≤ ·) ∧ calls.map (·.admitted) = [true, true, false, true] ∧
      admittedIn (within calls 0 (0 + 2)) = 3 ∧
      (admittedIn (within calls 0 (0 + 2)) : ℚ) ≤ settings.capacity + settings.refillRate * 2 := by
  intro settings calls
  have capacity : 0 ≤ settings.capacity := zero_le_two
  have rate : 0 ≤ settings.refillRate := by norm_num
  have spares : (new settings).Spares "key" shared := by rw [Spares]; decide +kernel
  have ordered : (askedAt "key" shared).Pairwise (· ≤ ·) := by decide +kernel
  obtain ⟨-, bounded, -⟩ := admits_as_token_bucket settings capacity rate "key" shared spares ordered
  exact ⟨capacity, rate, spares, ordered, by decide +kernel, by decide +kernel, bounded 0 2 zero_le_two⟩

end Limiter

end BearerAuth.RateLimit
