import BearerAuth.Proofs.RateLimit.Windows

/-! # Clocks that go back

A step back of the clock refills nothing by itself, but the bucket is reckoned at the earlier reading, so
that the way forward again counts as if that time had not been seen before. What a key gets is bounded by
how far its clock ran forward in all, which is how far it came and how far it went back on the way. A clock
that swings between two readings fills the bucket at every swing.
-/

namespace BearerAuth.RateLimit

open BearerAuth.Time

theorem forward_nonneg (readings : List Instant) : 0 ≤ forward readings := by
  induction readings with
  | nil => exact le_rfl
  | cons s readings ih =>
    cases readings with
    | nil => exact le_rfl
    | cons t readings => exact add_nonneg (inSeconds_nonneg _) ih

/-- A clock that goes on runs no less far forward. -/
theorem forward_le_append (readings later : List Instant) :
    forward readings ≤ forward (readings ++ later) := by
  induction readings with
  | nil => exact forward_nonneg later
  | cons s readings ih =>
    cases readings with
    | nil => exact forward_nonneg _
    | cons t readings =>
      simp only [List.cons_append, forward] at ih ⊢
      linarith

/-- From its first reading a clock gets forward to where it came, and by all that it went back. -/
theorem forward_le {readings : List Instant} {first latest : Instant} (begins : readings.head? = some first)
    (within : ∀ t ∈ readings, t ≤ latest) :
    forward readings ≤ secondsAt latest - secondsAt first + backward readings := by
  obtain ⟨last, ends⟩ : ∃ last, readings.getLast? = some last := by
    cases readings with
    | nil => cases begins
    | cons s readings => exact ⟨_, List.getLast?_cons⟩
  have reached := secondsAt_le_iff.mpr (within last (List.mem_of_getLast? ends))
  rw [forward_eq begins ends]
  linarith

/-- What is admitted comes out of one full bucket and what comes in while the clock runs forward. -/
theorem Lawful.admittedIn_le {settings : Settings ℚ} {calls : List Call}
    (lawful : Lawful settings [] calls) (capacity : 0 ≤ settings.capacity)
    (rate : 0 ≤ settings.refillRate) : (admittedIn calls : ℚ) ≤
      settings.capacity + settings.refillRate * forward (calls.map (·.reading)) := by
  refine countP_le_of_last (add_nonneg capacity (mul_nonneg rate (forward_nonneg _))) ?_
  intro earlier call later split admitted
  have left := (lawful earlier call later split).mp admitted earlier List.suffix_rfl
  have longer : forward ((earlier ++ [call]).map (·.reading)) ≤ forward (calls.map (·.reading)) := by
    have parts : calls.map (·.reading) =
        (earlier ++ [call]).map (·.reading) ++ later.map (·.reading) := by
      rw [← List.map_append, split, List.append_cons]
    rw [parts]
    exact forward_le_append _ _
  have gained := mul_le_mul_of_nonneg_left longer rate
  change (admittedIn earlier : ℚ) + 1 ≤ _
  linarith

/-- Requests for admission by a clock that goes back from a reading to an earlier one and returns, so many
times. -/
def swings (key : String) (early late : Instant) : Nat → List Request
  | 0 => [.allow key late]
  | n + 1 => .allow key late :: .allow key early :: swings key early late n

variable {key : String} {early late : Instant} {n : Nat}

theorem mem_swings {request : Request} (member : request ∈ swings key early late n) :
    request = .allow key early ∨ request = .allow key late := by
  induction n with
  | zero => exact .inr (List.mem_singleton.mp member)
  | succ n ih =>
    rcases List.mem_cons.mp member with first | member
    · exact .inr first
    rcases List.mem_cons.mp member with second | member
    · exact .inl second
    · exact ih member

theorem isSweep_of_mem_swings {request : Request} (member : request ∈ swings key early late n) :
    request.isSweep = false := by
  rcases mem_swings member with rfl | rfl <;> rfl

theorem head_askedAt_swings (key : String) (early late : Instant) (n : Nat) :
    (askedAt key (swings key early late n)).head? = some late := by
  cases n <;> simp [swings, askedAt, Request.asks?]

theorem mem_askedAt_swings {t : Instant} (member : t ∈ askedAt key (swings key early late n)) :
    t = early ∨ t = late := by
  obtain ⟨request, among, asks⟩ := List.mem_filterMap.mp member
  obtain rfl := Request.asks?_eq_some_iff.mp asks
  exact (mem_swings among).imp (fun same => (Request.allow.inj same).2) fun same =>
    (Request.allow.inj same).2

namespace Limiter

variable {l : Limiter ℚ}

/-- A key whose clock goes back and returns can spend again what the way forward brings. -/
theorem Solvent.level_returned (solvent : l.Solvent) (capacity : 1 ≤ l.settings.capacity)
    (rate : 0 ≤ l.settings.refillRate)
    (gain : 1 ≤ l.settings.refillRate * (secondsAt late - secondsAt early)) :
    1 ≤ (l.answer (.allow key early)).2.level key late := by
  have held := solvent.level_nonneg (zero_le_one.trans capacity) rate key early
  have left : 0 ≤ l.level key early - (if (l.allow key early).1 then 1 else 0) := by
    rw [allow_eq_level]
    split_ifs with enough
    · exact sub_nonneg.mpr (of_decide_eq_true enough)
    · simpa using held
  have moved := since_sub_since early late
  have back := inSeconds_nonneg (early.since late)
  have gained : l.settings.refillRate * (secondsAt late - secondsAt early) ≤
      l.settings.refillRate * inSeconds (late.since early) :=
    mul_le_mul_of_nonneg_left (by linarith) rate
  rw [level_allow]
  exact le_min (by linarith) capacity

/-- A call is admitted or not, and the calls after it are answered by what it leaves. -/
theorem admittedIn_calls_allow (l : Limiter ℚ) (key : String) (now : Instant) (requests : List Request) :
    admittedIn (l.calls key (.allow key now :: requests)) =
      admittedIn ((l.answer (.allow key now)).2.calls key requests) +
        if 1 ≤ l.level key now then 1 else 0 := by
  rw [calls_allow, admittedIn, List.countP_cons, allow_eq_level]
  simp only [decide_eq_true_eq]
  rfl

/-- Each return of the clock is a request admitted. -/
theorem Solvent.swings_admitted (solvent : l.Solvent) (capacity : 1 ≤ l.settings.capacity)
    (rate : 0 ≤ l.settings.refillRate)
    (gain : 1 ≤ l.settings.refillRate * (secondsAt late - secondsAt early))
    (enough : 1 ≤ l.level key late) (n : Nat) :
    n < admittedIn (l.calls key (swings key early late n)) := by
  induction n generalizing l with
  | zero =>
    rw [swings, admittedIn_calls_allow, if_pos enough]
    exact Nat.succ_pos _
  | succ n ih =>
    let left := (l.answer (.allow key late)).2
    let returned := (left.answer (.allow key early)).2
    have kept : left.settings = l.settings := settings_answer l _
    have kept' : returned.settings = l.settings := (settings_answer left _).trans kept
    have nonneg : 0 ≤ l.settings.capacity := zero_le_one.trans capacity
    have leftSolvent : left.Solvent := solvent.answer nonneg rate _
    have returnedSolvent : returned.Solvent := leftSolvent.answer (by rwa [kept]) (by rwa [kept]) _
    have again : 1 ≤ returned.level key late :=
      leftSolvent.level_returned (by rwa [kept]) (by rwa [kept]) (by rwa [kept])
    have rest : n < admittedIn (returned.calls key (swings key early late n)) :=
      ih returnedSolvent (by rwa [kept']) (by rwa [kept']) (by rwa [kept']) again
    rw [swings, admittedIn_calls_allow, admittedIn_calls_allow, if_pos enough]
    exact Nat.succ_lt_succ (rest.trans_le (Nat.le_add_right ..))

/-- By a clock that may go back, a call on a key is admitted exactly if with it every window of the key's
calls stays within capacity and what comes in while the clock runs forward during the window. All calls
together stay within capacity and what comes in from the first reading to the latest, and again in as much
time as the clock went back, if it did. That much is not an overestimate: a clock that swings between two
readings has a request admitted at each return, however often it does. -/
theorem admits_by_forward_time (settings : Settings ℚ) (capacity : 1 ≤ settings.capacity)
    (rate : 0 ≤ settings.refillRate) (key : String) :
    (∀ requests, (new settings).Spares key requests →
      let calls := (new settings).calls key requests
      let asked := askedAt key requests
      (∀ n (reached : n < calls.length), calls[n].admitted = true ↔ ∀ m, m ≤ n →
        (admittedIn (between calls m n) : ℚ) + 1 ≤ settings.capacity +
          settings.refillRate * forward ((between calls m (n + 1)).map (·.reading))) ∧
      ∀ first latest, asked.head? = some first → (∀ t ∈ asked, t ≤ latest) →
        (admittedIn calls : ℚ) ≤ settings.capacity +
          settings.refillRate * (secondsAt latest - secondsAt first + backward asked) ∧
        (asked.Pairwise (· ≤ ·) → (admittedIn calls : ℚ) ≤ settings.capacity +
          settings.refillRate * (secondsAt latest - secondsAt first))) ∧
    ∀ early late, 1 ≤ settings.refillRate * (secondsAt late - secondsAt early) → ∀ n,
      (new settings).Spares key (swings key early late n) ∧
      (askedAt key (swings key early late n)).head? = some late ∧
      (∀ t ∈ askedAt key (swings key early late n), t ≤ late) ∧
      n < admittedIn ((new settings).calls key (swings key early late n)) := by
  have nonneg : 0 ≤ settings.capacity := zero_le_one.trans capacity
  constructor
  · intro requests spares calls asked
    have lawful : Lawful settings [] calls := (accounts_fresh (bucket?_new settings key)).lawful spares
    refine ⟨fun n reached => lawful.admitted_iff reached, fun first latest begins within => ?_⟩
    have bounded := lawful.admittedIn_le nonneg rate
    rw [reading_calls] at bounded
    have ran : forward asked ≤ secondsAt latest - secondsAt first + backward asked :=
      forward_le begins within
    have gained := mul_le_mul_of_nonneg_left ran rate
    refine ⟨by linarith, fun ordered => ?_⟩
    rw [backward_of_ordered ordered, add_zero] at gained
    linarith
  · intro early late gain n
    have ahead : 0 < secondsAt late - secondsAt early :=
      pos_of_mul_pos_right (one_pos.trans_le gain) rate
    have later : early ≤ late := secondsAt_le_iff.mp (sub_pos.mp ahead).le
    refine ⟨spares_of_no_sweep fun request => isSweep_of_mem_swings, head_askedAt_swings ..,
      fun t member => ?_, ?_⟩
    · rcases mem_askedAt_swings member with rfl | rfl
      · exact later
      · exact Int.le_refl _
    · have full : (new settings).level key late = settings.capacity :=
        level_of_not_tracked _ _ _ (bucket?_new settings key)
      exact (solvent_new settings).swings_admitted capacity rate gain (full ▸ capacity) n

/-- A bucket of one that fills in a second is spent twice at one reading, when the clock went back ten
seconds in between. -/
theorem admits_by_forward_time_twice :
    let settings : Settings ℚ := ⟨1, 1, .ofSeconds 60, .ofSeconds 10⟩
    let late := Instant.epoch.advance (.ofSeconds 10)
    let run := swings "key" .epoch late 1
    1 ≤ settings.capacity ∧ 0 ≤ settings.refillRate ∧
      1 ≤ settings.refillRate * (secondsAt late - secondsAt .epoch) ∧ (new settings).Spares "key" run ∧
      ((new settings).calls "key" run).map (·.admitted) = [true, false, true] ∧
      1 < admittedIn ((new settings).calls "key" run) ∧
      (admittedIn ((new settings).calls "key" run) : ℚ) ≤ settings.capacity +
        settings.refillRate * (secondsAt late - secondsAt late + backward (askedAt "key" run)) := by
  intro settings late run
  have capacity : 1 ≤ settings.capacity := le_rfl
  have rate : 0 ≤ settings.refillRate := zero_le_one
  have gain : 1 ≤ settings.refillRate * (secondsAt late - secondsAt .epoch) := by decide +kernel
  obtain ⟨bounds, gains⟩ := admits_by_forward_time settings capacity rate "key"
  obtain ⟨spares, begins, reached, admitted⟩ := gains .epoch late gain 1
  exact ⟨capacity, rate, gain, spares, by decide +kernel, admitted,
    ((bounds run spares).2 late late begins reached).1⟩

end Limiter

end BearerAuth.RateLimit
