import BearerAuth.Proofs.Cache.Entries
import Mathlib.Data.List.Induction
import Mathlib.Data.List.Perm.Subperm

/-! # A cache in memory as a map

Expired entries stay in the cache until they are read or purged, and are counted while they stay. On the
`sheet` of a run nothing lingers: it has for every key the value that was last set and the last nanosecond
that value is visible in. Cache and sheet are compared on what is visible from some reading on, `Shows`:
one event keeps that up, and so does a run.
-/

namespace BearerAuth

open BearerAuth.Time

namespace MemoryCache

/-! ## Runs -/

/-- What may happen to a cache in memory, at a reading of the clock. -/
inductive Event where
  | call (now : Instant) (call : CacheCall)
  | purge (now : Instant)
deriving DecidableEq

namespace Event

/-- The reading of the clock. -/
def now : Event → Instant
  | call now _ => now
  | purge now => now

/-- The event sets or evicts, so it is more than a look or a purge. -/
def writes : Event → Bool
  | call _ (.set ..) => true
  | call _ (.evict ..) => true
  | call _ (.evictArea ..) => true
  | _ => false

/-- The clock was never put back, neither between the events nor before the present reading. -/
def InOrder (events : List Event) (now : Instant) : Prop :=
  (events.map Event.now ++ [now]).Pairwise (· ≤ ·)

instance (events : List Event) (now : Instant) : Decidable (InOrder events now) :=
  inferInstanceAs (Decidable (List.Pairwise _ _))

end Event

/-- The cache after an event. -/
def handle (c : MemoryCache) : Event → MemoryCache
  | .call now call => (c.perform now call).2
  | .purge now => (c.purge now).2

/-- The cache after some events. -/
def after (c : MemoryCache) (events : List Event) : MemoryCache := events.foldl handle c

theorem after_concat (c : MemoryCache) (events : List Event) (event : Event) :
    c.after (events ++ [event]) = (c.after events).handle event := by
  simp [after]

theorem Event.inOrder_concat {events : List Event} {event : Event} {now : Instant}
    (ordered : InOrder (events ++ [event]) now) : InOrder events event.now ∧ event.now ≤ now := by
  rw [InOrder, List.map_append, List.append_assoc] at ordered
  obtain ⟨earlier, last, across⟩ := List.pairwise_append.mp ordered
  constructor
  · refine List.pairwise_append.mpr ⟨earlier, List.pairwise_singleton _ _, ?_⟩
    intro reading member other same
    obtain rfl := List.mem_singleton.mp same
    exact across reading member event.now (List.mem_cons_self ..)
  · exact (List.pairwise_cons.mp last).1 now (List.mem_singleton_self now)

end MemoryCache

/-! ## The sheet -/

/-- An instant lies that far ahead. -/
def Time.Instant.Reaches (now : Instant) (ttl : Duration) : Prop :=
  ∃ expiry : Instant, expiry.nanos = now.nanos + ttl.nanos

theorem Time.Instant.reaches_iff {now : Instant} {ttl : Duration} :
    now.Reaches ttl ↔ now.nanos + ttl.nanos < 8210266876800000000000 := by
  constructor
  · rintro ⟨expiry, sum⟩
    have last := expiry.inCalendar.2
    omega
  · intro below
    have first := now.inCalendar.1
    exact ⟨⟨now.nanos + ttl.nanos, by omega, below⟩, rfl⟩

instance (now : Instant) (ttl : Duration) : Decidable (now.Reaches ttl) :=
  decidable_of_iff _ Instant.reaches_iff.symm

/-- What was set for a key, and the last nanosecond it is visible in. -/
structure Notice where
  value : List UInt8
  expiry : Int
deriving DecidableEq

/-- The value that is visible at a reading: up to the very nanosecond of its expiry. -/
def Notice.visible (now : Instant) (notice? : Option Notice) : Option (List UInt8) :=
  (notice?.filter (now.nanos ≤ ·.expiry)).map (·.value)

namespace MemoryCache

/-- What an event makes of the notice of a key. Setting a value fails, and changes nothing, if no instant
lies as far ahead as it is to be kept; looks and purges change nothing at all. -/
def Event.note (wholeKey : String) (notice? : Option Notice) : Event → Option Notice
  | call now (.set area key ttl value) =>
    if wholeKey = cacheKey area key ∧ now.Reaches ttl then some ⟨value, now.nanos + ttl.nanos⟩
    else notice?
  | call _ (.evict area key) => if wholeKey = cacheKey area key then none else notice?
  | call _ (.evictArea area) => if liesIn area wholeKey then none else notice?
  | call _ (.get ..) => notice?
  | call _ (.holds ..) => notice?
  | purge _ => notice?

/-- The sheet of a run: the notice of each whole key. -/
def sheet (events : List Event) (wholeKey : String) : Option Notice :=
  events.foldl (fun notice? event => event.note wholeKey notice?) none

theorem Event.note_of_not_writes {event : Event} (looks : event.writes = false) (wholeKey : String)
    (notice? : Option Notice) : event.note wholeKey notice? = notice? := by
  cases event with
  | call now call => cases call <;> first | rfl | cases looks
  | purge now => rfl

/-- Looks and purges leave no trace on the sheet. -/
theorem sheet_filter (events : List Event) : sheet (events.filter (·.writes)) = sheet events := by
  funext wholeKey
  rw [sheet, sheet]
  generalize (none : Option Notice) = notice?
  induction events generalizing notice? with
  | nil => rfl
  | cons event events ih =>
    cases writing : event.writes with
    | true => rw [List.filter_cons_of_pos writing, List.foldl_cons, List.foldl_cons, ih]
    | false =>
      rw [List.filter_cons_of_neg (by simp [writing]), List.foldl_cons, ih,
        Event.note_of_not_writes writing]

/-! ## What is visible in the cache -/

/-- The value under a whole key that has not expired at a reading. -/
def visible (c : MemoryCache) (now : Instant) (wholeKey : String) : Option (List UInt8) :=
  ((c.lookup? wholeKey).filter (!·.isExpired now)).map (·.value)

/-- Reading gives what is visible. -/
theorem perform_get (c : MemoryCache) (now : Instant) (area key : String) :
    (c.perform now (.get area key)).1 = .ok (c.visible now (cacheKey area key)) := by
  simp only [perform, get, visible, lookup?]
  cases c.entries.get? (cacheKey area key) with
  | none => rfl
  | some e => cases past : e.isExpired now <;> simp [past, Option.filter]

/-- There is a live value where one is visible. -/
theorem perform_holds (c : MemoryCache) (now : Instant) (area key : String) :
    (c.perform now (.holds area key)).1 = .ok (c.visible now (cacheKey area key)).isSome := by
  simp only [perform, holds, visible, lookup?]
  cases c.entries.get? (cacheKey area key) with
  | none => rfl
  | some e => cases past : e.isExpired now <;> simp [past, Option.filter]

/-- Setting succeeds exactly if an instant lies that far ahead: whatever the calendar holds is also a span
that can be reckoned with. -/
theorem expiry_cases (now : Instant) (ttl : Duration) :
    (now.Reaches ttl ∧ ∃ expiresAt, expiry now ttl = .ok expiresAt ∧
      expiresAt.nanos = now.nanos + ttl.nanos) ∨
    (¬now.Reaches ttl ∧ ∃ reason, expiry now ttl = .error (.backend reason)) := by
  by_cases reaches : now.Reaches ttl
  · left
    obtain ⟨expiresAt, sum⟩ := reaches
    have first := now.inCalendar.1
    have last := expiresAt.inCalendar.2
    have short : ttl ≤ Duration.longestSpan := by
      change ttl.nanos ≤ 9223372036854775807 * 1000000
      omega
    exact ⟨⟨expiresAt, sum⟩, expiresAt, expiry_eq_ok_iff.mpr ⟨short, sum⟩, sum⟩
  · right
    refine ⟨reaches, ?_⟩
    cases found : expiry now ttl with
    | ok expiresAt => exact absurd ⟨expiresAt, (expiry_eq_ok_iff.mp found).2⟩ reaches
    | error e =>
      rw [expiry] at found
      split_ifs at found
      · cases found
        exact ⟨_, rfl⟩
      · split at found
        · cases found
        · cases found
          exact ⟨_, rfl⟩

/-- A value is set, or the request is refused as one for the server and everything stays as it was. -/
theorem perform_set_cases (c : MemoryCache) (now : Instant) (area key : String) (ttl : Duration)
    (value : List UInt8) :
    (now.Reaches ttl ∧ (c.perform now (.set area key ttl value)).1 = .ok ()) ∨
    (¬now.Reaches ttl ∧ ∃ reason, c.perform now (.set area key ttl value) =
      (.error (.backend reason), c)) := by
  obtain ⟨reaches, expiresAt, found, -⟩ | ⟨short, reason, refused⟩ := expiry_cases now ttl
  · left
    rw [perform_set, found]
    exact ⟨reaches, rfl⟩
  · right
    rw [perform_set, refused]
    exact ⟨short, reason, rfl⟩

/-- What has expired at one reading has expired at every later one. -/
private theorem filter_later {e? : Option CacheEntry} {now later : Instant} (le : now ≤ later) :
    (e?.filter (!·.isExpired now)).filter (!·.isExpired later) = e?.filter (!·.isExpired later) := by
  cases e? with
  | none => rfl
  | some e =>
    cases past : e.isExpired now with
    | false => simp [past, Option.filter]
    | true =>
      have still : e.isExpired later = true := by
        have before : e.expiresAt.nanos < now.nanos := of_decide_eq_true past
        exact decide_eq_true (Int.lt_of_lt_of_le before le)
      simp [past, still, Option.filter]

/-! ## The comparison -/

/-- From that reading on, what is visible under the key is what the notice says. -/
def Shows (c : MemoryCache) (wholeKey : String) (notice? : Option Notice) (start : Instant) : Prop :=
  ∀ now, start ≤ now → c.visible now wholeKey = Notice.visible now notice?

variable {c : MemoryCache} {wholeKey : String} {notice? : Option Notice} {start : Instant}

theorem shows_none : Shows empty wholeKey none start := by
  intro now _
  rfl

theorem Shows.mono {now : Instant} (shows : Shows c wholeKey notice? start) (le : start ≤ now) :
    Shows c wholeKey notice? now := by
  intro later after
  exact shows later (Int.le_trans le after)

/-- An entry has expired once its last nanosecond is over, and a notice is visible up to then. -/
private theorem isExpired_eq {value : List UInt8} {expiresAt now : Instant} {expiry : Int}
    (same : expiresAt.nanos = expiry) :
    (!CacheEntry.isExpired ⟨value, expiresAt⟩ now) = decide (now.nanos ≤ expiry) := by
  rw [← same, CacheEntry.isExpired, ← decide_not]
  exact decide_eq_decide.mpr Int.not_lt

/-- Whatever happens, notice and cache go on saying the same. -/
theorem Shows.handle {event : Event} (shows : Shows c wholeKey notice? event.now) :
    Shows (c.handle event) wholeKey (event.note wholeKey notice?) event.now := by
  intro now later
  have before := shows now later
  cases event with
  | purge reading =>
    change reading ≤ now at later
    change MemoryCache.visible (c.purge reading).2 now wholeKey = Notice.visible now notice?
    rw [visible, lookup?_purge, filter_later later]
    exact before
  | call reading call =>
    change reading ≤ now at later
    change MemoryCache.visible (c.perform reading call).2 now wholeKey = _
    cases call with
    | get area key =>
      rw [visible, lookup?_get]
      split_ifs
      · rw [filter_later later]
        exact before
      · exact before
    | holds area key => exact before
    | set area key ttl value =>
      rw [Event.note]
      obtain ⟨reaches, expiresAt, found, sum⟩ | ⟨short, reason, refused⟩ := expiry_cases reading ttl
      · rw [visible, lookup?_set c area key wholeKey value found]
        split_ifs with same set set
        · simp only [Notice.visible, Option.filter, isExpired_eq sum]
          split <;> rfl
        · exact absurd ⟨same, reaches⟩ set
        · exact absurd set.1 same
        · exact before
      · rw [perform_set, refused, if_neg fun set => short set.2]
        exact before
    | evict area key =>
      rw [visible, lookup?_evict, Event.note]
      split_ifs
      · rfl
      · exact before
    | evictArea area =>
      rw [visible, lookup?_evictArea, Event.note]
      split_ifs
      · rfl
      · exact before

/-- After a run the cache shows what stands on its sheet. -/
theorem shows_after {events : List Event} {now : Instant} (ordered : Event.InOrder events now) :
    Shows (empty.after events) wholeKey (sheet events wholeKey) now := by
  induction events using List.reverseRecOn generalizing now with
  | nil => exact shows_none
  | append_singleton events event ih =>
    obtain ⟨earlier, le⟩ := Event.inOrder_concat ordered
    rw [after_concat, sheet, List.foldl_append]
    exact (ih earlier).handle.mono le

/-- Different visible keys are stored in different entries. -/
theorem length_le_size {now : Instant} {wholeKeys : List String} (distinct : wholeKeys.Nodup)
    (visible : ∀ wholeKey ∈ wholeKeys, (c.visible now wholeKey).isSome = true) :
    wholeKeys.length ≤ c.size := by
  have stored : wholeKeys ⊆ c.entries.rows.map Prod.fst := by
    intro wholeKey member
    have shown := visible wholeKey member
    simp only [MemoryCache.visible, Option.isSome_map] at shown
    obtain ⟨e, kept⟩ := Option.isSome_iff_exists.mp shown
    have found := (Option.filter_eq_some_iff.mp kept).1
    exact Table.isSome_get?_iff.mp (Option.isSome_of_eq_some found)
  have fewer := (distinct.subperm stored).length_le
  rwa [List.length_map] at fewer

/-- Evicting an area counts what it drops, and drops nothing else. -/
theorem size_evictArea (c : MemoryCache) (now : Instant) (area : String) :
    ∃ count : Nat, (c.perform now (.evictArea area)).1 = .ok count ∧
      (c.perform now (.evictArea area)).2.size + count = c.size := by
  have fewer : (c.evictArea area).2.size ≤ c.size := List.length_filter_le ..
  refine ⟨(c.evictArea area).1, rfl, ?_⟩
  change (c.evictArea area).2.size + (c.size - (c.evictArea area).2.size) = c.size
  omega

/-- So does a purge. -/
theorem size_purge (c : MemoryCache) (now : Instant) :
    (c.purge now).2.size + (c.purge now).1 = c.size := by
  have fewer : (c.purge now).2.size ≤ c.size := List.length_filter_le ..
  change (c.purge now).2.size + (c.size - (c.purge now).2.size) = c.size
  omega

/-- At that reading the cache answers like a map that has dropped whatever has expired. -/
structure IsEager (c : MemoryCache) (notices : String → Option Notice) (now : Instant) : Prop where
  get : ∀ area key, (c.perform now (.get area key)).1 =
    .ok (Notice.visible now (notices (cacheKey area key)))
  holds : ∀ area key, (c.perform now (.holds area key)).1 =
    .ok (Notice.visible now (notices (cacheKey area key))).isSome
  /-- Setting is refused exactly if no instant lies as far ahead as the value is to be kept. -/
  set : ∀ area key ttl value, now.Reaches ttl →
    (c.perform now (.set area key ttl value)).1 = .ok ()
  refused : ∀ area key ttl value, ¬now.Reaches ttl → ∃ reason,
    c.perform now (.set area key ttl value) = (.error (.backend reason), c)
  evict : ∀ area key, (c.perform now (.evict area key)).1 = .ok ()
  /-- No count goes below nothing: what was dropped and what is left is what there was. -/
  evictArea : ∀ area, ∃ count : Nat, (c.perform now (.evictArea area)).1 = .ok count ∧
    (c.perform now (.evictArea area)).2.size + count = c.size
  purge : (c.purge now).2.size + (c.purge now).1 = c.size
  /-- What is visible is stored. -/
  stored : ∀ wholeKeys : List String, wholeKeys.Nodup →
    (∀ wholeKey ∈ wholeKeys, (Notice.visible now (notices wholeKey)).isSome = true) →
      wholeKeys.length ≤ c.size

theorem isEager_of_shows {notices : String → Option Notice} {now : Instant}
    (shows : ∀ wholeKey, Shows c wholeKey (notices wholeKey) now) : IsEager c notices now where
  get area key := by rw [perform_get, shows _ now (Int.le_refl _)]
  holds area key := by rw [perform_holds, shows _ now (Int.le_refl _)]
  set area key ttl value reaches := by
    obtain ⟨-, done⟩ | ⟨short, -⟩ := c.perform_set_cases now area key ttl value
    · exact done
    · exact absurd reaches short
  refused area key ttl value short := by
    obtain ⟨reaches, -⟩ | ⟨-, refused⟩ := c.perform_set_cases now area key ttl value
    · exact absurd reaches short
    · exact refused
  evict area key := rfl
  evictArea area := c.size_evictArea now area
  purge := c.size_purge now
  stored wholeKeys distinct visible := by
    apply length_le_size distinct
    intro wholeKey member
    rw [shows wholeKey now (Int.le_refl _)]
    exact visible wholeKey member

/-- After a run whose clock was never put back, the cache answers what stands on the sheet of the run, up
to the very nanosecond of its expiry. So it answers the same after any other such run that sets and evicts
alike, however often either looked and purged in between. -/
theorem eager_expiry {events : List Event} {now : Instant} (ordered : Event.InOrder events now) :
    IsEager (empty.after events) (sheet events) now ∧
    ∀ others, Event.InOrder others now → others.filter (·.writes) = events.filter (·.writes) →
      ∀ area key,
        ((empty.after others).perform now (.get area key)).1 =
          ((empty.after events).perform now (.get area key)).1 ∧
        ((empty.after others).perform now (.holds area key)).1 =
          ((empty.after events).perform now (.holds area key)).1 := by
  have eager {run : List Event} (ordered : Event.InOrder run now) :
      IsEager (empty.after run) (sheet run) now :=
    isEager_of_shows fun _ => shows_after ordered
  constructor
  · exact eager ordered
  · intro others ordered' same area key
    have sheets : sheet others = sheet events := by
      rw [← sheet_filter others, same, sheet_filter]
    have first := eager ordered
    have second := eager ordered'
    rw [sheets] at second
    exact ⟨(second.get area key).trans (first.get area key).symm,
      (second.holds area key).trans (first.holds area key).symm⟩

/-- A value is set for ten seconds, a second one under the same whole key for longer than the calendar
lasts, and the cache is purged and read as the ten seconds end. -/
def lingering : List Event :=
  [.call .epoch (.set "uat:u" "j" (.ofSeconds 10) [0x31]),
    .call .epoch (.set "uat" "u:j" (.ofSeconds 18446744073709551615) [0x32]),
    .purge ⟨10000000000, by decide⟩, .call ⟨10000000000, by decide⟩ (.get "uat:u" "j")]

/-- The first value is there for the whole ten seconds, and it would be without the purge and the look; a
nanosecond later it is still stored, and visible no more. -/
theorem eager_expiry_lingering :
    ((empty.after lingering).perform ⟨10000000000, by decide⟩ (.get "uat" "u:j")).1 =
      .ok (some [0x31]) ∧
    ((empty.after (lingering.filter (·.writes))).perform ⟨10000000000, by decide⟩ (.get "uat" "u:j")).1 =
      .ok (some [0x31]) ∧
    ((empty.after lingering).perform ⟨10000000001, by decide⟩ (.holds "uat" "u:j")).1 = .ok false ∧
    (empty.after lingering).size = 1 := by
  have whole : cacheKey "uat" "u:j" = "uat:u:j" := by decide
  have notice : sheet lingering "uat:u:j" = some ⟨[0x31], 10000000000⟩ := by decide +kernel
  have ending : Event.InOrder lingering ⟨10000000000, by decide⟩ := by decide
  have passed : Event.InOrder lingering ⟨10000000001, by decide⟩ := by decide
  obtain ⟨eager, alike⟩ := eager_expiry ending
  obtain ⟨later, -⟩ := eager_expiry passed
  have read := eager.get "uat" "u:j"
  have looked := later.holds "uat" "u:j"
  rw [whole, notice] at read looked
  refine ⟨read, ?_, looked, by decide +kernel⟩
  exact (alike (lingering.filter (·.writes)) (by decide) (by decide +kernel) "uat" "u:j").1.trans read

end MemoryCache

end BearerAuth
