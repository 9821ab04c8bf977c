import BearerAuth.Cache.Memory
import Mathlib.Tactic.SplitIfs

/-! # The entries of a cache in memory

What every call and a purge do to the entry under one key. A call changes the entry of a key only by
setting or evicting it, or by reading an expired one.
-/

namespace BearerAuth

open BearerAuth.Time

namespace Table

variable {κ α : Type}

/-- The rows that satisfy a condition on keys and values keep the value of a key. -/
private theorem lookup_filter [DecidableEq κ] (rows : List (κ × α))
    (distinct : (rows.map Prod.fst).Nodup) (p : κ → α → Bool) (key : κ) :
    (rows.filter fun row => p row.1 row.2).lookup key = (rows.lookup key).filter (p key) := by
  induction rows with
  | nil => rfl
  | cons row rows ih =>
    obtain ⟨k, a⟩ := row
    rw [List.map_cons, List.nodup_cons] at distinct
    by_cases same : key = k
    · subst same
      have absent : (rows.filter fun row => p row.1 row.2).lookup key = none := by
        rw [List.lookup_eq_none_iff]
        intro row member
        have keyed := List.mem_map_of_mem (f := Prod.fst) (List.mem_filter.mp member).1
        rw [bne_iff_ne]
        rintro rfl
        exact distinct.1 keyed
      cases kept : p key a <;> simp [kept, absent, Option.filter]
    · have differs : (key == k) = false := by simpa using same
      cases kept : p k a <;> simp [List.lookup_cons, kept, differs, ih distinct.2]

variable [DecidableEq κ]

theorem get?_filter (t : Table κ α) (p : κ → α → Bool) (key : κ) :
    (t.filter p).get? key = (t.get? key).filter (p key) :=
  lookup_filter t.rows t.distinct p key

theorem get?_erase (t : Table κ α) (key other : κ) :
    (t.erase key).get? other = if other = key then none else t.get? other := by
  rw [erase, get?_filter]
  split_ifs with same <;> cases t.get? other <;> simp [same, Option.filter]

theorem get?_insert (t : Table κ α) (key other : κ) (value : α) :
    (t.insert key value).get? other = if other = key then some value else t.get? other := by
  have rest : (t.erase key).rows.lookup other = if other = key then none else t.get? other :=
    t.get?_erase key other
  rw [insert, get?, List.lookup_cons]
  by_cases same : other = key
  · simp [same]
  · have differs : (other == key) = false := by simpa using same
    simp [same, differs, rest]

/-- The keys that have a value are those of the rows. -/
theorem isSome_get?_iff {t : Table κ α} {key : κ} :
    (t.get? key).isSome ↔ key ∈ t.rows.map Prod.fst := by
  rw [get?, ← Decidable.not_iff_not, Option.not_isSome_iff_eq_none, List.lookup_eq_none_iff]
  constructor
  · intro differs member
    obtain ⟨row, there, rfl⟩ := List.mem_map.mp member
    exact bne_iff_ne.mp (differs row there) rfl
  · intro absent row member
    rw [bne_iff_ne]
    rintro rfl
    exact absent (List.mem_map_of_mem member)

/-- The value of a key stands in a row with it. -/
theorem mem_of_get? {t : Table κ α} {key : κ} {a : α} (found : t.get? key = some a) :
    (key, a) ∈ t.rows := by
  obtain ⟨before, after, rows, -⟩ := List.lookup_eq_some_iff.mp found
  rw [rows]
  exact List.mem_append_right _ (List.mem_cons_self ..)

/-- Of distinct keys, erasing one takes away one row or none. -/
private theorem length_filter_ne (rows : List (κ × α)) (distinct : (rows.map Prod.fst).Nodup)
    (key : κ) : (rows.filter fun row => row.1 ≠ key).length +
      (if (rows.lookup key).isSome then 1 else 0) = rows.length := by
  induction rows with
  | nil => rfl
  | cons row rows ih =>
    obtain ⟨k, a⟩ := row
    rw [List.map_cons, List.nodup_cons] at distinct
    have rest := ih distinct.2
    by_cases same : k = key
    · subst same
      have absent : rows.lookup k = none := by
        rw [List.lookup_eq_none_iff]
        intro row member
        have keyed := List.mem_map_of_mem (f := Prod.fst) member
        rw [bne_iff_ne]
        rintro rfl
        exact distinct.1 keyed
      simpa [absent] using rest
    · have differs : (key == k) = false := by simpa using Ne.symm same
      rw [List.filter_cons_of_pos (by simpa using same), List.lookup_cons, differs]
      simp only [List.length_cons]
      omega

/-- A table grows by the keys that had no value. -/
theorem size_insert (t : Table κ α) (key : κ) (value : α) :
    (t.insert key value).size = if t.contains key then t.size else t.size + 1 := by
  have rest := length_filter_ne t.rows t.distinct key
  rw [contains, get?]
  simp only [insert, size, erase, filter, List.length_cons]
  split_ifs at rest ⊢ <;> omega

end Table

namespace MemoryCache

/-- The entry under a whole key, which may have expired. -/
def lookup? (c : MemoryCache) (wholeKey : String) : Option CacheEntry := c.entries.get? wholeKey

@[simp] theorem lookup?_empty (wholeKey : String) : empty.lookup? wholeKey = none := rfl

theorem lookup?_get (c : MemoryCache) (now : Instant) (area key wholeKey : String) :
    (c.perform now (.get area key)).2.lookup? wholeKey =
      if wholeKey = cacheKey area key then (c.lookup? wholeKey).filter (!·.isExpired now)
      else c.lookup? wholeKey := by
  simp only [perform, get, lookup?]
  by_cases same : wholeKey = cacheKey area key
  · subst same
    cases found : c.entries.get? (cacheKey area key) with
    | none => simp [found]
    | some e =>
      cases past : e.isExpired now <;> simp [found, past, evict, Table.get?_erase, Option.filter]
  · cases found : c.entries.get? (cacheKey area key) with
    | none => simp [same]
    | some e => cases past : e.isExpired now <;> simp [same, past, evict, Table.get?_erase]

theorem lookup?_evict (c : MemoryCache) (now : Instant) (area key wholeKey : String) :
    (c.perform now (.evict area key)).2.lookup? wholeKey =
      if wholeKey = cacheKey area key then none else c.lookup? wholeKey :=
  c.entries.get?_erase _ _

theorem lookup?_evictArea (c : MemoryCache) (now : Instant) (area wholeKey : String) :
    (c.perform now (.evictArea area)).2.lookup? wholeKey =
      if liesIn area wholeKey then none else c.lookup? wholeKey := by
  have kept := c.entries.get?_filter (fun key _ => !liesIn area key) wholeKey
  refine kept.trans ?_
  simp only [lookup?]
  cases c.entries.get? wholeKey <;> cases liesIn area wholeKey <;> rfl

theorem lookup?_purge (c : MemoryCache) (now : Instant) (wholeKey : String) :
    (c.purge now).2.lookup? wholeKey = (c.lookup? wholeKey).filter (!·.isExpired now) :=
  c.entries.get?_filter _ _

/-- Setting answers whether the expiry can be told, and changes nothing if it cannot. -/
theorem perform_set (c : MemoryCache) (now : Instant) (area key : String) (ttl : Duration)
    (value : List UInt8) :
    c.perform now (.set area key ttl value) =
      match expiry now ttl with
      | .ok expiresAt => (.ok (), ⟨c.entries.insert (cacheKey area key) ⟨value, expiresAt⟩⟩)
      | .error e => (.error e, c) := by
  simp only [perform, set]
  cases expiry now ttl <;> rfl

theorem lookup?_set (c : MemoryCache) {now expiresAt : Instant} (area key wholeKey : String)
    {ttl : Duration} (value : List UInt8) (fits : expiry now ttl = .ok expiresAt) :
    (c.perform now (.set area key ttl value)).2.lookup? wholeKey =
      if wholeKey = cacheKey area key then some ⟨value, expiresAt⟩ else c.lookup? wholeKey := by
  rw [perform_set, fits]
  exact c.entries.get?_insert _ _ _

/-- An entry was there before a call, or the call has set it. -/
theorem lookup?_perform {c : MemoryCache} {now : Instant} {call : CacheCall} {wholeKey : String}
    {e : CacheEntry} (found : (c.perform now call).2.lookup? wholeKey = some e) :
    c.lookup? wholeKey = some e ∨ ∃ area key ttl, call = .set area key ttl e.value ∧
      cacheKey area key = wholeKey ∧ expiry now ttl = .ok e.expiresAt := by
  cases call with
  | get area key =>
    rw [lookup?_get] at found
    split_ifs at found
    · exact .inl (Option.filter_eq_some_iff.mp found).1
    · exact .inl found
  | set area key ttl value =>
    cases fits : expiry now ttl with
    | error e =>
      rw [perform_set, fits] at found
      exact .inl found
    | ok expiresAt =>
      rw [lookup?_set c area key wholeKey value fits] at found
      split_ifs at found with same
      · cases found
        exact .inr ⟨area, key, ttl, rfl, same.symm, fits⟩
      · exact .inl found
  | holds area key => exact .inl found
  | evict area key =>
    rw [lookup?_evict] at found
    split_ifs at found
    exact .inl found
  | evictArea area =>
    rw [lookup?_evictArea] at found
    split_ifs at found
    exact .inl found

/-- There is a live value exactly where there is an entry that has not expired. -/
theorem holds_iff {c : MemoryCache} {now : Instant} {area key : String} :
    c.holds now area key = true ↔
      ∃ e, c.lookup? (cacheKey area key) = some e ∧ e.isExpired now = false := by
  simp [holds, lookup?, Option.any_eq_true]

/-- What is read is what an entry holds that has not expired. -/
theorem live_of_get {c : MemoryCache} {now : Instant} {area key : String} {value : List UInt8}
    (read : (c.get now area key).1 = some value) :
    ∃ e, c.lookup? (cacheKey area key) = some e ∧ e.value = value ∧ e.isExpired now = false := by
  simp only [get] at read
  cases found : c.entries.get? (cacheKey area key) with
  | none => simp [found] at read
  | some e =>
    rw [found] at read
    dsimp only at read
    split_ifs at read with past
    cases read
    exact ⟨e, found, rfl, Bool.of_not_eq_true past⟩

/-- An entry that has not expired is read. -/
theorem get_of_live {c : MemoryCache} {now : Instant} {area key : String} {e : CacheEntry}
    (found : c.lookup? (cacheKey area key) = some e) (live : e.isExpired now = false) :
    (c.get now area key).1 = some e.value := by
  have there : c.entries.get? (cacheKey area key) = some e := found
  simp [get, there, live]

/-- What is read is what an entry holds. -/
theorem lookup?_of_get {c : MemoryCache} {now : Instant} {area key : String} {value : List UInt8}
    (read : (c.get now area key).1 = some value) :
    ∃ e, c.lookup? (cacheKey area key) = some e ∧ e.value = value := by
  obtain ⟨e, found, holds, -⟩ := live_of_get read
  exact ⟨e, found, holds⟩

/-- An entry is served until its expiry, which lies the whole time to live ahead. -/
theorem expiry_eq_ok_iff {now expiresAt : Instant} {ttl : Duration} :
    expiry now ttl = .ok expiresAt ↔
      ttl ≤ Duration.longestSpan ∧ expiresAt.nanos = now.nanos + ttl.nanos := by
  have order : Duration.longestSpan < ttl ↔ ¬ttl ≤ Duration.longestSpan := Nat.not_le.symm
  rw [expiry, ← Instant.ofNanos?_eq_some_iff]
  change _ ↔ _ ∧ now.add? ttl = some expiresAt
  split_ifs with long
  · simp [order.mp long]
  · cases now.add? ttl <;> simp [Decidable.not_not.mp (mt order.mpr long)]

end MemoryCache

end BearerAuth
