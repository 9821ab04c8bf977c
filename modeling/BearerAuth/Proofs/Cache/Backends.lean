import BearerAuth.Proofs.Cache.Clearing
import BearerAuth.Proofs.Cache.Expiry
import BearerAuth.Proofs.Cache.SmallServer
import Mathlib.Data.List.Nodup

/-! # A cache in memory and a cache on a server

Both caches answer alike as long as nothing runs out. The server holds the values of the cache in memory under
the same keys, each behind the name of the keyspace: `Mirrors`. One request keeps that up, whatever it asks,
and sends commands for keys of the keyspace only; so does a run of requests.
-/

namespace BearerAuth

open BearerAuth.Time BearerAuth.Text

/-! ## Keys of the keyspace -/

namespace RemoteConfig

/-- What the names of all keys begin with; nothing if there is no keyspace. -/
def start (config : RemoteConfig) : String :=
  if config.keyspace.isEmpty then "" else areaStart config.keyspace

/-- The key lies in the keyspace; if there is none, every key does. -/
def Ours (config : RemoteConfig) (key : List UInt8) : Prop := utf8 config.start <+: key

instance (config : RemoteConfig) (key : List UInt8) : Decidable (config.Ours key) :=
  inferInstanceAs (Decidable (_ <+: _))

/-- The bytes of a whole key on the server. -/
def keyBytes (config : RemoteConfig) (wholeKey : String) : List UInt8 :=
  utf8 (Pattern.spaced config.keyspace wholeKey)

variable {config : RemoteConfig}

theorem spaced_eq (name : String) : Pattern.spaced config.keyspace name = config.start ++ name := by
  simp only [Pattern.spaced, start]
  split_ifs
  · simp
  · rfl

theorem keyBytes_eq (wholeKey : String) : config.keyBytes wholeKey = utf8 config.start ++ utf8 wholeKey := by
  rw [keyBytes, spaced_eq, utf8_append]

theorem keyBytes_inj {wholeKey other : String} :
    config.keyBytes wholeKey = config.keyBytes other ↔ wholeKey = other := by
  rw [keyBytes_eq, keyBytes_eq, List.append_cancel_left_eq, utf8_inj]

theorem ours_keyBytes (wholeKey : String) : config.Ours (config.keyBytes wholeKey) := by
  rw [Ours, keyBytes_eq]
  exact List.prefix_append _ _

/-- What the keys of an area begin with, in bytes. -/
theorem areaStart_spaced (area : String) :
    utf8 (areaStart (Pattern.spaced config.keyspace area)) =
      utf8 config.start ++ utf8 (areaStart area) := by
  rw [spaced_eq, areaStart, areaStart, String.append_assoc, utf8_append]

/-- The pattern for an area matches only keys of the keyspace. -/
theorem ours_of_matches {area : String} {key : List UInt8}
    (hit : Glob.Matches (Remote.areaPattern config area) key) : config.Ours key := by
  rw [Remote.areaPattern, Glob.matches_ofArea_iff, areaStart_spaced] at hit
  exact (List.prefix_append _ _).trans hit

/-- Of these it matches those of the keys that lie in the area. -/
theorem matches_keyBytes_iff {area wholeKey : String} :
    Glob.Matches (Remote.areaPattern config area) (config.keyBytes wholeKey) ↔
      liesIn area wholeKey = true := by
  rw [Remote.areaPattern, Glob.matches_ofArea_iff, areaStart_spaced, keyBytes_eq,
    List.prefix_append_right_inj, utf8_prefix_iff, liesIn, List.isPrefixOf_iff_prefix]

end RemoteConfig

/-! ## Runs of requests -/

/-- A request, and what the clock of the cache in memory reads at it. -/
structure CacheRequest where
  now : Instant
  call : CacheCall

/-- A request with its answer. -/
abbrev CacheAnswer := (call : CacheCall) × Except CacheError call.Answer

/-- The request is to keep a value. -/
def CacheCall.isSet : CacheCall → Bool
  | set .. => true
  | _ => false

/-- Nothing in the cache has expired. -/
def MemoryCache.Unexpired (c : MemoryCache) (now : Instant) : Prop :=
  ∀ wholeKey e, c.lookup? wholeKey = some e → e.isExpired now = false

theorem MemoryCache.Unexpired.filter {c : MemoryCache} {now : Instant} (fresh : c.Unexpired now)
    (wholeKey : String) : (c.lookup? wholeKey).filter (!·.isExpired now) = c.lookup? wholeKey := by
  cases found : c.lookup? wholeKey with
  | none => rfl
  | some e => simp [Option.filter, fresh wholeKey e found]

/-- The answers of a cache in memory to a run of requests. -/
def MemoryCache.answers (c : MemoryCache) : List CacheRequest → List CacheAnswer
  | [] => []
  | r :: requests =>
    ⟨r.call, (c.perform r.now r.call).1⟩ :: answers (c.perform r.now r.call).2 requests

namespace Remote

section

variable {σ : Type} (server : Server σ) (config : RemoteConfig) (rounds : Nat)

/-- The answers of a cache on a server. -/
def answers (s : σ) : List CacheRequest → List CacheAnswer
  | [] => []
  | r :: requests =>
    ⟨r.call, (perform server config rounds s r.call).1⟩ ::
      answers (perform server config rounds s r.call).2 requests

/-- The server after a run of requests. -/
def after (s : σ) (requests : List CacheRequest) : σ :=
  requests.foldl (fun s r => (perform server config rounds s r.call).2) s

/-- What a request sends, one command after the other. -/
def sent (s : σ) (call : CacheCall) : List (Server.Exchange σ) :=
  (perform server.recording config rounds (s, []) call).2.2

/-- What a run of requests sends. -/
def sentBy (s : σ) (requests : List CacheRequest) : List (Server.Exchange σ) :=
  (after server.recording config rounds (s, []) requests).2

/-- Neither cache has an entry that reaches its expiry during the run, and both accept what is set. -/
def Undisturbed (view : Server.View σ) (c : MemoryCache) (s : σ) : List CacheRequest → Prop
  | [] => True
  | r :: requests =>
    c.Unexpired r.now ∧
      view.Calm config.Ours (sent server config rounds s r.call) ∧
      (r.call.isSet = true → (c.perform r.now r.call).1.isOk = true ∧
        (perform server config rounds s r.call).1.isOk = true) ∧
      Undisturbed view (c.perform r.now r.call).2 (perform server config rounds s r.call).2 requests

end

/-! ## The record -/

section

variable {σ : Type} {server : Server σ} {config : RemoteConfig}

theorem dropKeys_unrecorded (keys : List String) (s : σ) (log : List (Server.Exchange σ)) :
    dropKeys server keys s = ((dropKeys server.recording keys (s, log)).1,
      (dropKeys server.recording keys (s, log)).2.1) := by
  simp only [dropKeys]
  split_ifs
  · rfl
  · exact ask_unrecorded _ _ s log

theorem dropBatches_unrecorded (area : String) (rounds cursor dropped : Nat) (s : σ)
    (log : List (Server.Exchange σ)) :
    dropBatches server config area rounds cursor dropped s =
      ((dropBatches server.recording config area rounds cursor dropped (s, log)).1,
        (dropBatches server.recording config area rounds cursor dropped (s, log)).2.1) := by
  induction rounds generalizing cursor dropped s log with
  | zero => rfl
  | succ rounds ih =>
    rw [dropBatches_succ, dropBatches_succ, ask_unrecorded _ _ s log]
    rcases ask server.recording _ Reply.batch? (s, log) with ⟨_ | ⟨next, keys⟩, s₁, log₁⟩
    · rfl
    · simp only [dropKeys_unrecorded keys s₁ log₁]
      rcases dropKeys server.recording keys (s₁, log₁) with ⟨_ | removed, s₂, log₂⟩
      · rfl
      · simp only
        split_ifs
        · rfl
        · exact ih _ _ _ _

/-- Keeping a record changes nothing. -/
theorem perform_unrecorded (rounds : Nat) (s : σ) (log : List (Server.Exchange σ)) (call : CacheCall) :
    perform server config rounds s call =
      ((perform server.recording config rounds (s, log) call).1,
        (perform server.recording config rounds (s, log) call).2.1) := by
  cases call with
  | evictArea area => exact dropBatches_unrecorded area rounds 0 0 s log
  | set area key ttl value =>
    exact ask_unrecorded (setCommand config area key ttl value) (fun _ => some ()) s log
  | _ => exact ask_unrecorded _ _ s log

end

/-! ## One request -/

section

variable {σ : Type} {server : Server σ} {view : Server.View σ} {config : RemoteConfig} {c : MemoryCache}
  {now : Instant} {s s' : σ}

/-- The server holds the values of a cache in memory, each under its key. -/
def Mirrors (view : Server.View σ) (config : RemoteConfig) (c : MemoryCache) (s : σ) : Prop :=
  ∀ wholeKey, (view.held s (config.keyBytes wholeKey)).map (·.content) =
    (c.lookup? wholeKey).map (.text ·.value)

/-- Every key of ours that is held is that of a whole key. -/
def Named (view : Server.View σ) (config : RemoteConfig) (s : σ) : Prop :=
  ∀ key, config.Ours key → (view.held s key).isSome → ∃ wholeKey, key = config.keyBytes wholeKey

/-- With rounds enough, a request is answered so in that state, after those exchanges. -/
structure Sends (server : Server σ) (view : Server.View σ) (config : RemoteConfig) (s : σ)
    (call : CacheCall) (answer : Except CacheError call.Answer) (s' : σ)
    (exchanges : List (Server.Exchange σ)) : Prop where
  settles : ∃ enough, ∀ rounds, enough ≤ rounds → ∀ log,
    perform server.recording config rounds (s, log) call = (answer, s', log ++ exchanges)
  clock_le : view.clock s ≤ view.clock s'
  within : ∀ x ∈ exchanges, x.command.Within config.Ours
  foreign : ∀ key, ¬config.Ours key → view.Stays s s' key

/-- If nothing runs out in the cache in memory and both caches accept what is set, the cache in memory gives
that answer as well, and the server goes on mirroring it. -/
def Agrees (view : Server.View σ) (config : RemoteConfig) (s : σ) (call : CacheCall)
    (answer : Except CacheError call.Answer) (s' : σ) : Prop :=
  ∀ c now, Mirrors view config c s → c.Unexpired now →
    (call.isSet = true → (c.perform now call).1.isOk = true ∧ answer.isOk = true) →
      answer = (c.perform now call).1 ∧ Mirrors view config (c.perform now call).2 s'

/-- A request is answered with rounds enough, and as the cache in memory does if it is calm meanwhile. -/
def Settles (server : Server σ) (view : Server.View σ) (config : RemoteConfig) (s : σ)
    (call : CacheCall) : Prop :=
  ∃ answer s' exchanges, Sends server view config s call answer s' exchanges ∧
    Named view config s' ∧ (view.Calm config.Ours exchanges → Agrees view config s call answer s')

theorem Named.of_shrinks (named : Named view config s)
    (shrinks : ∀ key, config.Ours key → view.held s' key = none ∨ view.held s' key = view.held s key) :
    Named view config s' := by
  intro key ours held
  rcases shrinks key ours with gone | same
  · rw [gone] at held
    cases held
  · exact named key ours (same ▸ held)

theorem Mirrors.isSome (mirrors : Mirrors view config c s) (wholeKey : String) :
    (view.held s (config.keyBytes wholeKey)).isSome = (c.lookup? wholeKey).isSome := by
  have same := congrArg Option.isSome (mirrors wholeKey)
  rwa [Option.isSome_map, Option.isSome_map] at same

theorem Mirrors.of_stays_at (mirrors : Mirrors view config c s) {wholeKey : String}
    (stays : view.Stays s s' (config.keyBytes wholeKey))
    (lasting : ∀ key, config.Ours key → view.Lasting s s' key) :
    (view.held s' (config.keyBytes wholeKey)).map (·.content) =
      (c.lookup? wholeKey).map (.text ·.value) := by
  rw [stays.eq_of_lasting (lasting _ (config.ours_keyBytes wholeKey))]
  exact mirrors wholeKey

theorem Mirrors.of_stays (mirrors : Mirrors view config c s) (stays : ∀ key, view.Stays s s' key)
    (lasting : ∀ key, config.Ours key → view.Lasting s s' key) : Mirrors view config c s' :=
  fun _ => mirrors.of_stays_at (stays _) lasting

/-- A request that takes one command for a key of ours. -/
theorem settles_of_reply (call : CacheCall) (read : Reply → Option call.Answer) {command : Command}
    {reply : Option Reply} (documented : server.Documented view)
    (replied : server.reply command s = (reply, s')) (within : command.Within config.Ours)
    (asks : ∀ rounds log, perform server.recording config rounds (s, log) call =
      ask server.recording command read (s, log))
    (named : Named view config s')
    (agrees : (∀ key, config.Ours key → view.Lasting s s' key) →
      Agrees view config s call (understood read reply) s') :
    Settles server view config s call := by
  refine ⟨understood read reply, s', [⟨command, s, s'⟩], ?_, named, ?_⟩
  · constructor
    · refine ⟨0, ?_⟩
      intro rounds _ log
      rw [asks, ask_recording log replied]
    · exact documented.clock_le replied
    · intro x member
      obtain rfl := List.mem_singleton.mp member
      exact within
    · intro key foreign
      exact documented.stays_of_within within replied foreign
  · intro calm
    exact agrees (Server.View.Calm.singleton_iff.mp calm)

theorem settles_get (documented : server.Documented view) (named : Named view config s)
    (area key : String) : Settles server view config s (.get area key) := by
  have ours := config.ours_keyBytes (cacheKey area key)
  cases replied : server.reply (.get (config.keyBytes (cacheKey area key))) s with
  | mk reply s' =>
    obtain ⟨stays, rfl⟩ := documented.get replied
    apply settles_of_reply _ _ documented replied (.get ours) fun _ _ => rfl
    · exact named.of_shrinks fun other _ => (stays other).shrinks
    · intro lasting c now mirrors fresh _
      have mirrors' := mirrors.of_stays stays lasting
      constructor
      · rw [MemoryCache.perform_get, MemoryCache.visible, fresh.filter, mirrors']
        cases c.lookup? (cacheKey area key) <;> rfl
      · intro wholeKey
        rw [MemoryCache.lookup?_get, fresh.filter, ite_self]
        exact mirrors' wholeKey

theorem settles_holds (documented : server.Documented view) (named : Named view config s)
    (area key : String) : Settles server view config s (.holds area key) := by
  have ours := config.ours_keyBytes (cacheKey area key)
  cases replied : server.reply (.holds (config.keyBytes (cacheKey area key))) s with
  | mk reply s' =>
    obtain ⟨stays, rfl⟩ := documented.holds replied
    apply settles_of_reply _ _ documented replied (.holds ours) fun _ _ => rfl
    · exact named.of_shrinks fun other _ => (stays other).shrinks
    · intro lasting c now mirrors fresh _
      have mirrors' := mirrors.of_stays stays lasting
      refine ⟨?_, mirrors'⟩
      rw [MemoryCache.perform_holds, MemoryCache.visible, fresh.filter, mirrors'.isSome]
      cases c.lookup? (cacheKey area key) <;> rfl

theorem settles_set (documented : server.Documented view) (named : Named view config s)
    (area key : String) (ttl : Duration) (value : List UInt8) :
    Settles server view config s (.set area key ttl value) := by
  have ours := config.ours_keyBytes (cacheKey area key)
  have lasts : 0 < max 1 (min ttl.millis longestTtl) := by omega
  have short : max 1 (min ttl.millis longestTtl) ≤ longestTtl := by
    simp only [longestTtl]
    omega
  cases replied : server.reply
      (.put (config.keyBytes (cacheKey area key)) value (max 1 (min ttl.millis longestTtl))) s with
  | mk reply s' =>
    obtain ⟨others, kept⟩ := documented.put lasts short replied
    apply settles_of_reply (.set area key ttl value) (fun _ => some ()) documented replied
      (.put ours lasts short) fun _ _ => rfl
    · intro other mine held
      by_cases same : other = config.keyBytes (cacheKey area key)
      · exact ⟨_, same⟩
      · rcases (others other same).shrinks with gone | before
        · rw [gone] at held
          cases held
        · exact named other mine (before ▸ held)
    · intro lasting c now mirrors fresh accepted
      obtain ⟨inMemory, onServer⟩ := accepted rfl
      obtain ⟨rfl, held⟩ | ⟨⟨reason, rfl⟩, -⟩ := kept
      · obtain ⟨-, expiresAt, found, -⟩ | ⟨-, reason, refused⟩ := MemoryCache.expiry_cases now ttl
        · constructor
          · rw [MemoryCache.perform_set, found]
            rfl
          · intro wholeKey
            rw [MemoryCache.lookup?_set c area key wholeKey value found]
            split_ifs with same
            · rw [same, held]
              rfl
            · have differs : config.keyBytes wholeKey ≠ config.keyBytes (cacheKey area key) :=
                fun equal => same (RemoteConfig.keyBytes_inj.mp equal)
              exact mirrors.of_stays_at (others _ differs) lasting
        · rw [MemoryCache.perform_set, refused] at inMemory
          cases inMemory
      · cases onServer

theorem settles_evict (documented : server.Documented view) (named : Named view config s)
    (area key : String) : Settles server view config s (.evict area key) := by
  have ours := config.ours_keyBytes (cacheKey area key)
  have nonempty : [config.keyBytes (cacheKey area key)] ≠ [] := List.cons_ne_nil _ _
  have mine : ∀ other ∈ [config.keyBytes (cacheKey area key)], config.Ours other := by
    intro other member
    rwa [List.mem_singleton.mp member]
  cases replied : server.reply (.delete [config.keyBytes (cacheKey area key)]) s with
  | mk reply s' =>
    obtain ⟨others, gone, removed, rfl, fits, -⟩ := documented.delete nonempty replied
    apply settles_of_reply _ _ documented replied (.delete nonempty mine) fun _ _ => rfl
    · apply named.of_shrinks
      intro other _
      by_cases same : other ∈ [config.keyBytes (cacheKey area key)]
      · exact .inl (gone other same)
      · exact (others other same).shrinks
    · intro lasting c now mirrors fresh _
      constructor
      · have counted := Reply.count?_number fits
        simp only [understood, counted]
        rfl
      · intro wholeKey
        rw [MemoryCache.lookup?_evict]
        split_ifs with same
        · rw [same, gone _ (List.mem_singleton_self _)]
          rfl
        · have differs : config.keyBytes wholeKey ∉ [config.keyBytes (cacheKey area key)] := by
            intro member
            exact same (RemoteConfig.keyBytes_inj.mp (List.mem_singleton.mp member))
          exact mirrors.of_stays_at (others _ differs) lasting

/-- The keys of the rows of a cache in memory that lie in an area. -/
private def areaKeys (config : RemoteConfig) (c : MemoryCache) (area : String) : List (List UInt8) :=
  ((c.entries.rows.filter fun row => liesIn area row.1).map Prod.fst).map config.keyBytes

/-- As many rows as lie in an area are dropped with it. -/
private theorem evictArea_eq_length (c : MemoryCache) (area : String) :
    (c.evictArea area).1 = (areaKeys config c area).length := by
  have split := List.length_eq_length_filter_add (l := c.entries.rows) fun row => liesIn area row.1
  simp only [MemoryCache.evictArea, Table.size, Table.filter, areaKeys, List.length_map]
  omega

/-- If the server mirrors a cache in memory, these are the keys that match the pattern for the area. -/
private theorem lists_areaKeys (named : Named view config s) (mirrors : Mirrors view config c s)
    (area : String) : view.Lists (areaPattern config area) s (areaKeys config c area) := by
  have held_iff (wholeKey : String) : (view.held s (config.keyBytes wholeKey)).isSome ↔
      wholeKey ∈ c.entries.rows.map Prod.fst := by
    rw [mirrors.isSome]
    exact Table.isSome_get?_iff
  constructor
  · apply List.Nodup.map fun _ _ same => RemoteConfig.keyBytes_inj.mp same
    exact c.entries.distinct.sublist (List.filter_sublist.map _)
  · intro key
    constructor
    · intro member
      obtain ⟨wholeKey, listed, rfl⟩ := List.mem_map.mp member
      obtain ⟨row, found, rfl⟩ := List.mem_map.mp listed
      obtain ⟨there, inside⟩ := List.mem_filter.mp found
      exact ⟨RemoteConfig.matches_keyBytes_iff.mpr inside,
        (held_iff row.1).mpr (List.mem_map_of_mem there)⟩
    · rintro ⟨hit, held⟩
      obtain ⟨wholeKey, rfl⟩ := named key (RemoteConfig.ours_of_matches hit) held
      obtain ⟨row, there, rfl⟩ := List.mem_map.mp ((held_iff wholeKey).mp held)
      have inside := RemoteConfig.matches_keyBytes_iff.mp hit
      exact List.mem_map_of_mem (List.mem_map_of_mem (List.mem_filter.mpr ⟨there, inside⟩))

theorem settles_evictArea (documented : server.Documented view) (named : Named view config s)
    (area : String) : Settles server view config s (.evictArea area) := by
  have mine : ∀ key, Glob.Matches (areaPattern config area) key → config.Ours key :=
    fun _ => RemoteConfig.ours_of_matches
  have texts : ∀ key, Glob.Matches (areaPattern config area) key → (view.held s key).isSome →
      ∃ text, key = utf8 text := by
    intro key hit held
    obtain ⟨wholeKey, rfl⟩ := named key (mine key hit) held
    exact ⟨_, rfl⟩
  have ends := documented.ends (areaPattern config area) s (Nat.zero_lt_succ 99)
  obtain ⟨removed, s', exchanges, thinned, cleared, within, enough, ran⟩ :=
    dropBatches_thins documented mine texts ends .begun (by simp)
  refine ⟨.ok removed, s', exchanges, ⟨⟨enough, ?_⟩, thinned.clock_le, within, ?_⟩, ?_, ?_⟩
  · intro rounds le log
    have total := ran rounds le 0 log
    rwa [Nat.zero_add] at total
  · intro key foreign
    exact thinned.others key fun hit => foreign (mine key hit)
  · exact named.of_shrinks fun key _ => thinned.shrinks key
  · intro calm c now mirrors fresh _
    constructor
    · obtain ⟨rest, left, length⟩ := thinned.counted calm (lists_areaKeys named mirrors area)
      have none : rest = [] := by
        apply List.eq_nil_iff_forall_not_mem.mpr
        intro key member
        obtain ⟨hit, held⟩ := (left.mem_iff key).mp member
        rw [cleared key hit] at held
        cases held
      rw [none, List.length_nil, Nat.add_zero, ← evictArea_eq_length] at length
      exact congrArg Except.ok length.symm
    · intro wholeKey
      rw [MemoryCache.lookup?_evictArea]
      split_ifs with inside
      · rw [cleared _ (RemoteConfig.matches_keyBytes_iff.mpr inside)]
        rfl
      · have miss : ¬Glob.Matches (areaPattern config area) (config.keyBytes wholeKey) :=
          fun hit => inside (RemoteConfig.matches_keyBytes_iff.mp hit)
        rw [thinned.kept calm _ (config.ours_keyBytes _) miss]
        exact mirrors wholeKey

/-- Every request is answered with rounds enough. -/
theorem settles (documented : server.Documented view) (named : Named view config s)
    (call : CacheCall) : Settles server view config s call := by
  cases call with
  | get area key => exact settles_get documented named area key
  | set area key ttl value => exact settles_set documented named area key ttl value
  | holds area key => exact settles_holds documented named area key
  | evict area key => exact settles_evict documented named area key
  | evictArea area => exact settles_evictArea documented named area

/-! ## Runs -/

/-- A run of requests from a state whose keys all have names. -/
theorem run_settles (documented : server.Documented view) (requests : List CacheRequest)
    (named : Named view config s) : ∃ enough, ∀ rounds, enough ≤ rounds →
      (∀ c, Mirrors view config c s → Undisturbed server config rounds view c s requests →
        answers server config rounds s requests = c.answers requests) ∧
      (∀ log, ∃ exchanges, (after server.recording config rounds (s, log) requests).2 = log ++ exchanges ∧
        ∀ x ∈ exchanges, x.command.Within config.Ours) ∧
      view.clock s ≤ view.clock (after server config rounds s requests) ∧
      ∀ key, ¬config.Ours key → view.Stays s (after server config rounds s requests) key := by
  induction requests generalizing s with
  | nil =>
    refine ⟨0, fun rounds _ => ⟨fun _ _ _ => rfl, ?_, Nat.le_refl _, fun key _ => .refl _ _⟩⟩
    intro log
    exact ⟨[], (List.append_nil log).symm, by simp⟩
  | cons r requests ih =>
    obtain ⟨answer, s₁, exchanges, sends, named₁, agrees⟩ := settles documented named r.call
    obtain ⟨first, settled⟩ := sends.settles
    obtain ⟨more, rest⟩ := ih named₁
    refine ⟨max first more, ?_⟩
    intro rounds le
    have recorded := settled rounds (by omega)
    have answered : perform server config rounds s r.call = (answer, s₁) := by
      rw [perform_unrecorded rounds s [] r.call, recorded]
    have onward : after server config rounds s (r :: requests) =
        after server config rounds s₁ requests := by
      simp only [after, List.foldl_cons, answered]
    obtain ⟨alike, logged, later, stays⟩ := rest rounds (by omega)
    rw [onward]
    refine ⟨?_, ?_, Nat.le_trans sends.clock_le later, ?_⟩
    · rintro c mirrors ⟨fresh, calm, accepted, undisturbed⟩
      rw [answered] at accepted undisturbed
      rw [sent, recorded, List.nil_append] at calm
      obtain ⟨same, mirrors₁⟩ := agrees calm c r.now mirrors fresh accepted
      simp only [answers, MemoryCache.answers, answered]
      rw [alike _ mirrors₁ undisturbed, same]
    · intro log
      obtain ⟨others, ended, within⟩ := logged (log ++ exchanges)
      refine ⟨exchanges ++ others, ?_, List.forall_mem_append.mpr ⟨sends.within, within⟩⟩
      rw [after, List.foldl_cons, recorded, ← List.append_assoc]
      exact ended
    · intro key foreign
      exact (sends.foreign key foreign).trans later (stays key foreign)

/-- Whatever a cache on a documented server is asked, from a state without keys of its keyspace on, it
answers with rounds enough as a cache in memory does that was empty, as long as no entry of either reaches
its expiry and both accept what is set. In any case it only sends commands for keys of the keyspace, and all
other keys are held as before until their own time comes. -/
theorem answers_as_memory {server : Server σ} {view : Server.View σ} (documented : server.Documented view)
    (config : RemoteConfig) {s : σ} (fresh : ∀ key, config.Ours key → view.held s key = none)
    (requests : List CacheRequest) : ∃ enough, ∀ rounds, enough ≤ rounds →
      (Undisturbed server config rounds view .empty s requests →
        answers server config rounds s requests = MemoryCache.empty.answers requests) ∧
      (∀ x ∈ sentBy server config rounds s requests, x.command.Within config.Ours) ∧
      ∀ key, ¬config.Ours key → view.Stays s (after server config rounds s requests) key := by
  have mirrors : Mirrors view config .empty s := by
    intro wholeKey
    rw [fresh _ (config.ours_keyBytes wholeKey), MemoryCache.lookup?_empty]
    rfl
  have named : Named view config s := by
    intro key ours held
    rw [fresh key ours] at held
    cases held
  obtain ⟨enough, ran⟩ := run_settles documented requests named
  refine ⟨enough, ?_⟩
  intro rounds le
  obtain ⟨alike, logged, -, stays⟩ := ran rounds le
  refine ⟨alike _ mirrors, ?_, stays⟩
  obtain ⟨exchanges, same, within⟩ := logged []
  rw [sentBy, same]
  exact within

/-- What makes a run undisturbed, told by the rows of both caches. -/
def calm (config : RemoteConfig) (rounds : Nat) (c : MemoryCache) (s : SmallServer) :
    List CacheRequest → Bool
  | [] => true
  | r :: requests =>
    let (answer, s') := perform SmallServer.server config rounds s r.call
    let (answer', c') := c.perform r.now r.call
    c.entries.rows.all (fun row => !row.2.isExpired r.now) &&
      (sent SmallServer.server config rounds s r.call).all (fun x =>
        x.before.table.rows.all fun row => !row.2.due x.after.clock) &&
      (!r.call.isSet || answer'.isOk && answer.isOk) && calm config rounds c' s' requests

theorem undisturbed_of_calm {rounds : Nat} {requests : List CacheRequest} {s : SmallServer}
    (still : calm config rounds c s requests = true) :
    Undisturbed SmallServer.server config rounds SmallServer.view c s requests := by
  induction requests generalizing c s with
  | nil => trivial
  | cons r requests ih =>
    simp only [calm, Bool.and_eq_true, List.all_eq_true, Bool.not_eq_true', Bool.or_eq_true] at still
    obtain ⟨⟨⟨fresh, lasting⟩, accepted⟩, rest⟩ := still
    refine ⟨?_, ?_, ?_, ih rest⟩
    · intro wholeKey e found
      exact fresh _ (Table.mem_of_get? found)
    · intro x member key _ h held
      exact lasting x member _ (Table.mem_of_get? held)
    · intro sets
      rcases accepted with looks | accepted
      · rw [sets] at looks
        cases looks
      · exact accepted

/-- A keyspace of a server that has a key of someone else's. -/
def spaceN : RemoteConfig := { keyspace := "n" }

def shared : SmallServer :=
  ⟨0, Table.empty.insert (utf8 "m:*") ⟨.list [.text [0x39]], none⟩, by decide⟩

/-- Values are set in an area whose name has a star and in one that the star could stand for, and the
first area is dropped. -/
def starred : List CacheRequest :=
  [⟨.epoch, .set "a*" "k" (.ofSeconds 10) [0x31]⟩, ⟨.epoch, .set "ab" "k" (.ofSeconds 10) [0x32]⟩,
    ⟨.epoch, .evictArea "a*"⟩, ⟨.epoch, .get "ab" "k"⟩]

/-- One value is dropped, and the other one is still read. -/
theorem answers_as_memory_starred : ∃ enough, ∀ rounds, enough ≤ rounds →
    answers SmallServer.server spaceN rounds shared starred =
      [⟨.set "a*" "k" (.ofSeconds 10) [0x31], .ok ()⟩, ⟨.set "ab" "k" (.ofSeconds 10) [0x32], .ok ()⟩,
        ⟨.evictArea "a*", .ok (1 : Nat)⟩, ⟨.get "ab" "k", .ok (some [0x32])⟩] := by
  have fresh : ∀ key, spaceN.Ours key → SmallServer.view.held shared key = none := by
    intro key ours
    have found : SmallServer.view.held shared key = if key = utf8 "m:*" then _ else none :=
      Table.get?_insert _ _ _ _
    rw [found]
    split_ifs with same
    · rw [same] at ours
      exact absurd ours (by decide)
    · rfl
  obtain ⟨enough, ran⟩ := answers_as_memory SmallServer.documented spaceN fresh starred
  refine ⟨enough + 1, ?_⟩
  intro rounds le
  obtain ⟨rounds, rfl⟩ := Nat.exists_eq_succ_of_ne_zero (Nat.ne_zero_of_lt le)
  have still : calm spaceN (rounds + 1) .empty shared starred = true := by rfl
  exact (ran (rounds + 1) (by omega)).1 (undisturbed_of_calm still)

end

end Remote

end BearerAuth
