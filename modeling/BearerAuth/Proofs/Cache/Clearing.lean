import BearerAuth.Proofs.Cache.Documented
import BearerAuth.Proofs.Decimal.Digits
import Mathlib.Data.List.Perm.Basic

/-! # Clearing an area on a server

An area is dropped batch by batch while the server goes on with its iteration. Each batch thins out the keys
that match the pattern of the area, and counts those it takes away: `View.Thinned`, which holds from the first
state to the last of the whole loop. When the iteration has come to its end nothing is left that matches.
-/

namespace BearerAuth

open BearerAuth.Text

/-! ## Thinning out -/

namespace Server.View

variable {σ : Type} {view : View σ} {ours : List UInt8 → Prop} {pattern : List UInt8} {s s' s'' : σ}
  {count : Nat}

/-- The keys are all those that match a pattern and are held, each once. -/
structure Lists (view : View σ) (pattern : List UInt8) (s : σ) (keys : List (List UInt8)) : Prop where
  nodup : keys.Nodup
  mem_iff : ∀ key, key ∈ keys ↔ Glob.Matches pattern key ∧ (view.held s key).isSome

/-- These exchanges lead from one state to a later one, and nothing has happened to the keys but that some of
those that match a pattern were deleted: so many, if no time has come for any key of ours. -/
structure Thinned (view : View σ) (ours : List UInt8 → Prop) (pattern : List UInt8) (s s' : σ)
    (exchanges : List (Exchange σ)) (count : Nat) : Prop where
  clock_le : view.clock s ≤ view.clock s'
  others : ∀ key, ¬Glob.Matches pattern key → view.Stays s s' key
  shrinks : ∀ key, view.held s' key = none ∨ view.held s' key = view.held s key
  kept : view.Calm ours exchanges → ∀ key, ours key → ¬Glob.Matches pattern key →
    view.held s' key = view.held s key
  counted : view.Calm ours exchanges → ∀ {keys}, view.Lists pattern s keys →
    ∃ rest, view.Lists pattern s' rest ∧ keys.length = count + rest.length

theorem Thinned.refl (s : σ) : view.Thinned ours pattern s s [] 0 where
  clock_le := Nat.le_refl _
  others _ _ := .refl _ _
  shrinks _ := .inr rfl
  kept _ _ _ _ := rfl
  counted _ keys lists := ⟨keys, lists, (Nat.zero_add _).symm⟩

theorem Thinned.trans {exchanges later : List (Exchange σ)} {more : Nat}
    (first : view.Thinned ours pattern s s' exchanges count)
    (second : view.Thinned ours pattern s' s'' later more) :
    view.Thinned ours pattern s s'' (exchanges ++ later) (count + more) where
  clock_le := Nat.le_trans first.clock_le second.clock_le
  others key miss := (first.others key miss).trans second.clock_le (second.others key miss)
  shrinks key := by
    rcases second.shrinks key with gone | same
    · exact .inl gone
    · rw [same]
      exact first.shrinks key
  kept calm key mine miss := by
    rw [Calm.append_iff] at calm
    rw [second.kept calm.2 key mine miss, first.kept calm.1 key mine miss]
  counted := by
    intro calm keys lists
    rw [Calm.append_iff] at calm
    obtain ⟨rest, lists', length⟩ := first.counted calm.1 lists
    obtain ⟨last, lists'', length'⟩ := second.counted calm.2 lists'
    exact ⟨last, lists'', by omega⟩

/-- The same keys are listed where what matches is held as before. -/
theorem Lists.of_eq {keys : List (List UInt8)} (lists : view.Lists pattern s keys)
    (same : ∀ key, Glob.Matches pattern key → view.held s' key = view.held s key) :
    view.Lists pattern s' keys where
  nodup := lists.nodup
  mem_iff key := by
    rw [lists.mem_iff]
    apply and_congr_right
    intro hit
    rw [same key hit]

/-- What is left when some of the keys are removed, and how many that are. -/
theorem Lists.without {keys removed : List (List UInt8)} (lists : view.Lists pattern s keys)
    (nodup : removed.Nodup)
    (there : ∀ key ∈ removed, Glob.Matches pattern key ∧ (view.held s key).isSome)
    (left : ∀ key, Glob.Matches pattern key →
      ((view.held s' key).isSome ↔ (view.held s key).isSome ∧ key ∉ removed)) :
    ∃ rest, view.Lists pattern s' rest ∧ keys.length = removed.length + rest.length := by
  refine ⟨keys.filter (· ∉ removed), ⟨lists.nodup.filter _, ?_⟩, ?_⟩
  · intro key
    rw [List.mem_filter, decide_eq_true_eq, lists.mem_iff, and_assoc]
    exact and_congr_right fun hit => (left key hit).symm
  · have taken : (keys.filter (· ∈ removed)).Perm removed := by
      rw [List.perm_ext_iff_of_nodup (lists.nodup.filter _) nodup]
      intro key
      rw [List.mem_filter, decide_eq_true_eq, lists.mem_iff, and_iff_right_iff_imp]
      exact there key
    have split := List.length_eq_length_filter_add (l := keys) (· ∈ removed)
    simp only [taken.length_eq] at split
    simpa using split

end Server.View

namespace Server.Documented

open Server

variable {σ : Type} {server : Server σ} {view : View σ} {ours : List UInt8 → Prop}
  {pattern : List UInt8} {cursor count : Nat} {s s' : σ} {reply : Option Reply}
  {keys : List (List UInt8)}

/-- Asking for a batch deletes nothing. -/
theorem thinned_of_scan (documented : Documented server view) (asked : 0 < count)
    (mine : ∀ key, Glob.Matches pattern key → ours key)
    (replied : server.reply (.scan cursor pattern count) s = (reply, s')) :
    view.Thinned ours pattern s s' [⟨.scan cursor pattern count, s, s'⟩] 0 := by
  have stays := documented.scan_stays asked replied
  refine ⟨documented.clock_le replied, fun key _ => stays key, fun key => (stays key).shrinks, ?_, ?_⟩
  · intro calm key ours _
    rw [View.Calm.singleton_iff] at calm
    exact (stays key).eq_of_lasting (calm key ours)
  · intro calm keys lists
    rw [View.Calm.singleton_iff] at calm
    refine ⟨keys, lists.of_eq ?_, (Nat.zero_add _).symm⟩
    intro key hit
    exact (stays key).eq_of_lasting (calm key (mine key hit))

/-- Deleting keys that match a pattern thins out what matches it. -/
theorem thinned_of_delete (documented : Documented server view) (nonempty : keys ≠ [])
    (mine : ∀ key, Glob.Matches pattern key → ours key)
    (hits : ∀ key ∈ keys, Glob.Matches pattern key)
    (replied : server.reply (.delete keys) s = (reply, s')) :
    ∃ count : Nat, reply = some (.number count) ∧ count ≤ 9223372036854775807 ∧
      view.Thinned ours pattern s s' [⟨.delete keys, s, s'⟩] count ∧
      ∀ key ∈ keys, view.held s' key = none := by
  obtain ⟨others, gone, removed, rfl, fits, nodup, there, missed⟩ := documented.delete nonempty replied
  have outside {key : List UInt8} (miss : ¬Glob.Matches pattern key) : key ∉ keys :=
    fun member => miss (hits key member)
  refine ⟨removed.length, rfl, fits, ⟨documented.clock_le replied, ?_, ?_, ?_, ?_⟩, gone⟩
  · intro key miss
    exact others key (outside miss)
  · intro key
    by_cases member : key ∈ keys
    · exact .inl (gone key member)
    · exact (others key member).shrinks
  · intro calm key ours miss
    rw [View.Calm.singleton_iff] at calm
    exact (others key (outside miss)).eq_of_lasting (calm key ours)
  · intro calm listed lists
    rw [View.Calm.singleton_iff] at calm
    apply lists.without nodup fun key member => ⟨hits key (there key member).1, (there key member).2⟩
    intro key hit
    have lasting := calm key (mine key hit)
    by_cases member : key ∈ keys
    · have none := gone key member
      by_cases taken : key ∈ removed
      · simp [none, taken]
      · simp [← (missed key member taken).eq_of_lasting lasting, none]
    · have kept : key ∉ removed := fun taken => member (there key taken).1
      simp [(others key member).eq_of_lasting lasting, kept]

end Server.Documented

/-! ## Reading replies -/

namespace Remote

theorem Reply.count?_number {n : Nat} (fits : n ≤ 9223372036854775807) :
    Reply.count? (.number n) = some n := by
  have word : ((n : Int) % 18446744073709551616).toNat = n := by omega
  simp only [Reply.count?, word]

theorem Reply.count?_argument {n : Nat} (fits : n ≤ 18446744073709551615) :
    Reply.count? (.text (argument n)) = some n := by
  simp only [Reply.count?, Reply.text?, argument, ofUtf8?_utf8, Option.bind_eq_bind, Option.bind_some,
    String.toList_ofList, Decimal.whole_toDigits fits]

theorem Reply.keys?_texts (texts : List String) :
    Reply.keys? (.list ((texts.map utf8).map .text)) = some texts := by
  simp only [Reply.keys?]
  induction texts with
  | nil => rfl
  | cons text texts ih =>
    have first : Reply.text? (.text (utf8 text)) = some text := ofUtf8?_utf8 text
    rw [List.map_cons, List.map_cons, List.mapM_cons, first, ih]
    rfl

theorem Reply.batch?_batch {next : Nat} (fits : next ≤ 18446744073709551615) (texts : List String) :
    Reply.batch? (Server.batch next (texts.map utf8)) = some (next, texts) := by
  simp only [Reply.batch?, Server.batch, count?_argument fits, keys?_texts]
  rfl

section

variable {σ α : Type} {server : Server σ} {command : Command} {read : Reply → Option α} {s s' : σ}

/-- What is understood of what the server replied. -/
def understood (read : Reply → Option α) : Option Reply → Except CacheError α
  | none => .error (.backend "broken pipe")
  | some (.error reason) => .error (.backend reason)
  | some reply =>
    match read reply with
    | some a => .ok a
    | none => .error unusable

theorem ask_eq (server : Server σ) (command : Command) (read : Reply → Option α) (s : σ) :
    ask server command read s =
      (understood read (server.reply command s).1, (server.reply command s).2) := by
  simp only [ask]
  rcases server.reply command s with ⟨_ | reply, s'⟩
  · rfl
  · cases reply with
    | error reason => rfl
    | _ =>
      simp only [understood]
      split <;> simp only [*]

/-- The answer is what is understood of the reply, and the exchange is on the record. -/
theorem ask_recording {reply : Option Reply} (log : List (Server.Exchange σ))
    (replied : server.reply command s = (reply, s')) :
    ask server.recording command read (s, log) =
      (understood read reply, s', log ++ [⟨command, s, s'⟩]) := by
  simp only [ask_eq, Server.recording, replied]

/-- Keeping a record changes nothing. -/
theorem ask_unrecorded (command : Command) (read : Reply → Option α) (s : σ)
    (log : List (Server.Exchange σ)) :
    ask server command read s =
      ((ask server.recording command read (s, log)).1,
        (ask server.recording command read (s, log)).2.1) := by
  simp only [ask_eq, Server.recording]

end

/-! ## The loop -/

section

variable {σ : Type} {server : Server σ} {view : Server.View σ} {ours : List UInt8 → Prop}
  {config : RemoteConfig} {area : String}

/-- The pattern for the keys of an area, in bytes. -/
def areaPattern (config : RemoteConfig) (area : String) : List UInt8 :=
  utf8 (String.ofList (Pattern.ofArea config.keyspace area))

/-- Drops the keys of a batch, if it has any. -/
def dropKeys {τ : Type} (server : Server τ) (keys : List String) (s : τ) : Except CacheError Nat × τ :=
  if keys.isEmpty then (.ok 0, s)
  else ask server (Command.delete (keys.map utf8)) Reply.count? s

/-- One round of the loop. -/
theorem dropBatches_succ {τ : Type} (server : Server τ) (rounds cursor dropped : Nat) (s : τ) :
    dropBatches server config area (rounds + 1) cursor dropped s =
      match ask server (.scan cursor (areaPattern config area) batchSize) Reply.batch? s with
      | (.error e, s) => (.error e, s)
      | (.ok (next, keys), s) =>
        match (dropKeys server keys s).1 with
        | .error e => (.error e, (dropKeys server keys s).2)
        | .ok removed =>
          if next = 0 then (.ok (dropped + removed), (dropKeys server keys s).2)
          else dropBatches server config area rounds next (dropped + removed)
            (dropKeys server keys s).2 := by
  have same : scanCommand config area cursor = .scan cursor (areaPattern config area) batchSize := rfl
  rw [dropBatches, same]
  rcases ask server (.scan cursor (areaPattern config area) batchSize) Reply.batch? s
    with ⟨_ | ⟨next, keys⟩, s'⟩ <;> rfl

/-- The keys of a batch are deleted, if there are any. -/
theorem dropKeys_thins {pattern : List UInt8} (documented : server.Documented view)
    (mine : ∀ key, Glob.Matches pattern key → ours key) {keys : List String} (s : σ)
    (hits : ∀ key ∈ keys.map utf8, Glob.Matches pattern key) :
    ∃ removed s' sent, view.Thinned ours pattern s s' sent removed ∧
      (∀ key ∈ keys.map utf8, view.held s' key = none) ∧
      (∀ x ∈ sent, x.command.Within ours) ∧
      (∀ place found next, server.Onward pattern batchSize place found (next, s) →
        server.Onward pattern batchSize place found (next, s')) ∧
      ∀ log, dropKeys server.recording keys (s, log) = (.ok removed, s', log ++ sent) := by
  cases keys with
  | nil =>
    refine ⟨0, s, [], .refl s, by simp, by simp, fun _ _ _ onward => onward, ?_⟩
    intro log
    rw [List.append_nil]
    rfl
  | cons key keys =>
    have nonempty : (key :: keys).map utf8 ≠ [] := by simp
    cases replied : server.reply (.delete ((key :: keys).map utf8)) s with
    | mk reply s' =>
      obtain ⟨removed, rfl, fits, thinned, gone⟩ :=
        documented.thinned_of_delete nonempty mine hits replied
      refine ⟨removed, s', _, thinned, gone, ?_, ?_, ?_⟩
      · intro x member
        obtain rfl := List.mem_singleton.mp member
        exact .delete nonempty fun key member => mine key (hits key member)
      · intro place found next onward
        exact .delete onward nonempty replied
      · intro log
        have counted : understood Reply.count? (some (.number removed)) = .ok removed := by
          simp only [understood, Reply.count?_number fits]
        exact counted ▸ ask_recording log replied

/-- Keys that are all texts are the bytes of some texts. -/
private theorem exists_texts {keys : List (List UInt8)} (texts : ∀ key ∈ keys, ∃ text, key = utf8 text) :
    ∃ names : List String, keys = names.map utf8 := by
  induction keys with
  | nil => exact ⟨[], rfl⟩
  | cons key keys ih =>
    obtain ⟨name, rfl⟩ := texts key (List.mem_cons_self ..)
    obtain ⟨names, rfl⟩ := ih fun other member => texts other (List.mem_cons_of_mem _ member)
    exact ⟨name :: names, rfl⟩

/-- A round of the loop goes from a place of an iteration, with the keys found up to there, to the next one. -/
structure Round (server : Server σ) (view : Server.View σ) (ours : List UInt8 → Prop)
    (config : RemoteConfig) (area : String) (place : Nat × σ) (found keys : List (List UInt8))
    (next : Nat × σ) (exchanges : List (Server.Exchange σ)) (removed : Nat) : Prop where
  thinned : view.Thinned ours (areaPattern config area) place.2 next.2 exchanges removed
  within : ∀ x ∈ exchanges, x.command.Within ours
  gone : ∀ key ∈ found ++ keys, view.held next.2 key = none
  cleared : next.1 = 0 → ∀ key, Glob.Matches (areaPattern config area) key → view.held next.2 key = none
  onward : next.1 ≠ 0 → server.Onward (areaPattern config area) batchSize place keys next
  runs : ∀ rounds dropped log,
    dropBatches server.recording config area (rounds + 1) place.1 dropped (place.2, log) =
      if next.1 = 0 then (.ok (dropped + removed), next.2, log ++ exchanges)
      else dropBatches server.recording config area rounds next.1 (dropped + removed)
        (next.2, log ++ exchanges)

/-- What the loop meets are texts, and so each round goes well. -/
theorem exists_round (documented : server.Documented view)
    (mine : ∀ key, Glob.Matches (areaPattern config area) key → ours key) {start : σ}
    (texts : ∀ key, Glob.Matches (areaPattern config area) key → (view.held start key).isSome →
      ∃ text, key = utf8 text)
    {found : List (List UInt8)} {place : Nat × σ}
    (scanning : server.Scanning (areaPattern config area) batchSize start found place)
    (gone : ∀ key ∈ found, view.held place.2 key = none) :
    ∃ keys next exchanges removed,
      Round server view ours config area place found keys next exchanges removed := by
  obtain ⟨cursor, s⟩ := place
  have asked : 0 < batchSize := by decide
  cases replied : server.reply (.scan cursor (areaPattern config area) batchSize) s with
  | mk reply s₁ =>
    obtain ⟨next, keys, fits, rfl, hits, last⟩ := documented.scan asked scanning replied
    obtain ⟨names, rfl⟩ := exists_texts fun key member =>
      texts key (hits key member).1 (hits key member).2
    have read : understood Reply.batch? (some (Server.batch next (names.map utf8))) =
        .ok (next, names) := by
      have shown := Reply.batch?_batch fits names
      rw [Server.batch] at shown ⊢
      simp only [understood, shown]
    have scanned (log : List (Server.Exchange σ)) := read ▸ ask_recording log replied
    obtain ⟨removed, s₂, deletes, thinned, taken, within, onward, deleted⟩ :=
      dropKeys_thins documented mine s₁ fun key member => (hits key member).1
    have round := (documented.thinned_of_scan asked mine replied).trans thinned
    rw [Nat.zero_add] at round
    have emptied : ∀ key ∈ found ++ names.map utf8, view.held s₂ key = none := by
      intro key member
      rcases List.mem_append.mp member with before | now
      · rcases round.shrinks key with none | same
        · exact none
        · exact same.trans (gone key before)
      · exact taken key now
    refine ⟨_, (next, s₂), _, removed, round, ?_, emptied, ?_, ?_, ?_⟩
    · exact List.forall_mem_cons.mpr ⟨.scan asked mine, within⟩
    · -- What still matches after the last batch was in a batch, and so it is gone.
      intro ended key hit
      rcases thinned.shrinks key with none | same
      · exact none
      · cases held : view.held s₁ key with
        | none => exact same.trans held
        | some h => exact emptied key (last ended key hit (by rw [held]; rfl))
    · intro more
      exact onward _ _ _ (.batch replied more)
    · intro rounds dropped log
      rw [dropBatches_succ, scanned log]
      simp only [deleted, List.append_assoc]

/-- From any place of an iteration the loop comes to its end, if every key it can meet is a text: it thins
out what matches until nothing is left of it, and says by how much. -/
theorem dropBatches_thins (documented : server.Documented view)
    (mine : ∀ key, Glob.Matches (areaPattern config area) key → ours key) {start : σ}
    (texts : ∀ key, Glob.Matches (areaPattern config area) key → (view.held start key).isSome →
      ∃ text, key = utf8 text)
    {found : List (List UInt8)} {place : Nat × σ}
    (ends : Acc (fun next place => ∃ keys,
      server.Onward (areaPattern config area) batchSize place keys next) place)
    (scanning : server.Scanning (areaPattern config area) batchSize start found place)
    (gone : ∀ key ∈ found, view.held place.2 key = none) :
    ∃ removed s' sent, view.Thinned ours (areaPattern config area) place.2 s' sent removed ∧
      (∀ key, Glob.Matches (areaPattern config area) key → view.held s' key = none) ∧
      (∀ x ∈ sent, x.command.Within ours) ∧
      ∃ enough, ∀ rounds, enough ≤ rounds → ∀ dropped log,
        dropBatches server.recording config area rounds place.1 dropped (place.2, log) =
          (.ok (dropped + removed), s', log ++ sent) := by
  -- The induction is on the rest of the iteration; what was found on the way is gone already.
  induction ends generalizing found with
  | intro place _ ih =>
    obtain ⟨keys, next, exchanges, removed, round⟩ := exists_round documented mine texts scanning gone
    by_cases ended : next.1 = 0
    · refine ⟨removed, next.2, exchanges, round.thinned, round.cleared ended, round.within, 1, ?_⟩
      intro rounds le dropped log
      obtain ⟨rounds, rfl⟩ := Nat.exists_eq_succ_of_ne_zero (Nat.ne_zero_of_lt le)
      rw [round.runs, if_pos ended]
    · have step := round.onward ended
      obtain ⟨more, s', later, rest, cleared, within, enough, ran⟩ :=
        ih next ⟨_, step⟩ (scanning.onward step) round.gone
      refine ⟨removed + more, s', exchanges ++ later, round.thinned.trans rest, cleared,
        List.forall_mem_append.mpr ⟨round.within, within⟩, enough + 1, ?_⟩
      intro rounds le dropped log
      obtain ⟨rounds, rfl⟩ := Nat.exists_eq_succ_of_ne_zero (Nat.ne_zero_of_lt le)
      rw [round.runs, if_neg ended, ran rounds (by omega), Nat.add_assoc, List.append_assoc]

end

end Remote

end BearerAuth
