import BearerAuth.Proofs.Session.Running
import BearerAuth.Proofs.Session.System
import BearerAuth.Proofs.Token.Markers
import Mathlib.Data.List.Nodup

/-! # Where markers come from

In every state that can be reached, a marker in the cache was set by the one task that drew its id.
So once a token has been issued, nothing sets its marker again, and when the marker is gone it stays
gone.
-/

namespace BearerAuth

open BearerAuth.Time

namespace Trace

variable {past past' : Trace}

theorem ids_suffix (later : past <:+ past') : past.ids <:+ past'.ids := by
  induction past' with
  | nil =>
    obtain rfl := List.suffix_nil.mp later
    exact List.suffix_rfl
  | cons step past' ih =>
    rcases List.suffix_cons_iff.mp later with rfl | earlier
    · exact List.suffix_rfl
    · have before := ih earlier
      cases step with
      | drew bytes => exact before.trans (List.suffix_cons ..)
      | called call answer => exact before
      | read now => exact before

theorem colonFree_of_mem_ids {id : String} (member : id ∈ past.ids) : ColonFree id := by
  induction past with
  | nil => cases member
  | cons step past ih =>
    cases step with
    | drew bytes =>
      rcases List.mem_cons.mp member with rfl | earlier
      · exact Entropy.colonFree_uuid bytes
      · exact ih earlier
    | called call answer => exact ih member
    | read now => exact ih member

/-- Each call of a trace was allowed after some of its steps. -/
theorem Kept.of_mem {rule : Trace → Call → Prop} {call : Call}
    {answer : Except Failure call.Answer} (kept : past.Kept rule)
    (member : Step.called call answer ∈ past) : ∃ before, before <:+ past ∧ rule before call := by
  induction past with
  | nil => cases member
  | cons step past ih =>
    rcases List.mem_cons.mp member with rfl | earlier
    · exact ⟨past, List.suffix_cons .., kept.1⟩
    · obtain ⟨before, suffix, allowed⟩ := ih kept.tail earlier
      exact ⟨before, suffix.trans (List.suffix_cons ..), allowed⟩

private theorem markerArea_ne (kind : TokenKind) (userId : String) (clientType : ClientType) :
    markerArea kind userId clientType ≠ Session.clientArea ∧
      markerArea kind userId clientType ≠ Session.userArea := by
  have key (area : String) (same : markerArea kind userId clientType = area) :
      cacheKey area "" = Token.markerKey ⟨"", userId, kind, clientType, default, default, ""⟩ := by
    rw [← same]
    rfl
  exact ⟨fun same => clientKey_ne_marker _ _ (key _ same), fun same => userKey_ne_marker _ _ (key _ same)⟩

/-- What an orderly trace sets in the area of markers has an id that was drawn in it. -/
theorem Kept.drawn {area key : String} {ttl : Duration} {value : List UInt8}
    {answer : Except Failure (Call.cache (.set area key ttl value)).Answer} (kept : past.Kept Orderly)
    (member : Step.called (.cache (.set area key ttl value)) answer ∈ past) :
    area = Session.clientArea ∨ area = Session.userArea ∨
      (∃ kind userId clientType, area = markerArea kind userId clientType) ∧ key ∈ past.ids := by
  obtain ⟨before, suffix, allowed⟩ := kept.of_mem member
  rcases allowed with client | user | ⟨marker, drawn, -⟩
  · exact .inl client
  · exact .inr (.inl user)
  · exact .inr (.inr ⟨marker, (ids_suffix suffix).subset drawn⟩)

private theorem called_set_inj {area area' key key' : String} {ttl ttl' : Duration}
    {value value' : List UInt8} {answer answer' : Except Failure Unit}
    (same : Step.called (.cache (.set area key ttl value)) answer =
      Step.called (.cache (.set area' key' ttl' value')) answer') : area = area' ∧ answer = answer' := by
  cases same
  exact ⟨rfl, rfl⟩

/-- An orderly trace sets at most one marker under an id. -/
theorem Kept.set_unique {kind kind' : TokenKind} {userId userId' id : String}
    {clientType clientType' : ClientType} {ttl ttl' : Duration} {value value' : List UInt8}
    {answer answer' : Except Failure Unit} (kept : past.Kept Orderly) (nodup : past.ids.Nodup)
    (first : Step.called (.cache (.set (markerArea kind userId clientType) id ttl value)) answer ∈ past)
    (second : Step.called (.cache (.set (markerArea kind' userId' clientType') id ttl' value'))
      answer' ∈ past) :
    markerArea kind userId clientType = markerArea kind' userId' clientType' ∧ answer = answer' := by
  induction past with
  | nil => cases first
  | cons step past ih =>
    have fresh {kind : TokenKind} {userId : String} {clientType : ClientType} {ttl : Duration}
        {value : List UInt8} {answer : Except Failure Unit} (set : step =
          .called (.cache (.set (markerArea kind userId clientType) id ttl value)) answer) :
        id ∉ Trace.keysSet past := by
      subst set
      rcases kept.1 with client | user | ⟨-, -, unset⟩
      · exact absurd client (markerArea_ne kind userId clientType).1
      · exact absurd user (markerArea_ne kind userId clientType).2
      · exact unset nodup
    have nodup' : (Trace.ids past).Nodup := nodup.sublist (ids_suffix (List.suffix_cons ..)).sublist
    rcases List.mem_cons.mp first with head | tail <;> rcases List.mem_cons.mp second with head' | tail'
    · exact called_set_inj (head.trans head'.symm)
    · exact absurd (mem_keysSet tail') (fresh head.symm)
    · exact absurd (mem_keysSet tail) (fresh head'.symm)
    · exact ih kept.tail nodup' tail tail'

end Trace

namespace System

variable {config : SessionConfig} {source : Nat → List UInt8} {s s' : System}

/-! ## Tasks only grow -/

/-- The later state of a task: more steps may have been taken, unless it was over. -/
structure Later (t t' : Task) : Prop where
  operation : t'.operation = t.operation
  past : t.past <:+ t'.past
  ended : ∀ result, t.rest = .done result → t'.rest = t.rest ∧ t'.past = t.past

theorem Later.refl (t : Task) : Later t t := ⟨rfl, List.suffix_rfl, fun _ _ => ⟨rfl, rfl⟩⟩

/-- The new entry of a list after a change at one place, or an old one elsewhere. -/
theorem getElem?_set_cases {α : Type} {l : List α} {i j : Nat} {a b : α}
    (found : (l.set i a)[j]? = some b) : j = i ∧ b = a ∨ j ≠ i ∧ l[j]? = some b := by
  rw [List.getElem?_set] at found
  split_ifs at found with same bound
  · exact .inl ⟨same.symm, (Option.some.inj found).symm⟩
  · exact .inr ⟨Ne.symm same, found⟩

private theorem set_later {tasks : List Task} {i j : Nat} {t t' u : Task}
    (present : tasks[i]? = some t) (later : Later t t') (found : tasks[j]? = some u) :
    ∃ u', (tasks.set i t')[j]? = some u' ∧ Later u u' := by
  by_cases same : i = j
  · subst same
    obtain rfl := Option.some.inj (present.symm.trans found)
    obtain ⟨bound, -⟩ := List.getElem?_eq_some_iff.mp found
    exact ⟨t', by simp [bound], later⟩
  · exact ⟨u, by rw [List.getElem?_set_ne same, found], .refl u⟩

theorem Turn.later (turn : Turn config source s s') {i : Nat} {t : Task}
    (found : s.tasks[i]? = some t) : ∃ t', s'.tasks[i]? = some t' ∧ Later t t' := by
  cases turn with
  | started operation =>
    obtain ⟨bound, -⟩ := List.getElem?_eq_some_iff.mp found
    exact ⟨t, by rw [List.getElem?_append_left bound, found], .refl t⟩
  | stepped present next answers =>
    refine set_later present ⟨rfl, List.suffix_cons .., fun result ended => ?_⟩ found
    rw [ended] at next
    cases next
  | sweeps present asks => exact set_later present ⟨rfl, List.suffix_rfl, fun _ _ => ⟨rfl, rfl⟩⟩ found
  | gone present absent => exact set_later present ⟨rfl, List.suffix_rfl, fun _ _ => ⟨rfl, rfl⟩⟩ found
  | landed given => exact ⟨t, found, .refl t⟩
  | lost key => exact ⟨t, found, .refl t⟩
  | ticked now => exact ⟨t, found, .refl t⟩
  | recorded directory => exact ⟨t, found, .refl t⟩

/-- A task was started just now, or was there and has taken a step or not. -/
theorem Turn.origin (turn : Turn config source s s') {i : Nat} {t' : Task}
    (found : s'.tasks[i]? = some t') :
    (i = s.tasks.length ∧ ∃ operation, t' = .begin config operation) ∨
    ∃ t, s.tasks[i]? = some t ∧ t'.operation = t.operation ∧
      (t'.past = t.past ∧ t'.rest = t.rest ∨
        ∃ step, t.rest.Next step t'.rest ∧ t'.past = step :: t.past ∧ t'.sweeping = none ∧
          Answers source s t step s'.world s'.stray) := by
  cases turn with
  | started operation =>
    rcases Nat.lt_or_ge i s.tasks.length with old | new
    · rw [List.getElem?_append_left old] at found
      exact .inr ⟨t', found, rfl, .inl ⟨rfl, rfl⟩⟩
    · rw [List.getElem?_append_right new, List.getElem?_singleton] at found
      split_ifs at found with last
      cases found
      exact .inl ⟨by omega, operation, rfl⟩
  | stepped present next answers =>
    rcases getElem?_set_cases found with ⟨rfl, rfl⟩ | ⟨-, old⟩
    · exact .inr ⟨_, present, rfl, .inr ⟨_, next, rfl, rfl, answers⟩⟩
    · exact .inr ⟨t', old, rfl, .inl ⟨rfl, rfl⟩⟩
  | sweeps present asks =>
    rcases getElem?_set_cases found with ⟨rfl, rfl⟩ | ⟨-, old⟩
    · exact .inr ⟨_, present, rfl, .inl ⟨rfl, rfl⟩⟩
    · exact .inr ⟨t', old, rfl, .inl ⟨rfl, rfl⟩⟩
  | gone present absent =>
    rcases getElem?_set_cases found with ⟨rfl, rfl⟩ | ⟨-, old⟩
    · exact .inr ⟨_, present, rfl, .inl ⟨rfl, rfl⟩⟩
    · exact .inr ⟨t', old, rfl, .inl ⟨rfl, rfl⟩⟩
  | landed given => exact .inr ⟨t', found, rfl, .inl ⟨rfl, rfl⟩⟩
  | lost key => exact .inr ⟨t', found, rfl, .inl ⟨rfl, rfl⟩⟩
  | ticked now => exact .inr ⟨t', found, rfl, .inl ⟨rfl, rfl⟩⟩
  | recorded directory => exact .inr ⟨t', found, rfl, .inl ⟨rfl, rfl⟩⟩

/-! ## Draws -/

/-- The first draws of the source make ids that are told apart. -/
def DrawsApart (source : Nat → List UInt8) (n : Nat) : Prop :=
  ∀ i < n, ∀ j < n, Entropy.uuid (source i) = Entropy.uuid (source j) → i = j

theorem DrawsApart.mono {m n : Nat} (apart : DrawsApart source n) (fewer : m ≤ n) :
    DrawsApart source m :=
  fun i before j before' => apart i (Nat.lt_of_lt_of_le before fewer) j (Nat.lt_of_lt_of_le before' fewer)

/-- A step draws the next bytes of the source, or no id. -/
theorem Answers.draws {t : Task} {step : Step} {world : World} {stray : List Call}
    (answers : Answers source s t step world stray) (past : Trace) :
    Trace.ids (step :: past) = past.ids ∧ world.drawn = s.world.drawn ∨
      Trace.ids (step :: past) = Entropy.uuid (source s.world.drawn) :: past.ids ∧
        world.drawn = s.world.drawn + 1 := by
  cases answers with
  | performed call idle => exact .inl ⟨rfl, s.world.perform_drawn call⟩
  | failed call failure => exact .inl ⟨rfl, rfl⟩
  | swept area count finished => exact .inl ⟨rfl, rfl⟩
  | read => exact .inl ⟨rfl, rfl⟩
  | drew => exact .inr ⟨rfl, rfl⟩

/-- The ids that all tasks have drawn. -/
def ids (s : System) : List String := s.tasks.flatMap (·.past.ids)

private theorem flatMap_set_perm {α β : Type} {f : α → List β} {l : List α} {i : Nat} {a b : α}
    (front : List β) (found : l[i]? = some a) (grown : f b = front ++ f a) :
    ((l.set i b).flatMap f).Perm (front ++ l.flatMap f) := by
  induction l generalizing i with
  | nil => cases found
  | cons c l ih =>
    cases i with
    | zero =>
      cases found
      simp [grown]
    | succ i =>
      have rest := (ih found).append_left (f c)
      simp only [List.set_cons_succ, List.flatMap_cons]
      exact rest.trans (List.perm_append_comm_assoc ..)

/-- One turn draws one id or none. -/
theorem Turn.draws (turn : Turn config source s s') :
    s'.ids.Perm s.ids ∧ s'.world.drawn = s.world.drawn ∨
      s'.ids.Perm (Entropy.uuid (source s.world.drawn) :: s.ids) ∧
        s'.world.drawn = s.world.drawn + 1 := by
  cases turn with
  | started operation =>
    refine .inl ⟨?_, rfl⟩
    simp [ids, Task.begin, Trace.ids]
  | stepped present next answers =>
    rcases answers.draws _ with ⟨same, drawn⟩ | ⟨more, drawn⟩
    · exact .inl ⟨flatMap_set_perm [] present same, drawn⟩
    · exact .inr ⟨flatMap_set_perm [_] present more, drawn⟩
  | sweeps present asks => exact .inl ⟨flatMap_set_perm [] present rfl, rfl⟩
  | gone present absent => exact .inl ⟨flatMap_set_perm [] present rfl, rfl⟩
  | landed given => exact .inl ⟨.refl _, s.world.perform_drawn _⟩
  | _ => exact .inl ⟨.refl _, rfl⟩

/-- The ids that were drawn are told apart, and are among the first of the source. -/
structure Drawn (source : Nat → List UInt8) (s : System) : Prop where
  nodup : s.ids.Nodup
  among : ∀ id ∈ s.ids, ∃ n < s.world.drawn, id = Entropy.uuid (source n)

theorem Drawn.turn {bound : Nat} (drawn : Drawn source s) (apart : DrawsApart source bound)
    (turn : Turn config source s s') (within : s'.world.drawn ≤ bound) : Drawn source s' := by
  rcases turn.draws with ⟨ids, same⟩ | ⟨ids, more⟩
  · refine ⟨ids.nodup_iff.mpr drawn.nodup, fun id member => ?_⟩
    rw [same]
    exact drawn.among id (ids.mem_iff.mp member)
  · have fresh : Entropy.uuid (source s.world.drawn) ∉ s.ids := by
      intro member
      obtain ⟨n, earlier, same⟩ := drawn.among _ member
      exact Nat.ne_of_gt earlier (apart _ (by omega) _ (by omega) same)
    refine ⟨ids.nodup_iff.mpr (List.nodup_cons.mpr ⟨fresh, drawn.nodup⟩), fun id member => ?_⟩
    rw [more]
    rcases List.mem_cons.mp (ids.mem_iff.mp member) with rfl | earlier
    · exact ⟨_, Nat.lt_succ_self _, rfl⟩
    · obtain ⟨n, before, same⟩ := drawn.among id earlier
      exact ⟨n, Nat.lt_succ_of_lt before, same⟩

/-- The ids of one task are told apart. -/
theorem Drawn.nodup_task (drawn : Drawn source s) {i : Nat} {t : Task}
    (found : s.tasks[i]? = some t) : t.past.ids.Nodup :=
  (List.nodup_flatMap.mp drawn.nodup).1 t (List.mem_of_getElem? found)

/-- No two tasks have an id in common. -/
theorem Drawn.apart (drawn : Drawn source s) {i j : Nat} {t u : Task}
    (found : s.tasks[i]? = some t) (other : s.tasks[j]? = some u) {id : String}
    (mine : id ∈ t.past.ids) (too : id ∈ u.past.ids) : i = j := by
  have pairwise := List.pairwise_iff_getElem.mp (List.nodup_flatMap.mp drawn.nodup).2
  obtain ⟨boundI, rfl⟩ := List.getElem?_eq_some_iff.mp found
  obtain ⟨boundJ, rfl⟩ := List.getElem?_eq_some_iff.mp other
  rcases Nat.lt_trichotomy i j with before | same | after
  · exact absurd too (pairwise i j boundI boundJ before mine)
  · exact same
  · exact absurd mine (pairwise j i boundJ boundI after too)

/-! ## Markers -/

/-- Some task made the call, and it was answered so. -/
def Asked (s : System) (call : Call) (answer : Except Failure call.Answer) : Prop :=
  ∃ (i : Nat) (t : Task), s.tasks[i]? = some t ∧ Step.called call answer ∈ t.past

theorem Asked.turn {call : Call} {answer : Except Failure call.Answer} (asked : s.Asked call answer)
    (turn : Turn config source s s') : s'.Asked call answer := by
  obtain ⟨i, t, found, member⟩ := asked
  obtain ⟨t', found', later⟩ := turn.later found
  exact ⟨i, t', found', later.past.subset member⟩

private theorem has_perform {w : World} {call : Call} {key : String}
    (after : ((w.perform call).2.cache.lookup? key).isSome) :
    (w.cache.lookup? key).isSome ∨ ∃ area k ttl value, call = .cache (.set area k ttl value) ∧
      cacheKey area k = key := by
  cases call with
  | directory call => exact .inl after
  | cache call =>
    obtain ⟨e, found⟩ := Option.isSome_iff_exists.mp after
    rcases MemoryCache.lookup?_perform found with before | ⟨area, k, ttl, rfl, same, -⟩
    · exact .inl (Option.isSome_iff_exists.mpr ⟨e, before⟩)
    · exact .inr ⟨area, k, ttl, e.value, rfl, same⟩

/-- What is kept now was kept before, or a task has just set it, or a stray call has. -/
theorem Turn.has (turn : Turn config source s s') {key : String} (after : s'.has key = true) :
    s.has key = true ∨ ∃ area k ttl value, cacheKey area k = key ∧
      ((∃ (i : Nat) (t t' : Task) (answer : Except Failure Unit), s.tasks[i]? = some t ∧ s'.tasks[i]? = some t' ∧
        (∀ result, t.rest ≠ .done result) ∧
          t'.past = .called (.cache (.set area k ttl value)) answer :: t.past) ∨
        .cache (.set area k ttl value) ∈ s.stray) := by
  cases turn with
  | @stepped i t step rest world stray present next answers =>
    cases answers with
    | performed call idle =>
      rcases has_perform after with before | ⟨area, k, ttl, value, rfl, same⟩
      · exact .inl before
      · let answer := (s.world.perform (.cache (.set area k ttl value))).1
        refine .inr ⟨area, k, ttl, value, same,
          .inl ⟨i, t, t.after (.called _ answer) rest, answer, present, ?_, ?_, rfl⟩⟩
        · obtain ⟨bound, -⟩ := List.getElem?_eq_some_iff.mp present
          exact List.getElem?_set_self bound
        · intro result ended
          rw [ended] at next
          cases next
    | _ => exact .inl after
  | landed given =>
    rcases has_perform after with before | ⟨area, k, ttl, value, rfl, same⟩
    · exact .inl before
    · exact .inr ⟨area, k, ttl, value, same, .inr (List.mem_of_getElem? given)⟩
  | lost other =>
    refine .inl ?_
    simp only [System.has, MemoryCache.lookup?, Table.get?_erase] at after ⊢
    split_ifs at after
    · cases after
    · exact after
  | _ => exact .inl after

/-! ## Rules -/

/-- Every task abides by the rule and has kept to it, and stray calls were made by tasks. -/
structure Abiding (rule : Trace → Call → Prop) (goal : Operation → Trace → Outcome → Prop)
    (s : System) : Prop where
  abides : ∀ (i : Nat) (t : Task), s.tasks[i]? = some t → Program.Abides rule
    (fun past result => ∀ o, result = .ok o → goal t.operation past o) t.past t.rest
  kept : ∀ (i : Nat) (t : Task), s.tasks[i]? = some t → t.past.Kept rule
  stray : ∀ call ∈ s.stray, ∃ failure, s.Asked call (.error failure)

section

variable {rule : Trace → Call → Prop} {goal : Operation → Trace → Outcome → Prop}

theorem abiding_initial (directory : MemoryDirectory) (clock : Instant) :
    Abiding rule goal (initial directory clock) :=
  ⟨fun _ _ found => by simp [initial] at found, fun _ _ found => by simp [initial] at found,
    fun _ member => by simp [initial] at member⟩

/-- What the steps of a task that was not refused tell. -/
theorem Abiding.reached (abiding : Abiding rule goal s) {i : Nat} {t : Task} {outcome : Outcome}
    (found : s.tasks[i]? = some t) (ended : t.rest = .done (.ok outcome)) :
    goal t.operation t.past outcome := by
  have abides := abiding.abides i t found
  rw [ended] at abides
  exact abides outcome rfl

/-- A rule that every operation abides by is kept at every turn. -/
theorem Abiding.turn (programs : ∀ operation : Operation, Session.Abides rule
    (fun past o => goal operation past o) [] (operation.program config))
    (abiding : Abiding rule goal s) (turn : Turn config source s s') : Abiding rule goal s' := by
  refine ⟨?_, ?_, ?_⟩
  · intro i t' found
    rcases turn.origin found with
      ⟨-, operation, rfl⟩ | ⟨t, old, same, ⟨past, rest⟩ | ⟨step, next, past, -⟩⟩
    · exact (programs operation).steps
    · rw [past, rest, same]
      exact abiding.abides i t old
    · rw [past, same]
      exact (abiding.abides i t old).next next
  · intro i t' found
    rcases turn.origin found with ⟨-, operation, rfl⟩ | ⟨t, old, -, ⟨past, -⟩ | ⟨step, next, past, -⟩⟩
    · trivial
    · rw [past]
      exact abiding.kept i t old
    · rw [past]
      exact (abiding.abides i t old).kept next (abiding.kept i t old)
  · intro call member
    have before (earlier : call ∈ s.stray) : ∃ failure, s'.Asked call (.error failure) := by
      obtain ⟨failure, asked⟩ := abiding.stray call earlier
      exact ⟨failure, asked.turn turn⟩
    -- Calls are given up only by tasks whose own call failed.
    cases turn with
    | @stepped i t step rest world stray present next answers =>
      cases answers with
      | failed call' failure =>
        rcases List.mem_cons.mp member with rfl | earlier
        · obtain ⟨bound, -⟩ := List.getElem?_eq_some_iff.mp present
          exact ⟨failure, i, _, List.getElem?_set_self bound, List.mem_cons_self ..⟩
        · exact before earlier
      | _ => exact before member
    | landed given => exact before (List.mem_of_mem_eraseIdx member)
    | _ => exact before member

end

/-- Every task keeps to the rules, stray calls were made by tasks, and markers were set by them. -/
structure Sound (config : SessionConfig) (s : System) : Prop where
  abides : ∀ (i : Nat) (t : Task), s.tasks[i]? = some t → Program.Abides Trace.Orderly
    (fun past result => ∀ o, result = .ok o → t.operation.Achieves config.tokens past o) t.past t.rest
  kept : ∀ (i : Nat) (t : Task), s.tasks[i]? = some t → t.past.Kept Trace.Orderly
  stray : ∀ call ∈ s.stray, ∃ failure, s.Asked call (.error failure)
  markers : ∀ kind userId clientType key, ColonFree key →
    s.has (cacheKey (markerArea kind userId clientType) key) = true → ∃ ttl value answer,
      s.Asked (.cache (.set (markerArea kind userId clientType) key ttl value)) answer

/-- A call to set something under the key of a marker is one to set that marker. -/
theorem set_marker {t : Task} (kept : t.past.Kept Trace.Orderly) {area k : String} {ttl : Duration}
    {value : List UInt8} {answer : Except Failure Unit}
    (member : Step.called (.cache (.set area k ttl value)) answer ∈ t.past) {kind : TokenKind}
    {userId key : String} {clientType : ClientType} (plain : ColonFree key)
    (same : cacheKey area k = cacheKey (markerArea kind userId clientType) key) :
    area = markerArea kind userId clientType ∧ k = key ∧ key ∈ t.past.ids := by
  have whole : cacheKey (markerArea kind userId clientType) key =
      Token.markerKey ⟨key, userId, kind, clientType, default, default, ""⟩ := rfl
  rcases kept.drawn member with rfl | rfl | ⟨-, drawn⟩
  · exact absurd (same.trans whole) (clientKey_ne_marker _ _)
  · exact absurd (same.trans whole) (userKey_ne_marker _ _)
  · obtain ⟨rfl, rfl⟩ := cacheKey_inj (Trace.colonFree_of_mem_ids drawn) plain same
    exact ⟨rfl, rfl, drawn⟩

theorem sound_initial (config : SessionConfig) (directory : MemoryDirectory) (clock : Instant) :
    Sound config (initial directory clock) := by
  have abiding : Abiding Trace.Orderly
      (fun operation past o => operation.Achieves config.tokens past o) (initial directory clock) :=
    abiding_initial directory clock
  exact ⟨abiding.abides, abiding.kept, abiding.stray,
    fun _ _ _ _ _ there => by simp [initial, has] at there⟩

theorem drawn_initial (source : Nat → List UInt8) (directory : MemoryDirectory) (clock : Instant) :
    Drawn source (initial directory clock) :=
  ⟨List.nodup_nil, fun _ member => by simp [initial, ids] at member⟩

theorem Sound.abiding (sound : Sound config s) : Abiding Trace.Orderly
    (fun operation past o => operation.Achieves config.tokens past o) s :=
  ⟨sound.abides, sound.kept, sound.stray⟩

theorem Sound.turn (sound : Sound config s) (turn : Turn config source s s') : Sound config s' := by
  obtain ⟨abides, kept, stray⟩ := sound.abiding.turn (Operation.program_abides config) turn
  refine ⟨abides, kept, stray, ?_⟩
  intro kind userId clientType key plain after
  rcases turn.has after with before | ⟨area, k, ttl, value, same, ⟨i, t, t', answer, -, found, -, past⟩ | given⟩
  · obtain ⟨ttl, value, answer, asked⟩ := sound.markers kind userId clientType key plain before
    exact ⟨ttl, value, answer, asked.turn turn⟩
  · have member : Step.called (.cache (.set area k ttl value)) answer ∈ t'.past := by simp [past]
    obtain ⟨rfl, rfl, -⟩ := set_marker (kept i t' found) member plain same
    exact ⟨ttl, value, answer, i, t', found, member⟩
  · obtain ⟨failure, i, t, found, member⟩ := sound.stray _ given
    obtain ⟨rfl, rfl, -⟩ := set_marker (sound.kept i t found) member plain same
    exact ⟨ttl, value, .error failure, Asked.turn ⟨i, t, found, member⟩ turn⟩

theorem drawn_le_of_replay? {events : List Event} (run : s.replay? config source events = some s') :
    s.world.drawn ≤ s'.world.drawn := by
  refine replay?_preserves (fun s' => s.world.drawn ≤ s'.world.drawn) ?_ (Nat.le_refl _)
    run
  intro middle event next before happens
  rcases (turn_of_step? happens).draws with ⟨-, same⟩ | ⟨-, more⟩ <;> omega

/-- What every turn between sound states preserves holds after a run, which is sound too. -/
theorem run_preserves (property : System → Prop) {bound : Nat} {events : List Event}
    (apart : DrawsApart source bound)
    (kept : ∀ s s', Sound config s → Drawn source s → Drawn source s' → property s →
      Turn config source s s' → property s')
    (sound : Sound config s) (drawn : Drawn source s) (before : property s)
    (run : s.replay? config source events = some s') (within : s'.world.drawn ≤ bound) :
    Sound config s' ∧ Drawn source s' ∧ property s' := by
  refine replay?_preserves (fun s => s.world.drawn ≤ bound →
    Sound config s ∧ Drawn source s ∧ property s) ?_ (fun _ => ⟨sound, drawn, before⟩) run within
  intro s event s' holds happens within
  have turn := turn_of_step? happens
  have earlier : s.world.drawn ≤ s'.world.drawn := by
    rcases turn.draws with ⟨-, same⟩ | ⟨-, more⟩ <;> omega
  obtain ⟨sound, drawn, before⟩ := holds (Nat.le_trans earlier within)
  have drawn' := drawn.turn apart turn within
  exact ⟨sound.turn turn, drawn', kept s s' sound drawn drawn' before turn⟩

/-- A run leads from a sound state to one. -/
theorem Sound.run {bound : Nat} {events : List Event} (apart : DrawsApart source bound)
    (sound : Sound config s) (drawn : Drawn source s) (run : s.replay? config source events = some s')
    (within : s'.world.drawn ≤ bound) : Sound config s' ∧ Drawn source s' := by
  obtain ⟨sound', drawn', -⟩ := run_preserves (fun _ => True) apart (fun _ _ _ _ _ _ _ => trivial)
    sound drawn trivial run within
  exact ⟨sound', drawn'⟩

/-- What is reached from the start is sound. -/
theorem sound_of_run {directory : MemoryDirectory} {clock : Instant} {bound : Nat} {events : List Event}
    (apart : DrawsApart source bound)
    (run : (initial directory clock).replay? config source events = some s)
    (within : s.world.drawn ≤ bound) : Sound config s ∧ Drawn source s :=
  (sound_initial config directory clock).run apart (drawn_initial source directory clock) run within

end System

end BearerAuth
