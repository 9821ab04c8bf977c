import BearerAuth.Proofs.Session.Alone
import BearerAuth.Proofs.Session.Provenance
import BearerAuth.Proofs.Token.Validity

/-! # Revocation is final

The argument follows one token of a pair that was returned. Its task is over, so its marker is never
set again (`Settled.absent`). An operation that starts afterwards and evicts an area the marker lies
in leaves it absent when it is answered, all at once or key by key (`Evicting`), and whatever starts
after that can no longer see it (`Unseen`).
-/

namespace BearerAuth

open BearerAuth.Time

/-- What a token was minted from makes it genuine. -/
theorem Trace.Mints.genuine {config : TokenConfig} {kind : TokenKind} {userId : String}
    {clientType : ClientType} {t : Token} (mints : Trace.Mints config kind userId clientType t) :
    t.Genuine config.secret ∧ config.secret.isEmpty = false ∧ t.kind = kind ∧ t.userId = userId ∧
      t.clientType = clientType := by
  obtain ⟨now, expiresAt, found, same⟩ := mints
  obtain ⟨secretSet, -⟩ := Token.expiry_ok found
  rw [same]
  exact ⟨Token.genuine_signed found _ _ _, secretSet, rfl, rfl, rfl⟩

/-- A returned pair was issued. -/
theorem Operation.Achieves.issued {config : TokenConfig} {past : Trace} {operation : Operation}
    {p : TokenPair} (achieved : operation.Achieves config past (.pair p)) :
    ∃ userId clientType, Trace.Issued config userId clientType past p := by
  cases operation with
  | login client email password =>
    obtain ⟨userId, issued⟩ := achieved
    exact ⟨userId, _, issued⟩
  | loginAnonymous client email =>
    obtain ⟨userId, issued⟩ := achieved
    exact ⟨userId, _, issued⟩
  | refresh client raw =>
    obtain ⟨claims, user, -, -, issued⟩ := achieved
    exact ⟨user.id, _, issued⟩
  | _ => cases achieved

/-- The tokens of a pair. -/
def TokenPair.tokens (p : TokenPair) : List Token := [p.access, p.refresh]

/-- The token was issued from the settings, by a task with these steps. -/
structure Trace.Minted (config : TokenConfig) (userId : String) (clientType : ClientType)
    (past : Trace) (t : Token) : Prop where
  genuine : t.Genuine config.secret
  secretSet : config.secret.isEmpty = false
  userId : t.userId = userId
  clientType : t.clientType = clientType
  drawn : t.id ∈ past.ids
  marked : past.Marked t

theorem Trace.Issued.minted {config : TokenConfig} {userId : String} {clientType : ClientType}
    {past : Trace} {p : TokenPair} (issued : Trace.Issued config userId clientType past p)
    {t : Token} (member : t ∈ p.tokens) : past.Minted config userId clientType t := by
  have ids := issued.ids
  rcases List.mem_pair.mp member with rfl | rfl
  · obtain ⟨genuine, secretSet, -, user, type⟩ := issued.access.genuine
    exact ⟨genuine, secretSet, user, type, by simp [ids], issued.markedAccess⟩
  · obtain ⟨genuine, secretSet, -, user, type⟩ := issued.refresh.genuine
    exact ⟨genuine, secretSet, user, type, by simp [ids], issued.markedRefresh⟩

/-- A marker under the id was seen. -/
def Trace.Saw (past : Trace) (id : String) : Prop :=
  ∃ kind userId clientType,
    past.Answered (.cache (.holds (markerArea kind userId clientType) id)) true

namespace System

variable {config : SessionConfig} {source : Nat → List UInt8} {s s' : System} {k : Nat} {t : Token}

/-- What the task resulted in, if it is over. -/
def result? (s : System) (k : Nat) : Option (Except AuthError Outcome) := s.tasks[k]?.bind Task.result?

theorem result?_eq_some {result : Except AuthError Outcome} (ended : s.result? k = some result) :
    ∃ task, s.tasks[k]? = some task ∧ task.rest = .done result := by
  obtain ⟨task, found, shown⟩ := Option.bind_eq_some_iff.mp ended
  refine ⟨task, found, ?_⟩
  unfold Task.result? at shown
  split at shown
  · rename_i same
    rw [same, Option.some.inj shown]
  · cases shown

/-- What the steps of a task that is over include. -/
theorem Sound.achieved (sound : Sound config s) {task : Task} {outcome : Outcome}
    (found : s.tasks[k]? = some task) (ended : task.rest = .done (.ok outcome)) :
    task.operation.Achieves config.tokens task.past outcome :=
  sound.abiding.reached found ended

/-- The task that issued the token is over. -/
def Settled (s : System) (k : Nat) (t : Token) : Prop :=
  ∃ task result, s.tasks[k]? = some task ∧ task.rest = .done result ∧ t.id ∈ task.past.ids ∧
    task.past.Marked t

theorem Settled.turn (settled : s.Settled k t) (turn : Turn config source s s') :
    s'.Settled k t := by
  obtain ⟨task, result, found, ended, drawn, marked⟩ := settled
  obtain ⟨task', found', later⟩ := turn.later found
  obtain ⟨rest, past⟩ := later.ended result ended
  exact ⟨task', result, found', rest.trans ended, past ▸ drawn, past ▸ marked⟩

theorem Settled.colonFree (settled : s.Settled k t) : ColonFree t.id := by
  obtain ⟨task, result, found, ended, drawn, marked⟩ := settled
  exact Trace.colonFree_of_mem_ids drawn

theorem Settled.mem_ids (settled : s.Settled k t) : t.id ∈ s.ids := by
  obtain ⟨task, result, found, ended, drawn, marked⟩ := settled
  exact List.mem_flatMap.mpr ⟨task, List.mem_of_getElem? found, drawn⟩

/-- The tokens of a pair that was returned are settled. -/
theorem Sound.returned (sound : Sound config s) {p : TokenPair}
    (returned : s.result? k = some (.ok (.pair p))) : ∃ past userId clientType, ∀ t ∈ p.tokens,
      Trace.Minted config.tokens userId clientType past t ∧ s.Settled k t := by
  obtain ⟨task, found, ended⟩ := result?_eq_some returned
  obtain ⟨userId, clientType, issued⟩ := (sound.achieved found ended).issued
  refine ⟨task.past, userId, clientType, fun t member => ?_⟩
  have minted := issued.minted member
  exact ⟨minted, task, _, found, ended, minted.drawn, minted.marked⟩

/-- Only the task that issued a token may ever have set something under its id. -/
theorem Settled.asked (settled : s.Settled k t) (sound : Sound config s) (drawn : Drawn source s)
    {kind : TokenKind} {userId : String} {clientType : ClientType} {ttl : Duration}
    {value : List UInt8} {answer : Except Failure Unit} (asked : s.Asked
      (.cache (.set (markerArea kind userId clientType) t.id ttl value)) answer) :
    markerArea kind userId clientType = markerArea t.kind t.userId t.clientType ∧ answer = .ok () := by
  obtain ⟨task, result, found, ended, mine, ttl', marked⟩ := settled
  obtain ⟨i, other, found', member⟩ := asked
  obtain ⟨-, -, too⟩ := set_marker (sound.kept i other found') member
    (Trace.colonFree_of_mem_ids mine) rfl
  obtain rfl := drawn.apart found found' mine too
  obtain rfl := Option.some.inj (found.symm.trans found')
  exact (sound.kept _ _ found).set_unique (drawn.nodup_task found) member marked

/-- A settled token's marker that is not there does not come back. -/
theorem Settled.absent (settled : s.Settled k t) (sound : Sound config s) (drawn : Drawn source s')
    (absent : s.has t.markerKey = false) (turn : Turn config source s s') :
    s'.has t.markerKey = false := by
  by_contra present
  have plain := settled.colonFree
  rcases turn.has (Bool.not_eq_false _ ▸ present) with before | ⟨area, key, ttl, value, same, set⟩
  · simp [absent] at before
  rcases set with ⟨i, u, u', answer, found, found', unfinished, past⟩ | given
  · -- Only the task that issued the token could set its marker, and that is over.
    have member : Step.called (.cache (.set area key ttl value)) answer ∈ u'.past := by simp [past]
    obtain ⟨-, -, too⟩ := set_marker ((sound.turn turn).kept i u' found') member plain same
    obtain ⟨task', result, owned, ended', mine, marked⟩ := settled.turn turn
    obtain rfl := drawn.apart owned found' mine too
    obtain ⟨task, result', owned', ended, -⟩ := settled
    obtain rfl := Option.some.inj (found.symm.trans owned')
    exact unfinished result' ended
  · -- A stray call failed when it was made, but the one that set the marker did not.
    obtain ⟨failure, i, u, found, member⟩ := sound.stray _ given
    obtain ⟨rfl, rfl, mine⟩ := set_marker (sound.kept i u found) member plain same
    obtain ⟨i', u', found', member'⟩ := Asked.turn ⟨i, u, found, member⟩ turn
    have answered := (settled.turn turn).asked (sound.turn turn) drawn ⟨i', u', found', member'⟩
    cases answered.2

/-- The only marker under the id of a settled token is its own. -/
theorem Settled.own_marker (settled : s.Settled k t) (sound : Sound config s)
    (drawn : Drawn source s) {kind : TokenKind} {userId : String} {clientType : ClientType}
    (present : s.has (cacheKey (markerArea kind userId clientType) t.id) = true) :
    s.has t.markerKey = true := by
  obtain ⟨ttl, value, answer, asked⟩ :=
    sound.markers kind userId clientType t.id settled.colonFree present
  obtain ⟨same, -⟩ := settled.asked sound drawn asked
  rw [Token.markerKey, ← same]
  exact present

/-! ## Evictions that start later -/

/-- The tasks from number `n` on that have evicted an area have left no key in it, and those that are
at it wait for each key that is there. -/
structure Evicting (n : Nat) (key : String) (s : System) : Prop where
  finished : ∀ (i : Nat) (task : Task) (area : String), n ≤ i → s.tasks[i]? = some task →
    task.past.Evicted area → liesIn area key = true → s.has key = false
  waiting : ∀ (i : Nat) (task : Task) (area : String) (keys : List String)
    (next : Except Failure Nat → Program (Except AuthError Outcome)), n ≤ i →
    s.tasks[i]? = some task → task.sweeping = some keys →
    task.rest = .call (.cache (.evictArea area)) next → liesIn area key = true →
    key ∈ keys ∨ s.has key = false

theorem evicting_length (s : System) (key : String) : Evicting s.tasks.length key s := by
  have none (i : Nat) (later : s.tasks.length ≤ i) : s.tasks[i]? = none :=
    List.getElem?_eq_none later
  constructor
  · intro i task area later found
    cases (none i later).symm.trans found
  · intro i task area keys next later found
    cases (none i later).symm.trans found

theorem mem_keysIn {area key : String} (present : s.has key = true) (within : liesIn area key = true) :
    key ∈ s.keysIn area := by
  obtain ⟨entry, found⟩ := Option.isSome_iff_exists.mp present
  have row : (key, entry) ∈ s.world.cache.entries.rows := by
    obtain ⟨before, after, rows, -⟩ := List.lookup_eq_some_iff.mp found
    simp [rows]
  exact List.mem_filter.mpr ⟨List.mem_map_of_mem row, within⟩

private theorem next_called {p rest : Program (Except AuthError Outcome)} {step : Step} {call : Call}
    {answer : Except Failure call.Answer} (next : p.Next step rest)
    (same : step = .called call answer) : ∃ f, p = .call call f := by
  cases next with
  | call call' f answer' =>
    cases same
    exact ⟨f, rfl⟩
  | clock f now => cases same
  | draw f bytes => cases same

/-- An eviction that was answered just now has left no key. -/
private theorem Evicting.answered {n i : Nat} {key area : String} {count : Nat} {task : Task}
    {step : Step} {world : World} {stray : List Call} {rest : Program (Except AuthError Outcome)}
    (evicting : Evicting n key s) (later : n ≤ i) (found : s.tasks[i]? = some task)
    (within : liesIn area key = true) (next : task.rest.Next step rest)
    (answers : Answers source s task step world stray)
    (same : step = .called (.cache (.evictArea area)) (.ok count))
    (stays : s.has key = false → (world.cache.lookup? key).isSome = false) :
    (world.cache.lookup? key).isSome = false := by
  obtain ⟨f, asks⟩ := next_called next same
  cases answers with
  | performed call idle =>
    obtain rfl : call = .cache (.evictArea area) := by injection same
    change ((s.world.cache.perform s.world.clock (.evictArea area)).2.lookup? key).isSome = false
    rw [MemoryCache.lookup?_evictArea, if_pos within]
    rfl
  | failed call failure => cases same
  | swept area' count' finished =>
    cases same
    rcases evicting.waiting i task area [] f later found finished asks within with waits | absent
    · cases waits
    · exact stays absent
  | read => cases same
  | drew => cases same

theorem Evicting.turn {n : Nat} {key : String} (evicting : Evicting n key s)
    (turn : Turn config source s s') (stays : s.has key = false → s'.has key = false) :
    Evicting n key s' := by
  constructor
  · rintro i task' area later found' ⟨count, answered⟩ within
    rcases turn.origin found' with
      ⟨-, operation, rfl⟩ | ⟨task, found, -, ⟨past, -⟩ | ⟨step, next, past, -, answers⟩⟩
    · cases answered
    · exact stays (evicting.finished i task area later found ⟨count, past ▸ answered⟩ within)
    · rw [past] at answered
      rcases List.mem_cons.mp answered with same | earlier
      · exact evicting.answered later found within next answers same.symm stays
      · exact stays (evicting.finished i task area later found ⟨count, earlier⟩ within)
  · intro i task' area keys next later found' sweeping asks within
    -- A task that is no further than before still has the key to go, unless it is gone by now.
    have before {task : Task} (found : s.tasks[i]? = some task) (sweeping : task.sweeping = some keys)
        (asks : task.rest = .call (.cache (.evictArea area)) next) : key ∈ keys ∨ s'.has key = false :=
      (evicting.waiting i task area keys next later found sweeping asks within).imp_right stays
    cases turn with
    | started operation =>
      rcases Nat.lt_or_ge i s.tasks.length with old | new
      · rw [List.getElem?_append_left old] at found'
        exact before found' sweeping asks
      · rw [List.getElem?_append_right new, List.getElem?_singleton] at found'
        split_ifs at found'
        cases found'
        cases sweeping
    | stepped present next' answers =>
      rcases getElem?_set_cases found' with ⟨rfl, rfl⟩ | ⟨-, old⟩
      · cases sweeping
      · exact before old sweeping asks
    | sweeps present asks' =>
      rcases getElem?_set_cases found' with ⟨rfl, rfl⟩ | ⟨-, old⟩
      · cases sweeping
        cases asks'.symm.trans asks
        cases present : s.has key with
        | false => exact .inr (stays present)
        | true => exact .inl (mem_keysIn present within)
      · exact before old sweeping asks
    | @gone i' task' key' present absent =>
      rcases getElem?_set_cases found' with ⟨rfl, rfl⟩ | ⟨-, old⟩
      · obtain ⟨keys', sweeping', rfl⟩ := Option.map_eq_some_iff.mp sweeping
        rcases evicting.waiting _ _ area keys' next later present sweeping' asks within with waits | gone
        · by_cases same : key = key'
          · exact .inr (stays (same ▸ absent))
          · exact .inl (List.mem_filter.mpr ⟨waits, by simpa using same⟩)
        · exact .inr (stays gone)
      · exact before old sweeping asks
    | landed given => exact before found' sweeping asks
    | lost other => exact before found' sweeping asks
    | ticked now => exact before found' sweeping asks
    | recorded directory => exact before found' sweeping asks

/-! ## Checks that start later -/

/-- A change at one place leaves all others as they were. -/
private theorem getElem?_set_others {α : Type} {l : List α} {i i' j : Nat} {a b c : α}
    (found : l[i]? = some b) (found' : (l.set i' a)[i]? = some c) (changed : c ≠ b) (other : j ≠ i) :
    (l.set i' a)[j]? = l[j]? := by
  rcases getElem?_set_cases found' with ⟨rfl, -⟩ | ⟨-, old⟩
  · exact List.getElem?_set_ne other.symm
  · exact absurd (Option.some.inj (old.symm.trans found)) changed

/-- A turn that changes one task leaves all others as they were. -/
private theorem Turn.others {i j : Nat} {task task' : Task} (turn : Turn config source s s')
    (found : s.tasks[i]? = some task) (found' : s'.tasks[i]? = some task') (changed : task' ≠ task)
    (other : j ≠ i) : s'.tasks[j]? = s.tasks[j]? := by
  cases turn with
  | started operation =>
    obtain ⟨bound, -⟩ := List.getElem?_eq_some_iff.mp found
    rw [List.getElem?_append_left bound, found] at found'
    exact absurd (Option.some.inj found').symm changed
  | stepped present next answers => exact getElem?_set_others found found' changed other
  | sweeps present asks => exact getElem?_set_others found found' changed other
  | gone present absent => exact getElem?_set_others found found' changed other
  | landed given => rfl
  | lost key => rfl
  | ticked now => rfl
  | recorded directory => rfl

/-- A task that has seen a marker of a settled token had seen it before, or the token's own marker is
there, and that was the only step. -/
theorem Turn.saw {i : Nat} {task' : Task} (turn : Turn config source s s') (settled : s.Settled k t)
    (sound : Sound config s) (drawn : Drawn source s) (found' : s'.tasks[i]? = some task')
    (saw : task'.past.Saw t.id) :
    (∃ task, s.tasks[i]? = some task ∧ task.past.Saw t.id) ∨
      s.has t.markerKey = true ∧
        (∃ area task, task'.past = .called (.cache (.holds area t.id)) (.ok true) :: task.past ∧
          s.tasks[i]? = some task) ∧ ∀ j ≠ i, s'.tasks[j]? = s.tasks[j]? := by
  obtain ⟨kind, userId, clientType, answered⟩ := saw
  rcases turn.origin found' with
    ⟨-, operation, rfl⟩ | ⟨task, found, -, ⟨past, -⟩ | ⟨step, next, past, -, answers⟩⟩
  · cases answered
  · exact .inl ⟨task, found, kind, userId, clientType, past ▸ answered⟩
  · have changed : task' ≠ task := fun same =>
      List.cons_ne_self step task.past (past.symm.trans (congrArg Task.past same))
    have alone (j : Nat) (other : j ≠ i) := turn.others found found' changed other
    rw [past] at answered ⊢
    rcases List.mem_cons.mp answered with same | earlier
    · -- A marker that is seen is there, and the only one there could be is the token's own.
      generalize s'.world = w at answers
      generalize s'.stray = calls at answers
      cases answers with
      | performed call idle =>
        obtain rfl : call = .cache (.holds (markerArea kind userId clientType) t.id) := by
          injection same with calls
          exact calls.symm
        have held : s.world.cache.holds s.world.clock (markerArea kind userId clientType) t.id = true := by
          have answer := eq_of_heq (Step.called.inj same).2
          exact (Except.ok.inj answer).symm
        obtain ⟨entry, present, -⟩ := MemoryCache.holds_iff.mp held
        have there : s.has (cacheKey (markerArea kind userId clientType) t.id) = true := by
          simp [System.has, present]
        exact .inr ⟨settled.own_marker sound drawn there, ⟨_, task, by rw [← same], found⟩, alone⟩
      | failed call failure => cases same
      | swept area count finished => cases same
      | read => cases same
      | drew => cases same
    · exact .inl ⟨task, found, kind, userId, clientType, earlier⟩

/-- The tasks from number `n` on have not seen any marker under the id. -/
def Unseen (n : Nat) (id : String) (s : System) : Prop :=
  ∀ (i : Nat) (task : Task), n ≤ i → s.tasks[i]? = some task → ¬task.past.Saw id

theorem unseen_length (s : System) (id : String) : Unseen s.tasks.length id s := by
  intro i task later found
  rw [List.getElem?_eq_none later] at found
  cases found

theorem Unseen.turn {n : Nat} (unseen : Unseen n t.id s) (settled : s.Settled k t)
    (sound : Sound config s) (drawn : Drawn source s) (absent : s.has t.markerKey = false)
    (turn : Turn config source s s') : Unseen n t.id s' := by
  intro i task' later found' saw
  rcases turn.saw settled sound drawn found' saw with ⟨task, found, before⟩ | ⟨there, -⟩
  · exact unseen i task later found before
  · simp [there] at absent

end System

/-! ## The result -/

/-- The operation, ending so, has revoked the tokens of the user on the client type. -/
def Operation.Revokes (userId : String) (clientType : ClientType) : Operation → Outcome → Prop
  | logout user type, .finished => user = userId ∧ type = clientType
  | logoutAll user, .finished => user = userId
  | login .., .pair p | loginAnonymous .., .pair p | refresh .., .pair p =>
    p.access.userId = userId ∧ p.access.clientType = clientType
  | _, _ => False

/-- An area was evicted in which the markers of the user on the client type lie. -/
theorem Operation.Revokes.evicted {config : TokenConfig} {past : Trace} {operation : Operation}
    {outcome : Outcome} {t : Token} (revokes : operation.Revokes t.userId t.clientType outcome)
    (achieved : operation.Achieves config past outcome) (plain : ColonFree t.id) :
    ∃ area, past.Evicted area ∧ liesIn area t.markerKey = true := by
  have own : liesIn (markerArea t.kind t.userId t.clientType) t.markerKey = true :=
    (liesIn_markerArea plain).mpr ⟨rfl, List.prefix_rfl⟩
  have issued {userId : String} {clientType : ClientType} {p : TokenPair}
      (issued : Trace.Issued config userId clientType past p) (user : p.access.userId = t.userId)
      (type : p.access.clientType = t.clientType) :
      ∃ area, past.Evicted area ∧ liesIn area t.markerKey = true := by
    obtain ⟨-, -, -, sameUser, sameType⟩ := issued.access.genuine
    obtain rfl := sameUser.symm.trans user
    obtain rfl := sameType.symm.trans type
    refine ⟨_, ?_, own⟩
    cases t.kind with
    | access => exact issued.revokedAccess
    | refresh => exact issued.revokedRefresh
  cases operation <;> cases outcome <;> try exact revokes.elim
  case login.pair client email password p =>
    obtain ⟨userId, steps⟩ := achieved
    exact issued steps revokes.1 revokes.2
  case loginAnonymous.pair client email p =>
    obtain ⟨userId, steps⟩ := achieved
    exact issued steps revokes.1 revokes.2
  case refresh.pair client raw p =>
    obtain ⟨claims, user, -, -, steps⟩ := achieved
    exact issued steps revokes.1 revokes.2
  case logout.finished user type =>
    obtain ⟨rfl, rfl⟩ := revokes
    refine ⟨_, ?_, own⟩
    cases t.kind with
    | access => exact achieved.1
    | refresh => exact achieved.2
  case logoutAll.finished user =>
    obtain rfl := revokes
    refine ⟨userMarkerArea t.kind t.userId, ?_,
      (liesIn_userMarkerArea plain).mpr ⟨rfl, areaStart_markerPath t.userId t.clientType⟩⟩
    cases t.kind with
    | access => exact achieved.1
    | refresh => exact achieved.2

/-- The operation presents the raw token. -/
def Operation.Presents (raw : String) : Operation → Prop
  | authenticate _ raw' | refresh _ raw' => raw' = raw
  | _ => False

/-- A raw token is accepted only by a task that has seen a marker under the token's id. -/
theorem Operation.Presents.seen {config : TokenConfig} {past : Trace} {operation : Operation}
    {outcome : Outcome} {t : Token} (presents : operation.Presents t.raw)
    (achieved : operation.Achieves config past outcome) (genuine : t.Genuine config.secret)
    (secretSet : config.secret.isEmpty = false) : past.Saw t.id := by
  have accepted {kind : TokenKind} {clientType : ClientType} {claims : Claims}
      (accepted : Trace.Accepted config kind clientType t.raw claims past) : past.Saw t.id := by
    obtain ⟨now, valid⟩ := accepted.valid
    rw [Token.validate_genuine genuine secretSet] at valid
    split_ifs at valid
    cases valid
    exact ⟨_, _, _, accepted.seen⟩
  cases operation <;> cases outcome <;> try first | exact presents.elim | exact achieved.elim
  case refresh.pair client raw p =>
    obtain rfl := presents
    obtain ⟨claims, user, steps, -⟩ := achieved
    exact accepted steps
  case authenticate.user client raw user =>
    obtain rfl := presents
    obtain ⟨claims, steps⟩ := achieved
    exact accepted steps

namespace System

variable {config : SessionConfig} {source : Nat → List UInt8} {s₁ s₂ s₃ : System}

/-- The operation of a task. -/
def operation? (s : System) (k : Nat) : Option Operation := s.tasks[k]?.map Task.operation

/-- What the steps of a task whose operation has succeeded include. -/
theorem Sound.ended {s : System} {k : Nat} {operation : Operation} {outcome : Outcome}
    (sound : Sound config s) (asked : s.operation? k = some operation)
    (succeeded : s.result? k = some (.ok outcome)) :
    ∃ task, s.tasks[k]? = some task ∧ operation.Achieves config.tokens task.past outcome := by
  obtain ⟨task, found, ended⟩ := result?_eq_some succeeded
  have operated : task.operation = operation := by simpa [operation?, found] using asked
  exact ⟨task, found, operated ▸ sound.achieved found ended⟩

/-- Once an operation that was started after a pair was returned has revoked it, no operation that is
started after that accepts either of its raw tokens, whatever happens in between. -/
theorem revocation_is_final {directory : MemoryDirectory} {clock : Instant}
    {events₁ events₂ events₃ : List Event} {issuing revoking presenting : Nat} {p : TokenPair}
    {operation₂ operation₃ : Operation} {outcome₂ : Outcome} {t : Token}
    (apart : DrawsApart source s₃.world.drawn)
    (run₁ : (initial directory clock).replay? config source events₁ = some s₁)
    (returned : s₁.result? issuing = some (.ok (.pair p)))
    (run₂ : s₁.replay? config source events₂ = some s₂)
    (after₁ : s₁.tasks.length ≤ revoking) (revoke : s₂.operation? revoking = some operation₂)
    (revoked : s₂.result? revoking = some (.ok outcome₂))
    (revokes : operation₂.Revokes p.access.userId p.access.clientType outcome₂)
    (run₃ : s₂.replay? config source events₃ = some s₃)
    (after₂ : s₂.tasks.length ≤ presenting) (present : s₃.operation? presenting = some operation₃)
    (token : t ∈ p.tokens) (presents : operation₃.Presents t.raw) (outcome₃ : Outcome) :
    s₃.result? presenting ≠ some (.ok outcome₃) := by
  intro accepted
  have within₂ : s₂.world.drawn ≤ s₃.world.drawn := drawn_le_of_replay? run₃
  have within₁ : s₁.world.drawn ≤ s₃.world.drawn := Nat.le_trans (drawn_le_of_replay? run₂) within₂
  obtain ⟨sound₁, drawn₁⟩ := sound_of_run apart run₁ within₁
  obtain ⟨past₁, userId, clientType, issued⟩ := sound₁.returned returned
  obtain ⟨minted, settled₁⟩ := issued t token
  obtain ⟨same, -⟩ := issued p.access (List.mem_cons_self ..)
  -- Up to the revocation: areas that are evicted from now on are left without the marker.
  obtain ⟨sound₂, drawn₂, settled₂, evicting⟩ := run_preserves
    (fun s => s.Settled issuing t ∧ Evicting s₁.tasks.length t.markerKey s) apart
    (fun _ _ sound _ drawn' ⟨settled, evicting⟩ turn => ⟨settled.turn turn,
      evicting.turn turn fun absent => settled.absent sound drawn' absent turn⟩)
    sound₁ drawn₁ ⟨settled₁, evicting_length s₁ t.markerKey⟩ run₂ within₂
  obtain ⟨task₂, found₂, achieved₂⟩ := sound₂.ended revoke revoked
  rw [same.userId, same.clientType, ← minted.userId, ← minted.clientType] at revokes
  obtain ⟨area, evicted, reached⟩ := revokes.evicted achieved₂ settled₁.colonFree
  have absent₂ := evicting.finished revoking task₂ area after₁ found₂ evicted reached
  -- From the revocation on: nobody sees a marker of the token.
  obtain ⟨sound₃, -, -, -, unseen⟩ := run_preserves
    (fun s => s.Settled issuing t ∧ s.has t.markerKey = false ∧
      Unseen s₂.tasks.length t.id s) apart
    (fun _ _ sound drawn drawn' ⟨settled, absent, unseen⟩ turn => ⟨settled.turn turn,
      settled.absent sound drawn' absent turn, unseen.turn settled sound drawn absent turn⟩)
    sound₂ drawn₂ ⟨settled₂, absent₂, unseen_length s₂ t.id⟩ run₃ (Nat.le_refl _)
  obtain ⟨task₃, found₃, achieved₃⟩ := sound₃.ended present accepted
  exact unseen presenting task₃ after₂ found₃
    (presents.seen achieved₃ minted.genuine minted.secretSet)

/-- The first draws of the sample source are told apart. -/
theorem drawsApart_sample {n : Nat} (few : n ≤ 6) : DrawsApart Sample.source n := by
  have six : DrawsApart Sample.source 6 := by
    unfold DrawsApart
    decide +kernel
  exact six.mono few

/-- Ann signs in and out, and her access token is presented after that. -/
theorem revocation_is_final_logout : ∃ (s₁ s₂ s₃ : System) (events₁ events₂ events₃ : List Event)
    (p : TokenPair) (result : Except AuthError Outcome),
    (initial (Sample.directory "ann") .epoch).replay? Sample.config Sample.source events₁ = some s₁ ∧
    s₁.result? 0 = some (.ok (.pair p)) ∧
    s₁.replay? Sample.config Sample.source events₂ = some s₂ ∧
    s₂.operation? 1 = some (.logout "ann" ⟨"WEB"⟩) ∧ s₂.result? 1 = some (.ok .finished) ∧
    s₂.replay? Sample.config Sample.source events₃ = some s₃ ∧
    s₃.operation? 2 = some (.authenticate (Sample.client "WEB") p.access.raw) ∧
    s₃.result? 2 = some result ∧ ∀ outcome, s₃.result? 2 ≠ some (.ok outcome) := by
  obtain ⟨events₁, past₁, p, v₁, w₁, run₁, -, quiet₁, begun⟩ :=
    Sample.signIn "ann" "WEB" (by decide) (by decide)
  let s₁ : System := ⟨w₁, [⟨.loginAnonymous (Sample.client "WEB") "guest", past₁,
    .done (.ok (.pair p)), none⟩], []⟩
  obtain ⟨events₂, past₂, w₂, run₂, -, revoked⟩ := replay?_signOut Sample.config Sample.source s₁
    "ann" ⟨"WEB"⟩ (by decide)
  let authenticate := Operation.authenticate (Sample.client "WEB") p.access.raw
  let s₂ : System := ⟨w₂, s₁.tasks ++ [⟨.logout "ann" ⟨"WEB"⟩, past₂, .done (.ok .finished), none⟩], []⟩
  have ends := Session.ends_runIn Sample.source (authenticate.program Sample.config) w₂
  obtain ⟨events₃, past₃, run₃⟩ := replay?_operation Sample.config (s := s₂) ends
  generalize (authenticate.program Sample.config).runIn Sample.source w₂ = final at ends run₃
  obtain ⟨result, w₃⟩ := final
  let s₃ : System := ⟨w₃, s₂.tasks ++ [⟨authenticate, past₃, .done result, none⟩], []⟩
  have returned : s₁.result? 0 = some (.ok (.pair p)) := rfl
  have revoked' : s₂.result? 1 = some (.ok .finished) := rfl
  have drawn : w₃.drawn = 2 := by
    rw [(Operation.quiet ends rfl).still, revoked.drawn]
    exact begun.drawn.trans (congrArg (· + 2) quiet₁.still)
  have apart : DrawsApart Sample.source s₃.world.drawn := drawsApart_sample (by omega : w₃.drawn ≤ 6)
  have revokes : (Operation.logout "ann" ⟨"WEB"⟩).Revokes p.access.userId p.access.clientType .finished :=
    ⟨begun.access.fields.2.2.1.symm, begun.access.fields.2.2.2.symm⟩
  refine ⟨s₁, s₂, s₃, events₁, events₂, _, p, result, run₁, returned, run₂, rfl, revoked', run₃, rfl, rfl,
    fun outcome => ?_⟩
  exact revocation_is_final apart run₁ returned run₂ (Nat.le_refl 1) rfl revoked' revokes run₃
    (Nat.le_refl 2) rfl (List.mem_cons_self ..) rfl outcome

end System

end BearerAuth
