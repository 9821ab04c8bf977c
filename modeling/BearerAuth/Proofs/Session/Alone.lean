import BearerAuth.Proofs.Session.Outcomes
import BearerAuth.Proofs.Session.System

/-! # Alone among others

What an operation does when it runs alone is one of the things that can happen while others wait: the
clock moves on and the steps of its task are answered, and nothing else happens in between.
-/

namespace BearerAuth

open BearerAuth.Time

namespace Program

variable {α β γ : Type}

theorem andThen_done (p : Program α) : p.andThen .done = p := by
  induction p with
  | done a => rfl
  | call c next ih => exact congrArg (call c) (funext ih)
  | clock next ih => exact congrArg clock (funext ih)
  | draw next ih => exact congrArg draw (funext ih)

theorem andThen_assoc (p : Program α) (f : α → Program β) (g : β → Program γ) :
    (p.andThen f).andThen g = p.andThen fun a => (f a).andThen g := by
  induction p with
  | done a => rfl
  | call c next ih => exact congrArg (call c) (funext ih)
  | clock next ih => exact congrArg clock (funext ih)
  | draw next ih => exact congrArg draw (funext ih)

instance : LawfulMonad Program :=
  LawfulMonad.mk' Program andThen_done (fun _ _ => rfl) andThen_assoc

end Program

namespace System

variable {config : SessionConfig} {source : Nat → List UInt8} {s : System} {w' : World}

private theorem advance_call {i : Nat} {operation : Operation} {past : Trace} {c : Call}
    {next : Except Failure c.Answer → Program (Except AuthError Outcome)} (now : Instant)
    (found : s.tasks[i]? = some ⟨operation, past, .call c next, none⟩) :
    s.replay? config source [.tick now, .advance i] = some ⟨((s.world.setClock now).perform c).2,
      s.tasks.set i ⟨operation, .called c ((s.world.setClock now).perform c).1 :: past,
        next ((s.world.setClock now).perform c).1, none⟩, s.stray⟩ := by
  simp only [replay?, step?, found, Option.bind_some]
  rfl

private theorem advance_clock {i : Nat} {operation : Operation} {past : Trace}
    {next : Instant → Program (Except AuthError Outcome)} (now : Instant)
    (found : s.tasks[i]? = some ⟨operation, past, .clock next, none⟩) :
    s.replay? config source [.tick now, .advance i] = some ⟨s.world.setClock now,
      s.tasks.set i ⟨operation, .read now :: past, next now, none⟩, s.stray⟩ := by
  simp only [replay?, step?, found, Option.bind_some]
  rfl

private theorem advance_draw {i : Nat} {operation : Operation} {past : Trace}
    {next : List UInt8 → Program (Except AuthError Outcome)}
    (found : s.tasks[i]? = some ⟨operation, past, .draw next, none⟩) :
    s.replay? config source [.advance i] = some ⟨{ s.world with drawn := s.world.drawn + 1 },
      s.tasks.set i ⟨operation, .drew (source s.world.drawn) :: past, next (source s.world.drawn),
        none⟩, s.stray⟩ := by
  simp only [replay?, step?, found]
  rfl

theorem getElem?_set_of_found {tasks : List Task} {i : Nat} {t t' : Task}
    (found : tasks[i]? = some t) : (tasks.set i t')[i]? = some t' := by
  obtain ⟨bound, -⟩ := List.getElem?_eq_some_iff.mp found
  exact List.getElem?_set_self bound

/-- What a task can still do after some events, it can do. -/
private theorem replay?_onward {i : Nat} {first : List Event} {w : World} {t : Task} {u : Trace → Task}
    (happens : s.replay? config source first = some ⟨w, s.tasks.set i t, s.stray⟩)
    (onward : ∃ events past', replay? config source ⟨w, s.tasks.set i t, s.stray⟩ events =
      some ⟨w', (s.tasks.set i t).set i (u past'), s.stray⟩) :
    ∃ events past', s.replay? config source events =
      some ⟨w', s.tasks.set i (u past'), s.stray⟩ := by
  obtain ⟨events, past', run⟩ := onward
  refine ⟨first ++ events, past', ?_⟩
  rw [replay?_append, happens, Option.bind_some, run, List.set_set]

/-- A task can be taken through the first part of its program. -/
theorem replay?_of_ends {α : Type} {i : Nat} {operation : Operation} {past : Trace} {p : Program α}
    {f : α → Program (Except AuthError Outcome)} {a : α}
    (found : s.tasks[i]? = some ⟨operation, past, p.andThen f, none⟩)
    (ends : p.Ends source s.world a w') : ∃ events past', s.replay? config source events =
      some ⟨w', s.tasks.set i ⟨operation, past', f a, none⟩, s.stray⟩ := by
  generalize start : s.world = w at ends
  induction ends generalizing s past with
  | done a w =>
    refine ⟨[], past, ?_⟩
    obtain ⟨bound, same⟩ := List.getElem?_eq_some_iff.mp found
    have unchanged : s.tasks.set i ⟨operation, past, f a, none⟩ = s.tasks := by
      refine Eq.trans (congrArg (s.tasks.set i) ?_) (List.set_getElem_self bound)
      exact same.symm
    rw [unchanged, ← start]
    rfl
  | @call c next w w' now a later rest ih =>
    subst start
    exact replay?_onward (u := fun past' => ⟨operation, past', f a, none⟩)
      (advance_call now found) (ih (getElem?_set_of_found found) rfl)
  | @clock next w w' now a later rest ih =>
    subst start
    exact replay?_onward (u := fun past' => ⟨operation, past', f a, none⟩)
      (advance_clock now found) (ih (getElem?_set_of_found found) rfl)
  | @draw next w w' a rest ih =>
    subst start
    exact replay?_onward (u := fun past' => ⟨operation, past', f a, none⟩)
      (advance_draw found) (ih (getElem?_set_of_found found) rfl)

/-- An operation that may end so alone may do so while all others wait. -/
theorem replay?_operation (config : SessionConfig) {operation : Operation} {result : Except AuthError Outcome}
    (ends : (operation.program config).Ends source s.world result w') :
    ∃ events past, s.replay? config source (.start operation :: events) =
      some ⟨w', s.tasks ++ [⟨operation, past, .done result, none⟩], s.stray⟩ := by
  let begun : System := { s with tasks := s.tasks ++ [.begin config operation] }
  have found : begun.tasks[s.tasks.length]? = some
      ⟨operation, [], (operation.program config).run.andThen .done, none⟩ := by
    rw [Program.andThen_done]
    exact List.getElem?_concat_length
  obtain ⟨events, past, run⟩ : ∃ events past, begun.replay? config source events = _ :=
    replay?_of_ends found ends
  refine ⟨events, past, ?_⟩
  have set : begun.tasks.set s.tasks.length ⟨operation, past, .done result, none⟩ =
      s.tasks ++ [⟨operation, past, .done result, none⟩] := by simp [begun]
  rw [set] at run
  exact run

/-- An anonymous user on record can sign in on an active client, in every state. -/
theorem replay?_signIn {client : Client} {email : String} {user : User}
    (named : (Text.trim email).isEmpty = false)
    (found : s.world.directory.findByEmail email = some user) (anonymous : user.anonymous = true)
    (active : client.isActive = true) (serves : Session.Serves config.tokens user.id client.clientType
      s.world.clock s.world.clock) :
    ∃ events past p w₁ w', s.replay? config source events = some ⟨w', s.tasks ++
        [⟨.loginAnonymous client email, past, .done (.ok (.pair p)), none⟩], s.stray⟩ ∧
      w'.clock = s.world.clock ∧ s.world.Quiet w₁ ∧
        Session.Begun source config.tokens user.id client.clientType w₁ w' p := by
  have signIn : Session.Ensures source s.world.clock _ _ (Session.loginAnonymous config client email)
      s.world := Session.loginAnonymous_succeeds named found anonymous active serves
  obtain ⟨p, w', ends, clock, w₁, quiet, begun⟩ := signIn.ends_ok
  have whole : ((Operation.loginAnonymous client email).program config).Ends source s.world
      (.ok (.pair p)) w' := Session.Ends.passOn Outcome.pair ends
  obtain ⟨events, past, run⟩ := replay?_operation config whole
  exact ⟨_, past, p, w₁, w', run, clock, quiet, begun⟩

/-- A user can sign out, in every state. -/
theorem replay?_signOut (config : SessionConfig) (source : Nat → List UInt8) (s : System)
    (userId : String) (clientType : ClientType) (named : userId.isEmpty = false) :
    ∃ events past w', s.replay? config source events = some ⟨w', s.tasks ++
        [⟨.logout userId clientType, past, .done (.ok .finished), none⟩], s.stray⟩ ∧
      w'.clock = s.world.clock ∧ s.world.Revoked (Session.areasOn userId clientType) w' := by
  have signOut : Session.Ensures source s.world.clock _ _ (Session.logout config userId clientType)
      s.world := Session.logout_succeeds clientType named
  obtain ⟨_, w', ends, clock, revoked⟩ := signOut.ends_ok
  have whole : ((Operation.logout userId clientType).program config).Ends source s.world
      (.ok .finished) w' := Session.Ends.passOn (fun _ => Outcome.finished) ends
  obtain ⟨events, past, run⟩ := replay?_operation config whole
  exact ⟨_, past, w', run, clock, revoked⟩

end System

/-! ## A small setting -/

namespace Sample

/-- Fifteen minutes and a week. -/
def config : SessionConfig :=
  ⟨⟨"secret", .ofSeconds 900, .ofSeconds 604800⟩, .ofSeconds 3600, .ofSeconds 300, .ofSeconds 2⟩

/-- An anonymous user. -/
def user (id : String) : User :=
  ⟨id, "guest", "guest", true, true, true, [], [], Instant.epoch, Instant.epoch⟩

def client (clientType : String) : Client := .new ⟨clientType⟩ "key" .epoch

def directory (userId : String) : MemoryDirectory := MemoryDirectory.empty.insertUser (user userId)

/-- Bytes that tell the first draws apart. -/
def source (n : Nat) : List UInt8 := [n.toUInt8]

theorem serves {userId clientType : String} (user : userId.isEmpty = false)
    (type : clientType.isEmpty = false) :
    Session.Serves config.tokens userId ⟨clientType⟩ .epoch .epoch := by
  intro kind now later early
  obtain rfl : now = .epoch := Instant.le_antisymm early later
  have lasting : (config.tokens.ttl kind).seconds ≠ 0 := by cases kind <;> decide
  have shown : (Instant.ofSeconds? (Instant.epoch.seconds + (config.tokens.ttl kind).seconds)).isSome := by
    cases kind <;> decide
  obtain ⟨expiresAt, shown⟩ := Option.isSome_iff_exists.mp shown
  exact ⟨expiresAt, Token.expiry_of_instant (by decide) user type lasting shown⟩

theorem findByEmail_directory (userId : String) :
    (directory userId).findByEmail "guest" = some (user userId) := by
  have trimmed : MemoryDirectory.emailKey (Text.trim "guest") = MemoryDirectory.emailKey "guest" := by
    decide +kernel
  simp [MemoryDirectory.findByEmail, directory, MemoryDirectory.insertUser, MemoryDirectory.empty,
    Table.get?_insert, trimmed, user]

/-- The first thing that happens is that the user signs in. -/
theorem signIn (userId clientType : String) (named : userId.isEmpty = false)
    (typed : clientType.isEmpty = false) :
    ∃ events past p w w', (System.initial (directory userId) .epoch).replay? config source events =
        some ⟨w', [⟨.loginAnonymous (client clientType) "guest", past, .done (.ok (.pair p)), none⟩], []⟩ ∧
      w'.clock = .epoch ∧ (System.initial (directory userId) .epoch).world.Quiet w ∧
        Session.Begun source config.tokens userId ⟨clientType⟩ w w' p := by
  have blank : (Text.trim "guest").isEmpty = false := by decide +kernel
  have found : (System.initial (directory userId) .epoch).world.directory.findByEmail "guest" =
      some (user userId) := findByEmail_directory userId
  have serves : Session.Serves config.tokens (user userId).id (client clientType).clientType
      (System.initial (directory userId) .epoch).world.clock
      (System.initial (directory userId) .epoch).world.clock := serves named typed
  exact System.replay?_signIn blank found rfl rfl serves

end Sample

end BearerAuth
