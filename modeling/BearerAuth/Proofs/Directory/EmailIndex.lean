import BearerAuth.Directory.Memory
import BearerAuth.Proofs.Cache.Entries
import Mathlib.Data.List.Induction

/-! # The index of email addresses

A user is looked up by its address through an index of ids. Putting a user on record touches at most two
addresses in it: the user takes its own, whoever had that before, and the one that it had till then is taken out,
whoever it leads to by then. So every entry leads to a user who has that very address, through any run of the
directory, and nobody is found by an address that is no longer its own.
-/

namespace BearerAuth

namespace MemoryDirectory

/-! ## Runs -/

/-- What may happen to a directory. -/
inductive Event where
  | insertUser (user : User)
  | insertClient (client : Client)
  | call (call : DirectoryCall)

/-- The directory after an event. -/
def handle (d : MemoryDirectory) : Event → MemoryDirectory
  | .insertUser user => d.insertUser user
  | .insertClient client => d.insertClient client
  | .call call => (d.perform call).2

/-- The directory after some events. -/
def after (d : MemoryDirectory) (events : List Event) : MemoryDirectory := events.foldl handle d

theorem after_append (d : MemoryDirectory) (before later : List Event) :
    d.after (before ++ later) = (d.after before).after later := List.foldl_append

theorem after_concat (d : MemoryDirectory) (events : List Event) (event : Event) :
    d.after (events ++ [event]) = (d.after events).handle event := by
  simp [after]

namespace Event

/-- The user that is put on record. -/
def user? : Event → Option User
  | insertUser user => some user
  | insertClient _ => none
  | call _ => none

theorem eq_insertUser {event : Event} {user : User} (inserted : event.user? = some user) :
    event = insertUser user := by
  cases event with
  | insertUser other => exact congrArg insertUser (Option.some.inj inserted)
  | insertClient client => cases inserted
  | call call => cases inserted

/-- The event gives the address to a user. -/
def Takes (address : String) (event : Event) : Prop :=
  ∃ user, event.user? = some user ∧ emailKey user.email = address

/-- The event moves a user who had the address in the directory to another one. -/
def Leaves (d : MemoryDirectory) (address : String) (event : Event) : Prop :=
  ∃ user previous, event.user? = some user ∧ d.findWithRoles user.id = some previous ∧
    emailKey previous.email = address ∧ emailKey user.email ≠ address

end Event

variable {d : MemoryDirectory} {event : Event} {events : List Event} {address email id : String} {u : User}

/-! ## One event -/

/-- Only putting a user on record touches users and addresses. -/
theorem handle_of_user?_none (other : event.user? = none) :
    (d.handle event).users = d.users ∧ (d.handle event).emails = d.emails := by
  cases event with
  | insertUser user => cases other
  | insertClient client => exact ⟨rfl, rfl⟩
  | call call =>
    cases call with
    | deleteClient secret now =>
      simp only [handle, perform, deleteClient]
      split <;> exact ⟨rfl, rfl⟩
    | _ => exact ⟨rfl, rfl⟩

/-- A user is replaced by the one that is put on record under its id. -/
theorem findWithRoles_handle (d : MemoryDirectory) (event : Event) (id : String) :
    (d.handle event).findWithRoles id =
      (event.user?.filter (·.id = id)).or (d.findWithRoles id) := by
  cases inserted : event.user? with
  | none => simp [findWithRoles, (handle_of_user?_none inserted).1]
  | some user =>
    obtain rfl := Event.eq_insertUser inserted
    by_cases same : user.id = id
    · simp [handle, findWithRoles, insertUser, Table.get?_insert, Option.filter, same]
    · simp [handle, findWithRoles, insertUser, Table.get?_insert, Option.filter, same, Ne.symm same]

/-- What an event does to the entry of an address: a user takes it, a user leaves it, or nothing does. -/
theorem entry_cases (d : MemoryDirectory) (event : Event) (address : String) :
    (∃ user, event.user? = some user ∧ emailKey user.email = address ∧
      (d.handle event).emails.get? address = some user.id) ∨
    (¬event.Takes address ∧ event.Leaves d address ∧ (d.handle event).emails.get? address = none) ∨
    (¬event.Takes address ∧ ¬event.Leaves d address ∧
      (d.handle event).emails.get? address = d.emails.get? address) := by
  cases inserted : event.user? with
  | none =>
    refine .inr (.inr ⟨by simp [Event.Takes, inserted], by simp [Event.Leaves, inserted], ?_⟩)
    rw [(handle_of_user?_none inserted).2]
  | some user =>
    obtain rfl := Event.eq_insertUser inserted
    simp only [handle, insertUser, Table.get?_insert, Event.Takes, Event.Leaves, Event.user?, findWithRoles,
      Option.some.injEq, exists_eq_left']
    by_cases takes : emailKey user.email = address
    · exact .inl ⟨takes, if_pos takes.symm⟩
    · rw [if_neg (Ne.symm takes)]
      right
      cases there : d.users.get? user.id with
      | none => simp [takes, there]
      | some previous =>
        by_cases leaves : emailKey previous.email = address
        · simp [takes, there, leaves, Table.get?_erase]
        · simp [takes, there, leaves, Table.get?_erase, Ne.symm leaves]

/-! ## Every entry leads to a user who has the address -/

/-- Users are on record under their own ids, and entries lead to users with the address. -/
structure Sound (d : MemoryDirectory) : Prop where
  own : ∀ {id u}, d.findWithRoles id = some u → u.id = id
  leads : ∀ {address id}, d.emails.get? address = some id →
    ∃ u, d.findWithRoles id = some u ∧ emailKey u.email = address

theorem Sound.handle (sound : Sound d) (event : Event) : Sound (d.handle event) where
  own := by
    intro id u found
    rw [findWithRoles_handle, Option.or_eq_some_iff] at found
    rcases found with found | ⟨-, found⟩
    · exact of_decide_eq_true (Option.filter_eq_some_iff.mp found).2
    · exact sound.own found
  leads := by
    intro address id entry
    rw [findWithRoles_handle]
    obtain ⟨user, inserted, has, taken⟩ | ⟨-, -, gone⟩ | ⟨untaken, unleft, same⟩ :=
      entry_cases d event address
    · cases taken.symm.trans entry
      exact ⟨user, by simp [inserted, Option.filter], has⟩
    · cases gone.symm.trans entry
    · obtain ⟨u, found, has⟩ := sound.leads (same.symm.trans entry)
      refine ⟨u, ?_, has⟩
      cases replaced : event.user?.filter (·.id = id) with
      | none => simpa using found
      | some user =>
        -- The user would have had the address before, and have taken or left it.
        obtain ⟨inserted, under⟩ := Option.filter_eq_some_iff.mp replaced
        rw [← of_decide_eq_true under] at found
        exact absurd ⟨user, u, inserted, found, has, fun takes => untaken ⟨user, inserted, takes⟩⟩ unleft

theorem sound_after (events : List Event) : Sound (empty.after events) := by
  induction events using List.reverseRecOn with
  | nil => exact ⟨fun found => (by cases found), fun entry => (by cases entry)⟩
  | append_singleton events event ih =>
    rw [after_concat]
    exact ih.handle event

/-- Who was put on record last under an id. -/
def latest (events : List Event) (id : String) : Option User :=
  (events.filterMap Event.user?).reverse.find? (·.id = id)

theorem findWithRoles_after (events : List Event) (id : String) :
    (empty.after events).findWithRoles id = latest events id := by
  induction events using List.reverseRecOn with
  | nil => rfl
  | append_singleton events event ih =>
    rw [after_concat, findWithRoles_handle, ih, latest, latest]
    cases inserted : event.user? with
    | none => simp [inserted]
    | some user => by_cases same : user.id = id <;> simp [inserted, same, Option.filter]

theorem findByEmail_eq_some_iff : d.findByEmail email = some u ↔
    ∃ id, d.emails.get? (emailKey (Text.trim email)) = some id ∧ d.users.get? id = some u := by
  rw [findByEmail]
  exact Option.bind_eq_some_iff

/-- Whoever is found by an address is on record under its own id, and has that address. -/
theorem Sound.found (sound : Sound d) (found : d.findByEmail email = some u) :
    d.findWithRoles u.id = some u ∧ Text.lower u.email = Text.lower (Text.trim email) := by
  obtain ⟨id, entry, there⟩ := findByEmail_eq_some_iff.mp found
  obtain ⟨v, there', has⟩ := sound.leads entry
  cases there.symm.trans there'
  rw [sound.own there']
  exact ⟨there', has⟩

/-- Nobody is found exactly where there is no entry. -/
theorem Sound.findByEmail_eq_none_iff (sound : Sound d) :
    d.findByEmail email = none ↔ d.emails.get? (emailKey (Text.trim email)) = none := by
  rw [findByEmail]
  cases entry : d.emails.get? (emailKey (Text.trim email)) with
  | none => exact iff_of_true rfl rfl
  | some id =>
    obtain ⟨u, there, -⟩ := sound.leads entry
    have there : d.users.get? id = some u := there
    simp [there]

/-- Whatever happens to a directory, a lookup by an email address never leads to another account: who is found
is the one that was last put on record under its id, and has that address, letter case and blanks around it
apart. So nobody is found by an address that it has given up, and whoever has just been put on record is found
by its own. -/
theorem email_leads_home (events : List Event) (email : String) :
    (∀ u, (empty.after events).findByEmail email = some u →
      (empty.after events).findWithRoles u.id = some u ∧ latest events u.id = some u ∧
        Text.lower u.email = Text.lower (Text.trim email)) ∧
    (∀ v, (empty.after events).findWithRoles v.id = some v →
      Text.lower v.email ≠ Text.lower (Text.trim email) →
        ∀ u, (empty.after events).findByEmail email = some u → u.id ≠ v.id) ∧
    ∀ v, Text.lower v.email = Text.lower (Text.trim email) →
      (empty.after (events ++ [.insertUser v])).findByEmail email = some v := by
  have sound := sound_after events
  refine ⟨?_, ?_, ?_⟩
  · intro u found
    obtain ⟨there, has⟩ := sound.found found
    exact ⟨there, (findWithRoles_after events u.id).symm.trans there, has⟩
  · intro v there other u found same
    obtain ⟨there', has⟩ := sound.found found
    rw [same] at there'
    cases there.symm.trans there'
    exact other has
  · intro v has
    rw [after_concat, findByEmail_eq_some_iff]
    have entry : ((empty.after events).insertUser v).emails.get? (emailKey (Text.trim email)) = some v.id := by
      simp [insertUser, Table.get?_insert, emailKey, has]
    have there : ((empty.after events).insertUser v).users.get? v.id = some v := by
      simp [insertUser, Table.get?_insert]
    exact ⟨v.id, entry, there⟩

/-- Ann's address is taken over by Bob, in other letters, before both of them get another one. -/
theorem email_leads_home_taken_over :
    let ann : User := { (default : User) with id := "ann", email := "Ann@X.org" }
    let bob : User := { (default : User) with id := "bob", email := "ann@x.org" }
    let moved : User := { bob with email := "bob@x.org" }
    let gone : User := { ann with email := "Ann@Y.org" }
    let events : List Event := [.insertUser ann, .insertUser bob]
    ((empty.after events).findByEmail " ANN@x.org" = some bob ∧
      (empty.after events).findWithRoles "bob" = some bob) ∧
    ((empty.after (events ++ [.insertUser moved])).findWithRoles "bob" = some moved ∧
      ∀ u, (empty.after (events ++ [.insertUser moved])).findByEmail "ann@x.org" = some u → u.id ≠ "bob") ∧
    (empty.after (events ++ [.insertUser gone])).findByEmail "ann@y.ORG " = some gone := by
  intro ann bob moved gone events
  have found : (empty.after events).findByEmail " ANN@x.org" = some bob := by decide
  have stored : (empty.after (events ++ [.insertUser moved])).findWithRoles moved.id = some moved := by decide
  refine ⟨⟨found, ((email_leads_home events _).1 bob found).1⟩, ⟨stored, ?_⟩, ?_⟩
  · exact (email_leads_home _ "ann@x.org").2.1 moved stored (by decide)
  · exact (email_leads_home events _).2.2 gone (by decide)

end MemoryDirectory

end BearerAuth
