import BearerAuth.Proofs.Account.Registration
import BearerAuth.Proofs.Directory.EmailIndex

/-! # Users with one address

Two users may be on record with one address. The entry is then that of the one who took the address last, and is
taken out as soon as either of them gets another address, so that the other one is not found by its own. Nobody
is lost in any other way: a user on record is not found by its address exactly if somebody has left that address
since it was last taken, and never if no other user has had it together with that one.
-/

namespace BearerAuth

namespace MemoryDirectory

variable {d : MemoryDirectory} {event : Event} {events : List Event} {address id : String} {u : User}

/-- The last that happened to the address is that a user left it. -/
def Left (events : List Event) (address : String) : Prop :=
  ∃ before event later, events = before ++ event :: later ∧
    event.Leaves (empty.after before) address ∧ ∀ other ∈ later, ¬other.Takes address

/-- Two users are on record with the address. -/
def Shares (d : MemoryDirectory) (address : String) : Prop :=
  ∃ u v, u.id ≠ v.id ∧ d.findWithRoles u.id = some u ∧ d.findWithRoles v.id = some v ∧
    emailKey u.email = address ∧ emailKey v.email = address

theorem left_concat : Left (events ++ [event]) address ↔
    event.Leaves (empty.after events) address ∨ Left events address ∧ ¬event.Takes address := by
  constructor
  · rintro ⟨before, leaving, later, same, leaves, untaken⟩
    rcases List.eq_nil_or_concat later with rfl | ⟨later, last, rfl⟩
    · obtain ⟨rfl, ends⟩ := List.append_inj' same rfl
      cases ends
      exact .inl leaves
    · rw [List.concat_eq_append] at same untaken
      rw [← List.cons_append, ← List.append_assoc] at same
      obtain ⟨rfl, ends⟩ := List.append_inj' same rfl
      cases ends
      refine .inr ⟨⟨before, leaving, later, rfl, leaves, fun other member => ?_⟩, ?_⟩
      · exact untaken other (List.mem_append_left _ member)
      · exact untaken event (List.mem_append_right _ (List.mem_singleton.mpr rfl))
  · rintro (leaves | ⟨⟨before, leaving, later, rfl, leaves, untaken⟩, free⟩)
    · exact ⟨events, event, [], rfl, leaves, by simp⟩
    · refine ⟨before, leaving, later ++ [event], by simp, leaves, fun other member => ?_⟩
      rcases List.mem_append.mp member with member | member
      · exact untaken other member
      · rwa [List.mem_singleton.mp member]

/-- An address leads nowhere exactly if it was left last, or was never taken. -/
theorem entry_eq_none_iff : (empty.after events).emails.get? address = none ↔
    Left events address ∨ ∀ event ∈ events, ¬event.Takes address := by
  induction events using List.reverseRecOn with
  | nil => exact iff_of_true rfl (.inr (by simp))
  | append_singleton events event ih =>
    rw [after_concat, left_concat]
    obtain ⟨user, inserted, has, taken⟩ | ⟨untaken, leaves, gone⟩ | ⟨untaken, unleft, same⟩ :=
      entry_cases (empty.after events) event address
    · have takes : event.Takes address := ⟨user, inserted, has⟩
      have stays : ¬event.Leaves (empty.after events) address := by
        rintro ⟨other, -, inserted', -, -, hasNot⟩
        cases inserted.symm.trans inserted'
        exact hasNot has
      simp [taken, takes, stays]
    · simp [gone, leaves]
    · simp [same, ih, untaken, unleft, or_imp, forall_and]

/-- A user with the address that is on record in the end was so before, unless the address was taken since. -/
theorem found_before {later : List Event} (stored : (d.after later).findWithRoles id = some u)
    (untaken : ∀ event ∈ later, ¬event.Takes (emailKey u.email)) : d.findWithRoles id = some u := by
  induction later generalizing d with
  | nil => exact stored
  | cons event later ih =>
    have after := ih stored fun other member => untaken other (List.mem_cons_of_mem _ member)
    rw [findWithRoles_handle, Option.or_eq_some_iff] at after
    rcases after with replaced | ⟨-, before⟩
    · have inserted := (Option.filter_eq_some_iff.mp replaced).1
      exact absurd ⟨u, inserted, rfl⟩ (untaken event (List.mem_cons_self ..))
    · exact before

/-- A user on record took its address when it was put there. -/
theorem taken_of_found (stored : (empty.after events).findWithRoles id = some u) :
    ∃ event ∈ events, event.Takes (emailKey u.email) := by
  rw [findWithRoles_after] at stored
  have member := List.mem_of_find?_eq_some stored
  obtain ⟨event, there, inserted⟩ := List.mem_filterMap.mp (List.mem_reverse.mp member)
  exact ⟨event, there, u, inserted, rfl⟩

/-- If the address of a user on record was left last, another user had it together with that one. -/
theorem shared_of_left (stored : (empty.after events).findWithRoles u.id = some u)
    (left : Left events (emailKey u.email)) :
    ∃ before, before <+: events ∧ Shares (empty.after before) (emailKey u.email) := by
  obtain ⟨before, event, later, rfl, ⟨user, previous, inserted, there, had, hasNot⟩, untaken⟩ := left
  have free : ¬event.Takes (emailKey u.email) := by
    rintro ⟨other, inserted', has⟩
    cases inserted.symm.trans inserted'
    exact hasNot has
  rw [after_append] at stored
  have since : ((empty.after before).handle event).findWithRoles u.id = some u := found_before stored untaken
  have so : ((empty.after before).after [event]).findWithRoles u.id = some u := since
  have earlier : (empty.after before).findWithRoles u.id = some u := found_before so (by simpa using free)
  have own := (sound_after before).own there
  refine ⟨before, List.prefix_append .., u, previous, ?_, earlier, own ▸ there, rfl, had⟩
  -- The user who left is another one, or else the user on record would be the one with the other address.
  intro same
  rw [findWithRoles_handle, inserted] at since
  simp [Option.filter, same, own] at since
  exact hasNot (since ▸ rfl)

/-- A user on record whose address has no blanks around it is not found by it exactly if somebody left that
address after it was last taken. Who is found has the same address, letter case apart, and is the user itself
unless another one was ever on record with it at the same time. -/
theorem found_unless_left (stored : (empty.after events).findWithRoles u.id = some u)
    (plain : Text.trim u.email = u.email) :
    ((empty.after events).findByEmail u.email = none ↔ Left events (Text.lower u.email)) ∧
    (∀ v, (empty.after events).findByEmail u.email = some v → Text.lower v.email = Text.lower u.email) ∧
    ((∀ before, before <+: events → ¬Shares (empty.after before) (Text.lower u.email)) →
      (empty.after events).findByEmail u.email = some u) := by
  have sound := sound_after events
  have taken := taken_of_found stored
  have lost : (empty.after events).findByEmail u.email = none ↔ Left events (emailKey u.email) := by
    rw [sound.findByEmail_eq_none_iff, plain, entry_eq_none_iff, or_iff_left]
    push Not
    exact taken
  have alike : ∀ v, (empty.after events).findByEmail u.email = some v →
      Text.lower v.email = Text.lower u.email := by
    intro v found
    rw [(sound.found found).2, plain]
  refine ⟨lost, alike, fun alone => ?_⟩
  cases found : (empty.after events).findByEmail u.email with
  | none =>
    obtain ⟨before, earlier, shares⟩ := shared_of_left stored (lost.mp found)
    exact absurd shares (alone before earlier)
  | some v =>
    have there := (sound.found found).1
    by_cases same : u.id = v.id
    · rw [← same] at there
      exact there.symm.trans stored
    · exact absurd ⟨u, v, same, stored, there, rfl, alike v found⟩ (alone events (List.prefix_refl _))

/-- Bob registers with the address of Ann, in other letters, and is not found any more once she gets another. -/
theorem found_unless_left_handed_over :
    ∃ ann bob : User,
      User.register "ann" "Team@x.org " "password" (List.replicate 16 1) (List.replicate 16 2) .epoch = .ok ann ∧
      User.register "bob" "team@x.org" "password" (List.replicate 16 3) (List.replicate 16 4) .epoch = .ok bob ∧
      let moved := { ann with email := "ann@x.org" }
      let events : List Event := [.insertUser ann, .insertUser bob, .insertUser moved]
      (empty.after events).findWithRoles bob.id = some bob ∧ Text.trim bob.email = bob.email ∧
        (empty.after events).findByEmail bob.email = none := by
  have stored (salt : List UInt8) : Password.store "password" salt = .ok _ :=
    Password.store_eq_ok_iff.mpr ⟨by decide, rfl⟩
  obtain ⟨ann, registered, annId, annEmail⟩ : ∃ ann : User,
      User.register "ann" "Team@x.org " "password" (List.replicate 16 1) (List.replicate 16 2) .epoch = .ok ann ∧
      ann.id = Entropy.uuid (List.replicate 16 1) ∧ ann.email = "Team@x.org" :=
    ⟨_, User.register_eq_ok_iff.mpr ⟨by decide, by decide, _, stored _, rfl⟩, rfl, by decide⟩
  obtain ⟨bob, registered', bobId, bobEmail⟩ : ∃ bob : User,
      User.register "bob" "team@x.org" "password" (List.replicate 16 3) (List.replicate 16 4) .epoch = .ok bob ∧
      bob.id = Entropy.uuid (List.replicate 16 3) ∧ bob.email = "team@x.org" :=
    ⟨_, User.register_eq_ok_iff.mpr ⟨by decide, by decide, _, stored _, rfl⟩, rfl, by decide⟩
  have plain := User.trim_email_of_register registered'
  have others : ann.id ≠ bob.id := by
    rw [annId, bobId]
    decide
  refine ⟨ann, bob, registered, registered', ?_⟩
  intro moved events
  have onRecord : (empty.after events).findWithRoles bob.id = some bob := by
    simp [events, moved, after, handle, insertUser, findWithRoles, Table.get?_insert, others.symm]
  have left : Left events (Text.lower bob.email) := by
    refine ⟨[.insertUser ann, .insertUser bob], .insertUser moved, [], rfl, ⟨moved, ann, rfl, ?_, ?_, ?_⟩, by simp⟩
    · simp [moved, after, handle, insertUser, findWithRoles, Table.get?_insert, others]
    · rw [annEmail, bobEmail]
      decide
    · rw [bobEmail]
      exact show Text.lower "ann@x.org" ≠ Text.lower "team@x.org" by decide
  exact ⟨onRecord, plain, (found_unless_left onRecord plain).1.mpr left⟩

end MemoryDirectory

end BearerAuth
