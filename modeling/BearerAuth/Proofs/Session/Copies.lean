import BearerAuth.Proofs.Account.Reading
import BearerAuth.Proofs.Session.Operation
import BearerAuth.Proofs.Token.Markers

/-! # Copies of accounts

Copies of clients and users are kept to save lookups. Whoever answers, an operation keeps nothing but
markers and copies of what the directory has told it, and a client or a user that it results in was
told by the directory or read from a copy.
-/

namespace BearerAuth

open BearerAuth.Time

/-- What copies are kept of: the client with a secret, or the user with an id. -/
inductive Account where
  | client (secret : String)
  | user (userId : String)

namespace Account

def area : Account → String
  | client _ => Session.clientArea
  | user _ => Session.userArea

def key : Account → String
  | client secret => secret
  | user userId => userId

/-- The whole key of the copy. -/
def copyKey (a : Account) : String := cacheKey a.area a.key

/-- How long a copy is kept. -/
def ttl (config : SessionConfig) : Account → Duration
  | client _ => config.clientCacheTtl
  | user _ => config.userCacheTtl

theorem copyKey_inj {a b : Account} (same : a.copyKey = b.copyKey) : a = b := by
  cases a with
  | client secret =>
    cases b with
    | client other => exact congrArg client (clientKey_inj same)
    | user userId => exact absurd same.symm (userKey_ne_clientKey userId secret)
  | user userId =>
    cases b with
    | client secret => exact absurd same (userKey_ne_clientKey userId secret)
    | user other => exact congrArg user (userKey_inj same)

/-- Copies are kept apart from the markers. -/
theorem copyKey_ne_marker (a : Account) (kind : TokenKind) (userId : String) (clientType : ClientType)
    (tokenId : String) : a.copyKey ≠ cacheKey (markerArea kind userId clientType) tokenId := by
  let t : Token := ⟨tokenId, userId, kind, clientType, Instant.epoch, Instant.epoch, ""⟩
  cases a with
  | client secret => exact clientKey_ne_marker secret t
  | user userId => exact userKey_ne_marker userId t

end Account

namespace Trace

/-- A client was deleted, or may have been. -/
def Deletes (past : Trace) : Prop :=
  ∃ secret now answer, Step.called (.directory (.deleteClient secret now)) answer ∈ past

/-- The directory has told of the account, whose copy this is. A deleted client is not copied. -/
def Found (past : Trace) : Account → List UInt8 → Prop
  | .client secret, copy => ∃ client, past.Answered (.directory (.findClient secret)) (some client) ∧
      client.isActive = true ∧ copy = Text.utf8 client.toJson.compact
  | .user userId, copy => ∃ user, past.Answered (.directory (.findWithRoles userId)) (some user) ∧
      copy = Text.utf8 user.toJson.compact

/-- A copy of the account was read, or could have been made of what the directory has told. -/
def Obtained (past : Trace) (a : Account) (copy : List UInt8) : Prop :=
  past.Answered (.cache (.get a.area a.key)) (some copy) ∨ past.Found a copy

/-- The client is active, and was told or read. -/
def ShowsClient (past : Trace) (secret : String) (client : Client) : Prop :=
  client.isActive = true ∧ ∃ copy, past.Obtained (.client secret) copy ∧
    decodeCached Client.reader copy = .ok client

/-- The user was told or read, its credentials apart. -/
def ShowsUser (past : Trace) (userId : String) (user : User) : Prop :=
  ∃ copy kept, past.Obtained (.user userId) copy ∧ decodeCached User.reader copy = .ok kept ∧
    { kept with credentials := [] } = { user with credentials := [] }

/-- Dropping the copy of the account was the last step. -/
def Dropped (past : Trace) (a : Account) : Prop :=
  ∃ before, past = .called (.cache (.evict a.area a.key)) (.ok ()) :: before

/-- Only markers are set and, for their time, copies of accounts that the directory has told of, and
none is looked up after a deletion. -/
def Copying (config : SessionConfig) (past : Trace) : Call → Prop
  | .cache (.set area key ttl value) =>
      (∃ kind userId clientType, area = markerArea kind userId clientType) ∨
        ∃ a : Account, area = a.area ∧ key = a.key ∧ ttl = a.ttl config ∧ past.Found a value
  | .directory (.findClient _) | .directory (.findWithRoles _) => ¬past.Deletes
  | _ => True

theorem not_deletes_nil : ¬Trace.Deletes [] := by
  rintro ⟨secret, now, answer, member⟩
  cases member

/-- A step that deletes no client keeps it so that none was deleted. -/
theorem not_deletes_cons {past : Trace} {step : Step} (kept : ¬past.Deletes)
    (other : ∀ secret now answer, step ≠ .called (.directory (.deleteClient secret now)) answer) :
    ¬Trace.Deletes (step :: past) := by
  rintro ⟨secret, now, answer, member⟩
  rcases List.mem_cons.mp member with same | earlier
  · exact other secret now answer same.symm
  · exact kept ⟨secret, now, answer, earlier⟩

end Trace

/-- The steps before those of a program are part of its past. -/
theorem Program.Abides.grown {α : Type} {rule : Trace → Call → Prop} {goal : Trace → α → Prop}
    {p : Program α} {before past : Trace} (abides : p.Abides rule goal past) (part : before <:+ past) :
    p.Abides rule (fun past' a => before <:+ past' ∧ goal past' a) past := by
  induction p generalizing past with
  | done a => exact ⟨part, abides⟩
  | call c next ih =>
    exact ⟨abides.1, fun answer => ih answer (abides.2 answer) (part.trans (List.suffix_cons ..))⟩
  | clock next ih => exact fun now => ih now (abides now) (part.trans (List.suffix_cons ..))
  | draw next ih => exact fun bytes => ih bytes (abides bytes) (part.trans (List.suffix_cons ..))

namespace Session

open Trace

variable {config : SessionConfig} {past : Trace} {α β : Type}

theorem Abides.grown {rule : Trace → Call → Prop} {goal : Trace → α → Prop} {x : Session α}
    (abides : Abides rule goal past x) :
    Abides rule (fun past' a => past <:+ past' ∧ goal past' a) past x :=
  ⟨(abides.steps.grown List.suffix_rfl).weaken fun _ _ ⟨part, reached⟩ a same => ⟨part, reached a same⟩⟩

/-- The steps keep to the rule for copies, and delete no client. -/
def Copies (config : SessionConfig) (x : Session α) : Prop :=
  ∀ past : Trace, ¬past.Deletes → Abides (Copying config) (fun past' _ => ¬past'.Deletes) past x

theorem Copies.bind {x : Session α} {f : α → Session β} (first : Copies config x)
    (rest : ∀ a, Copies config (f a)) : Copies config (x >>= f) :=
  fun past kept => Abides.bind ((first past kept).weaken fun past' a kept' => rest a past' kept')

theorem copies_pure (a : α) : Copies config (pure a) := fun _ kept => abides_pure kept

theorem copies_throw (e : AuthError) : Copies config (throw e : Session α) := fun _ _ => abides_throw e

theorem copies_of_except (result : Except AuthError α) : Copies config (ExceptT.mk (pure result)) :=
  fun _ kept => abides_of_except fun _ _ => kept

theorem copies_check {c : Prop} [Decidable c] {e : AuthError} {rest : Session α}
    (passed : Copies config rest) :
    Copies config (if c then throw e >>= fun _ : PUnit => rest else rest) :=
  fun past kept => abides_check fun _ => passed past kept

theorem copies_readClock : Copies config readClock :=
  fun _ kept => abides_readClock fun _ => not_deletes_cons kept fun _ _ _ => nofun

theorem copies_drawBytes : Copies config drawBytes :=
  fun _ kept => abides_drawBytes fun _ => not_deletes_cons kept fun _ _ _ => nofun

theorem copies_request {operation : String} {call : Call}
    (allowed : ∀ past : Trace, ¬past.Deletes → Copying config past call)
    (other : ∀ secret now, call ≠ .directory (.deleteClient secret now)) :
    Copies config (request config operation call) := by
  intro past kept
  refine abides_request call (allowed past kept) fun answer => not_deletes_cons kept ?_
  rintro secret now _ ⟨⟩
  exact other secret now rfl

/-! ## Sessions -/

theorem revoke_copies (area : String) : Copies config (revoke config area) :=
  Copies.bind (copies_request (fun _ _ => trivial) fun _ _ => nofun) fun _ => copies_pure ()

theorem revokeOn_copies (userId : String) (clientType : ClientType) :
    Copies config (revokeOn config userId clientType) :=
  Copies.bind (revoke_copies _) fun _ => revoke_copies _

theorem mint_copies (kind : TokenKind) (userId : String) (clientType : ClientType) :
    Copies config (mint config.tokens kind userId clientType) := by
  refine Copies.bind copies_readClock fun now => ?_
  refine Copies.bind (copies_of_except _) fun expiresAt => ?_
  exact Copies.bind copies_drawBytes fun bytes => copies_pure _

theorem mark_copies (now : Instant) (t : Token) : Copies config (mark config now t) :=
  copies_request (fun _ _ => .inl ⟨_, _, _, rfl⟩) fun _ _ => nofun

theorem issueSession_copies (client : Client) (userId : String) :
    Copies config (issueSession config client userId) := by
  refine copies_check ?_
  refine Copies.bind (revokeOn_copies userId client.clientType) fun _ => ?_
  refine Copies.bind (mint_copies _ _ _) fun access => ?_
  refine Copies.bind (mint_copies _ _ _) fun refresh => ?_
  refine Copies.bind copies_readClock fun now => ?_
  refine Copies.bind (mark_copies now access) fun _ => ?_
  exact Copies.bind (mark_copies now refresh) fun _ => copies_pure _

theorem requireMarker_copies (kind : TokenKind) (userId : String) (clientType : ClientType)
    (tokenId : String) : Copies config (requireMarker config kind userId clientType tokenId) := by
  refine Copies.bind (copies_request (fun _ _ => trivial) fun _ _ => nofun) fun present => ?_
  cases present with
  | false => exact copies_throw _
  | true => exact copies_pure ()

theorem findByEmail_copies (email : String) : Copies config (findByEmail config email) := by
  refine copies_check (Copies.bind (copies_request (fun _ _ => trivial) fun _ _ => nofun) ?_)
  rintro (_ | user)
  · exact copies_throw _
  · exact copies_pure user

/-- A user who is found was told by the directory. -/
theorem findUser_copying (userId : String) (kept : ¬past.Deletes) :
    Abides (Copying config) (fun past' user => ¬past'.Deletes ∧
      past'.Answered (.directory (.findWithRoles userId)) (some user)) past (findUser config userId) := by
  refine Abides.bind (abides_request (.directory (.findWithRoles userId)) kept ?_)
  rintro (_ | user)
  · exact abides_throw _
  · exact abides_pure ⟨not_deletes_cons kept fun _ _ _ => nofun, List.mem_cons_self ..⟩

/-- A user who was looked up by email address is signed in if the check is passed. -/
private theorem signIn_copies {client : Client} {email : String} (check : User → Bool) :
    Copies config (do
      let user ← findByEmail config email
      if !check user then throw (.unauthorized .invalidCredentials)
      issueSession config client user.id) :=
  Copies.bind (findByEmail_copies email) fun user => copies_check (issueSession_copies client user.id)

theorem login_copies (client : Client) (email password : String) :
    Copies config (login config client email password) := signIn_copies (·.isPasswordValid password)

theorem loginAnonymous_copies (client : Client) (email : String) :
    Copies config (loginAnonymous config client email) := signIn_copies (·.anonymous)

theorem refresh_copies (client : Client) (raw : String) : Copies config (refresh config client raw) := by
  have valid : Copies config (validated config raw) :=
    Copies.bind copies_readClock fun now => copies_of_except _
  refine Copies.bind valid fun claims => ?_
  refine Copies.bind (requireMarker_copies _ _ _ _) fun _ => ?_
  have found : Copies config (findUser config claims.userId) :=
    fun past kept => (findUser_copying claims.userId kept).weaken fun _ _ ⟨kept', _⟩ => kept'
  exact Copies.bind found fun user => issueSession_copies client user.id

theorem logout_copies (userId : String) (clientType : ClientType) :
    Copies config (logout config userId clientType) := copies_check (revokeOn_copies userId clientType)

theorem logoutAll_copies (userId : String) : Copies config (logoutAll config userId) :=
  copies_check (Copies.bind (revoke_copies _) fun _ => revoke_copies _)

/-! ## Accounts -/

/-- A client that is kept was told by the directory just before, and is active. -/
theorem resolveClient_copying (secret : String) :
    Abides (Copying config) (fun past client => past.ShowsClient secret client) []
      (resolveClient config secret) := by
  refine abides_check fun _ => ?_
  refine Abides.bind (abides_readCopy trivial ?_ ?_)
  · have kept : ¬Trace.Deletes [.called (.cache (.get clientArea secret)) (.ok none)] :=
      not_deletes_cons not_deletes_nil fun _ _ _ => nofun
    refine Abides.bind (abides_request (.directory (.findClient secret)) kept ?_)
    rintro (_ | client)
    · exact abides_throw _
    refine abides_check fun inactive => ?_
    have active : client.isActive = true := by simpa using inactive
    have copied := client.decodeCached_toJson
    refine Abides.bind (abides_keepCopy ?_ fun answer => abides_pure ⟨active, _, .inr ?_, copied⟩)
    · exact .inr ⟨.client secret, rfl, rfl, rfl, client, List.mem_cons_self .., active, rfl⟩
    · exact ⟨client, List.mem_cons_of_mem _ (List.mem_cons_self ..), active, rfl⟩
  · intro bytes client decoded
    dsimp only
    split
    · exact abides_pure ⟨‹_›, bytes, .inl (List.mem_cons_self ..), decoded⟩
    · exact abides_throw _

theorem cachedUser_copying (userId : String) (kept : ¬past.Deletes) :
    Abides (Copying config) (fun past' user => past'.ShowsUser userId user) past
      (cachedUser config userId) := by
  refine Abides.bind (abides_readCopy trivial ?_ ?_)
  · have kept : ¬Trace.Deletes (.called (.cache (.get userArea userId)) (.ok none) :: past) :=
      not_deletes_cons kept fun _ _ _ => nofun
    refine Abides.bind ((findUser_copying userId kept).weaken ?_)
    rintro past' user ⟨-, told⟩
    have copied := user.decodeCached_toJson
    refine Abides.bind (abides_keepCopy ?_ fun answer => abides_pure ⟨_, _, .inr ?_, copied, rfl⟩)
    · exact .inr ⟨.user userId, rfl, rfl, rfl, user, told, rfl⟩
    · exact ⟨user, List.mem_cons_of_mem _ told, rfl⟩
  · intro bytes user decoded
    exact abides_pure ⟨bytes, user, .inl (List.mem_cons_self ..), decoded, rfl⟩

theorem evictClient_copying (secret : String) :
    Abides (Copying config) (fun past' _ => past'.Dropped (.client secret) ∧ past <:+ past') past
      (evictClient config secret) :=
  abides_request (.cache (.evict _ _)) trivial fun _ => ⟨⟨past, rfl⟩, List.suffix_cons ..⟩

theorem evictUser_copying (userId : String) :
    Abides (Copying config) (fun past' _ => past'.Dropped (.user userId)) past
      (evictUser config userId) :=
  abides_request (.cache (.evict _ _)) trivial fun _ => ⟨past, rfl⟩

/-- The copy of a client is dropped after the client was deleted. -/
theorem deleteClient_copying (secret : String) :
    Abides (Copying config) (fun past _ => past.Dropped (.client secret) ∧
      ∃ now, past.Answered (.directory (.deleteClient secret now)) true) []
      (deleteClient config secret) := by
  refine abides_check fun _ => ?_
  refine Abides.bind (abides_readClock fun now => ?_)
  refine Abides.bind (abides_request (.directory (.deleteClient secret now)) trivial ?_)
  intro (found : Bool)
  refine abides_check fun missing => ?_
  refine (evictClient_copying secret).weaken ?_
  rintro past' - ⟨dropped, later⟩
  obtain rfl : found = true := by simpa using missing
  exact ⟨dropped, now, later.subset (List.mem_cons_self ..)⟩

/-- The user who is shown is the one whom the token is about. -/
theorem authenticate_copying (client : Client) (raw : String) :
    Abides (Copying config) (fun past user => ∃ claims now, .read now ∈ past ∧
      Token.validate raw config.tokens.secret now = .ok claims ∧ past.ShowsUser claims.userId user) []
      (authenticate config client raw) := by
  refine Abides.bind (Abides.bind (abides_readClock fun now => ?_))
  refine abides_of_except fun claims valid => ?_
  have marked : Copies config (requireMarker config .access claims.userId client.clientType
    claims.tokenId) := requireMarker_copies _ _ _ _
  have kept : ¬Trace.Deletes [.read now] := not_deletes_cons not_deletes_nil fun _ _ _ => nofun
  refine Abides.bind ((marked _ kept).grown.weaken ?_)
  rintro past - ⟨later, kept⟩
  refine (cachedUser_copying claims.userId kept).grown.weaken ?_
  rintro past' user ⟨later', shows⟩
  exact ⟨claims, now, (later.trans later').subset (List.mem_cons_self ..), valid, shows⟩

end Session

namespace Operation

/-- What the steps of an operation tell of accounts if it ends so. -/
def Tells (config : SessionConfig) (past : Trace) : Operation → Outcome → Prop
  | resolveClient secret, outcome => ∃ client, outcome = .client client ∧ past.ShowsClient secret client
  | authenticate _ raw, outcome => ∃ user claims now, outcome = .user user ∧ .read now ∈ past ∧
      Token.validate raw config.tokens.secret now = .ok claims ∧ past.ShowsUser claims.userId user
  | deleteClient secret, _ => past.Dropped (.client secret) ∧
      ∃ now, past.Answered (.directory (.deleteClient secret now)) true
  | evictClient secret, _ => past.Dropped (.client secret)
  | evictUser userId, _ => past.Dropped (.user userId)
  | _, _ => True

/-- Every operation keeps to the rule for copies. -/
theorem program_copying (config : SessionConfig) (operation : Operation) :
    Session.Abides (Trace.Copying config) (fun past outcome => operation.Tells config past outcome) []
      (operation.program config) := by
  have passOn {α : Type} {goal : Trace → α → Prop} {x : Session α} (f : α → Outcome)
      (abides : Session.Abides (Trace.Copying config) goal [] x)
      (told : ∀ past a, goal past a → operation.Tells config past (f a)) :
      Session.Abides (Trace.Copying config) (fun past outcome => operation.Tells config past outcome)
        [] (x >>= fun a => pure (f a)) :=
    Session.Abides.bind (abides.weaken fun past a reached => Session.abides_pure (told past a reached))
  cases operation with
  | resolveClient secret =>
    exact passOn .client (Session.resolveClient_copying secret) fun _ client shows =>
      ⟨client, rfl, shows⟩
  | deleteClient secret =>
    exact passOn (fun _ => .finished) (Session.deleteClient_copying secret) fun _ _ => id
  | evictClient secret =>
    exact passOn (fun _ => .finished) (Session.evictClient_copying secret) fun _ _ => And.left
  | evictUser userId =>
    exact passOn (fun _ => .finished) (Session.evictUser_copying userId) fun _ _ => id
  | login client email password =>
    exact passOn .pair (Session.login_copies client email password [] Trace.not_deletes_nil)
      fun _ _ _ => trivial
  | loginAnonymous client email =>
    exact passOn .pair (Session.loginAnonymous_copies client email [] Trace.not_deletes_nil)
      fun _ _ _ => trivial
  | refresh client raw =>
    exact passOn .pair (Session.refresh_copies client raw [] Trace.not_deletes_nil)
      fun _ _ _ => trivial
  | authenticate client raw =>
    exact passOn .user (Session.authenticate_copying client raw) fun _ user ⟨claims, now, shown⟩ =>
      ⟨user, claims, now, rfl, shown⟩
  | logout userId clientType =>
    exact passOn (fun _ => .finished) (Session.logout_copies userId clientType [] Trace.not_deletes_nil)
      fun _ _ _ => trivial
  | logoutAll userId =>
    exact passOn (fun _ => .finished) (Session.logoutAll_copies userId [] Trace.not_deletes_nil)
      fun _ _ _ => trivial

end Operation

end BearerAuth
