import BearerAuth.Proofs.Session.Duties

/-! # Session operations as data

The operations that callers may start, what each results in, and what its result tells of the steps
it took.
-/

namespace BearerAuth

open BearerAuth.Time

/-- What a caller may ask of sessions. -/
inductive Operation where
  | resolveClient (secret : String)
  | deleteClient (secret : String)
  | evictClient (secret : String)
  | evictUser (userId : String)
  | login (client : Client) (email password : String)
  | loginAnonymous (client : Client) (email : String)
  | refresh (client : Client) (raw : String)
  | authenticate (client : Client) (raw : String)
  | logout (userId : String) (clientType : ClientType)
  | logoutAll (userId : String)

/-- What an operation results in when it is not refused. -/
inductive Outcome where
  | client (client : Client)
  | user (user : User)
  | pair (pair : TokenPair)
  | finished
deriving DecidableEq

namespace Operation

/-- The steps of an operation. -/
def program (config : SessionConfig) : Operation → Session Outcome
  | resolveClient secret => do return .client (← Session.resolveClient config secret)
  | deleteClient secret => do
    Session.deleteClient config secret
    return .finished
  | evictClient secret => do
    Session.evictClient config secret
    return .finished
  | evictUser userId => do
    Session.evictUser config userId
    return .finished
  | login client email password => do return .pair (← Session.login config client email password)
  | loginAnonymous client email => do return .pair (← Session.loginAnonymous config client email)
  | refresh client raw => do return .pair (← Session.refresh config client raw)
  | authenticate client raw => do return .user (← Session.authenticate config client raw)
  | logout userId clientType => do
    Session.logout config userId clientType
    return .finished
  | logoutAll userId => do
    Session.logoutAll config userId
    return .finished

/-- What the steps of an operation include if it ends so. -/
def Achieves (config : TokenConfig) (past : Trace) : Operation → Outcome → Prop
  | login client _ _, .pair p | loginAnonymous client _, .pair p =>
    ∃ userId, Trace.Issued config userId client.clientType past p
  | refresh client raw, .pair p => ∃ claims user,
    Trace.Accepted config .refresh client.clientType raw claims past ∧
      past.Answered (.directory (.findWithRoles claims.userId)) (some user) ∧
      Trace.Issued config user.id client.clientType past p
  | authenticate client raw, .user _ => ∃ claims,
    Trace.Accepted config .access client.clientType raw claims past
  | logout userId clientType, .finished => past.Evicted (markerArea .access userId clientType) ∧
    past.Evicted (markerArea .refresh userId clientType)
  | logoutAll userId, .finished => past.Evicted (userMarkerArea .access userId) ∧
    past.Evicted (userMarkerArea .refresh userId)
  | resolveClient _, .client _ | deleteClient _, .finished | evictClient _, .finished
  | evictUser _, .finished => True
  | _, _ => False

/-- Every operation is orderly, and includes what its result tells. -/
theorem program_abides (config : SessionConfig) (operation : Operation) :
    Session.Abides Trace.Orderly (fun past outcome => operation.Achieves config.tokens past outcome)
      [] (operation.program config) := by
  have passOn {α : Type} {goal : Trace → α → Prop} {x : Session α} (f : α → Outcome)
      (abides : Session.Abides Trace.Orderly goal [] x)
      (achieved : ∀ past a, goal past a → operation.Achieves config.tokens past (f a)) :
      Session.Abides Trace.Orderly (fun past outcome => operation.Achieves config.tokens past outcome)
        [] (x >>= fun a => pure (f a)) :=
    Session.Abides.bind (abides.weaken fun past a reached =>
      Session.abides_pure (achieved past a reached))
  cases operation with
  | resolveClient secret => exact passOn .client (Session.resolveClient_abides secret) fun _ _ => id
  | deleteClient secret =>
    exact passOn (fun _ => .finished) (Session.deleteClient_abides secret) fun _ _ => id
  | evictClient secret =>
    exact passOn (fun _ => .finished) (Session.evictClient_abides secret) fun _ _ => id
  | evictUser userId =>
    exact passOn (fun _ => .finished) (Session.evictUser_abides userId) fun _ _ => id
  | login client email password =>
    exact passOn .pair (Session.login_abides client email password) fun _ _ => id
  | loginAnonymous client email =>
    exact passOn .pair (Session.loginAnonymous_abides client email) fun _ _ => id
  | refresh client raw => exact passOn .pair (Session.refresh_abides client raw) fun _ _ => id
  | authenticate client raw =>
    exact passOn .user (Session.authenticate_abides client raw) fun _ _ => id
  | logout userId clientType =>
    exact passOn (fun _ => .finished) (Session.logout_abides userId clientType) fun _ _ => id
  | logoutAll userId =>
    exact passOn (fun _ => .finished) (Session.logoutAll_abides userId) fun _ _ => id

end Operation

end BearerAuth
