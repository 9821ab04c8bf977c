import BearerAuth.Session.Config
import BearerAuth.Session.Program
import BearerAuth.Token.Json

/-! # Sessions

A user has at most one session per client type: a pair of tokens, each live while the session cache
has a marker for it. Signing in and refreshing revoke the pair before, mint a new one and mark both
tokens; signing out removes markers. Whatever cannot be confirmed counts as refused. Only copies of
accounts that are kept to save lookups may be lost without notice.
-/

namespace BearerAuth

open BearerAuth.Time

/-- A program that may end in a refusal. -/
abbrev Session := ExceptT AuthError Program

namespace Session

/-- Where clients are kept by their secret. -/
def clientArea : String := "client"

/-- Where users are kept by their id. -/
def userArea : String := "user"

/-- What is kept under the id of a live token. -/
def markerValue : List UInt8 := Text.utf8 "1"

/-- How a failed call is reported. -/
def failed (config : SessionConfig) (operation : String) : Failure → AuthError
  | .cache e => e.toAuthError
  | .directory e => e.toAuthError
  | .timedOut => .internal (operation ++ " timed out after " ++ config.operationTimeout.text)

def readClock : Session Instant := ExceptT.lift (.clock .done)

def drawBytes : Session (List UInt8) := ExceptT.lift (.draw .done)

/-- Makes a call. -/
def request (config : SessionConfig) (operation : String) (call : Call) : Session call.Answer :=
  ExceptT.mk (.call call fun answer => .done (answer.mapError (failed config operation)))

/-- Makes a call to the cache. -/
def askCache (config : SessionConfig) (operation : String) (call : CacheCall) :
    Session call.Answer :=
  request config operation (.cache call)

/-- Makes a call to the directory. -/
def askDirectory (config : SessionConfig) (operation : String) (call : DirectoryCall) :
    Session call.Answer :=
  request config operation (.directory call)

/-- A value that is kept as JSON. One that cannot be read is a failure, not a missing value. -/
def readCached {α : Type} (config : SessionConfig) (operation area key : String)
    (reader : Json.Reader α) : Session (Option α) := do
  match ← askCache config operation (.get area key) with
  | none => return none
  | some bytes =>
    match decodeCached reader bytes with
    | .ok a => return some a
    | .error e => throw e.toAuthError

/-- Keeps a copy as JSON, if that can be done. -/
def keepCopy (config : SessionConfig) (operation area key : String) (ttl : Duration)
    (value : Json.Value) : Session Unit :=
  tryCatch (askCache config operation (.setJson area key ttl value)) fun _ => pure ()

/-! ## Clients -/

/-- The active client with that secret. -/
def resolveClient (config : SessionConfig) (secret : String) : Session Client := do
  if secret.isEmpty then throw (.unauthorized .missingClientSecret)
  match ← readCached config "client cache read" clientArea secret Client.reader with
  | some client => if client.isActive then return client else throw (.notFound "client")
  | none =>
    match ← askDirectory config "client lookup" (.findClient secret) with
    | none => throw (.notFound "client")
    | some client =>
      if !client.isActive then throw (.notFound "client")
      keepCopy config "client cache write" clientArea secret config.clientCacheTtl client.toJson
      return client

/-- Drops the copy of a client, so that it is looked up next time. -/
def evictClient (config : SessionConfig) (secret : String) : Session Unit :=
  askCache config "client cache evict" (.evict clientArea secret)

/-- Marks a client as deleted and drops its copy, so that its secret stops working at once. -/
def deleteClient (config : SessionConfig) (secret : String) : Session Unit := do
  if secret.isEmpty then throw (.unauthorized .missingClientSecret)
  let now ← readClock
  let found : Bool ← askDirectory config "client delete" (.deleteClient secret now)
  if !found then throw (.notFound "client")
  evictClient config secret

/-! ## Tokens -/

/-- The token has its marker. -/
def requireMarker (config : SessionConfig) (kind : TokenKind) (userId : String)
    (clientType : ClientType) (tokenId : String) : Session Unit := do
  let present : Bool ← askCache config "token marker check"
    (.holds (markerArea kind userId clientType) tokenId)
  if !present then throw (.unauthorized .tokenRevoked)

/-- Drops the markers in an area. -/
def revoke (config : SessionConfig) (area : String) : Session Unit := do
  let _ ← askCache config "token revoke" (.evictArea area)

/-- Revokes a user's tokens on one client type. -/
def revokeOn (config : SessionConfig) (userId : String) (clientType : ClientType) :
    Session Unit := do
  revoke config (markerArea .access userId clientType)
  revoke config (markerArea .refresh userId clientType)

/-- Mints a token of that kind. -/
def mint (config : TokenConfig) (kind : TokenKind) (userId : String) (clientType : ClientType) :
    Session Token := do
  let now ← readClock
  let expiresAt ← liftExcept (Token.expiry userId clientType config.secret (config.ttl kind) now)
  let id := Entropy.uuid (← drawBytes)
  return Token.signed id userId clientType kind config.secret now expiresAt
where
  /-- A refusal that needs no steps. -/
  liftExcept {α : Type} (result : Except AuthError α) : Session α := ExceptT.mk (pure result)

/-- Marks a token as live until it expires. -/
def mark (config : SessionConfig) (now : Instant) (token : Token) : Session Unit :=
  askCache config "token marker write"
    (.set (markerArea token.kind token.userId token.clientType) token.id (token.remaining now)
      markerValue)

/-- Starts the session of a user on an active client, in place of an earlier one. -/
def issueSession (config : SessionConfig) (client : Client) (userId : String) :
    Session TokenPair := do
  if !client.isActive then throw (.notFound "client")
  revokeOn config userId client.clientType
  let access ← mint config.tokens .access userId client.clientType
  let refresh ← mint config.tokens .refresh userId client.clientType
  let now ← readClock
  mark config now access
  mark config now refresh
  return ⟨access, refresh⟩

/-- The claims of a raw token that is signed and has not expired. -/
def validated (config : SessionConfig) (raw : String) : Session Claims := do
  let now ← readClock
  ExceptT.mk (pure (Token.validate raw config.tokens.secret now))

/-! ## Users -/

/-- The user with that email address. -/
def findByEmail (config : SessionConfig) (email : String) : Session User := do
  if (Text.trim email).isEmpty then throw (.validation "email address cannot be empty")
  match ← askDirectory config "user lookup" (.findByEmail email) with
  | some user => return user
  | none => throw (.notFound "user")

/-- The user with that id, as the directory has it. -/
def findUser (config : SessionConfig) (userId : String) : Session User := do
  match ← askDirectory config "user lookup" (.findWithRoles userId) with
  | some user => return user
  | none => throw (.unauthorized .invalidCredentials)

/-- The user with that id; a copy may be some time old. -/
def cachedUser (config : SessionConfig) (userId : String) : Session User := do
  match ← readCached config "user cache read" userArea userId User.reader with
  | some user => return user
  | none =>
    let user ← findUser config userId
    keepCopy config "user cache write" userArea userId config.userCacheTtl user.toJson
    return user

/-- Drops the copy of a user, so that changes of roles are seen next time. -/
def evictUser (config : SessionConfig) (userId : String) : Session Unit :=
  askCache config "user cache evict" (.evict userArea userId)

/-! ## Signing in and out -/

/-- Signs a user in by email address and password. -/
def login (config : SessionConfig) (client : Client) (email password : String) :
    Session TokenPair := do
  let user ← findByEmail config email
  if !user.isPasswordValid password then throw (.unauthorized .invalidCredentials)
  issueSession config client user.id

/-- Signs an anonymous user in, without a password; other users are refused. -/
def loginAnonymous (config : SessionConfig) (client : Client) (email : String) :
    Session TokenPair := do
  let user ← findByEmail config email
  if !user.anonymous then throw (.unauthorized .invalidCredentials)
  issueSession config client user.id

/-- Exchanges a refresh token for a new pair. The old pair is revoked, so it works once. -/
def refresh (config : SessionConfig) (client : Client) (raw : String) : Session TokenPair := do
  let claims ← validated config raw
  requireMarker config .refresh claims.userId client.clientType claims.tokenId
  let user ← findUser config claims.userId
  issueSession config client user.id

/-- The user behind an access token. -/
def authenticate (config : SessionConfig) (client : Client) (raw : String) : Session User := do
  let claims ← validated config raw
  requireMarker config .access claims.userId client.clientType claims.tokenId
  cachedUser config claims.userId

/-- Signs a user out on one client type. -/
def logout (config : SessionConfig) (userId : String) (clientType : ClientType) : Session Unit := do
  if userId.isEmpty then throw (.validation "user id is empty")
  revokeOn config userId clientType

/-- Signs a user out on every client type. -/
def logoutAll (config : SessionConfig) (userId : String) : Session Unit := do
  if userId.isEmpty then throw (.validation "user id is empty")
  revoke config (userMarkerArea .access userId)
  revoke config (userMarkerArea .refresh userId)

end Session

end BearerAuth
