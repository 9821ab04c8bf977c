import BearerAuth.Account.ClientType
import BearerAuth.Cache.Key
import BearerAuth.Time.Timestamp

/-! # Tokens

A user holds an access token and a refresh token per client type. A token is live while the session
cache has a marker for it, whose key names the kind of token, the user and the client type.
-/

namespace BearerAuth

open BearerAuth.Time

inductive TokenKind where
  | access
  | refresh
deriving DecidableEq, Repr, Inhabited

namespace TokenKind

def name : TokenKind → String
  | access => "ACCESS"
  | refresh => "REFRESH"

/-- The kind of that name. -/
def ofName? (name : String) : Option TokenKind :=
  if name = "ACCESS" then some access else if name = "REFRESH" then some refresh else none

/-- What the marker keys of the kind begin with. -/
def marker : TokenKind → String
  | access => "uat"
  | refresh => "urt"

end TokenKind

/-- An issued token. `raw` is the signed form that is handed to the caller. -/
structure Token where
  id : String
  userId : String
  kind : TokenKind
  clientType : ClientType
  issuedAt : Timestamp
  expiresAt : Timestamp
  raw : String
deriving DecidableEq, Inhabited

namespace Token

/-- The time left before expiry, nothing once it has passed. -/
def remaining (t : Token) (now : Instant) : Duration := ⟨(t.expiresAt.nanosAfter now).toNat⟩

/-- The token is past its expiry; at the very instant it still counts. -/
def isExpired (t : Token) (now : Instant) : Bool := t.expiresAt.passedBy now

end Token

/-- The two tokens of one session. -/
structure TokenPair where
  access : Token
  refresh : Token
deriving DecidableEq, Inhabited

/-- Where the marker of a user's live token on one client type is kept. -/
def markerArea (kind : TokenKind) (userId : String) (clientType : ClientType) : String :=
  kind.marker ++ keySeparator ++ userId ++ keySeparator ++ clientType.name

/-- What the areas of a user's tokens on all client types begin with. -/
def userMarkerArea (kind : TokenKind) (userId : String) : String :=
  kind.marker ++ keySeparator ++ userId

end BearerAuth
