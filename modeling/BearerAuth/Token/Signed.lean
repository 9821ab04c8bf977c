import BearerAuth.Digest.Hmac
import BearerAuth.Error
import BearerAuth.Text.Base64
import BearerAuth.Time.DurationText
import BearerAuth.Time.WholeSeconds
import BearerAuth.Token.Claims
import BearerAuth.Token.Header
import BearerAuth.Token.Registered

/-! # Signed tokens

A raw token is `header.claims.signature`, each part in URL-safe base 64. The signature is a keyed
hash of the two parts before it, compared as text, and is checked before the claims are looked at.
Expiry is in whole seconds, so a lifetime has to be at least one second.
-/

namespace BearerAuth

open BearerAuth.Time BearerAuth.Json BearerAuth.Text

/-- The signing secret and the lifetimes of both tokens of a pair. -/
structure TokenConfig where
  secret : String
  accessTtl : Duration
  refreshTtl : Duration
deriving DecidableEq, Repr

namespace TokenConfig

/-- A quarter of an hour and a week; the secret has to be set. -/
def default : TokenConfig := ⟨"", .ofSeconds 900, .ofSeconds 604800⟩

/-- The settings without the secret, for reports. -/
def describe (c : TokenConfig) : String :=
  "TokenConfig \x7b secret: \"<redacted>\", access_ttl: " ++ c.accessTtl.text ++
    ", refresh_ttl: " ++ c.refreshTtl.text ++ " \x7d"

/-- The lifetime of tokens of one kind. -/
def ttl (c : TokenConfig) : TokenKind → Duration
  | .access => c.accessTtl
  | .refresh => c.refreshTtl

end TokenConfig

namespace Signed

/-- A part of a raw token. -/
def encodePart (bytes : List UInt8) : List Char := Base64.encode Base64.urlSafe bytes

/-- The bytes of a part. -/
def decodePart? (part : List Char) : Option (List UInt8) := Base64.decode? Base64.urlSafe part

/-- The signature of the two parts before it. -/
def signature (secret : String) (message : List Char) : List Char :=
  encodePart (Digest.Hmac.sha256 (utf8 secret) (utf8 (String.ofList message)))

/-- The two parts that are signed. -/
def message (claims : Claims) : List Char :=
  encodePart (utf8 Header.issued.compact) ++ '.' :: encodePart (utf8 claims.toJson.compact)

/-- The raw token that makes the claims. -/
def sign (secret : String) (claims : Claims) : String :=
  let message := message claims
  String.ofList (message ++ '.' :: signature secret message)

/-- The text before and after the last point. -/
def splitLast : List Char → Option (List Char × List Char)
  | [] => none
  | c :: rest =>
    match splitLast rest with
    | some (before, after) => some (c :: before, after)
    | none => if c = '.' then some ([], rest) else none

/-- The claims of a raw token whose header and signature are good, whatever its age. -/
def claims (secret : String) (raw : List Char) : Except UnauthorizedReason Claims := do
  let some (message, sent) := splitLast raw | throw .malformedToken
  let some (header, payload) := splitLast message | throw .malformedToken
  let some bytes := decodePart? header | throw .malformedToken
  let some header := Header.reader.run bytes | throw .malformedToken
  if header.algorithm ≠ Header.signingAlgorithm then throw .malformedToken
  if sent ≠ signature secret message then throw .invalidSignature
  let some bytes := decodePart? payload | throw .malformedToken
  let some claims := Claims.reader.run bytes | throw .malformedToken
  if Registered.acceptable bytes then return claims else throw .malformedToken

end Signed

namespace Token

/-- The claims of a raw token that is signed with the secret and has not expired at `now`. -/
def validate (raw secret : String) (now : Instant) : Except AuthError Claims := do
  if secret.isEmpty then throw (.validation "signing secret is empty")
  if raw.isEmpty then throw (.unauthorized .malformedToken)
  match Signed.claims secret raw.toList with
  | .error reason => throw (.unauthorized reason)
  | .ok claims =>
    match claims.expiresAt? with
    | none => throw (.unauthorized .malformedToken)
    | some expiresAt =>
      if expiresAt < now then throw (.unauthorized .tokenExpired)
      return claims

/-- The expiry of a token issued at `now`: the whole second of `now` plus the whole seconds of the
lifetime. Fails on anything that no token can be issued for. -/
def expiry (userId : String) (clientType : ClientType) (secret : String) (ttl : Duration)
    (now : Instant) : Except AuthError Instant := do
  if secret.isEmpty then throw (.validation "signing secret is empty")
  if userId.isEmpty then throw (.validation "user id is empty")
  if clientType.isEmpty then throw (.validation "client type is empty")
  if ttl.seconds = 0 then throw (.validation "token ttl must be at least one second")
  match now.addSeconds? ttl with
  | some expiresAt => return expiresAt
  | none => throw (.validation "token ttl out of range")

/-- The token of that id and expiry, signed. -/
def signed (id userId : String) (clientType : ClientType) (kind : TokenKind) (secret : String)
    (issuedAt expiresAt : Instant) : Token :=
  let unsigned : Token := ⟨id, userId, kind, clientType, issuedAt, expiresAt, ""⟩
  { unsigned with raw := Signed.sign secret (Claims.ofToken unsigned) }

/-- Issues a token. The id is used only if a token can be issued. -/
def issue (id userId : String) (clientType : ClientType) (kind : TokenKind) (secret : String)
    (ttl : Duration) (now : Instant) : Except AuthError Token := do
  let expiresAt ← expiry userId clientType secret ttl now
  return signed id userId clientType kind secret now expiresAt

/-- Issues both tokens of a session, or neither. The clock is read for each of them. -/
def issuePair (accessId refreshId userId : String) (clientType : ClientType) (config : TokenConfig)
    (now : Instant) (later : Instant := now) : Except AuthError TokenPair := do
  let access ← issue accessId userId clientType .access config.secret config.accessTtl now
  let refresh ← issue refreshId userId clientType .refresh config.secret config.refreshTtl later
  return ⟨access, refresh⟩

end Token

end BearerAuth
