/-! # Errors

What can go wrong, sorted by who has to act: the caller whose input is at fault, the caller whose
proof of identity is, or the operator. `AuthError.publicMessage` is what a caller outside may see.
-/

namespace BearerAuth

/-- Why a proof of identity is refused. -/
inductive UnauthorizedReason where
  | malformedToken
  | invalidSignature
  | tokenExpired
  | tokenRevoked
  | invalidCredentials
  | missingClientSecret
deriving DecidableEq, Repr

namespace UnauthorizedReason

/-- Every reason. -/
def all : List UnauthorizedReason :=
  [malformedToken, invalidSignature, tokenExpired, tokenRevoked, invalidCredentials,
    missingClientSecret]

def text : UnauthorizedReason → String
  | malformedToken => "malformed token"
  | invalidSignature => "invalid token signature"
  | tokenExpired => "token expired"
  | tokenRevoked => "token revoked"
  | invalidCredentials => "invalid credentials"
  | missingClientSecret => "missing client secret"

end UnauthorizedReason

/-- The answer of an operation that did not succeed. -/
inductive AuthError where
  | validation (message : String)
  | unauthorized (reason : UnauthorizedReason)
  | notFound (what : String)
  | forbidden (message : String)
  | internal (message : String)
deriving DecidableEq, Repr

namespace AuthError

/-- The full message, for operators. -/
def message : AuthError → String
  | validation message => "Validation failed: " ++ message
  | unauthorized reason => "Unauthorized: " ++ reason.text
  | notFound what => "Not found: " ++ what
  | forbidden message => "Forbidden: " ++ message
  | internal message => "Internal error: " ++ message

/-- The message that callers outside may see: it tells neither why a proof of identity was refused
nor what failed inside. -/
def publicMessage : AuthError → String
  | validation message => message
  | unauthorized _ => "Unauthorized"
  | notFound what => what ++ " not found"
  | forbidden _ => "Insufficient permissions"
  | internal _ => "Internal server error"

/-- The token was good but for its age, so that refreshing it may help. -/
def isExpired : AuthError → Bool
  | unauthorized .tokenExpired => true
  | _ => false

/-- The reason of a refused proof of identity. -/
def unauthorizedReason? : AuthError → Option UnauthorizedReason
  | unauthorized reason => some reason
  | _ => none

end AuthError

/-- A call of the session cache failed. -/
inductive CacheError where
  | backend (reason : String)
  | serialization (reason : String)
  | timeout
deriving DecidableEq, Repr

def CacheError.message : CacheError → String
  | backend reason => "Cache backend error: " ++ reason
  | serialization reason => "Cache serialization error: " ++ reason
  | timeout => "Cache operation timed out"

/-- A failed cache is the operator's concern. -/
def CacheError.toAuthError (e : CacheError) : AuthError := .internal e.message

/-- A call of the user directory failed. -/
inductive DirectoryError where
  | unavailable (reason : String)
  | corrupt (reason : String)
deriving DecidableEq, Repr

def DirectoryError.message : DirectoryError → String
  | unavailable reason => "Directory unavailable: " ++ reason
  | corrupt reason => "Corrupt directory record: " ++ reason

/-- A failed directory is the operator's concern. -/
def DirectoryError.toAuthError (e : DirectoryError) : AuthError := .internal e.message

end BearerAuth
