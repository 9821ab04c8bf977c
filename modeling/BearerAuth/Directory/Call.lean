import BearerAuth.Account.Client
import BearerAuth.Account.User

/-! # What is asked of a directory

The directory is where users and clients are on record. That there is no such record is an answer,
not a failure.
-/

namespace BearerAuth

open BearerAuth.Time

/-- A request to the directory. -/
inductive DirectoryCall where
  /-- The user with that email address. -/
  | findByEmail (email : String)
  /-- The user with that id. -/
  | findWithRoles (userId : String)
  /-- The client with that secret, also a deleted one. -/
  | findClient (secret : String)
  /-- Marks a client as deleted; whether there is such a client. -/
  | deleteClient (secret : String) (now : Instant)
deriving DecidableEq

/-- What a request is answered with. -/
def DirectoryCall.Answer : DirectoryCall → Type
  | findByEmail .. => Option User
  | findWithRoles .. => Option User
  | findClient .. => Option Client
  | deleteClient .. => Bool

end BearerAuth
