import BearerAuth.Error
import BearerAuth.Password.Stored
import BearerAuth.Text.Utf8

/-! # Passwords

Passwords are stored as salted hashes only. A stored text that cannot be read fits no password.
-/

namespace BearerAuth.Password

open BearerAuth.Digest BearerAuth.Text

/-- Passwords have at least this many characters. -/
def minLength : Nat := 8

/-- Passwords have at most this many bytes: their number is hashed along, in 32 bits. -/
def maxBytes : Nat := 4294967295

/-- Hashes have this many bytes. -/
def hashLength : Nat := 32

/-- The hash of a password as it is stored, with a salt of sixteen drawn bytes. -/
def store (password : String) (salt : List UInt8) : Except AuthError Stored :=
  if password.length < minLength then
    .error (.validation ("password must be at least " ++ toString minLength ++ " characters long"))
  else if maxBytes < (utf8 password).length then
    .error (.internal "password hashing failed: invalid password")
  else
    let params := Stored.defaultParams .id
    .ok ⟨params, salt, Argon2.hash params hashLength (utf8 password) salt⟩

/-- The password gives the stored hash. -/
def Stored.fits (s : Stored) (password : String) : Bool :=
  (utf8 password).length ≤ maxBytes &&
    Argon2.hash s.params s.hash.length (utf8 password) s.salt = s.hash

/-- The text is a stored hash of the password. -/
def verify (stored password : String) : Bool :=
  match Stored.ofText? stored with
  | some s => s.fits password
  | none => false

end BearerAuth.Password
