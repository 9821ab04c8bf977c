import BearerAuth.Directory.Call
import BearerAuth.Table
import BearerAuth.Text.Lowercase

/-! # A directory in memory

Users by id, with an index of their email addresses in lower case, and clients by secret.
-/

namespace BearerAuth

open BearerAuth.Time

structure MemoryDirectory where
  users : Table String User
  /-- The id of the user with each email address, which is in lower case. -/
  emails : Table String String
  clients : Table String Client
  /-- How many lookups were answered. -/
  lookups : Nat

namespace MemoryDirectory

def empty : MemoryDirectory := ⟨.empty, .empty, .empty, 0⟩

instance : Inhabited MemoryDirectory := ⟨empty⟩

/-- The email address as it stands in the index. -/
def emailKey (email : String) : String := Text.lower email

/-- Puts a user on record. A user with that id is replaced, and its email address is given up. -/
def insertUser (d : MemoryDirectory) (user : User) : MemoryDirectory :=
  let emails := match d.users.get? user.id with
    | some previous => d.emails.erase (emailKey previous.email)
    | none => d.emails
  { d with
    users := d.users.insert user.id user
    emails := emails.insert (emailKey user.email) user.id }

/-- Puts a client on record. A client with that secret is replaced. -/
def insertClient (d : MemoryDirectory) (client : Client) : MemoryDirectory :=
  { d with clients := d.clients.insert client.secret client }

/-- The user with that email address in any case, blanks around it apart. -/
def findByEmail (d : MemoryDirectory) (email : String) : Option User := do
  d.users.get? (← d.emails.get? (emailKey (Text.trim email)))

/-- The user with that id. -/
def findWithRoles (d : MemoryDirectory) (userId : String) : Option User := d.users.get? userId

/-- The client with that secret. -/
def findClient (d : MemoryDirectory) (secret : String) : Option Client := d.clients.get? secret

/-- Marks a client as deleted, and says whether there is such a client. -/
def deleteClient (d : MemoryDirectory) (secret : String) (now : Instant) : Bool × MemoryDirectory :=
  match d.clients.get? secret with
  | some client => (true, { d with clients := d.clients.insert secret (client.delete now) })
  | none => (false, d)

/-- Counts a lookup. -/
def lookedUp (d : MemoryDirectory) : MemoryDirectory := { d with lookups := d.lookups + 1 }

/-- Answers a request; it has nothing to fail on. -/
def perform (d : MemoryDirectory) : (call : DirectoryCall) → call.Answer × MemoryDirectory
  | .findByEmail email => (d.findByEmail email, d.lookedUp)
  | .findWithRoles userId => (d.findWithRoles userId, d.lookedUp)
  | .findClient secret => (d.findClient secret, d.lookedUp)
  | .deleteClient secret now => d.deleteClient secret now

end MemoryDirectory

end BearerAuth
