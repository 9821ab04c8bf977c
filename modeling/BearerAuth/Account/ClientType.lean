import BearerAuth.Json.Reader

/-! # Client types

Users hold one session per type of calling application.
-/

namespace BearerAuth

/-- A type of calling application, told apart by its name alone. -/
structure ClientType where
  name : String
deriving DecidableEq, Repr, Inhabited

namespace ClientType

def web : ClientType := ⟨"WEB"⟩
def ios : ClientType := ⟨"IOS"⟩
def android : ClientType := ⟨"ANDROID"⟩

def isEmpty (c : ClientType) : Bool := c.name.isEmpty

/-- A client type is written as its name. -/
def reader : Json.Reader ClientType := do return ⟨← Json.Reader.string⟩

end ClientType

end BearerAuth
