import BearerAuth.Json.Value

/-! # Public keys in token headers

A header may carry a public key. Tokens are signed with a shared secret, so the key is never used,
but a header whose key is not well formed is no header.
-/

namespace BearerAuth.PublicKey

open BearerAuth.Json

/-- The value of a field. The members of an object are kept in order, repeated keys among them, since
a name may come in an object that has to hold nothing else. -/
inductive Content where
  | plain (v : Value)
  | object (members : List (String × Value))

namespace Content

/-- Reads a value that nests at most `depth` deep. -/
def reader (depth : Nat) : Reader Content := do
  match ← Reader.peekToken, depth with
  | some 0x7B, depth + 1 =>
    Reader.drop
    return .object (← Reader.objectTail
      (fun sofar key => do return sofar ++ [(key, ← Value.reader depth)]) [])
  | _, depth => return .plain (← Value.reader depth)

/-- One of the names, alone or as the key of a null. -/
def isName (names : List String) : Content → Bool
  | plain (.string s) => names.contains s
  | object [(name, .null)] => names.contains name
  | _ => false

/-- One of the names, alone or as the key of a null or of an object without members. -/
def isLooseName (names : List String) : Content → Bool
  | object [(name, .object [])] => names.contains name
  | c => c.isName names

def isNull : Content → Bool
  | plain .null => true
  | _ => false

def isString : Content → Bool
  | plain (.string _) => true
  | _ => false

def isStringList : Content → Bool
  | plain (.list items) => items.all fun
    | .string _ => true
    | _ => false
  | _ => false

end Content

open Content

/-- The members of a key in order, repeated keys kept. -/
abbrev Members := List (String × Content)

/-- Reads the members of an object whose values nest at most `depth` deep. -/
def membersReader (depth : Nat) : Reader Members := do
  Reader.token 0x7B
  Reader.objectTail (fun sofar key => do return sofar ++ [(key, ← Content.reader depth)]) []

/-- Every value under the key; a field may occur only once. -/
def valuesOf (members : Members) (key : String) : List Content :=
  (members.filter fun member => member.1 = key).map (·.2)

/-- The field occurs once and is as it should be. -/
def hasField (members : Members) (key : String) (good : Content → Bool) : Bool :=
  match valuesOf members key with
  | [v] => good v
  | _ => false

/-- The field is missing, null, or as it should be. -/
def mayHaveField (members : Members) (key : String) (good : Content → Bool) : Bool :=
  match valuesOf members key with
  | [] => true
  | [v] => v.isNull || good v
  | _ => false

/-- The algorithms a key may be meant for. -/
def keyAlgorithms : List String :=
  ["HS256", "HS384", "HS512", "ES256", "ES384", "RS256", "RS384", "RS512", "PS256", "PS384",
    "PS512", "EdDSA", "RSA1_5", "RSA-OAEP", "RSA-OAEP-256"]

def curves : List String := ["P-256", "P-384", "P-521", "Ed25519"]

/-- The fields that every kind of key may have. -/
def hasCommonFields (members : Members) : Bool :=
  mayHaveField members "use" isString && mayHaveField members "key_ops" isStringList &&
    mayHaveField members "alg" (isLooseName keyAlgorithms) && mayHaveField members "kid" isString &&
    mayHaveField members "x5u" isString && mayHaveField members "x5c" isStringList &&
    mayHaveField members "x5t" isString && mayHaveField members "x5t#S256" isString

/-- The fields of one of the four kinds of key. -/
def hasKeyFields (members : Members) : Bool :=
  (hasField members "kty" (isName ["EC"]) && hasField members "crv" (isName curves) &&
      hasField members "x" isString && hasField members "y" isString) ||
    (hasField members "kty" (isName ["RSA"]) && hasField members "n" isString &&
      hasField members "e" isString) ||
    (hasField members "kty" (isName ["oct"]) && hasField members "k" isString) ||
    (hasField members "kty" (isName ["OKP"]) && hasField members "crv" (isName curves) &&
      hasField members "x" isString)

/-- Reads a well-formed key, of which nothing is kept. -/
def reader (depth : Nat) : Reader Unit := do
  let members ← membersReader depth
  if hasCommonFields members && hasKeyFields members then pure () else Reader.fail

end BearerAuth.PublicKey
