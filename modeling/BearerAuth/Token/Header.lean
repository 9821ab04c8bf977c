import BearerAuth.Token.PublicKey

/-! # Token headers

The first part of a token names the algorithm of its signature. All other fields are checked for
their types and ignored.
-/

namespace BearerAuth

open BearerAuth.Json

/-- What a token says of its signature. -/
structure Header where
  algorithm : String
deriving DecidableEq, Repr

namespace Header

/-- The algorithm of every token issued and accepted here: a hash keyed with a shared secret. -/
def signingAlgorithm : String := "HS256"

/-- The header of every token issued here. -/
def issued : Value := .object [("typ", .string "JWT"), ("alg", .string signingAlgorithm)]

/-- The algorithms that are known by name. -/
def algorithms : List String :=
  ["HS256", "HS384", "HS512", "ES256", "ES384", "RS256", "RS384", "RS512", "PS256", "PS384",
    "PS512", "EdDSA"]

def algorithmReader : Reader String :=
  Reader.named fun name => if algorithms.contains name then some name else none

/-- Values inside a header nest at most this deep. -/
def maxDepth : Nat := Value.maxDepth - 2

/-- A field that is text or null, and whose text is not kept. -/
def textReader : Reader Unit := do
  let _ ← Reader.optional Reader.string

/-- A field that is a list of texts or null, and whose texts are not kept. -/
def textsReader : Reader Unit := do
  let _ ← Reader.optional (Reader.list Reader.string)

/-- A field that is a public key or null. -/
def keyReader : Reader Unit := do
  let _ ← Reader.optional (PublicKey.reader maxDepth)

/-- The reader of each field but the algorithm. -/
def fieldReader? : String → Option (Reader Unit)
  | "typ" | "cty" | "jku" | "kid" | "x5u" | "x5t" | "x5t#S256" => some textReader
  | "x5c" => some textsReader
  | "jwk" => some keyReader
  | _ => none

/-- The fields met so far in an object. -/
structure Slots where
  algorithm : Option String := none
  met : List String := []

/-- Reads a header. -/
def reader : Reader Header :=
  Reader.record {}
    (fun (p : Slots) key => do
      if key = "alg" then return { p with algorithm := ← Reader.field p.algorithm algorithmReader }
      else match fieldReader? key with
        | some r =>
          if p.met.contains key then Reader.fail
          r
          return { p with met := key :: p.met }
        | none =>
          Reader.skip
          return p)
    (fun p => do return ⟨← Reader.required p.algorithm⟩)
    (do
      Reader.item true textReader
      let algorithm ← Reader.item false algorithmReader
      Reader.item false textReader
      Reader.item false textReader
      Reader.item false keyReader
      Reader.item false textReader
      Reader.item false textReader
      Reader.item false textsReader
      Reader.item false textReader
      Reader.item false textReader
      return ⟨algorithm⟩)

end Header

end BearerAuth
