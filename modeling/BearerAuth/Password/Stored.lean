import BearerAuth.Decimal.Literal
import BearerAuth.Digest.Argon2
import BearerAuth.Text.Base64
import BearerAuth.Text.Split

/-! # Stored password hashes

A password hash is stored as text, `$argon2id$v=19$m=19456,t=2,p=1$salt$hash`, that carries all that
is needed to compute it again. The version and the parameters may be left out.
-/

namespace BearerAuth.Password

open BearerAuth.Digest BearerAuth.Text

/-- A password hash with what it was computed from. -/
structure Stored where
  params : Argon2.Params
  salt : List UInt8
  hash : List UInt8
deriving DecidableEq

namespace Stored

def variantName : Argon2.Variant → String
  | .d => "argon2d"
  | .i => "argon2i"
  | .id => "argon2id"

def variant? (name : List Char) : Option Argon2.Variant :=
  match String.ofList name with
  | "argon2d" => some .d
  | "argon2i" => some .i
  | "argon2id" => some .id
  | _ => none

/-- The text of a hash that was computed without associated data. -/
def toChars (s : Stored) : List Char :=
  '$' :: (variantName s.params.variant).toList ++
    "$v=".toList ++ Nat.toDigits 10 s.params.version ++
    "$m=".toList ++ Nat.toDigits 10 s.params.memory ++
    ",t=".toList ++ Nat.toDigits 10 s.params.passes ++
    ",p=".toList ++ Nat.toDigits 10 s.params.lanes ++
    '$' :: Base64.encode Base64.standard s.salt ++ '$' :: Base64.encode Base64.standard s.hash

def toText (s : Stored) : String := String.ofList s.toChars

/-- The character may occur in the name of a parameter. -/
def isNameChar (c : Char) : Bool := ('a' ≤ c && c ≤ 'z') || Decimal.isDigit c || c = '-'

/-- The character may occur in a value or a salt. -/
def isValueChar (c : Char) : Bool :=
  ('a' ≤ c && c ≤ 'z') || ('A' ≤ c && c ≤ 'Z') || Decimal.isDigit c ||
    c = '/' || c = '+' || c = '.' || c = '-'

def isName (cs : List Char) : Bool := 0 < cs.length && cs.length ≤ 32 && cs.all isNameChar

def isValue (cs : List Char) : Bool := cs.length ≤ 64 && cs.all isValueChar

/-- A number of 32 bits in decimal digits, without zeros in front. -/
def decimal? (cs : List Char) : Option Nat :=
  if cs.isEmpty || !cs.all Decimal.isDigit || (cs.head? = some '0' && 1 < cs.length) then none
  else
    let n := Decimal.valueOfDigits cs
    if n < 4294967296 then some n else none

/-- What hashes are computed with unless the text says otherwise. -/
def defaultParams (variant : Argon2.Variant) : Argon2.Params := ⟨variant, 19, 19456, 2, 1, []⟩

/-- Sets one parameter; of two with one name the later counts. A key id is checked but not used. -/
def setParam (p : Argon2.Params) (name : String) (value : List Char) : Option Argon2.Params :=
  match name with
  | "m" => (decimal? value).map ({ p with memory := · })
  | "t" => (decimal? value).map ({ p with passes := · })
  | "p" => (decimal? value).map ({ p with lanes := · })
  | "keyid" => do
    let bytes ← Base64.decode? Base64.standard value
    if bytes.length ≤ 8 then some p else none
  | "data" => do
    let bytes ← Base64.decode? Base64.standard value
    if bytes.length ≤ 32 then some { p with data := bytes } else none
  | _ => none

/-- Sets the parameters of a comma-separated list. -/
def setParams (p : Argon2.Params) (text : List Char) : Option Argon2.Params :=
  if 127 < text.length then none
  else (split ',' text).foldlM (fun p pair =>
    match split '=' pair with
    | [name, value] =>
      if isName name && isValue value then setParam p (String.ofList name) value else none
    | _ => none) p

/-- There is memory for all lanes, and at least one pass over it. -/
def usable (p : Argon2.Params) : Bool :=
  (p.version = 16 || p.version = 19) && 8 ≤ p.memory && 1 ≤ p.passes &&
    1 ≤ p.lanes && p.lanes ≤ 0xFFFFFF && 8 * p.lanes ≤ p.memory

/-- Reads the parts behind the name of the variant. -/
def ofParts? (params : Argon2.Params) (parts : List (List Char)) : Option Stored := do
  let (params, parts) ← match parts with
    | ('v' :: '=' :: version) :: rest =>
      if version.contains ',' then some (params, parts)
      else if isValue version then do some ({ params with version := ← decimal? version }, rest)
      else none
    | _ => some (params, parts)
  let (params, parts) ← match parts with
    | part :: rest =>
      if part.contains '=' then do some (← setParams params part, rest) else some (params, parts)
    | [] => some (params, parts)
  match parts with
  | [salt, hash] =>
    if 4 ≤ salt.length && isValue salt then do
      let saltBytes ← Base64.decode? Base64.standard salt
      let hashBytes ← Base64.decode? Base64.standard hash
      if 8 ≤ saltBytes.length && 10 ≤ hashBytes.length && hashBytes.length ≤ 64 &&
          usable params then
        some ⟨params, saltBytes, hashBytes⟩
      else none
    else none
  | _ => none

/-- Reads a stored hash. -/
def ofChars? (cs : List Char) : Option Stored :=
  match split '$' cs with
  | [] :: name :: parts => do ofParts? (defaultParams (← variant? name)) parts
  | _ => none

def ofText? (text : String) : Option Stored := ofChars? text.toList

end Stored

end BearerAuth.Password
