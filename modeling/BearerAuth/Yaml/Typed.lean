import BearerAuth.Decimal.Literal
import BearerAuth.Yaml.Node

/-! # Values in YAML

What a node says depends on what is wanted there: text takes every scalar as it was written, numbers
take only scalars that look like numbers. A record is a mapping whose unknown keys do not matter.
-/

namespace BearerAuth.Yaml

/-- A tag that every document knows. -/
def core (name : String) : Tag := coreTag ++ Text.utf8 name

/-- The words for nothing. -/
def isNullWord (text : String) : Bool := ["null", "Null", "NULL", "~"].contains text

/-! ## Numbers -/

/-- The number in digits of the base, if it fits 64 bits. -/
def ofDigits? (base : Nat) (digits : List Char) : Option Nat := do
  let values ← digits.mapM fun c => (Text.hexValue? c).filter (· < base)
  let n := values.foldl (fun n d => n * base + d) 0
  if values.isEmpty ∨ 18446744073709551615 < n then none else some n

/-- A sign in front. -/
def isSigned : List Char → Bool
  | '+' :: _ | '-' :: _ => true
  | _ => false

/-- Without one plus sign in front. -/
def dropPlus : List Char → List Char
  | '+' :: rest => rest
  | cs => cs

/-- A whole number in decimal digits without leading zeros, or after `0x`, `0o` or `0b` in digits of
that base. -/
def whole? (text : List Char) : Option Nat :=
  let unsigned := dropPlus text
  if isSigned unsigned then none
  else
    match unsigned with
    | '0' :: 'x' :: digits => ofDigits? 16 digits
    | '0' :: 'o' :: digits => ofDigits? 8 digits
    | '0' :: 'b' :: digits => ofDigits? 2 digits
    | '0' :: _ :: _ => none
    | digits => ofDigits? 10 digits

/-- A real number: one of the dotted words, or a finite number. -/
def real? (text : List Char) : Option Float :=
  let unsigned := dropPlus text
  match String.ofList unsigned, String.ofList text with
  | ".inf", _ | ".Inf", _ | ".INF", _ => some (1.0 / 0.0)
  | _, "-.inf" | _, "-.Inf" | _, "-.INF" => some (-1.0 / 0.0)
  | _, ".nan" | _, ".NaN" | _, ".NAN" => some (0.0 / 0.0)
  | _, _ =>
    if text.head? = some '+' ∧ isSigned unsigned then none
    else
      match Decimal.real unsigned with
      | .ok x => if x.isFinite then some x else none
      | .error _ => none

namespace Document

variable {α : Type} (d : Document)

/-- The node itself, or the one that an alias stands for. -/
def resolve : Node → Option Node
  | .alias id => d.anchored id
  | node => some node

/-- The text of a scalar. -/
def text? (node : Node) : Option String := do
  match ← d.resolve node with
  | .scalar _ _ text => some text
  | _ => none

/-- The text of a scalar that may be a number: a plain one, or a literal one with the tag for it. -/
def numeral? (name : String) (node : Node) : Option (List Char) := do
  match ← d.resolve node with
  | .scalar tag style text =>
    if style = .plain ∨ style = .literal ∧ tag = some (core name) then some text.toList else none
  | _ => none

/-- A whole number of 64 bits. -/
def nat? (node : Node) : Option Nat := d.numeral? "int" node >>= whole?

/-- A real number. -/
def float? (node : Node) : Option Float := d.numeral? "float" node >>= real?

/-- A value, or nothing where a plain scalar is empty or a word for nothing. -/
def optional? (read : Node → Option α) (node : Node) : Option (Option α) := do
  let isNothing ← match ← d.resolve node with
    | .scalar tag .plain text =>
      if tag = some (core "null") then (if isNullWord text then some true else none)
      else some (tag.isNone && (text.isEmpty || isNullWord text))
    | _ => some false
  if isNothing then some none else return some (← read node)

/-- What a tag of the document itself names. -/
def localName? (tag : Option Tag) : Option String :=
  match tag with
  | some (0x21 :: name) => Text.ofUtf8? (if name.isEmpty then [0x21] else name)
  | _ => none

/-- One of several names, as the text of a scalar or as the tag of an empty one. -/
def named? (value? : String → Option α) (node : Node) : Option α := do
  match ← d.resolve node with
  | .scalar tag style text =>
    match localName? tag with
    | some name =>
      if style = .plain ∧ (text.isEmpty ∨ isNullWord text) then value? name else none
    | none => value? text
  | _ => none

/-- The entries of a mapping; an empty plain scalar has none. -/
def entries? (node : Node) : Option (List (Node × Node)) := do
  match ← d.resolve node with
  | .mapping _ entries => some entries
  | .scalar _ .plain "" => some []
  | _ => none

/-- The values that a mapping gives to known names. No name may be given twice. -/
def fields? (names : List String) (node : Node) : Option (List (String × Node)) := do
  let entries ← (← d.entries? node).mapM fun (key, value) => do return (← d.text? key, value)
  let known := entries.filter (names.contains ·.1)
  if (known.map (·.1)).eraseDups.length = known.length then some known else none

end Document

/-- The value of a field, or what stands for it where it is missing. -/
def field {α : Type} (fields : List (String × Node)) (name : String) (absent : α)
    (read : Node → Option α) : Option α :=
  match fields.lookup name with
  | some node => read node
  | none => some absent

end BearerAuth.Yaml
