import BearerAuth.Decimal.Text
import BearerAuth.Json.Reader
import BearerAuth.Json.Text

/-! # JSON values

Values of any shape. The members of an object are kept in the order of their keys, and of two
members with one key the later counts, so a value has one compact text.
-/

namespace BearerAuth.Json

/-- A JSON value. -/
inductive Value where
  | null
  | bool (b : Bool)
  | whole (n : Int)
  | real (x : Float)
  | string (s : String)
  | list (items : List Value)
  | object (members : List (String × Value))
deriving Inhabited

namespace Value

/-- Sets the member of that key, in its place among the keys. -/
def insertMember (key : String) (value : Value) : List (String × Value) → List (String × Value)
  | [] => [(key, value)]
  | (k, v) :: rest =>
    if key < k then (key, value) :: (k, v) :: rest
    else if key = k then (key, value) :: rest
    else (k, v) :: insertMember key value rest

/-- The object with those members. -/
def ofMembers (members : List (String × Value)) : Value :=
  .object (members.foldl (fun sofar member => insertMember member.1 member.2 sofar) [])

/-- The value of a member. -/
def get? (v : Value) (key : String) : Option Value :=
  match v with
  | .object members => (members.find? fun member => member.1 = key).map (·.2)
  | _ => none

/-- A value nested at most `depth` lists and objects deep. -/
def reader : Nat → Reader Value
  | 0 => do
    match ← Reader.peekToken with
    | some 0x5B | some 0x7B => Reader.fail
    | _ => scalar
  | depth + 1 => do
    match ← Reader.peekToken with
    | some 0x5B =>
      Reader.drop
      return .list (← Reader.listTail (reader depth))
    | some 0x7B =>
      Reader.drop
      return .object (← Reader.objectTail
        (fun sofar key => do return insertMember key (← reader depth) sofar) [])
    | _ => scalar
where
  /-- A value that is neither a list nor an object. -/
  scalar : Reader Value := do
    match ← Reader.peekToken with
    | some 0x6E => Reader.literal [0x6E, 0x75, 0x6C, 0x6C]; pure .null
    | some 0x74 | some 0x66 => return .bool (← Reader.bool)
    | some 0x22 => return .string (← Reader.string)
    | _ => do
      match ← Reader.number with
      | .whole n => pure (.whole n)
      | .real x => pure (.real x)

/-- Values nest at most this deep. -/
def maxDepth : Nat := 127

/-- Reads a value that is all of the input. -/
def ofBytes? (bytes : List UInt8) : Option Value := (reader maxDepth).run bytes

/-- Reads a value that is all of the text. -/
def ofText? (text : String) : Option Value := ofBytes? (Text.utf8 text)

/-- Joins texts with a separator between each two. -/
def joined (separator : String) : List String → String
  | [] => ""
  | [s] => s
  | s :: rest => s ++ separator ++ joined separator rest

/-- The text of a value that is neither a list nor an object. -/
private def scalarText : Value → String
  | null => "null"
  | bool b => if b then "true" else "false"
  | whole n => toString n
  | real x => Decimal.text .json x
  | string s => String.ofList (quote s)
  | list _ | object _ => ""

mutual

/-- The text of a value without any blanks. -/
def compact : Value → String
  | list items => "[" ++ joined "," (compactItems items) ++ "]"
  | object members => "\x7b" ++ joined "," (compactMembers members) ++ "\x7d"
  | v => scalarText v

/-- The texts of the items of a list. -/
def compactItems : List Value → List String
  | [] => []
  | v :: rest => compact v :: compactItems rest

/-- The texts of the members of an object. -/
def compactMembers : List (String × Value) → List String
  | [] => []
  | (key, v) :: rest => (String.ofList (quote key) ++ ":" ++ compact v) :: compactMembers rest

end

mutual

/-- The text of a value with each item and member on a line of its own, two blanks further in. -/
def indented (margin : String) : Value → String
  | list [] => "[]"
  | object [] => "\x7b\x7d"
  | list items =>
    "[\n" ++ joined ",\n" (indentedItems (margin ++ "  ") items) ++ "\n" ++ margin ++ "]"
  | object members =>
    "\x7b\n" ++ joined ",\n" (indentedMembers (margin ++ "  ") members) ++ "\n" ++ margin ++ "\x7d"
  | v => scalarText v

/-- The lines of the items of a list. -/
def indentedItems (margin : String) : List Value → List String
  | [] => []
  | v :: rest => (margin ++ indented margin v) :: indentedItems margin rest

/-- The lines of the members of an object. -/
def indentedMembers (margin : String) : List (String × Value) → List String
  | [] => []
  | (key, v) :: rest =>
    (margin ++ String.ofList (quote key) ++ ": " ++ indented margin v) ::
      indentedMembers margin rest

end

/-- The text of a value over several lines. -/
def pretty (v : Value) : String := indented "" v

end Value

end BearerAuth.Json
