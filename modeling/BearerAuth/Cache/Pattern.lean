import BearerAuth.Cache.Call

/-! # Patterns for keys

A cache server finds keys by a pattern in which a star stands for any text. To find the keys of an
area, the characters of its name that mean something in a pattern are marked to mean themselves.
-/

namespace BearerAuth.Pattern

/-- The character means something in a pattern. -/
def isSpecial (c : Char) : Bool :=
  c = '*' || c = '?' || c = '[' || c = ']' || c = '\\' || c = '^'

/-- The pattern that only the text itself matches. -/
def literal (text : List Char) : List Char :=
  text.flatMap fun c => if isSpecial c then ['\\', c] else [c]

/-- The name of a key within the keyspace that one program has on a shared server. -/
def spaced (keyspace wholeKey : String) : String :=
  if keyspace.isEmpty then wholeKey else cacheKey keyspace wholeKey

/-- The pattern for the keys of an area. -/
def ofArea (keyspace area : String) : List Char :=
  literal (spaced keyspace area).toList ++ [':', '*']

end BearerAuth.Pattern
