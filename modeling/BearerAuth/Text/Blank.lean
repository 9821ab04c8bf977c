/-! # White space

The characters with the Unicode property White_Space, and text without them at either end.
-/

namespace BearerAuth.Text

/-- The character has the Unicode property White_Space. -/
def isBlank (c : Char) : Bool :=
  let n := c.toNat
  (9 ≤ n && n ≤ 13) || n = 0x20 || n = 0x85 || n = 0xA0 || n = 0x1680 || (0x2000 ≤ n && n ≤ 0x200A)
    || n = 0x2028 || n = 0x2029 || n = 0x202F || n = 0x205F || n = 0x3000

/-- The characters from the first that is not blank on. -/
def trimStart (cs : List Char) : List Char := cs.dropWhile isBlank

/-- The characters from the first to the last that are not blank. -/
def trimChars (cs : List Char) : List Char := (trimStart (trimStart cs).reverse).reverse

/-- The text without blanks at either end. -/
def trim (s : String) : String := String.ofList (trimChars s.toList)

end BearerAuth.Text
