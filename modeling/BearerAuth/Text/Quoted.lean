import BearerAuth.Text.Invisible

/-! # Quoted text in reports

Text between quotes in which everything that cannot be seen is escaped.
-/

namespace BearerAuth.Text

/-- The characters that stand for one character. -/
def reportEscape (c : Char) : List Char :=
  if c = '\x00' then ['\\', '0']
  else if c = '\t' then ['\\', 't']
  else if c = '\r' then ['\\', 'r']
  else if c = '\n' then ['\\', 'n']
  else if c = '\\' then ['\\', '\\']
  else if c = '"' then ['\\', '"']
  else if isInvisible c then '\\' :: 'u' :: '\x7b' :: Nat.toDigits 16 c.toNat ++ ['\x7d']
  else [c]

/-- The text between quotes. -/
def reportQuote (s : String) : String :=
  String.ofList ('"' :: s.toList.flatMap reportEscape ++ ['"'])

end BearerAuth.Text
