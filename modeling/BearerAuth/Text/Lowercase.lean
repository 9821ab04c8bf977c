import BearerAuth.Text.CaseTables

/-! # Lower case

Text in lower case, in every script. All letters but two are mapped one by one: a capital I with a
dot keeps the dot as a mark of its own, and a capital sigma at the end of a word becomes a final
sigma.
-/

namespace BearerAuth.Text

def isCased (c : Char) : Bool := inRanges casedRanges c.toNat

def isCaseIgnorable (c : Char) : Bool := inRanges caseIgnorableRanges c.toNat

/-- The lower-case form of one character, whatever stands around it. -/
def lowerChar (c : Char) : List Char :=
  let n := c.toNat
  if n < 128 then [c.toLower]
  else if n = 0x130 then ['i', '\u0307']
  else
    match lowerCaseRuns.find? fun r => r.1 ≤ n && n ≤ r.2.1 && (n - r.1) % r.2.2.1 = 0 with
    | some r => [Char.ofNat ((n : Int) + r.2.2.2).toNat]
    | none => [c]

/-- The first character that matters for case is a cased one. -/
def startsCased (cs : List Char) : Bool := (cs.dropWhile isCaseIgnorable).head?.any isCased

/-- The lower-case form of the characters, of which `before` stands in front of them in reverse. -/
def lowerAfter (before : List Char) : List Char → List Char
  | [] => []
  | c :: rest =>
    let lower :=
      if c = 'Σ' then
        if startsCased before && !startsCased rest then ['ς'] else ['σ']
      else lowerChar c
    lower ++ lowerAfter (c :: before) rest

/-- The text in lower case. -/
def lower (s : String) : String := String.ofList (lowerAfter [] s.toList)

end BearerAuth.Text
