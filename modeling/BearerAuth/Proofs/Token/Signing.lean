import BearerAuth.Proofs.Json.Records
import BearerAuth.Proofs.Text.Base64
import BearerAuth.Token.Signed

/-! # What was signed is read back

A raw token parts at its last two points, its header and claims are read back from their texts, and
its signature is the one it was signed with. So the claims of a signed token are the claims it was
made from, as long as they do not expire before 1970.
-/

namespace BearerAuth

open BearerAuth.Time BearerAuth.Json BearerAuth.Json.Reader BearerAuth.Text

theorem Header.reads : Reads reader (utf8 issued.compact) ⟨signingAlgorithm⟩ := by
  have name : Reads textReader (utf8 (Value.string "JWT").compact) () :=
    (optional_string (string_reads "JWT")).bind fun _ => rfl
  refine record_reads ⟨some signingAlgorithm, ["typ"]⟩ ?_ fun _ => rfl
  refine .cons ⟨none, ["typ"]⟩ ?_ (.cons _ ?_ .nil)
  · simp only [String.reduceEq, ↓reduceIte, fieldReader?, List.contains_nil, Bool.false_eq_true]
    exact name.bind fun _ => rfl
  · simp only [↓reduceIte]
    exact (field_reads (named_reads (by simp [algorithms, signingAlgorithm]))).bind fun _ => rfl

namespace Claims

/-- The expiry fits the 64-bit word it is written in. -/
def InRange (c : Claims) : Prop :=
  -9223372036854775808 ≤ c.expiry ∧ c.expiry ≤ 9223372036854775807

/-- Claims are read back from their text. -/
theorem reads {c : Claims} (inRange : c.InRange) : Reads reader (utf8 c.toJson.compact) c := by
  refine record_reads ⟨some c.tokenId, some c.userId, some c.expiry⟩ ?_ fun _ => rfl
  refine .cons ⟨some c.tokenId, none, none⟩ ?_
    (.cons ⟨some c.tokenId, some c.userId, none⟩ ?_ (.cons _ ?_ .nil))
  · simp only
    exact (field_reads (string_reads _)).bind fun _ => rfl
  · simp only
    exact (field_reads (string_reads _)).bind fun _ => rfl
  · simp only
    exact (field_reads (int64_reads inRange.1 inRange.2)).bind fun _ => rfl

end Claims

namespace Registered

/-- A whole number of seconds is read as a time unless it lies before 1970. -/
private theorem timeReader_reads {n : Int} (least : -9223372036854775808 ≤ n)
    (most : n ≤ 9223372036854775807) :
    Reads timeReader (utf8 (Value.whole n).compact) (decide (0 ≤ n)) := by
  intro rest ends
  have read := number_whole least most rest ends
  obtain ⟨b, bytes, text, first⟩ := head_whole n
  have dark : isBlankByte b = false := by
    rcases first with rfl | digit
    · rfl
    · exact not_isBlankByte_of_isDigitByte digit
  have other (mark : UInt8) (dash : mark ≠ 0x2D) (letter : isDigitByte mark = false) :
      some b ≠ some mark := by
    rintro ⟨⟩
    rcases first with same | digit
    · exact dash same
    · simp [letter] at digit
  have bracket := other 0x5B (by decide) rfl
  have brace := other 0x7B (by decide) rfl
  have quote := other 0x22 (by decide) rfl
  have null := other 0x6E (by decide) rfl
  have yes := other 0x74 (by decide) rfl
  have no := other 0x66 (by decide) rfl
  rw [text, List.cons_append] at read ⊢
  rw [timeReader, bind_ok (peekToken_cons dark _)]
  simp only
  exact bind_ok read

private theorem fill_reads {r : Reader Bool} {text : List UInt8} {good : Bool}
    (reads : Reads r text good) :
    Reads (fill .missing r) text (if good then .present else .unusable) := by
  intro rest ends
  have read : attempt r (text ++ rest) = .ok (some good) rest := by
    simp only [attempt, reads rest ends]
  cases good <;> exact bind_ok read

theorem reads {c : Claims} (inRange : c.InRange) :
    Reads reader (utf8 c.toJson.compact)
      { expiry := if 0 ≤ c.expiry then .present else .unusable } := by
  refine record_reads { expiry := if 0 ≤ c.expiry then .present else .unusable } ?_
    fun _ => rfl
  refine .cons {} ?_ (.cons {} ?_ (.cons _ ?_ .nil))
  · simp only
    exact (skip_string _).bind fun _ => rfl
  · simp only
    exact (skip_string _).bind fun _ => rfl
  · simp only
    have filled := fill_reads (timeReader_reads inRange.1 inRange.2)
    simp only [decide_eq_true_eq] at filled
    exact filled.bind fun _ => rfl

/-- The claims of a token are acceptable to every reader of tokens from 1970 on. -/
theorem acceptable_toJson {c : Claims} (inRange : c.InRange) :
    acceptable (utf8 c.toJson.compact) = decide (0 ≤ c.expiry) := by
  rw [acceptable, (reads inRange).run]
  split_ifs with positive <;> simp [positive]

end Registered

namespace Signed

theorem splitLast_of_not_mem {cs : List Char} (absent : '.' ∉ cs) : splitLast cs = none := by
  induction cs with
  | nil => rfl
  | cons c cs ih =>
    simp only [List.mem_cons, not_or] at absent
    simp only [splitLast, ih absent.2]
    exact if_neg (Ne.symm absent.1)

/-- Text parts at the last point in it. -/
theorem splitLast_append (before : List Char) {after : List Char} (absent : '.' ∉ after) :
    splitLast (before ++ '.' :: after) = some (before, after) := by
  induction before with
  | nil => simp [splitLast, splitLast_of_not_mem absent]
  | cons c before ih => simp [splitLast, ih]

/-- The claims of a signed token are read back, unless they expire before 1970. -/
theorem claims_sign (secret : String) {c : Claims} (inRange : c.InRange) :
    claims secret (sign secret c).toList =
      if 0 ≤ c.expiry then .ok c else .error .malformedToken := by
  have parts : splitLast (sign secret c).toList =
      some (message c, signature secret (message c)) := by
    rw [sign, String.toList_ofList]
    exact splitLast_append _ (Base64.point_not_mem_encode _)
  have signed : splitLast (message c) =
      some (encodePart (utf8 Header.issued.compact), encodePart (utf8 c.toJson.compact)) :=
    splitLast_append _ (Base64.point_not_mem_encode _)
  have decoded (bytes : List UInt8) : decodePart? (encodePart bytes) = some bytes :=
    Base64.decode?_encode Base64.urlSafe_faithful bytes
  simp only [claims, parts, signed, decoded, Header.reads.run, Claims.reads inRange |>.run,
    Registered.acceptable_toJson inRange, ne_eq, not_true_eq_false, ↓reduceIte, decide_eq_true_eq]
  split_ifs <;> rfl

end Signed

end BearerAuth
