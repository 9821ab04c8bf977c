import BearerAuth.Json.Reader
import BearerAuth.Json.Text
import Mathlib.Tactic.SplitIfs

/-! # Strings there and back

A written string is read back whatever characters it has. The writer escapes character by character,
the reader goes byte by byte, and so the main step is what reading makes of one escaped character.
-/

namespace BearerAuth.Text

theorem utf8_append (s t : String) : utf8 (s ++ t) = utf8 s ++ utf8 t := by
  simp [utf8]

theorem utf8_ofList (chars : List Char) :
    utf8 (String.ofList chars) = chars.flatMap String.utf8EncodeChar := by
  simp [utf8]

end BearerAuth.Text

namespace BearerAuth.Json.Reader

/-- A byte that a string may hold as it is. -/
def Plain (b : UInt8) : Prop := b ≠ 0x22 ∧ b ≠ 0x5C ∧ ¬ b < 0x20

theorem stringBytes_plain (bytes sofar rest : List UInt8) (plain : ∀ b ∈ bytes, Plain b) :
    stringBytes sofar (bytes ++ rest) = stringBytes (bytes.reverse ++ sofar) rest := by
  induction bytes generalizing sofar with
  | nil => rfl
  | cons b bytes ih =>
    obtain ⟨notQuote, notEscape, notControl⟩ := plain b (List.mem_cons_self ..)
    rw [List.cons_append, stringBytes.eq_def]
    simp only [notQuote, notEscape, notControl, ↓reduceIte]
    rw [ih (b :: sofar) (fun other member => plain other (List.mem_cons_of_mem _ member))]
    simp

private theorem plain_of_toNat {b : UInt8} (quote : b.toNat ≠ 34) (escape : b.toNat ≠ 92)
    (control : 32 ≤ b.toNat) : Plain b := by
  refine ⟨?_, ?_, ?_⟩
  · rintro rfl; exact quote rfl
  · rintro rfl; exact escape rfl
  · intro below
    have bound : b.toNat < 32 := below
    omega

/-- The bytes of a character that needs no escape are plain. -/
theorem plain_utf8EncodeChar {c : Char} (quote : c ≠ '"') (escape : c ≠ '\\')
    (control : 32 ≤ c.toNat) : ∀ b ∈ String.utf8EncodeChar c, Plain b := by
  have notQuote : c.toNat ≠ 34 := fun same => quote (Char.ext (UInt32.toNat_inj.mp same))
  have notEscape : c.toNat ≠ 92 := fun same => escape (Char.ext (UInt32.toNat_inj.mp same))
  have bound : c.toNat < 1114112 := by
    have valid := c.valid
    simp only [UInt32.isValidChar, Nat.isValidChar] at valid
    change c.val.toNat < 1114112
    omega
  change c.val.toNat ≠ 34 at notQuote
  change c.val.toNat ≠ 92 at notEscape
  change 32 ≤ c.val.toNat at control
  change c.val.toNat < 1114112 at bound
  intro b member
  simp only [String.utf8EncodeChar] at member
  split_ifs at member <;> simp only [List.mem_cons, List.not_mem_nil, or_false] at member
  · subst member
    apply plain_of_toNat <;> simp only [UInt8.toNat_ofNat'] <;> omega
  · rcases member with rfl | rfl <;> apply plain_of_toNat <;> simp only [UInt8.toNat_ofNat'] <;> omega
  · rcases member with rfl | rfl | rfl <;> apply plain_of_toNat <;>
      simp only [UInt8.toNat_ofNat'] <;> omega
  · rcases member with rfl | rfl | rfl | rfl <;> apply plain_of_toNat <;>
      simp only [UInt8.toNat_ofNat'] <;> omega

private theorem stringBytes_letter {e b : UInt8} (sofar rest : List UInt8) (letter : e ≠ 0x75)
    (found : escaped? e = some b) :
    stringBytes sofar (0x5C :: e :: rest) = stringBytes (b :: sofar) rest := by
  rw [stringBytes.eq_def]
  simp [letter, found]

/-- The number in the escape of a control character. -/
private theorem hex4?_control : ∀ n < 32,
    hex4? 0x30 0x30 (UInt8.ofNat (Text.hexDigit (n / 16)).toNat)
      (UInt8.ofNat (Text.hexDigit (n % 16)).toNat) = some n := by
  decide

private theorem utf8EncodeChar_hexDigit : ∀ n < 16,
    String.utf8EncodeChar (Text.hexDigit n) = [UInt8.ofNat (Text.hexDigit n).toNat] := by
  decide

private theorem stringBytes_control (c : Char) (control : c.toNat < 32) (sofar rest : List UInt8) :
    stringBytes sofar
        (['\\', 'u', '0', '0', Text.hexDigit (c.toNat / 16), Text.hexDigit (c.toNat % 16)].flatMap
          String.utf8EncodeChar ++ rest) =
      stringBytes ((String.utf8EncodeChar c).reverse ++ sofar) rest := by
  have high : c.toNat / 16 < 16 := by omega
  have low : c.toNat % 16 < 16 := by omega
  have number := hex4?_control c.toNat control
  have char : Char.ofNat c.toNat = c := Char.ofNat_toNat c
  simp only [List.flatMap_cons, List.flatMap_nil, utf8EncodeChar_hexDigit _ high,
    utf8EncodeChar_hexDigit _ low, List.append_nil]
  change stringBytes sofar (0x5C :: 0x75 :: 0x30 :: 0x30 ::
    UInt8.ofNat (Text.hexDigit (c.toNat / 16)).toNat ::
    UInt8.ofNat (Text.hexDigit (c.toNat % 16)).toNat :: rest) = _
  have notLow : isLowSurrogate c.toNat = false := by simp [isLowSurrogate]; omega
  have notHigh : isHighSurrogate c.toNat = false := by simp [isHighSurrogate]; omega
  rw [stringBytes.eq_def]
  simp [number, notLow, notHigh, char]

/-- Reading one escaped character gives the bytes of the character. -/
theorem stringBytes_escape (c : Char) (sofar rest : List UInt8) :
    stringBytes sofar ((escape c).flatMap String.utf8EncodeChar ++ rest) =
      stringBytes ((String.utf8EncodeChar c).reverse ++ sofar) rest := by
  unfold escape
  split_ifs with quote backslash backspace tab newline feed carriage control
  · subst quote; exact stringBytes_letter _ _ (by decide) rfl
  · subst backslash; exact stringBytes_letter _ _ (by decide) rfl
  · subst backspace; exact stringBytes_letter _ _ (by decide) rfl
  · subst tab; exact stringBytes_letter _ _ (by decide) rfl
  · subst newline; exact stringBytes_letter _ _ (by decide) rfl
  · subst feed; exact stringBytes_letter _ _ (by decide) rfl
  · subst carriage; exact stringBytes_letter _ _ (by decide) rfl
  · exact stringBytes_control c control sofar rest
  · simp only [List.flatMap_cons, List.flatMap_nil, List.append_nil]
    exact stringBytes_plain _ _ _ (plain_utf8EncodeChar quote backslash (by omega))

theorem stringBytes_escaped (chars : List Char) (sofar rest : List UInt8) :
    stringBytes sofar ((chars.flatMap escape).flatMap String.utf8EncodeChar ++ rest) =
      stringBytes ((chars.flatMap String.utf8EncodeChar).reverse ++ sofar) rest := by
  induction chars generalizing sofar with
  | nil => rfl
  | cons c chars ih =>
    simp only [List.flatMap_cons, List.flatMap_append, List.append_assoc]
    rw [stringBytes_escape, ih]
    simp

private theorem stringBytes_quote (s : String) (rest : List UInt8) :
    stringBytes [] ((s.toList.flatMap escape).flatMap String.utf8EncodeChar ++ 0x22 :: rest) =
      .ok (Text.utf8 s).reverse rest := by
  rw [stringBytes_escaped, stringBytes.eq_def]
  simp [Text.utf8]

/-- Behind its opening quote, a written string is read back up to its closing one. -/
theorem stringTail_quote (s : String) (rest : List UInt8) :
    stringTail ((s.toList.flatMap escape).flatMap String.utf8EncodeChar ++ 0x22 :: rest) =
      .ok s rest := by
  simp [stringTail, stringBytes_quote, Text.ofUtf8?_utf8]

private theorem skipStringTail_unicode (h1 h2 h3 h4 : UInt8) (rest : List UInt8) :
    skipStringTail (0x5C :: 0x75 :: h1 :: h2 :: h3 :: h4 :: rest) =
      if (hex4? h1 h2 h3 h4).isSome then skipStringTail rest else .error () rest := by
  rw [skipStringTail]
  simp

/-- A string that can be read can be passed over. -/
theorem skipStringTail_of_stringBytes {sofar s bytes rest : List UInt8}
    (read : stringBytes sofar s = .ok bytes rest) : skipStringTail s = .ok () rest := by
  induction sofar, s using stringBytes.induct
  -- Two escapes make one character beyond the basic plane; passing over takes them one by one.
  case case11 first notLow high b backslash c letter _ _ _ _ _ low second isLow _ _ ih =>
    obtain rfl := Decidable.of_not_not backslash
    obtain rfl := Decidable.of_not_not letter
    rw [skipStringTail_unicode, skipStringTail_unicode, first, second]
    refine ih ?_
    unfold stringBytes at read
    simp_all only [↓reduceIte, ne_eq, not_true_eq_false, Bool.false_eq_true]
    exact read
  case case19 other plain control ih =>
    unfold stringBytes at read
    rw [if_neg other, if_neg plain, if_neg control] at read
    unfold skipStringTail
    rw [if_neg other, if_neg plain, if_neg control, ih read]
  all_goals
    unfold stringBytes at read
    unfold skipStringTail
    simp_all

theorem skipStringTail_quote (s : String) (rest : List UInt8) :
    skipStringTail ((s.toList.flatMap escape).flatMap String.utf8EncodeChar ++ 0x22 :: rest) =
      .ok () rest :=
  skipStringTail_of_stringBytes (stringBytes_quote s rest)

/-- The bytes of a written string between its quotes. -/
theorem utf8_quote (s : String) :
    Text.utf8 (String.ofList (quote s)) =
      0x22 :: ((s.toList.flatMap escape).flatMap String.utf8EncodeChar ++ [0x22]) := by
  rw [Text.utf8_ofList]
  simp only [quote, List.flatMap_append, List.flatMap_cons, List.flatMap_nil, List.cons_append]
  rfl

end BearerAuth.Json.Reader
