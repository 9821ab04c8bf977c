import BearerAuth.Json.Value
import BearerAuth.Proofs.Decimal.Digits
import BearerAuth.Proofs.Json.Strings

/-! # Reading what was written

`Reads r text a` says that the reader takes exactly that text off the front of any input in which a
value may end there. Scalars are read so, and so are lists and objects whose parts are. For a record
it is enough that the members fill it one after the other, `Fills`.
-/

namespace BearerAuth.Json.Reader

variable {α β : Type}

theorem bind_ok {r : Reader α} {f : α → Reader β} {a : α} {s s' : List UInt8}
    (read : r s = .ok a s') : (r >>= f) s = f a s' := by
  change EStateM.bind r f s = f a s'
  simp only [EStateM.bind, read]

/-- A value may end here: at the end of input, or before the next item or the closing mark. -/
def Delimited (rest : List UInt8) : Prop := ∀ b ∈ rest.head?, b = 0x2C ∨ b = 0x5D ∨ b = 0x7D

theorem delimited_nil : Delimited [] := by simp [Delimited]

theorem delimited_comma (rest : List UInt8) : Delimited (0x2C :: rest) := by simp [Delimited]

theorem delimited_bracket (rest : List UInt8) : Delimited (0x5D :: rest) := by simp [Delimited]

theorem delimited_brace (rest : List UInt8) : Delimited (0x7D :: rest) := by simp [Delimited]

/-- The reader takes the text off any input, wherever a value may end, and gives `a`. -/
def Reads (r : Reader α) (text : List UInt8) (a : α) : Prop :=
  ∀ rest, Delimited rest → r (text ++ rest) = .ok a rest

theorem Reads.run {r : Reader α} {text : List UInt8} {a : α} (reads : Reads r text a) :
    r.run text = some a := by
  have read := reads [] delimited_nil
  rw [List.append_nil] at read
  simp [Reader.run, read]

theorem Reads.bind {r : Reader α} {f : α → Reader β} {text : List UInt8} {a : α} {b : β}
    (reads : Reads r text a) (pure : ∀ rest, f a rest = .ok b rest) : Reads (r >>= f) text b := by
  intro rest ends
  rw [bind_ok (reads rest ends), pure]

theorem peekToken_cons {b : UInt8} (dark : isBlankByte b = false) (s : List UInt8) :
    peekToken (b :: s) = .ok (some b) (b :: s) := by
  simp [peekToken, dark]

theorem token_cons {b : UInt8} (dark : isBlankByte b = false) (s : List UInt8) :
    token b (b :: s) = .ok () s := by
  simp only [token, bind_ok (peekToken_cons dark s), ↓reduceIte]
  rfl

/-! ## Scalars -/

theorem literal_append (expected rest : List UInt8) :
    literal expected (expected ++ rest) = .ok () rest := by
  induction expected with
  | nil => rfl
  | cons b expected ih =>
    have took : take (b :: (expected ++ rest)) = .ok b (expected ++ rest) := rfl
    simp only [List.cons_append, literal, bind_ok took, ↓reduceIte, ih]

private theorem utf8_string (s : String) (rest : List UInt8) :
    Text.utf8 (Value.string s).compact ++ rest =
      0x22 :: ((s.toList.flatMap escape).flatMap String.utf8EncodeChar ++ 0x22 :: rest) := by
  change Text.utf8 (String.ofList (quote s)) ++ rest = _
  rw [utf8_quote]
  simp

theorem string_reads (s : String) : Reads string (Text.utf8 (Value.string s).compact) s := by
  intro rest _
  rw [utf8_string, string, bind_ok (peekToken_cons rfl _)]
  exact stringTail_quote s rest

theorem skip_string (s : String) : Reads skip (Text.utf8 (Value.string s).compact) () := by
  intro rest _
  have got (bytes : List UInt8) : (get : Reader (List UInt8)) bytes = .ok bytes bytes := rfl
  rw [skip, bind_ok (got _), utf8_string, List.length_cons, Nat.mul_add, skipValue,
    bind_ok (peekToken_cons rfl _)]
  exact skipStringTail_quote s rest

/-- Text that satisfies a reading of its own is read so. -/
theorem parsed_reads {value? : String → Option α} {s : String} {a : α} (shown : value? s = some a) :
    Reads (parsed value?) (Text.utf8 (Value.string s).compact) a := by
  apply (string_reads s).bind
  intro rest
  simp only [shown]
  rfl

/-- A name is read back from its string. -/
theorem named_reads {value? : String → Option α} {s : String} {a : α} (shown : value? s = some a) :
    Reads (named value?) (Text.utf8 (Value.string s).compact) a := by
  intro rest _
  have tail := stringTail_quote s rest
  rw [utf8_string, named, bind_ok (peekToken_cons rfl _)]
  refine (bind_ok tail).trans ?_
  simp only [shown]
  rfl

theorem optional_null (r : Reader α) : Reads (optional r) (Text.utf8 Value.null.compact) none := by
  intro rest _
  change optional r (0x6E :: 0x75 :: 0x6C :: 0x6C :: rest) = _
  rw [optional, bind_ok (peekToken_cons rfl _)]
  exact bind_ok (literal_append [0x6E, 0x75, 0x6C, 0x6C] rest)

/-- A string that may be missing is read as it is read where it may not. -/
theorem optional_string {r : Reader α} {s : String} {a : α}
    (reads : Reads r (Text.utf8 (Value.string s).compact) a) :
    Reads (optional r) (Text.utf8 (Value.string s).compact) (some a) := by
  intro rest ends
  have read := reads rest ends
  rw [utf8_string] at read ⊢
  rw [optional, bind_ok (peekToken_cons rfl _)]
  exact bind_ok read

theorem bool_reads (b : Bool) : Reads bool (Text.utf8 (Value.bool b).compact) b := by
  intro rest _
  cases b with
  | false =>
    change bool (0x66 :: 0x61 :: 0x6C :: 0x73 :: 0x65 :: rest) = _
    rw [bool, bind_ok (peekToken_cons rfl _)]
    exact bind_ok (literal_append [0x66, 0x61, 0x6C, 0x73, 0x65] rest)
  | true =>
    change bool (0x74 :: 0x72 :: 0x75 :: 0x65 :: rest) = _
    rw [bool, bind_ok (peekToken_cons rfl _)]
    exact bind_ok (literal_append [0x74, 0x72, 0x75, 0x65] rest)

/-! ## Numbers -/

private theorem utf8EncodeChar_digitChar : ∀ d < 10,
    String.utf8EncodeChar (Nat.digitChar d) = [UInt8.ofNat (d + 48)] := by
  decide

private theorem digitValue_ofNat : ∀ d < 10, digitValue (UInt8.ofNat (d + 48)) = d := by decide

private theorem isDigitByte_ofNat : ∀ d < 10, isDigitByte (UInt8.ofNat (d + 48)) = true := by decide

/-- The bytes of a number's decimal digits. -/
def digitBytes (n : Nat) : List UInt8 := (Decimal.digits n).map fun d => UInt8.ofNat (d + 48)

theorem utf8_repr (n : Nat) : Text.utf8 n.repr = digitBytes n := by
  rw [Nat.repr_eq_ofList_toDigits, Text.utf8_ofList, Decimal.toDigits_eq, digitBytes]
  have small := Decimal.digits_lt n
  generalize Decimal.digits n = ds at small ⊢
  induction ds with
  | nil => rfl
  | cons d ds ih =>
    rw [List.map_cons, List.flatMap_cons, utf8EncodeChar_digitChar d (small d (List.mem_cons_self ..)),
      ih fun other member => small other (List.mem_cons_of_mem _ member)]
    rfl

private theorem not_isDigitByte_head {rest : List UInt8} (ends : Delimited rest) :
    rest.head?.any isDigitByte = false := by
  cases rest with
  | nil => rfl
  | cons b rest =>
    rcases ends b rfl with rfl | rfl | rfl <;> rfl

private theorem isDigitByte_of_mem {n : Nat} : ∀ b ∈ digitBytes n, isDigitByte b = true := by
  intro b member
  obtain ⟨d, digit, rfl⟩ := List.mem_map.mp member
  exact isDigitByte_ofNat d (Decimal.digits_lt n d digit)

theorem digitRun_digitBytes (n : Nat) {rest : List UInt8} (ends : Delimited rest) :
    digitRun (digitBytes n ++ rest) = .ok (Decimal.digits n) rest := by
  have stop : rest.takeWhile isDigitByte = [] ∧ rest.dropWhile isDigitByte = rest := by
    cases rest with
    | nil => exact ⟨rfl, rfl⟩
    | cons b rest =>
      have dark : isDigitByte b = false := not_isDigitByte_head ends
      simp [dark]
  have back : ∀ d ∈ Decimal.digits n, (digitValue ∘ fun d => UInt8.ofNat (d + 48)) d = d :=
    fun d member => digitValue_ofNat d (Decimal.digits_lt n d member)
  rw [digitRun, List.takeWhile_append_of_pos isDigitByte_of_mem,
    List.dropWhile_append_of_pos isDigitByte_of_mem, stop.1, stop.2, List.append_nil, digitBytes,
    List.map_map, List.map_congr_left back, List.map_id']

/-- No digit of a number that fits a 64-bit word is dropped. -/
theorem significandOf_fold (ds : List Nat) (significand count : Nat)
    (fits : Decimal.fold significand ds ≤ maxSignificand) :
    significandOf significand count ds =
      (Decimal.fold significand ds, count + ds.length, []) := by
  induction ds generalizing significand count with
  | nil => rfl
  | cons d ds ih =>
    have within : significand * 10 + d ≤ maxSignificand :=
      Nat.le_trans (Decimal.le_fold (significand * 10 + d) ds) fits
    rw [significandOf, if_pos within, ih _ _ fits]
    simp [Decimal.fold, Nat.add_comm, Nat.add_left_comm]

private theorem head_ne_of_delimited {rest : List UInt8} (ends : Delimited rest) :
    rest.head? ≠ some 0x2E ∧ rest.head? ≠ some 0x65 ∧ rest.head? ≠ some 0x45 := by
  cases rest with
  | nil => simp
  | cons b rest => rcases ends b rfl with rfl | rfl | rfl <;> simp

theorem numberTail_digitBytes (positive : Bool) {n : Nat} (fits : n ≤ maxSignificand)
    {rest : List UInt8} (ends : Delimited rest) :
    numberTail positive (digitBytes n ++ rest) =
      .ok (if positive then .whole n
        else if 1 ≤ n ∧ n ≤ 9223372036854775808 then .whole (-(n : Int))
        else .real (-n.toUInt64.toFloat)) rest := by
  obtain ⟨point, lower, upper⟩ := head_ne_of_delimited ends
  have kept := significandOf_fold (Decimal.digits n) 0 0 (by rwa [Decimal.fold_digits])
  rw [Decimal.fold_digits] at kept
  rw [numberTail, bind_ok (digitRun_digitBytes n ends)]
  have peeked : peek rest = .ok rest.head? rest := rfl
  match shown : Decimal.digits n with
  | [] => exact absurd shown (Decimal.digits_ne_nil n)
  | 0 :: d :: ds => exact absurd (Decimal.digits_zero_cons shown) (by simp)
  | [d] =>
    rw [shown] at kept
    simp only [kept, bind_ok peeked, point, lower, upper, or_self, ↓reduceIte, List.isEmpty_nil]
    split_ifs <;> rfl
  | (d + 1) :: e :: ds =>
    rw [shown] at kept
    simp only [kept, bind_ok peeked, point, lower, upper, or_self, ↓reduceIte, List.isEmpty_nil]
    split_ifs <;> rfl

theorem not_isBlankByte_of_isDigitByte {b : UInt8} (digit : isDigitByte b = true) :
    isBlankByte b = false := by
  simp only [isDigitByte, Bool.and_eq_true, decide_eq_true_eq, UInt8.le_iff_toNat_le] at digit
  simp only [isBlankByte, Bool.or_eq_false_iff, decide_eq_false_iff_not, ← UInt8.toNat_inj]
  change 48 ≤ b.toNat ∧ b.toNat ≤ 57 at digit
  change ((¬b.toNat = 32 ∧ ¬b.toNat = 10) ∧ ¬b.toNat = 9) ∧ ¬b.toNat = 13
  omega

private theorem digitBytes_ne_nil (n : Nat) : digitBytes n ≠ [] := by
  simp [digitBytes, Decimal.digits_ne_nil]

theorem number_digitBytes {n : Nat} (fits : n ≤ maxSignificand) {rest : List UInt8}
    (ends : Delimited rest) : number (digitBytes n ++ rest) = .ok (.whole n) rest := by
  have tail := numberTail_digitBytes true fits ends
  match shown : digitBytes n with
  | [] => exact absurd shown (digitBytes_ne_nil n)
  | b :: bytes =>
    rw [shown] at tail
    have digit : isDigitByte b = true := isDigitByte_of_mem b (shown ▸ List.mem_cons_self ..)
    have dark := not_isBlankByte_of_isDigitByte digit
    have notMinus : b ≠ 0x2D := by rintro rfl; exact absurd digit (by decide)
    rw [List.cons_append, number, bind_ok (peekToken_cons dark _)]
    simp only [digit, ↓reduceIte]
    exact tail

/-- Below zero the digits follow a minus sign. -/
theorem number_minus_digitBytes {n : Nat} (positive : 1 ≤ n) (fits : n ≤ 9223372036854775808)
    {rest : List UInt8} (ends : Delimited rest) :
    number (0x2D :: (digitBytes n ++ rest)) = .ok (.whole (-(n : Int))) rest := by
  have significand : n ≤ maxSignificand := Nat.le_trans fits (by decide)
  have tail := numberTail_digitBytes false significand ends
  simp only [positive, fits, and_self, ↓reduceIte, Bool.false_eq_true] at tail
  rw [number, bind_ok (peekToken_cons rfl _)]
  exact tail

theorem utf8_whole (n : Int) :
    Text.utf8 (Value.whole n).compact =
      if 0 ≤ n then digitBytes n.toNat else 0x2D :: digitBytes (-n).toNat := by
  change Text.utf8 n.repr = _
  rw [Int.repr_eq_if]
  split_ifs with positive
  · exact utf8_repr _
  · rw [Text.utf8_append, utf8_repr]; rfl

/-- A written whole number begins with its sign or a digit. -/
theorem head_whole (n : Int) :
    ∃ b bytes, Text.utf8 (Value.whole n).compact = b :: bytes ∧ (b = 0x2D ∨ isDigitByte b = true) := by
  rw [utf8_whole]
  split_ifs
  · match shown : digitBytes n.toNat with
    | [] => exact absurd shown (digitBytes_ne_nil _)
    | b :: bytes =>
      exact ⟨b, bytes, rfl, .inr (isDigitByte_of_mem b (shown ▸ List.mem_cons_self ..))⟩
  · exact ⟨_, _, rfl, .inl rfl⟩

/-- A whole number that fits a signed 64-bit word is read back. -/
theorem number_whole {n : Int} (least : -9223372036854775808 ≤ n) (most : n ≤ 9223372036854775807) :
    Reads number (Text.utf8 (Value.whole n).compact) (.whole n) := by
  intro rest ends
  rw [utf8_whole]
  split_ifs with positive
  · have fits : n.toNat ≤ maxSignificand := by simp only [maxSignificand]; omega
    rw [number_digitBytes fits ends, Int.toNat_of_nonneg positive]
  · rw [List.cons_append, number_minus_digitBytes (by omega) (by omega) ends,
      Int.toNat_of_nonneg (by omega), Int.neg_neg]

theorem int64_reads {n : Int} (least : -9223372036854775808 ≤ n) (most : n ≤ 9223372036854775807) :
    Reads int64 (Text.utf8 (Value.whole n).compact) n := by
  apply (number_whole least most).bind
  intro rest
  simp only [least, most, and_self, ↓reduceIte]
  rfl

end BearerAuth.Json.Reader
