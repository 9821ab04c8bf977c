import BearerAuth.Text.Base64

/-! # Base 64 there and back

Every six-bit value is read back from its digit, so that grouping bits into digits and back loses
nothing. Both directions recurse on the same groups, three bytes against four digits.
-/

namespace BearerAuth.Text.Base64

/-- Every value below 64 is read back from its digit. -/
def Alphabet.Faithful (a : Alphabet) : Prop := ∀ n < 64, a.value? (a.digit n) = some n

theorem urlSafe_faithful : urlSafe.Faithful := by
  unfold Alphabet.Faithful
  decide

theorem standard_faithful : standard.Faithful := by
  unfold Alphabet.Faithful
  decide

private theorem ofNat_eq {b : UInt8} {n : Nat} (same : n = b.toNat) : UInt8.ofNat n = b := by
  rw [same]
  exact UInt8.ofNat_toNat

/-- Reading the digits of any bytes gives the bytes. -/
theorem decode?_encode {a : Alphabet} (faithful : a.Faithful) (bytes : List UInt8) :
    decode? a (encode a bytes) = some bytes := by
  induction bytes using encode.induct with
  | case1 x y z rest ih =>
    have hx := x.toNat_lt
    have hy := y.toNat_lt
    have hz := z.toNat_lt
    have first := faithful (x.toNat / 4) (by omega)
    have second := faithful (x.toNat % 4 * 16 + y.toNat / 16) (by omega)
    have third := faithful (y.toNat % 16 * 4 + z.toNat / 64) (by omega)
    have fourth := faithful (z.toNat % 64) (by omega)
    simp only [encode, decode?, first, second, third, fourth, ih, bind, Option.bind_some]
    rw [ofNat_eq (b := x) (by omega), ofNat_eq (b := y) (by omega), ofNat_eq (b := z) (by omega)]
  | case2 x y =>
    have hx := x.toNat_lt
    have hy := y.toNat_lt
    have first := faithful (x.toNat / 4) (by omega)
    have second := faithful (x.toNat % 4 * 16 + y.toNat / 16) (by omega)
    have third := faithful (y.toNat % 16 * 4) (by omega)
    simp only [encode, decode?, first, second, third, bind, Option.bind_some]
    rw [if_pos (by omega), ofNat_eq (b := x) (by omega), ofNat_eq (b := y) (by omega)]
  | case3 x =>
    have hx := x.toNat_lt
    have first := faithful (x.toNat / 4) (by omega)
    have second := faithful (x.toNat % 4 * 16) (by omega)
    simp only [encode, decode?, first, second, bind, Option.bind_some]
    rw [if_pos (by omega), ofNat_eq (b := x) (by omega)]
  | case4 => rfl

/-- Three bytes are four digits, and left-over bytes one digit more than they are. -/
theorem length_encode (a : Alphabet) (bytes : List UInt8) :
    (encode a bytes).length = (4 * bytes.length + 2) / 3 := by
  induction bytes using encode.induct with
  | case1 x y z rest ih =>
    simp only [encode, List.length_cons, ih]
    omega
  | case2 x y => simp [encode]
  | case3 x => simp [encode]
  | case4 => rfl

/-- Only digits of values below 64 are written. -/
theorem exists_of_mem_encode {a : Alphabet} {bytes : List UInt8} {c : Char}
    (member : c ∈ encode a bytes) : ∃ n < 64, a.digit n = c := by
  induction bytes using encode.induct with
  | case1 x y z rest ih =>
    have hx := x.toNat_lt
    have hy := y.toNat_lt
    have hz := z.toNat_lt
    simp only [encode, List.mem_cons] at member
    rcases member with rfl | rfl | rfl | rfl | member
    · exact ⟨_, by omega, rfl⟩
    · exact ⟨_, by omega, rfl⟩
    · exact ⟨_, by omega, rfl⟩
    · exact ⟨_, by omega, rfl⟩
    · exact ih member
  | case2 x y =>
    have hx := x.toNat_lt
    have hy := y.toNat_lt
    simp only [encode, List.mem_cons, List.not_mem_nil, or_false] at member
    rcases member with rfl | rfl | rfl
    · exact ⟨_, by omega, rfl⟩
    · exact ⟨_, by omega, rfl⟩
    · exact ⟨_, by omega, rfl⟩
  | case3 x =>
    have hx := x.toNat_lt
    simp only [encode, List.mem_cons, List.not_mem_nil, or_false] at member
    rcases member with rfl | rfl
    · exact ⟨_, by omega, rfl⟩
    · exact ⟨_, by omega, rfl⟩
  | case4 => cases member

/-- A character that is no digit is not written. -/
theorem not_mem_encode {a : Alphabet} {c : Char} (other : ∀ n < 64, a.digit n ≠ c)
    (bytes : List UInt8) : c ∉ encode a bytes := by
  intro member
  obtain ⟨n, small, same⟩ := exists_of_mem_encode member
  exact other n small same

/-- The digits of tokens are never a point, so points can part them. -/
theorem point_not_mem_encode (bytes : List UInt8) : '.' ∉ encode urlSafe bytes :=
  not_mem_encode (by decide) bytes

end BearerAuth.Text.Base64
