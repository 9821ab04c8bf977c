import BearerAuth.Decimal.Literal
import Mathlib.Algebra.Group.Nat.Defs
import Mathlib.Tactic.SplitIfs

/-! # Decimal digits

The digits of a number as numbers below ten, which every text of a whole number is made of. Reading
them from the left, each time ten times what was read and the next digit, gives the number back.
-/

namespace BearerAuth.Decimal

/-- The decimal digits of a number, the highest first. -/
def digits (n : Nat) : List Nat := if n < 10 then [n] else digits (n / 10) ++ [n % 10]

/-- The number that digits stand for behind those that make `sofar`. -/
def fold (sofar : Nat) (ds : List Nat) : Nat := ds.foldl (fun n d => n * 10 + d) sofar

theorem toDigits_eq (n : Nat) : Nat.toDigits 10 n = (digits n).map Nat.digitChar := by
  induction n using digits.induct with
  | case1 n small => rw [Nat.toDigits_of_lt_base small, digits, if_pos small]; rfl
  | case2 n large ih =>
    rw [Nat.toDigits_of_base_le (by decide) (by omega), ih, digits.eq_def n, if_neg large]
    simp

theorem digits_lt (n : Nat) : ∀ d ∈ digits n, d < 10 := by
  induction n using digits.induct with
  | case1 n small => simp [digits, small]
  | case2 n large ih =>
    rw [digits, if_neg large]
    intro d member
    rcases List.mem_append.mp member with member | member
    · exact ih d member
    · rw [List.mem_singleton.mp member]; omega

theorem fold_digits (n : Nat) : fold 0 (digits n) = n := by
  induction n using digits.induct with
  | case1 n small => simp [digits, small, fold]
  | case2 n large ih =>
    rw [digits, if_neg large, fold, List.foldl_append]
    change fold 0 (digits (n / 10)) * 10 + n % 10 = n
    rw [ih]
    omega

theorem fold_zeros (count sofar : Nat) (ds : List Nat) :
    fold sofar (List.replicate count 0 ++ ds) = fold (sofar * 10 ^ count) ds := by
  induction count generalizing sofar with
  | zero => simp
  | succ count ih =>
    rw [List.replicate_succ, List.cons_append]
    change fold (sofar * 10 + 0) (List.replicate count 0 ++ ds) = _
    rw [ih, Nat.add_zero, Nat.mul_assoc, Nat.pow_succ, Nat.mul_comm 10]

theorem le_fold (sofar : Nat) (ds : List Nat) : sofar ≤ fold sofar ds := by
  induction ds generalizing sofar with
  | nil => exact Nat.le_refl _
  | cons d ds ih => exact Nat.le_trans (by omega) (ih (sofar * 10 + d))

theorem digits_ne_nil (n : Nat) : digits n ≠ [] := by
  rw [digits]
  split_ifs <;> simp

/-- No number but zero is written with a leading zero. -/
theorem digits_zero_cons {n : Nat} {rest : List Nat} (leading : digits n = 0 :: rest) :
    rest = [] := by
  induction n using digits.induct generalizing rest with
  | case1 n small =>
    rw [digits, if_pos small] at leading
    exact (List.cons.inj leading).2.symm
  | case2 n large ih =>
    rw [digits, if_neg large] at leading
    match shown : digits (n / 10) with
    | [] => exact absurd shown (digits_ne_nil _)
    | first :: others =>
      rw [shown, List.cons_append] at leading
      obtain ⟨rfl, _⟩ := List.cons.inj leading
      have none := ih shown
      have folded := fold_digits (n / 10)
      rw [shown, none] at folded
      simp only [fold, List.foldl_cons, List.foldl_nil] at folded
      omega

theorem length_digits_le {n k : Nat} (positive : 0 < k) : (digits n).length ≤ k ↔ n < 10 ^ k := by
  rw [← Nat.length_toDigits_le_iff (by decide) positive, toDigits_eq, List.length_map]

/-! ## Digits as characters -/

private theorem digitChar_spec : ∀ d < 10, isDigit (Nat.digitChar d) = true ∧
    (Nat.digitChar d).toNat - 48 = d ∧ Nat.digitChar d ≠ '+' ∧ Nat.digitChar d ≠ '-' := by
  decide

theorem isDigit_of_mem_toDigits {n : Nat} {c : Char} (member : c ∈ Nat.toDigits 10 n) :
    isDigit c = true := by
  rw [toDigits_eq] at member
  obtain ⟨d, there, rfl⟩ := List.mem_map.mp member
  exact (digitChar_spec d (digits_lt n d there)).1

theorem not_mem_toDigits {c : Char} (other : isDigit c = false) (n : Nat) :
    c ∉ Nat.toDigits 10 n := by
  intro member
  rw [isDigit_of_mem_toDigits member] at other
  cases other

private theorem foldl_digitChar {ds : List Nat} (small : ∀ d ∈ ds, d < 10) (sofar : Nat) :
    (ds.map Nat.digitChar).foldl (fun n c => n * 10 + (c.toNat - 48)) sofar = fold sofar ds := by
  induction ds generalizing sofar with
  | nil => rfl
  | cons d ds ih =>
    obtain ⟨-, value, -, -⟩ := digitChar_spec d (small d (List.mem_cons_self ..))
    rw [List.map_cons, List.foldl_cons, value]
    exact ih (fun other member => small other (List.mem_cons_of_mem _ member)) _

/-- The digits of a number stand for it. -/
theorem valueOfDigits_toDigits (n : Nat) : valueOfDigits (Nat.toDigits 10 n) = n := by
  rw [toDigits_eq, valueOfDigits, foldl_digitChar (digits_lt n), fold_digits]

/-- A leading zero is the only digit. -/
theorem length_toDigits_of_head {n : Nat} (leading : (Nat.toDigits 10 n).head? = some '0') :
    (Nat.toDigits 10 n).length = 1 := by
  have zero : ∀ d < 10, Nat.digitChar d = '0' → d = 0 := by decide
  rw [toDigits_eq] at leading ⊢
  match shown : digits n with
  | [] => exact absurd shown (digits_ne_nil n)
  | d :: ds =>
    have small := digits_lt n d (shown ▸ List.mem_cons_self ..)
    rw [shown] at leading
    obtain rfl := zero d small (Option.some.inj leading)
    rw [digits_zero_cons shown]
    rfl

/-! ## Numbers of 64 bits -/

theorem wholeDigits_map {ds : List Nat} (small : ∀ d ∈ ds, d < 10) {sofar : Nat}
    (fits : fold sofar ds ≤ 18446744073709551615) :
    wholeDigits sofar (ds.map Nat.digitChar) = .ok (fold sofar ds) := by
  induction ds generalizing sofar with
  | nil => rfl
  | cons d ds ih =>
    obtain ⟨digit, value, -, -⟩ := digitChar_spec d (small d (List.mem_cons_self ..))
    have grown : sofar * 10 + d ≤ fold sofar (d :: ds) := le_fold (sofar * 10 + d) ds
    have step : ¬18446744073709551615 < sofar * 10 := by omega
    have next : ¬18446744073709551615 < sofar * 10 + d := by omega
    simp only [List.map_cons, wholeDigits, digit, value, step, next, ↓reduceIte]
    exact ih (fun other member => small other (List.mem_cons_of_mem _ member)) fits

/-- The digits of a number that fits 64 bits are read as that number. -/
theorem whole_toDigits {n : Nat} (fits : n ≤ 18446744073709551615) :
    whole (Nat.toDigits 10 n) = .ok n := by
  have read : wholeDigits 0 ((digits n).map Nat.digitChar) = .ok n := by
    rw [wholeDigits_map (digits_lt n) (by rwa [fold_digits]), fold_digits]
  rw [toDigits_eq]
  match shown : digits n with
  | [] => exact absurd shown (digits_ne_nil n)
  | d :: ds =>
    have small := digits_lt n d (shown ▸ List.mem_cons_self ..)
    obtain ⟨-, -, plus, minus⟩ := digitChar_spec d small
    rw [shown] at read
    simp only [List.map_cons] at read ⊢
    unfold whole
    split
    · contradiction
    · simp_all
    · simp_all
    · simp_all
    · exact read

end BearerAuth.Decimal
