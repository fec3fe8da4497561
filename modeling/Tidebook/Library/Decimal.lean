import Mathlib.Data.List.DropRight
import Mathlib.Data.Nat.Size
import Mathlib.Tactic.IntervalCases

/-! # Decimal numerals

Texts of decimal digits, the numbers they spell, and what padding and stripping zeros does to them.
-/

namespace Tidebook.Library

/-- The number that a text of digits spells. -/
def spelled (digits : List Char) : Nat := Nat.ofDigitChars 10 digits 0

variable {left right digits : List Char}

@[simp] theorem spelled_nil : spelled [] = 0 := Nat.ofDigitChars_nil

theorem spelled_append : spelled (left ++ right) = spelled left * 10 ^ right.length + spelled right := by
  rw [spelled, Nat.ofDigitChars_append, Nat.ofDigitChars_eq_ofDigitChars_zero, Nat.mul_comm]
  rfl

@[simp] theorem spelled_zeros (count : Nat) : spelled (List.replicate count '0') = 0 := by
  simp [spelled]

@[simp] theorem spelled_toDigits (value : Nat) : spelled (Nat.toDigits 10 value) = value :=
  Nat.ofDigitChars_ten_toDigits

/-! ## Zeros in front -/

theorem spelled_cons_zero : spelled ('0' :: digits) = spelled digits := by
  simp [spelled, Nat.ofDigitChars_cons]

theorem spelled_leftpad (width : Nat) : spelled (digits.leftpad width '0') = spelled digits := by
  simp [List.leftpad, spelled_append]

theorem spelled_dropWhile : spelled (digits.dropWhile (· == '0')) = spelled digits := by
  induction digits with
  | nil => rfl
  | cons first rest ih =>
      rw [List.dropWhile_cons]
      split
      · next zero => rw [ih, eq_of_beq zero, spelled_cons_zero]
      · rfl

theorem spelled_drop {count : Nat} (zeros : count ≤ (digits.takeWhile (· == '0')).length) :
    spelled (digits.drop count) = spelled digits := by
  induction count generalizing digits with
  | zero => rfl
  | succ count ih =>
      cases digits with
      | nil => simp at zeros
      | cons first rest =>
          rw [List.takeWhile_cons] at zeros
          split at zeros
          · next zero =>
              rw [eq_of_beq zero, List.drop_succ_cons, spelled_cons_zero]
              exact ih (Nat.le_of_succ_le_succ zeros)
          · simp at zeros

theorem head?_toDigits {value : Nat} (positive : 0 < value) :
    (Nat.toDigits 10 value).head? ≠ some '0' := by
  induction value using Nat.strongRecOn with
  | ind value ih =>
      by_cases small : value < 10
      · rw [Nat.toDigits_of_lt_base small]
        interval_cases value <;> decide
      · have shorter := ih (value / 10) (by omega) (by omega)
        rw [Nat.toDigits_of_base_le (by decide) (by omega), List.head?_append]
        obtain ⟨first, rest, shape⟩ :=
          List.exists_cons_of_ne_nil (Nat.toDigits_ne_nil (n := value / 10) (b := 10))
        rw [shape] at shorter ⊢
        exact shorter

/-! ## Zeros at the end -/

theorem rightpad_rdropWhile (digits : List Char) :
    (digits.rdropWhile (· == '0')).rightpad digits.length '0' = digits := by
  induction digits using List.reverseRecOn with
  | nil => rfl
  | append_singleton front last ih =>
      by_cases zero : last = '0'
      · subst zero
        have shorter := (List.rdropWhile_prefix (· == '0') front).length_le
        rw [List.rdropWhile_concat_pos _ _ _ (by decide)]
        conv_rhs => rw [← ih]
        simp only [List.rightpad, List.length_append, List.length_singleton, List.append_assoc,
          List.append_cancel_left_eq]
        rw [Nat.succ_sub shorter, List.replicate_succ']
      · rw [List.rdropWhile_concat_neg _ _ _ (by simpa using zero)]
        simp [List.rightpad]

theorem rdropWhile_last : (digits.rdropWhile (· == '0')).getLast? ≠ some '0' := by
  intro last
  obtain ⟨front, shape⟩ := List.getLast?_eq_some_iff.mp last
  have some_left : digits.rdropWhile (· == '0') ≠ [] := by simp [shape]
  have other := List.rdropWhile_last_not (· == '0') digits some_left
  simp [shape] at other

end Tidebook.Library
