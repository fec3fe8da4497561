import Mathlib.Algebra.Order.Floor.Div
import Mathlib.GroupTheory.GroupAction.Ring
import Mathlib.Tactic.Ring

/-! # Rounding in parts

The rounded shares of a list of parts against the rounded share of their sum.
-/

namespace Tidebook.Library

def floorShares (rate scale : Nat) (parts : List Nat) : Nat :=
  (parts.map fun part => rate * part / scale).sum

def ceilShares (rate scale : Nat) (parts : List Nat) : Nat :=
  (parts.map fun part => part * rate ⌈/⌉ scale).sum

section
variable {rate scale : Nat}

@[simp] theorem floorShares_nil : floorShares rate scale [] = 0 := rfl

@[simp] theorem floorShares_cons (part : Nat) (parts : List Nat) :
    floorShares rate scale (part :: parts) = rate * part / scale + floorShares rate scale parts :=
  List.sum_cons

@[simp] theorem ceilShares_nil : ceilShares rate scale [] = 0 := rfl

@[simp] theorem ceilShares_cons (part : Nat) (parts : List Nat) :
    ceilShares rate scale (part :: parts) = part * rate ⌈/⌉ scale + ceilShares rate scale parts :=
  List.sum_cons

theorem floorShares_le (parts : List Nat) :
    floorShares rate scale parts ≤ rate * parts.sum / scale := by
  induction parts with
  | nil => exact Nat.zero_le _
  | cons part parts ih =>
      rw [floorShares_cons, List.sum_cons, Nat.mul_add]
      exact le_trans (Nat.add_le_add_left ih _) Nat.div_add_div_le_add_div

theorem lt_floorShares (scaled : 0 < scale) {parts : List Nat} (some_part : parts ≠ []) :
    rate * parts.sum < scale * (floorShares rate scale parts + parts.length) := by
  induction parts with
  | nil => exact absurd rfl some_part
  | cons part parts ih =>
      have lost : rate * part < scale * (rate * part / scale + 1) :=
        Nat.lt_mul_div_succ _ scaled
      have rest : rate * parts.sum ≤ scale * (floorShares rate scale parts + parts.length) := by
        cases parts with
        | nil => exact Nat.zero_le _
        | cons other parts => exact (ih (List.cons_ne_nil _ _)).le
      rw [floorShares_cons, List.sum_cons, List.length_cons]
      calc rate * (part + parts.sum) = rate * part + rate * parts.sum := Nat.mul_add _ _ _
        _ < scale * (rate * part / scale + 1) +
            scale * (floorShares rate scale parts + parts.length) := by omega
        _ = _ := by ring

theorem ceil_le_ceilShares (scaled : 0 < scale) (parts : List Nat) :
    parts.sum * rate ⌈/⌉ scale ≤ ceilShares rate scale parts := by
  induction parts with
  | nil =>
      rw [List.sum_nil, Nat.zero_mul, zero_ceilDiv]
      exact Nat.zero_le _
  | cons part parts ih =>
      rw [ceilShares_cons, List.sum_cons, ceilDiv_le_iff_le_mul scaled]
      have first : part * rate ≤ scale * (part * rate ⌈/⌉ scale) :=
        (ceilDiv_le_iff_le_mul scaled).mp le_rfl
      have rest : parts.sum * rate ≤ scale * ceilShares rate scale parts :=
        (ceilDiv_le_iff_le_mul scaled).mp ih
      rw [Nat.add_mul, Nat.mul_add]
      exact Nat.add_le_add first rest

theorem ceilShares_lt (scaled : 0 < scale) {parts : List Nat} (some_part : parts ≠ []) :
    scale * ceilShares rate scale parts < parts.sum * rate + scale * parts.length := by
  induction parts with
  | nil => exact absurd rfl some_part
  | cons part parts ih =>
      have gained : scale * (part * rate ⌈/⌉ scale) < part * rate + scale := by
        rw [Nat.ceilDiv_eq_add_pred_div]
        have bound := Nat.mul_div_le (part * rate + scale - 1) scale
        omega
      have rest : scale * ceilShares rate scale parts ≤
          parts.sum * rate + scale * parts.length := by
        cases parts with
        | nil => simp
        | cons other parts => exact (ih (List.cons_ne_nil _ _)).le
      rw [ceilShares_cons, List.sum_cons, List.length_cons]
      calc scale * (part * rate ⌈/⌉ scale + ceilShares rate scale parts) =
            scale * (part * rate ⌈/⌉ scale) + scale * ceilShares rate scale parts :=
          Nat.mul_add _ _ _
        _ < part * rate + scale + (parts.sum * rate + scale * parts.length) := by omega
        _ = _ := by ring

theorem ceilShares_lt_ceil (scaled : 0 < scale) {parts : List Nat} (some_part : parts ≠ []) :
    ceilShares rate scale parts < parts.sum * rate ⌈/⌉ scale + parts.length := by
  have gained : scale * ceilShares rate scale parts < parts.sum * rate + scale * parts.length :=
    ceilShares_lt scaled some_part
  have covered : parts.sum * rate ≤ scale * (parts.sum * rate ⌈/⌉ scale) :=
    (ceilDiv_le_iff_le_mul scaled).mp le_rfl
  refine Nat.lt_of_mul_lt_mul_left (lt_of_lt_of_le gained ?_)
  rw [Nat.mul_add]
  exact Nat.add_le_add_right covered _

end
end Tidebook.Library
