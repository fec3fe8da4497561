import Mathlib.Algebra.Order.Group.Nat
import Mathlib.Tactic.Ring

/-! # Window budgets

A counter that starts again with every window and refuses above a limit. Work is counted in two
parts, one unit when it arrives and the rest when it is let through, and the window may have changed
in between.
-/

namespace Tidebook.Library

/-- What is counted in this window, what has arrived and waits, what was let through, and how many
windows have ended. -/
structure Budget where
  count : Nat
  waiting : Nat
  done : Nat
  ended : Nat

namespace Budget

variable {limit units : Nat} {budget base : Budget}

/-- Since `base`, no window has let through or kept waiting more than it counted, up to the limit. -/
def Within (limit : Nat) (budget base : Budget) : Prop :=
  budget.done + budget.waiting + limit * base.ended ≤
    base.done + base.waiting + limit * budget.ended + min budget.count limit

theorem Within.rfl : budget.Within limit budget := by
  unfold Within
  omega

theorem Within.bound (within : budget.Within limit base) :
    budget.done + budget.waiting + limit * base.ended ≤
      base.done + base.waiting + limit * (budget.ended + 1) := by
  have most := Nat.min_le_right budget.count limit
  unfold Within at within
  rw [Nat.mul_succ]
  omega

theorem Within.renew (within : budget.Within limit base) :
    Within limit { budget with count := 0, ended := budget.ended + 1 } base := by
  have whole := within.bound
  unfold Within
  dsimp only
  omega

theorem Within.accept (within : budget.Within limit base) (fits : budget.count + 1 ≤ limit) :
    Within limit { budget with count := budget.count + 1, waiting := budget.waiting + 1 } base := by
  simp only [Within] at within ⊢
  omega

theorem Within.refuse (within : budget.Within limit base) (units : Nat) :
    Within limit { budget with count := budget.count + units } base := by
  simp only [Within] at within ⊢
  omega

theorem Within.drop (within : budget.Within limit base) :
    Within limit { budget with waiting := budget.waiting - 1 } base := by
  simp only [Within] at within ⊢
  omega

/-- One unit was counted on arrival, so the others are counted now. -/
theorem Within.charge (within : budget.Within limit base) (some_units : 1 ≤ units)
    (waits : 1 ≤ budget.waiting) (fits : budget.count + units - 1 ≤ limit) :
    Within limit { budget with
      count := budget.count + units - 1
      waiting := budget.waiting - 1
      done := budget.done + units } base := by
  simp only [Within] at within ⊢
  omega

end Budget
end Tidebook.Library
