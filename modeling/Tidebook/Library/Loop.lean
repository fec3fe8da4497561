import Mathlib.Data.Fintype.Card
import Tidebook.Library.Checked

/-! # Unbounded loops

A `while (true)` whose body may throw, run for a number of rounds. `none` says that the rounds were
used up.
-/

namespace Tidebook.Library

universe u

variable {σ ρ : Type u} {ε α : Type*}

inductive Turn (σ ρ : Type u) : Type u where
  | again (state : σ)
  | stop (result : ρ)

def loop (turn : σ → Except ε (Turn σ ρ)) : Nat → σ → Option (Except ε ρ)
  | 0, _ => none
  | rounds + 1, state =>
    match turn state with
    | .error failure => some (.error failure)
    | .ok (.stop result) => some (.ok result)
    | .ok (.again next) => loop turn rounds next

variable {turn : σ → Except ε (Turn σ ρ)} {rounds : Nat} {state next : σ} {result : ρ}

theorem loop_again (goes : turn state = .ok (.again next)) :
    loop turn (rounds + 1) state = loop turn rounds next := by
  rw [loop, goes]

theorem loop_stop (stops : turn state = .ok (.stop result)) :
    loop turn (rounds + 1) state = some (.ok result) := by
  rw [loop, stops]

theorem loop_unique {first second : Nat} {one two : Except ε ρ}
    (ends : loop turn first state = some one) (also : loop turn second state = some two) :
    one = two := by
  induction first generalizing second state with
  | zero => cases ends
  | succ first ih =>
      cases second with
      | zero => cases also
      | succ second =>
          rw [loop] at ends also
          split at ends
          · next failure goes =>
              rw [goes] at also
              exact Option.some.inj (ends.symm.trans also)
          · next result goes =>
              rw [goes] at also
              exact Option.some.inj (ends.symm.trans also)
          · next after goes =>
              rw [goes] at also
              exact ih ends also

/-- A loop ends when each further round uses up some of a measure. -/
theorem loop_ends (inv : σ → Prop) (measure : σ → Nat)
    (turns : ∀ state next, inv state → turn state = .ok (.again next) →
      inv next ∧ measure next < measure state) :
    ∀ rounds state, inv state → measure state < rounds → (loop turn rounds state).isSome := by
  intro rounds
  induction rounds with
  | zero => exact fun _ _ none_left => absurd none_left (Nat.not_lt_zero _)
  | succ rounds ih =>
      intro state holds enough
      rw [loop]
      split
      · rfl
      · rfl
      · next after goes =>
          obtain ⟨kept, less⟩ := turns state after holds goes
          exact ih after kept (by omega)

theorem length_le_of_nodup {values : List Nat} {bound : Nat} (distinct : values.Nodup)
    (below : ∀ value ∈ values, value < bound) : values.length ≤ bound := by
  have inside : values ⊆ List.range bound := fun value member =>
    List.mem_range.mpr (below value member)
  simpa using (distinct.subperm inside).length_le

end Tidebook.Library
