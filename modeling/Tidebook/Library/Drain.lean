import Tidebook.Library.Checked

/-! # Runs that use something up

Where every state in which something is left allows a step that leaves less, some run leaves
nothing.
-/

namespace Tidebook.Library

variable {σ α ε : Type} {step : σ → α → Except ε σ} {first middle last : σ} {actions more : List α}

theorem foldlM_append_ok (one : actions.foldlM step first = .ok middle)
    (two : more.foldlM step middle = .ok last) : (actions ++ more).foldlM step first = .ok last := by
  rw [List.foldlM_append, one]
  exact two

theorem foldlM_singleton_ok {action : α} (done : step first action = .ok last) :
    [action].foldlM step first = .ok last := by
  rw [List.foldlM_cons, done]
  rfl

/-- Steps of an admissible kind that each leave less use everything up. -/
theorem drain {I : σ → Prop} {admits : α → Prop} (left : σ → Nat)
    (progress : ∀ state, I state → left state ≠ 0 → ∃ action next, admits action ∧
      step state action = .ok next ∧ I next ∧ left next < left state) (start : I first) :
    ∃ (actions : List α) (last : σ), (∀ action ∈ actions, admits action) ∧
      actions.foldlM step first = .ok last ∧ I last ∧ left last = 0 := by
  induction bound : left first using Nat.strongRecOn generalizing first with
  | _ remaining ih =>
      by_cases empty : left first = 0
      · exact ⟨[], first, by simp, rfl, start, empty⟩
      · obtain ⟨action, next, fine, moved, holds, less⟩ := progress first start empty
        obtain ⟨rest, last, all, done, kept, none_left⟩ := ih (left next) (bound ▸ less) holds rfl
        refine ⟨action :: rest, last, ?_, foldlM_append_ok (foldlM_singleton_ok moved) done, kept,
          none_left⟩
        simpa using ⟨fine, all⟩

end Tidebook.Library
