import Mathlib.Logic.Basic

/-! # Checked computations

Rules for computations that stop at the first failed check. Each is an equivalence, so the same
rule takes a successful run apart and puts one together.
-/

namespace Tidebook.Library

universe u

variable {ε : Type*} {α β : Type u}

def require (condition : Prop) [Decidable condition] (failure : ε) : Except ε Unit :=
  if condition then .ok () else .error failure

def okOr (value : Option α) (failure : ε) : Except ε α :=
  match value with
  | some value => .ok value
  | none => .error failure

theorem bind_eq_ok {first : Except ε α} {next : α → Except ε β} {result : β} :
    (first >>= next) = .ok result ↔ ∃ value, first = .ok value ∧ next value = .ok result := by
  cases first with
  | ok value =>
      refine ⟨fun done => ⟨value, rfl, done⟩, fun ⟨_, same, done⟩ => ?_⟩
      cases same
      exact done
  | error failure =>
      refine ⟨fun failed => ?_, fun ⟨_, same, _⟩ => ?_⟩
      · cases failed
      · cases same

@[simp] theorem pure_eq_ok {value result : α} :
    (pure value : Except ε α) = .ok result ↔ value = result :=
  ⟨fun same => Except.ok.inj same, congrArg Except.ok⟩

@[simp] theorem require_eq_ok {condition : Prop} [Decidable condition] {failure : ε} {done : Unit} :
    require condition failure = .ok done ↔ condition := by
  unfold require
  split <;> simp_all

@[simp] theorem okOr_eq_ok {value : Option α} {failure : ε} {result : α} :
    okOr value failure = .ok result ↔ value = some result := by
  cases value <;> simp [okOr]

@[simp] theorem throw_ne_ok {failure : ε} {result : α} :
    (throw failure : Except ε α) = .ok result ↔ False := by
  simp [throw, throwThe, MonadExceptOf.throw]

theorem ite_eq_ok {condition : Prop} [Decidable condition] {left right : Except ε α} {result : α} :
    (if condition then left else right) = .ok result ↔
      condition ∧ left = .ok result ∨ ¬condition ∧ right = .ok result := by
  split <;> simp_all

/-! ## Failures -/

theorem bind_eq_error {first : Except ε α} {next : α → Except ε β} {failure : ε} :
    (first >>= next) = .error failure ↔
      first = .error failure ∨ ∃ value, first = .ok value ∧ next value = .error failure := by
  cases first with
  | ok value =>
      refine ⟨fun failed => .inr ⟨value, rfl, failed⟩, ?_⟩
      rintro (failed | ⟨_, same, failed⟩)
      · cases failed
      · cases same
        exact failed
  | error cause =>
      refine ⟨fun failed => .inl (congrArg _ (Except.error.inj failed)), ?_⟩
      rintro (failed | ⟨_, same, _⟩)
      · cases failed
        rfl
      · cases same

@[simp] theorem pure_ne_error {value : α} {failure : ε} :
    (pure value : Except ε α) = .error failure ↔ False := by
  simp [pure, Except.pure]

@[simp] theorem require_eq_error {condition : Prop} [Decidable condition] {cause failure : ε} :
    require condition cause = .error failure ↔ ¬condition ∧ cause = failure := by
  unfold require
  split <;> simp_all

@[simp] theorem okOr_eq_error {value : Option α} {cause failure : ε} :
    okOr value cause = .error failure ↔ value = none ∧ cause = failure := by
  cases value <;> simp [okOr]

@[simp] theorem throw_eq_error {cause failure : ε} :
    (throw cause : Except ε α) = .error failure ↔ cause = failure := by
  simp [throw, throwThe, MonadExceptOf.throw]

end Tidebook.Library
