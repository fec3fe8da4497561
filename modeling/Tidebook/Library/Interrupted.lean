import Mathlib.Data.Option.Basic

/-! # Interrupted programs

Programs over a state that outlives them. Before each effect a moment passes in which the world may
move on and the program may be stopped; when no moment is left the program is stopped for good. What
a program guarantees is therefore two assertions, one for its end and one for every interruption.
-/

namespace Tidebook.Library

variable {σ μ α β : Type}

structure Outcome (σ μ α : Type) where
  result : Option α
  state : σ
  left : List μ

def Program (σ μ α : Type) : Type := σ → List μ → Outcome σ μ α

namespace Program

def bind (program : Program σ μ α) (next : α → Program σ μ β) : Program σ μ β :=
  fun state moments =>
    match program state moments with
    | ⟨some value, after, left⟩ => next value after left
    | ⟨none, after, left⟩ => ⟨none, after, left⟩

instance : Monad (Program σ μ) where
  pure value := fun state moments => ⟨some value, state, moments⟩
  bind := bind

def abort : Program σ μ α := fun state moments => ⟨none, state, moments⟩

def effect (act : μ → σ → Option α × σ) : Program σ μ α
  | state, [] => ⟨none, state, []⟩
  | state, moment :: left => ⟨(act moment state).1, (act moment state).2, left⟩

/-! ## Assertions -/

def Ends (after : α → σ → Prop) (stopped : σ → Prop) : Option α → σ → Prop
  | some value, state => after value state
  | none, state => stopped state

/-- From a state with the first assertion the program ends with the second one, and wherever it
stops short of that the third one holds. -/
def Ensures (before : σ → Prop) (program : Program σ μ α) (after : α → σ → Prop)
    (stopped : σ → Prop) : Prop :=
  ∀ state moments, before state →
    Ends after stopped (program state moments).result (program state moments).state

section
variable {before : σ → Prop} {program : Program σ μ α} {after : α → σ → Prop}
  {stopped : σ → Prop}

theorem ensures_pure {value : α} (holds : ∀ state, before state → after value state) :
    Ensures before (pure value : Program σ μ α) after stopped :=
  fun state _ start => holds state start

theorem ensures_abort (holds : ∀ state, before state → stopped state) :
    Ensures before (abort : Program σ μ α) after stopped :=
  fun state _ start => holds state start

theorem Ensures.bind {first : Program σ μ β} {next : β → Program σ μ α} (middle : β → σ → Prop)
    (starts : Ensures before first middle stopped)
    (goes : ∀ value, Ensures (middle value) (next value) after stopped) :
    Ensures before (first >>= next) after stopped := by
  intro state moments start
  have reached := starts state moments start
  change Ends after stopped (Program.bind first next state moments).result
    (Program.bind first next state moments).state
  unfold Program.bind
  cases done : first state moments with
  | mk result later left =>
      rw [done] at reached
      cases result with
      | none => exact reached
      | some value => exact goes value later left reached

theorem ensures_of_fact {fact : Prop} (ensured : fact → Ensures before program after stopped) :
    Ensures (fun state => fact ∧ before state) program after stopped :=
  fun state moments start => ensured start.1 state moments start.2

theorem Ensures.keeps {kept : σ → Prop} (ensured : Ensures before program (fun _ => kept) kept)
    (state : σ) (moments : List μ) (start : before state) : kept (program state moments).state := by
  have reached := ensured state moments start
  cases done : (program state moments).result with
  | none => rwa [done] at reached
  | some value => rwa [done] at reached

theorem Ensures.weaken {weaker : σ → Prop} {stronger : α → σ → Prop}
    (ensured : Ensures before program after stopped) (starts : ∀ state, weaker state → before state)
    (ends : ∀ value state, after value state → stronger value state) :
    Ensures weaker program stronger stopped := by
  intro state moments start
  have reached := ensured state moments (starts state start)
  cases done : (program state moments).result with
  | none => rwa [done] at reached
  | some value =>
      rw [done] at reached
      exact ends _ _ reached

theorem ensures_effect {act : μ → σ → Option α × σ} (idle : ∀ state, before state → stopped state)
    (acts : ∀ moment state, before state →
      Ends after stopped (act moment state).1 (act moment state).2) :
    Ensures before (effect act) after stopped := by
  intro state moments start
  cases moments with
  | nil => exact idle state start
  | cons moment left => exact acts moment state start

end
end Program
end Tidebook.Library
