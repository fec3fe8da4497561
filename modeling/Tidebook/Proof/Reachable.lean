import Tidebook.Proof.EngineRefinement
import Tidebook.Proof.SpotExit

/-! # Reachable states

What a result about every run assumes of the state that it starts from, and that instructions
accepted from there keep it.
-/

namespace Tidebook.Proof
open Library Program

def Reachable (state : State) : Prop :=
  ∃ (genesis : Genesis) (events : List Event), (genesis.after events).state = state

namespace Reachable

variable {state after : State} (reachable : Reachable state)
include reachable

theorem invariant : Invariant state := by
  obtain ⟨genesis, events, rfl⟩ := reachable
  exact run_invariant genesis events

theorem solvent : Solvent state := by
  obtain ⟨genesis, events, rfl⟩ := reachable
  exact run_solvent genesis events

theorem entered : Entered state := by
  obtain ⟨genesis, events, rfl⟩ := reachable
  exact run_entered genesis events

theorem execute {instruction : Instruction} (done : execute state instruction = .ok after) :
    Reachable after := by
  obtain ⟨genesis, events, rfl⟩ := reachable
  have applied : Event.apply (genesis.after events).state (.instruction instruction) = .ok after :=
    done
  exact ⟨genesis, events ++ [.instruction instruction], after_applied applied⟩

end Reachable

end Tidebook.Proof
