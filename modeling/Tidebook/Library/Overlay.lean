import Tidebook.Library.Store

/-! # Stores seen through an overlay

An overlay remembers what was read from a base store and what was simulated on top of it. It shows a
later store when every read through it answers as that store would.
-/

namespace Tidebook.Library

variable {K V : Type} [DecidableEq K]

def Shows (overlay : Store K (Option V)) (base store : Store K V) : Prop :=
  ∀ key, (overlay.get key).getD (base.get key) = store.get key

namespace Shows

variable {overlay : Store K (Option V)} {base store : Store K V} {key : K} {value : V}

theorem empty (base : Store K V) : Shows .empty base base := fun _ => rfl

variable (shows_ : Shows overlay base store)
include shows_

theorem hit {found : Option V} (known : overlay.get key = some found) : found = store.get key := by
  rw [← shows_ key, known, Option.getD_some]

theorem miss (unknown : overlay.get key = none) : base.get key = store.get key := by
  rw [← shows_ key, unknown, Option.getD_none]

theorem reread (key : K) : Shows (overlay.set key (store.get key)) base store := by
  intro other
  rw [Store.get_set]
  split
  · next same => rw [Option.getD_some, same]
  · exact shows_ other

theorem write (key : K) (value : V) :
    Shows (overlay.set key (some value)) base (store.set key value) := by
  intro other
  rw [Store.get_set, Store.get_set]
  split
  · rfl
  · exact shows_ other

theorem remove (key : K) : Shows (overlay.set key none) base (store.erase key) := by
  intro other
  rw [Store.get_set, Store.get_erase]
  split
  · rfl
  · exact shows_ other

end Shows
end Tidebook.Library
