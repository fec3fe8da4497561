import Tidebook.Library.Linked
import Tidebook.Library.Store

/-! # Views of a store

A view reads a store as a partial function: through an injective filing of the keys it concerns,
or through a projection that hides the records it does not. Writes become `Function.update`, and
rewriting one record in place becomes `amend`.
-/

namespace Tidebook.Library

variable {A K V N : Type*} [DecidableEq A] [DecidableEq K]

namespace Store

/-- Rewrites the record under an optional key, and nothing when there is none. -/
def modify (store : Store K V) (key : Option K) (change : V → V) : Store K V :=
  match key with
  | none => store
  | some key => match store.get key with
      | none => store
      | some value => store.set key (change value)

@[simp] theorem modify_none (store : Store K V) (change : V → V) :
    store.modify none change = store := rfl

theorem modify_some {store : Store K V} {key : K} {value : V} (present : store.get key = some value)
    (change : V → V) : store.modify (some key) change = store.set key (change value) := by
  simp [modify, present]

theorem get_modify (store : Store K V) (key : Option K) (change : V → V) (other : K) :
    (store.modify key change).get other = amend store.get key change other := by
  cases key with
  | none => simp
  | some key =>
      cases present : store.get key with
      | none =>
          by_cases same : key = other
          · subst same
            simp [modify, amend, present]
          · simp [modify, amend, present, same]
      | some value =>
          rw [modify_some present, get_set]
          by_cases same : other = key
          · subst same
            simp [amend, present]
          · simp [amend, same, Ne.symm same]

theorem total_modify {f : K → V → Nat} {store : Store K V} {key : Option K} {change : V → V}
    (blind : ∀ key value, f key (change value) = f key value) :
    total f (store.modify key change) = total f store := by
  cases key with
  | none => rfl
  | some key =>
      cases present : store.get key with
      | none => simp [modify, present]
      | some value =>
          have changed := total_set_old (f := f) present (change value)
          rw [modify_some present]
          rw [blind] at changed
          omega

theorem Keyed.modify {identity : V → K} {store : Store K V} (keyed : Keyed identity store)
    {key : Option K} {change : V → V} (same : ∀ value, identity (change value) = identity value) :
    Keyed identity (store.modify key change) := by
  cases key with
  | none => exact keyed
  | some key =>
      cases present : store.get key with
      | none => simpa [Store.modify, present] using keyed
      | some value =>
          rw [modify_some present]
          exact keyed.set ((keyed key value present).trans (same value).symm)

/-! ## Filed records -/

def filed (store : Store K V) (file : A → K) (node : V → N) : A → Option N :=
  fun place => (store.get (file place)).map node

section Filed

variable {store : Store K V} {file : A → K} {node : V → N}

theorem filed_set (injective : Function.Injective file) (place : A) (value : V) :
    (store.set (file place) value).filed file node =
      Function.update (store.filed file node) place (some (node value)) := by
  funext other
  by_cases same : other = place
  · subst same
    simp [filed]
  · have apart : file other ≠ file place := fun found => same (injective found)
    simp [filed, get_set_ne _ _ apart, Function.update_of_ne same]

theorem filed_erase (injective : Function.Injective file) (place : A) :
    (store.erase (file place)).filed file node =
      Function.update (store.filed file node) place none := by
  funext other
  by_cases same : other = place
  · subst same
    simp [filed]
  · have apart : file other ≠ file place := fun found => same (injective found)
    simp [filed, get_erase, apart, Function.update_of_ne same]

theorem filed_modify (injective : Function.Injective file) {place : Option A} {change : V → V}
    {image : N → N} (commute : ∀ value, node (change value) = image (node value)) :
    (store.modify (place.map file) change).filed file node =
      amend (store.filed file node) place image := by
  funext other
  have keys : place.map file = some (file other) ↔ place = some other := by
    cases place with
    | none => simp
    | some place => simp [injective.eq_iff]
  simp only [filed, get_modify, amend, keys]
  split
  · cases store.get (file other) <;> simp [commute]
  · rfl

omit [DecidableEq A] in
theorem filed_set_ne {key : K} (foreign : ∀ place, file place ≠ key) (value : V) :
    (store.set key value).filed file node = store.filed file node := by
  funext place
  simp [filed, get_set_ne _ _ (foreign place)]

omit [DecidableEq A] in
theorem filed_erase_ne {key : K} (foreign : ∀ place, file place ≠ key) :
    (store.erase key).filed file node = store.filed file node := by
  funext place
  simp [filed, get_erase, foreign place]

omit [DecidableEq A] in
theorem filed_modify_ne {key : Option K} (foreign : ∀ place, key ≠ some (file place))
    (change : V → V) : (store.modify key change).filed file node = store.filed file node := by
  funext place
  simp only [filed, get_modify, amend_ne _ (foreign place)]

end Filed

/-! ## Projected records -/

def project (store : Store K V) (node : V → Option N) : K → Option N :=
  fun key => (store.get key).bind node

section Project

variable {store : Store K V} {node : V → Option N}

theorem project_set (key : K) (value : V) :
    (store.set key value).project node =
      Function.update (store.project node) key (node value) := by
  funext other
  by_cases same : other = key
  · subst same
    simp [project]
  · simp [project, get_set_ne _ _ same, Function.update_of_ne same]

theorem project_set_same {key : K} {value : V} (same : store.project node key = node value) :
    (store.set key value).project node = store.project node := by
  rw [project_set, ← same, Function.update_eq_self]

theorem project_modify {key : Option K} {change : V → V} {image : N → N}
    (commute : ∀ value, node (change value) = (node value).map image) :
    (store.modify key change).project node = amend (store.project node) key image := by
  funext other
  simp only [project, get_modify, amend]
  split
  · cases store.get other <;> simp [commute]
  · rfl

end Project
end Store

theorem amend_absent {records : A → Option N} {key : Option A} {change : N → N}
    (absent : ∀ found ∈ key, records found = none) : amend records key change = records := by
  funext other
  simp only [amend]
  split
  · next same => rw [absent other same, Option.map_none]
  · rfl

theorem amend_comp {file : A → K} (injective : Function.Injective file)
    (records : K → Option N) (place : Option A) (change : N → N) :
    amend records (place.map file) change ∘ file = amend (records ∘ file) place change := by
  funext other
  have keys : place.map file = some (file other) ↔ place = some other := by
    cases place with
    | none => simp
    | some place => simp [injective.eq_iff]
  simp only [Function.comp_apply, amend, keys]

end Tidebook.Library
