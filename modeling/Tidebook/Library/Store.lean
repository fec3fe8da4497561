import Mathlib.Data.List.AList
import Mathlib.Algebra.BigOperators.Group.List.Basic
import Mathlib.Algebra.Order.BigOperators.Group.List
import Mathlib.Algebra.GroupWithZero.Nat
import Mathlib.Algebra.Order.Group.Nat

/-! # Finite stores

A finite map from keys to records, with the sum of a measure over all stored records. Every
bucket sum of a ledger is a `total`, so one write changes it by the difference at one key.
-/

namespace Tidebook.Library

variable {K V W : Type*} [DecidableEq K]

structure Store (K V : Type*) [DecidableEq K] where
  entries : AList (fun _ : K => V)

namespace Store

def empty : Store K V := ⟨∅⟩

def get (store : Store K V) (key : K) : Option V := store.entries.lookup key

def set (store : Store K V) (key : K) (value : V) : Store K V :=
  ⟨store.entries.insert key value⟩

def erase (store : Store K V) (key : K) : Store K V := ⟨store.entries.erase key⟩

def total (measure : K → V → Nat) (store : Store K V) : Nat :=
  (store.entries.entries.map fun entry => measure entry.1 entry.2).sum

@[simp] theorem get_empty (key : K) : (empty : Store K V).get key = none := rfl

@[simp] theorem get_set_self (store : Store K V) (key : K) (value : V) :
    (store.set key value).get key = some value := AList.lookup_insert _

theorem get_set_ne (store : Store K V) {key other : K} (value : V) (different : other ≠ key) :
    (store.set key value).get other = store.get other := AList.lookup_insert_ne different

theorem get_set (store : Store K V) (key other : K) (value : V) :
    (store.set key value).get other = if other = key then some value else store.get other := by
  split
  · next same => rw [same, get_set_self]
  · next different => exact get_set_ne store value different

theorem set_ne_none {store : Store K V} {key other : K} {value : V}
    (known : store.get other ≠ none) : (store.set key value).get other ≠ none := by
  rw [get_set]
  split
  · simp
  · exact known

@[simp] theorem get_erase_self (store : Store K V) (key : K) :
    (store.erase key).get key = none := AList.lookup_erase _ _

theorem get_erase (store : Store K V) (key other : K) :
    (store.erase key).get other = if other = key then none else store.get other := by
  split
  · next same => rw [same, get_erase_self]
  · next different => exact AList.lookup_erase_ne different

theorem mem_entries {store : Store K V} {key : K} {value : V} :
    store.get key = some value ↔ ⟨key, value⟩ ∈ store.entries.entries := AList.mem_lookup_iff

/-! ## Totals -/

variable {f g : K → V → Nat}

@[simp] theorem total_empty : total f (empty : Store K V) = 0 := rfl

private theorem total_kerase (f : K → V → Nat) (key : K) :
    ∀ entries : List (Sigma fun _ : K => V),
      ((entries.kerase key).map fun entry => f entry.1 entry.2).sum +
          (entries.dlookup key).elim 0 (f key) =
        (entries.map fun entry => f entry.1 entry.2).sum
  | [] => by simp
  | ⟨head, value⟩ :: rest => by
      by_cases same : key = head
      · subst same
        have dropped : (⟨key, value⟩ :: rest : List (Sigma fun _ : K => V)).kerase key = rest :=
          List.kerase_cons_eq rfl
        have found : (⟨key, value⟩ :: rest : List (Sigma fun _ : K => V)).dlookup key =
          some value := List.dlookup_cons_eq _ _ _
        rw [dropped, found, List.map_cons, List.sum_cons]
        exact Nat.add_comm _ _
      · have inner := total_kerase f key rest
        have kept : (⟨head, value⟩ :: rest : List (Sigma fun _ : K => V)).kerase key =
          ⟨head, value⟩ :: rest.kerase key := List.kerase_cons_ne same
        have skipped : (⟨head, value⟩ :: rest : List (Sigma fun _ : K => V)).dlookup key =
          rest.dlookup key := List.dlookup_cons_ne _ _ same
        rw [kept, skipped, List.map_cons, List.sum_cons, List.map_cons, List.sum_cons]
        omega

theorem total_erase (store : Store K V) (key : K) :
    total f (store.erase key) + (store.get key).elim 0 (f key) =
      total f store :=
  total_kerase f key store.entries.entries

theorem total_set (store : Store K V) (key : K) (value : V) :
    total f (store.set key value) + (store.get key).elim 0 (f key) =
      total f store + f key value := by
  have erased := total_erase (f := f) store key
  have inserted : total f (store.set key value) =
      f key value + total f (store.erase key) := by
    simp only [total, set, erase, AList.entries_insert, List.map_cons, List.sum_cons]
    rfl
  omega

theorem total_set_new {store : Store K V} {key : K} (fresh : store.get key = none) (value : V) :
    total f (store.set key value) = total f store + f key value := by
  simpa [fresh] using total_set (f := f) store key value

theorem total_set_old {store : Store K V} {key : K} {old : V} (present : store.get key = some old)
    (value : V) :
    total f (store.set key value) + f key old =
      total f store + f key value := by
  simpa [present] using total_set (f := f) store key value

theorem total_erase_old {store : Store K V} {key : K} {old : V}
    (present : store.get key = some old) :
    total f (store.erase key) + f key old = total f store := by
  simpa [present] using total_erase (f := f) store key

theorem le_total {store : Store K V} {key : K} {value : V} (present : store.get key = some value) :
    f key value ≤ total f store := by
  have erased := total_erase_old (f := f) present
  omega

theorem pair_le_total {store : Store K V} {first second : K} {left right : V}
    (hasLeft : store.get first = some left) (hasRight : store.get second = some right)
    (different : first ≠ second) :
    f first left + f second right ≤ total f store := by
  have erased := total_erase_old (f := f) hasLeft
  have stays : (store.erase first).get second = some right := by
    rw [get_erase, if_neg different.symm, hasRight]
  have rest := le_total (f := f) stays
  omega

theorem total_congr {store : Store K V}
    (same : ∀ key value, store.get key = some value → f key value = g key value) :
    total f store = total g store := by
  refine congrArg List.sum (List.map_congr_left fun entry member => ?_)
  exact same entry.1 entry.2 (mem_entries.mpr member)

theorem total_le_total {store : Store K V}
    (bound : ∀ key value, store.get key = some value → f key value ≤ g key value) :
    total f store ≤ total g store := by
  refine List.sum_le_sum fun entry member => ?_
  exact bound entry.1 entry.2 (mem_entries.mpr member)

theorem total_eq_zero {store : Store K V} :
    total f store = 0 ↔ ∀ key value, store.get key = some value → f key value = 0 := by
  constructor
  · intro zero key value present
    have bound := le_total (f := f) present
    omega
  · intro zeros
    refine List.sum_eq_zero fun amount member => ?_
    obtain ⟨entry, stored, rfl⟩ := List.mem_map.mp member
    exact zeros entry.1 entry.2 (mem_entries.mpr stored)

/-- Every record is filed under the key its own fields determine. -/
def Keyed (identity : V → K) (store : Store K V) : Prop :=
  ∀ key value, store.get key = some value → key = identity value

theorem Keyed.empty (identity : V → K) : Keyed identity (empty : Store K V) :=
  fun _ _ present => by simp at present

theorem Keyed.set {identity : V → K} {store : Store K V} (keyed : Keyed identity store) {key : K}
    {value : V} (filed : key = identity value) : Keyed identity (store.set key value) := by
  intro other found present
  rw [get_set] at present
  split at present
  · next same => cases present; exact same.trans filed
  · exact keyed other found present

theorem Keyed.erase {identity : V → K} {store : Store K V} (keyed : Keyed identity store)
    (key : K) : Keyed identity (store.erase key) := by
  intro other found present
  rw [get_erase] at present
  split at present
  · cases present
  · exact keyed other found present

end Store
end Tidebook.Library
