import Tidebook.Library.Shelf
import Tidebook.Program.State

/-! # Saving neighbours

Handlers edit loaded copies of the neighbours of an order or a level and save each at its address.
On a sound shelf the copies are of distinct records, so saving them is relinking.
-/

namespace Tidebook.Proof
open Library Program

theorem map_key_none {α : Type} {account : Option (Account α)} {price : Option Nat}
    {file : Nat → Pubkey} (keys : account.map Account.key = price.map file) :
    account.isNone ↔ price = none := by
  cases account <;> cases price <;> simp_all

theorem saveOption_eq_modify {α : Type} {store : Store Pubkey α} {account : Option (Account α)}
    (loaded : ∀ value ∈ account, store.get value.key = some value.val) (change : α → α) :
    saveOption store (account.map (Account.map change)) =
      store.modify (account.map Account.key) change := by
  cases account with
  | none => rfl
  | some value =>
      rw [Option.map_some, Option.map_some, Store.modify_some (loaded value rfl)]
      rfl

theorem savePair_eq_modify {α : Type} (store : Store Pubkey α) (key : Pubkey)
    {first second : Option (Account α)} {written : Store Pubkey α}
    (same : ∀ other, other ≠ key → written.get other = store.get other)
    (hasFirst : ∀ value ∈ first, store.get value.key = some value.val)
    (hasSecond : ∀ value ∈ second, store.get value.key = some value.val)
    (firstAway : ∀ value ∈ first, value.key ≠ key) (secondAway : ∀ value ∈ second, value.key ≠ key)
    (apart : ∀ left ∈ first, ∀ right ∈ second, left.key ≠ right.key) (change also : α → α) :
    saveOption (saveOption written (first.map (Account.map change)))
        (second.map (Account.map also)) =
      (written.modify (first.map Account.key) change).modify (second.map Account.key) also := by
  rw [saveOption_eq_modify fun value member => ?_, saveOption_eq_modify fun value member => ?_]
  · rw [same _ (firstAway value member), hasFirst value member]
  · rw [saveOption_eq_modify fun left inside => ?_, Store.get_modify, amend_ne,
      same _ (secondAway value member), hasSecond value member]
    · intro found
      obtain ⟨left, inside, shared⟩ := Option.map_eq_some_iff.mp found
      exact apart left inside value member shared
    · rw [same _ (firstAway left inside), hasFirst left inside]

section Neighbours

variable {M ι O L : Type} [DecidableEq M] {shelf : Shelf M ι Nat Pubkey O L}
variable {prec : ι → Nat → Nat → Prop} {heads : M → ι → Option Nat} {orders : Store Pubkey O}
variable {levels : Store Pubkey L} (sound : shelf.Sound prec heads orders levels)

include sound

theorem save_unlink {key : Pubkey} {order : O} (stored : orders.get key = some order)
    (live : shelf.live order) {previous next : Option (Account O)}
    (isPrevious : (shelf.node order).link.prev = previous.map Account.key)
    (isNext : (shelf.node order).link.next = next.map Account.key)
    (hasPrevious : ∀ value ∈ previous, orders.get value.key = some value.val)
    (hasNext : ∀ value ∈ next, orders.get value.key = some value.val) (gone : O) :
    saveOption (saveOption (orders.set key gone)
        (previous.map (Account.map (shelf.setNext (next.map Account.key)))))
        (next.map (Account.map (shelf.setPrevious (previous.map Account.key)))) =
      shelf.unlink orders key order gone := by
  have before : ∀ value ∈ previous, (shelf.node order).link.prev = some value.key := by
    intro value member
    rw [isPrevious, member, Option.map_some]
  have after : ∀ value ∈ next, (shelf.node order).link.next = some value.key := by
    intro value member
    rw [isNext, member, Option.map_some]
  rw [savePair_eq_modify orders key (fun other => Store.get_set_ne _ _) hasPrevious hasNext,
    Shelf.unlink, Shelf.relink, isPrevious, isNext]
  · exact fun value member => (sound.previous stored live (before value member)).1
  · exact fun value member => (sound.following stored live (after value member)).1
  · intro left inside right member same
    refine (sound.previous stored live (before left inside)).2.1 ?_
    rw [after right member, same]

theorem save_relevel [∀ list, IsStrictOrder Nat (prec list)] {book : M} {list : ι} {price : Nat}
    {level : L} (found : levels.get (shelf.file book (list, price)) = some level)
    {better worse : Option (Account L)}
    (isBetter : better.map Account.key =
      (shelf.levelNode level).link.prev.map fun other => shelf.file book (list, other))
    (isWorse : worse.map Account.key =
      (shelf.levelNode level).link.next.map fun other => shelf.file book (list, other))
    (hasBetter : ∀ value ∈ better, levels.get value.key = some value.val)
    (hasWorse : ∀ value ∈ worse, levels.get value.key = some value.val) :
    saveOption (saveOption (levels.erase (shelf.file book (list, price)))
        (better.map (Account.map (shelf.setWorse (shelf.levelNode level).link.next))))
        (worse.map (Account.map (shelf.setBetter (shelf.levelNode level).link.prev))) =
      shelf.relevel book list (levels.erase (shelf.file book (list, price)))
        (shelf.levelNode level).link.prev (shelf.levelNode level).link.next
        (shelf.levelNode level).link.next (shelf.levelNode level).link.prev := by
  have above : ∀ value ∈ better, ∃ other, value.key = shelf.file book (list, other) ∧
      prec list other price := by
    intro value member
    rw [member, Option.map_some, eq_comm, Option.map_eq_some_iff] at isBetter
    obtain ⟨other, link, keyed⟩ := isBetter
    exact ⟨other, keyed.symm, (sound.better found link).1⟩
  have below : ∀ value ∈ worse, ∃ other, value.key = shelf.file book (list, other) ∧
      prec list price other := by
    intro value member
    rw [member, Option.map_some, eq_comm, Option.map_eq_some_iff] at isWorse
    obtain ⟨other, link, keyed⟩ := isWorse
    exact ⟨other, keyed.symm, (sound.worse found link).1⟩
  rw [savePair_eq_modify levels (shelf.file book (list, price)) ?_ hasBetter hasWorse,
    Shelf.relevel, isBetter, isWorse]
  · intro value member same
    obtain ⟨other, keyed, before⟩ := above value member
    obtain rfl := (Prod.ext_iff.mp (shelf.file_injective (keyed.symm.trans same)).2).2
    exact irrefl _ before
  · intro value member same
    obtain ⟨other, keyed, after⟩ := below value member
    obtain rfl := (Prod.ext_iff.mp (shelf.file_injective (keyed.symm.trans same)).2).2
    exact irrefl _ after
  · intro left inside right member same
    obtain ⟨other, keyed, before⟩ := above left inside
    obtain ⟨also, filed, after⟩ := below right member
    obtain rfl := (Prod.ext_iff.mp (shelf.file_injective ((keyed.symm.trans same).trans filed)).2).2
    exact asymm before after
  · intro other different
    rw [Store.get_erase, if_neg different]

omit sound in
theorem save_opened [∀ list, IsStrictOrder Nat (prec list)] {book : M} {list : ι} {price : Nat}
    (vacant : levels.get (shelf.file book (list, price)) = none)
    {better worse : Option (Account L)} {above below : Option Nat}
    (isBetter : better.map Account.key = above.map fun other => shelf.file book (list, other))
    (isWorse : worse.map Account.key = below.map fun other => shelf.file book (list, other))
    (hasBetter : ∀ value ∈ better, levels.get value.key = some value.val)
    (hasWorse : ∀ value ∈ worse, levels.get value.key = some value.val)
    (adjacent : Adjacent prec (shelf.book heads orders levels book) (list, price) above below)
    (level : L) :
    saveOption (saveOption (levels.set (shelf.file book (list, price)) level)
        (better.map (Account.map (shelf.setWorse (some price)))))
        (worse.map (Account.map (shelf.setBetter (some price)))) =
      shelf.relevel book list (levels.set (shelf.file book (list, price)) level) above below
        (some price) (some price) := by
  have old : ∀ {account : Account L}, levels.get account.key = some account.val →
      account.key ≠ shelf.file book (list, price) := by
    intro account present same
    rw [same, vacant] at present
    cases present
  rw [savePair_eq_modify levels (shelf.file book (list, price)) ?_ hasBetter hasWorse,
    Shelf.relevel, isBetter, isWorse]
  · exact fun value member => old (hasBetter value member)
  · exact fun value member => old (hasWorse value member)
  · intro left inside right member same
    rw [inside, Option.map_some, eq_comm, Option.map_eq_some_iff] at isBetter
    rw [member, Option.map_some, eq_comm, Option.map_eq_some_iff] at isWorse
    obtain ⟨other, link, keyed⟩ := isBetter
    obtain ⟨also, linked, filed⟩ := isWorse
    obtain rfl := (Prod.ext_iff.mp
      (shelf.file_injective ((keyed.trans same).trans filed.symm)).2).2
    exact asymm (adjacent.above other link).1 (adjacent.below other linked)
  · exact fun other different => Store.get_set_ne _ _ different

variable (shelf) in
omit [DecidableEq M] sound in
theorem save_appended {key tail : Pubkey} {previous : O} (fresh : orders.get key = none)
    (stored : orders.get tail = some previous) (order : O) :
    (orders.set key order).set tail (shelf.setNext (some key) previous) =
      shelf.relink (orders.set key order) (some tail) none (some key) none := by
  have kept : (orders.set key order).get tail = some previous := by
    rw [Store.get_set_ne _ _ fun same => ?_, stored]
    rw [same, fresh] at stored
    cases stored
  rw [Shelf.relink, Store.modify_some kept, Store.modify_none]

end Neighbours
end Tidebook.Proof
