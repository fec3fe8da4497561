import Tidebook.Library.Store

/-! # Ledgers

A ledger files one account for each holder, with a free and a locked amount in each bucket. `Move`
says what one write does to an account; `Edit` what a run of writes does to the whole ledger: the
locks each holder lost and gained, and what left and entered each pool.
-/

namespace Tidebook.Library

structure Ledger (K V I P β : Type*) where
  file : I → K
  holder : V → I
  pool : I → P
  free : V → β → Nat
  locked : V → β → Nat
  file_injective : Function.Injective file

namespace Ledger

variable {K V I P β : Type*}

def single {A : Type*} [DecidableEq A] (index : A) (amount : β → Nat) (other : A) (bucket : β) :
    Nat :=
  if other = index then amount bucket else 0

@[simp] theorem single_zero {A : Type*} [DecidableEq A] (index : A) :
    single index (0 : β → Nat) = 0 := by
  funext other bucket
  simp [single]

variable [DecidableEq K] [DecidableEq P] (ledger : Ledger K V I P β)

def held (pool : P) (bucket : β) (_ : K) (account : V) : Nat :=
  if ledger.pool (ledger.holder account) = pool then
    ledger.free account bucket + ledger.locked account bucket else 0

omit [DecidableEq P] in
def lockedOf (accounts : Store K V) (holder : I) (bucket : β) : Nat :=
  ((accounts.get (ledger.file holder)).map fun account => ledger.locked account bucket).getD 0

omit [DecidableEq P] in
def Filed (accounts : Store K V) : Prop :=
  accounts.Keyed fun account => ledger.file (ledger.holder account)

structure Move (before after : V) (lost gained out into : β → Nat) : Prop where
  holder : ledger.holder after = ledger.holder before
  locked : ∀ bucket, ledger.locked after bucket + lost bucket =
    ledger.locked before bucket + gained bucket
  held : ∀ bucket, ledger.free after bucket + ledger.locked after bucket + out bucket =
    ledger.free before bucket + ledger.locked before bucket + into bucket

omit [DecidableEq K] [DecidableEq P] in
theorem Move.trans {ledger : Ledger K V I P β} {first second third : V}
    {lost gained out into lost' gained' out' into' : β → Nat}
    (one : ledger.Move first second lost gained out into)
    (two : ledger.Move second third lost' gained' out' into') :
    ledger.Move first third (lost + lost') (gained + gained') (out + out') (into + into') where
  holder := two.holder.trans one.holder
  locked bucket := by
    have before := one.locked bucket
    have later := two.locked bucket
    simp only [Pi.add_apply]
    omega
  held bucket := by
    have before := one.held bucket
    have later := two.held bucket
    simp only [Pi.add_apply]
    omega

omit [DecidableEq K] [DecidableEq P] in
theorem Move.refl (ledger : Ledger K V I P β) (account : V) : ledger.Move account account 0 0 0 0 :=
  ⟨rfl, fun _ => rfl, fun _ => rfl⟩

structure Edit (before after : Store K V) (lost gained : I → β → Nat) (out into : P → β → Nat) :
    Prop where
  holders : ∀ key account, after.get key = some account →
    ∃ old, before.get key = some old ∧ ledger.holder old = ledger.holder account
  locked : ∀ holder bucket, ledger.lockedOf after holder bucket + lost holder bucket =
    ledger.lockedOf before holder bucket + gained holder bucket
  held : ∀ pool bucket, after.total (ledger.held pool bucket) + out pool bucket =
    before.total (ledger.held pool bucket) + into pool bucket

variable {ledger} {accounts middle after : Store K V}

omit [DecidableEq P] in
theorem lockedOf_stored {holder : I} {account : V}
    (stored : accounts.get (ledger.file holder) = some account) (bucket : β) :
    ledger.lockedOf accounts holder bucket = ledger.locked account bucket := by
  simp [lockedOf, stored]

theorem held_le {key : K} {account : V} (stored : accounts.get key = some account) (bucket : β) :
    ledger.free account bucket + ledger.locked account bucket ≤
      accounts.total (ledger.held (ledger.pool (ledger.holder account)) bucket) := by
  have bound := Store.le_total
    (f := ledger.held (ledger.pool (ledger.holder account)) bucket) stored
  rwa [held, if_pos rfl] at bound

theorem pair_held_le {first second : K} {left right : V} (hasLeft : accounts.get first = some left)
    (hasRight : accounts.get second = some right) (different : first ≠ second)
    (same : ledger.pool (ledger.holder left) = ledger.pool (ledger.holder right)) (bucket : β) :
    ledger.free left bucket + ledger.locked left bucket +
        (ledger.free right bucket + ledger.locked right bucket) ≤
      accounts.total (ledger.held (ledger.pool (ledger.holder left)) bucket) := by
  have bound := Store.pair_le_total
    (f := ledger.held (ledger.pool (ledger.holder left)) bucket) hasLeft hasRight different
  rwa [held, if_pos rfl, held, if_pos same.symm] at bound

namespace Edit

theorem refl (accounts : Store K V) : ledger.Edit accounts accounts 0 0 0 0 where
  holders _ account stored := ⟨account, stored, rfl⟩
  locked _ _ := rfl
  held _ _ := rfl

theorem filed {lost gained : I → β → Nat} {out into : P → β → Nat}
    (edit : ledger.Edit accounts after lost gained out into) (keyed : ledger.Filed accounts) :
    ledger.Filed after := by
  intro key account stored
  obtain ⟨old, present, same⟩ := edit.holders key account stored
  exact (keyed key old present).trans (congrArg ledger.file same)

theorem trans {lost gained lost' gained' : I → β → Nat} {out into out' into' : P → β → Nat}
    (first : ledger.Edit accounts middle lost gained out into)
    (second : ledger.Edit middle after lost' gained' out' into') :
    ledger.Edit accounts after (lost + lost') (gained + gained') (out + out') (into + into') where
  holders key account stored := by
    obtain ⟨between, present, same⟩ := second.holders key account stored
    obtain ⟨old, known, also⟩ := first.holders key between present
    exact ⟨old, known, also.trans same⟩
  locked holder bucket := by
    have before := first.locked holder bucket
    have later := second.locked holder bucket
    simp only [Pi.add_apply]
    omega
  held pool bucket := by
    have before := first.held pool bucket
    have later := second.held pool bucket
    simp only [Pi.add_apply]
    omega

theorem rebalance {lost gained : I → β → Nat} {out into out' into' : P → β → Nat}
    (edit : ledger.Edit accounts after lost gained out into)
    (same : ∀ pool bucket, out pool bucket + into' pool bucket =
      out' pool bucket + into pool bucket) :
    ledger.Edit accounts after lost gained out' into' where
  holders := edit.holders
  locked := edit.locked
  held pool bucket := by
    have before := edit.held pool bucket
    have net := same pool bucket
    omega

theorem write [DecidableEq I] {holder : I} {old new : V} {lost gained out into : β → Nat}
    (keyed : ledger.Filed accounts) (stored : accounts.get (ledger.file holder) = some old)
    (move : ledger.Move old new lost gained out into) :
    ledger.Edit accounts (accounts.set (ledger.file holder) new) (single holder lost)
      (single holder gained) (single (ledger.pool holder) out)
      (single (ledger.pool holder) into) where
  holders key account present := by
    rw [Store.get_set] at present
    split at present
    · next same =>
        cases present
        exact ⟨old, same ▸ stored, move.holder.symm⟩
    · exact ⟨account, present, rfl⟩
  locked other bucket := by
    have moved := move.locked bucket
    simp only [lockedOf, single, Store.get_set, ledger.file_injective.eq_iff]
    split
    · next same =>
        rw [same, stored]
        simpa using moved
    · rfl
  held pool bucket := by
    have changed := Store.total_set_old (f := ledger.held pool bucket) stored new
    have moved := move.held bucket
    have own := ledger.file_injective (keyed _ _ stored)
    simp only [Ledger.held, move.holder, ← own] at changed
    simp only [single, eq_comm (a := pool)]
    split at changed
    · next same =>
        rw [if_pos same, if_pos same]
        omega
    · next other =>
        rw [if_neg other, if_neg other]
        exact changed

theorem opened {holder : I} (account : V) (fresh : accounts.get (ledger.file holder) = none)
    (free : ∀ bucket, ledger.free account bucket = 0)
    (locked : ∀ bucket, ledger.locked account bucket = 0) :
    (∀ other bucket, ledger.lockedOf (accounts.set (ledger.file holder) account) other bucket =
        ledger.lockedOf accounts other bucket) ∧
      ∀ pool bucket, (accounts.set (ledger.file holder) account).total (ledger.held pool bucket) =
        accounts.total (ledger.held pool bucket) := by
  constructor
  · intro other bucket
    simp only [lockedOf, Store.get_set]
    split
    · next same =>
        rw [same, fresh]
        simp [locked]
    · rfl
  · intro pool bucket
    rw [Store.total_set_new fresh]
    simp [Ledger.held, free, locked]

end Edit
end Ledger
end Tidebook.Library
