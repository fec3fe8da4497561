import Tidebook.Program.SharedCustody
import Tidebook.Proof.PredictionBook

/-! # The shelf of the shared books and the ledger of asset balances -/

namespace Tidebook.Proof
open Library Program

abbrev SharedList := SharedOutcome × OrderSide

def sharedShelf : Shelf Pubkey SharedList Nat Pubkey SharedOrder SharedPriceLevel where
  file book place := .sharedLevel book place.1.1 place.1.2 place.2
  home order := order.book
  live order := order.status = .opened
  node order := ⟨(order.outcome, order.side), order.price, order.orderId, order.remainingQuantity,
    ⟨order.previousOrder, order.nextOrder⟩⟩
  levelNode level := ⟨⟨level.betterPrice, level.worsePrice⟩,
    ⟨level.firstOrder, level.lastOrder, level.totalRemainingQuantity, level.orderCount⟩⟩
  setNext := SharedOrder.setNext
  setPrevious := SharedOrder.setPrevious
  setWorse := SharedPriceLevel.setWorse
  setBetter := SharedPriceLevel.setBetter
  file_injective := by
    rintro book ⟨⟨outcome, side⟩, price⟩ other ⟨⟨answer, found⟩, cost⟩ same
    obtain ⟨rfl, rfl, rfl, rfl⟩ := Pubkey.sharedLevel.inj same
    exact ⟨rfl, rfl⟩
  home_setNext _ _ := rfl
  home_setPrevious _ _ := rfl
  live_setNext _ _ := rfl
  live_setPrevious _ _ := rfl
  node_setNext _ _ := rfl
  node_setPrevious _ _ := rfl
  levelNode_setWorse _ _ := rfl
  levelNode_setBetter _ _ := rfl

@[simp] theorem sharedShelf_live {order : SharedOrder} :
    sharedShelf.live order ↔ order.status = .opened := decide_eq_true_iff

theorem sharedShelf_closed {order : SharedOrder} (closed : order.status ≠ .opened) :
    sharedShelf.live order = false := decide_eq_false closed

def sharedPrecedes (list : SharedList) : Nat → Nat → Prop := list.2.Precedes

instance (list : SharedList) : DecidableRel (sharedPrecedes list) :=
  inferInstanceAs (DecidableRel list.2.Precedes)

instance (list : SharedList) : IsStrictOrder Nat (sharedPrecedes list) :=
  inferInstanceAs (IsStrictOrder Nat list.2.Precedes)

/-! ## Heads -/

def headOf (book : SharedBook) (list : SharedList) : Option Nat :=
  match book.slot list.1 list.2 with
  | .ok slot => book.bestPrices slot
  | .error _ => none

def sharedHeads (books : Store Pubkey SharedBook) (key : Pubkey) (list : SharedList) : Option Nat :=
  (books.get key).bind fun book => headOf book list

theorem sharedHeads_stored {books : Store Pubkey SharedBook} {key : Pubkey} {book : SharedBook}
    (stored : books.get key = some book) : sharedHeads books key = headOf book := by
  funext list
  simp [sharedHeads, stored]

@[simp] theorem sharedHeads_set (books : Store Pubkey SharedBook) (key : Pubkey)
    (book : SharedBook) :
    sharedHeads (books.set key book) = Function.update (sharedHeads books) key (headOf book) := by
  funext other list
  by_cases same : other = key
  · subst same
    simp [sharedHeads]
  · simp [sharedHeads, Store.get_set_ne _ _ same, Function.update_of_ne same]

theorem headOf_slot {book : SharedBook} {outcome : SharedOutcome} {side : OrderSide} {slot : Fin 4}
    (slotted : book.slot outcome side = .ok slot) :
    headOf book (outcome, side) = book.bestPrices slot := by
  simp [headOf, slotted]

def Trades : MarketKind → SharedOutcome → Prop
  | .spot, outcome => outcome = .spot
  | .prediction, outcome => outcome ≠ .spot
  | .other, _ => False

def listSlot : SharedOutcome → OrderSide → Fin 4
  | .no, .bid => 2
  | .no, .ask => 3
  | _, .bid => 0
  | _, .ask => 1

theorem slot_eq_ok {book : SharedBook} {outcome : SharedOutcome} {side : OrderSide}
    {slot : Fin 4} : book.slot outcome side = .ok slot ↔
      Trades book.kind outcome ∧ slot = listSlot outcome side := by
  unfold SharedBook.slot
  cases book.kind <;> cases outcome <;> cases side <;> simp [Trades, listSlot] <;> exact eq_comm

theorem listSlot_injective {kind : MarketKind} {outcome other : SharedOutcome}
    {side found : OrderSide} (first : Trades kind outcome) (second : Trades kind other)
    (same : listSlot outcome side = listSlot other found) : outcome = other ∧ side = found := by
  cases kind with
  | spot =>
      obtain rfl : outcome = .spot := first
      obtain rfl : other = .spot := second
      cases side <;> cases found <;> simp_all [listSlot]
  | prediction =>
      cases outcome <;> cases other <;> simp_all [Trades] <;> cases side <;> cases found <;>
        simp_all [listSlot]
  | other => exact absurd first not_false

theorem slot_injective {book : SharedBook} {outcome other : SharedOutcome} {side found : OrderSide}
    {slot : Fin 4} (first : book.slot outcome side = .ok slot)
    (second : book.slot other found = .ok slot) : outcome = other ∧ side = found := by
  obtain ⟨trades, rfl⟩ := slot_eq_ok.mp first
  obtain ⟨also, same⟩ := slot_eq_ok.mp second
  exact listSlot_injective trades also same

theorem slot_kind {book other : SharedBook} (same : other.kind = book.kind)
    (outcome : SharedOutcome) (side : OrderSide) :
    other.slot outcome side = book.slot outcome side := by
  simp only [SharedBook.slot, same]

theorem slot_opposite {book : SharedBook} {outcome : SharedOutcome} {side : OrderSide}
    {slot : Fin 4} (slotted : book.slot outcome side = .ok slot) :
    book.slot outcome side.opposite = .ok (oppositeSlot slot) := by
  obtain ⟨trades, rfl⟩ := slot_eq_ok.mp slotted
  refine slot_eq_ok.mpr ⟨trades, ?_⟩
  cases outcome <;> cases side <;> rfl

theorem headOf_setBest {book : SharedBook} {outcome : SharedOutcome} {side : OrderSide}
    {slot : Fin 4} (slotted : book.slot outcome side = .ok slot) (price : Option Nat) :
    headOf (book.setBest slot price) = Function.update (headOf book) (outcome, side) price := by
  funext ⟨other, found⟩
  have kinds : (book.setBest slot price).slot other found = book.slot other found :=
    slot_kind rfl other found
  by_cases same : (other, found) = (outcome, side)
  · obtain ⟨rfl, rfl⟩ := Prod.mk.inj same
    rw [headOf_slot (kinds.trans slotted), Function.update_self]
    simp [SharedBook.setBest]
  · rw [Function.update_of_ne same]
    simp only [headOf, kinds]
    cases place : book.slot other found with
    | error failure => rfl
    | ok index =>
        have apart : index ≠ slot := by
          rintro rfl
          obtain ⟨rfl, rfl⟩ := slot_injective place slotted
          exact same rfl
        simp [SharedBook.setBest, Function.update_of_ne apart]

theorem headOf_congr {book other : SharedBook} (kind : other.kind = book.kind)
    (best : other.bestPrices = book.bestPrices) : headOf other = headOf book := by
  funext list
  simp only [headOf, slot_kind kind, best]

/-! ## Asset balances -/

def assetLedger : Ledger Pubkey AssetBalance (Pubkey × Pubkey) Pubkey Unit where
  file holder := .assetBalance holder.1 holder.2
  holder balance := (balance.owner, balance.mint)
  pool := Prod.snd
  free balance _ := balance.free
  locked balance _ := balance.locked
  file_injective := by
    rintro ⟨owner, mint⟩ ⟨other, found⟩ same
    obtain ⟨rfl, rfl⟩ := Pubkey.assetBalance.inj same
    rfl

structure Flow where
  lost : Nat
  gained : Nat
  out : Nat
  into : Nat

def Flow.none : Flow := ⟨0, 0, 0, 0⟩

def AssetMove (before after : AssetBalance) (flow : Flow) : Prop :=
  assetLedger.Move before after (fun _ => flow.lost) (fun _ => flow.gained) (fun _ => flow.out)
    fun _ => flow.into

theorem assetMove_iff {before after : AssetBalance} {flow : Flow} :
    AssetMove before after flow ↔ after.owner = before.owner ∧ after.mint = before.mint ∧
      after.locked + flow.lost = before.locked + flow.gained ∧
      after.free + after.locked + flow.out = before.free + before.locked + flow.into := by
  constructor
  · rintro ⟨holder, locked, held⟩
    exact ⟨(Prod.mk.inj holder).1, (Prod.mk.inj holder).2, locked (), held ()⟩
  · rintro ⟨owner, mint, locked, held⟩
    exact ⟨Prod.ext owner mint, fun _ => locked, fun _ => held⟩

theorem asset_write {assets : Store Pubkey AssetBalance} {owner mint : Pubkey}
    {balance changed : AssetBalance} {flow : Flow} (filed : assetLedger.Filed assets)
    (stored : assets.get (.assetBalance owner mint) = some balance)
    (move : AssetMove balance changed flow) :
    assetLedger.Edit assets (assets.set (.assetBalance owner mint) changed)
      (Ledger.single (owner, mint) fun _ => flow.lost)
      (Ledger.single (owner, mint) fun _ => flow.gained)
      (Ledger.single mint fun _ => flow.out) (Ledger.single mint fun _ => flow.into) := by
  have there : assets.get (assetLedger.file (owner, mint)) = some balance := stored
  exact Ledger.Edit.write filed there move

end Tidebook.Proof
