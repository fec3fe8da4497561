import Tidebook.Proof.SharedFill

/-! # Shared order operations

Placing, cancelling and filling have one shape: an edit of the books, and an edit of each ledger
that moves the locks exactly as the written order's claim moved.
-/

namespace Tidebook.Proof
open Library Program
open Shared (assetPart contractPart quoteShare baseShare assetShare contractShare)

structure SharedOperation (state after : State) where
  key : Pubkey
  orderKey : Pubkey
  book : SharedBook
  record : SharedBook
  written : SharedOrder
  previous : Option Pubkey
  next : Option Pubkey
  ahead : Option Pubkey
  behind : Option Pubkey
  lost : Pubkey × Pubkey → Unit → Nat
  gained : Pubkey × Pubkey → Unit → Nat
  lostContracts : Pubkey × Pubkey → Bucket → Nat
  gainedContracts : Pubkey × Pubkey → Bucket → Nat
  fee : Nat
  edit : SharedEdit state.shared after.shared key orderKey book record written previous next ahead
    behind
  assets : assetLedger.Edit state.shared.assets after.shared.assets lost gained
    (Ledger.single book.quoteMint fun _ => fee) 0
  contracts : positionLedger.Edit state.prediction.positions after.prediction.positions
    lostContracts gainedContracts 0 0
  claimed : ∀ holder, Shared.assetLocked state.shared.books holder orderKey written +
      lost holder () =
    (state.shared.orders.get orderKey).elim 0
      (Shared.assetLocked state.shared.books holder orderKey) + gained holder ()
  claimedContracts : ∀ holder bucket, Shared.contractLocked holder bucket orderKey written +
      lostContracts holder bucket =
    (state.shared.orders.get orderKey).elim 0 (Shared.contractLocked holder bucket orderKey) +
      gainedContracts holder bucket
  fees : record.accruedQuoteFees = book.accruedQuoteFees + fee
  frame : after = { state with
    shared := after.shared
    prediction := { state.prediction with positions := after.prediction.positions } }

namespace SharedOperation

variable {state after : State} (operation : SharedOperation state after)

include operation

theorem same_protocol : after.protocol = state.protocol := by rw [operation.frame]

theorem same_tokens : after.tokens = state.tokens := by rw [operation.frame]

theorem same_spot : after.spot = state.spot := by rw [operation.frame]

theorem same_prediction : after.prediction =
    { state.prediction with positions := after.prediction.positions } :=
  congrArg State.prediction operation.frame

theorem same_markets : after.prediction.markets = state.prediction.markets := by
  rw [operation.same_prediction]

theorem same_fees : after.prediction.fees = state.prediction.fees := by
  rw [operation.same_prediction]

theorem same_orders : after.prediction.orders = state.prediction.orders := by
  rw [operation.same_prediction]

end SharedOperation

namespace Shared

variable {books : Store Pubkey SharedBook} {order : SharedOrder} {book : SharedBook}

theorem assetLocked_live (live : order.status = .opened) (stored : books.get order.book = some book)
    (key : Pubkey) (holder : Pubkey × Pubkey) :
    assetLocked books holder key order = assetShare book order holder () := by
  simp [assetLocked, live, stored]

theorem assetLocked_closed (closed : order.status ≠ .opened) (key : Pubkey)
    (holder : Pubkey × Pubkey) : assetLocked books holder key order = 0 := by
  simp [assetLocked, closed]

theorem contractLocked_live (live : order.status = .opened) (key : Pubkey)
    (holder : Pubkey × Pubkey) (bucket : Bucket) :
    contractLocked holder bucket key order = contractShare order holder bucket := by
  simp [contractLocked, live]

theorem contractLocked_closed (closed : order.status ≠ .opened) (key : Pubkey)
    (holder : Pubkey × Pubkey) (bucket : Bucket) : contractLocked holder bucket key order = 0 := by
  simp [contractLocked, closed]

end Shared

/-! ## Placement -/

section Placement

variable {state : State} {owner : Wallet} {market : Pubkey} {orderId : Nat}
variable {outcome : SharedOutcome} {side : OrderSide} {price quantity : Nat}

theorem SharedPlacement.claimed
    (placed : SharedPlacement state owner market orderId outcome side price quantity)
    (previous : Option Pubkey) (holder : Pubkey × Pubkey) :
    Shared.assetLocked state.shared.books holder (.sharedOrder (.sharedBook market) orderId)
        (placed.order previous) =
      assetPart placed.book owner.key outcome (quoteShare side placed.amount)
        (baseShare side placed.amount) holder () :=
  Shared.assetLocked_live rfl placed.stored _ holder

theorem SharedPlacement.claimedContracts
    (placed : SharedPlacement state owner market orderId outcome side price quantity)
    (previous : Option Pubkey) (holder : Pubkey × Pubkey) (bucket : Bucket) :
    Shared.contractLocked holder bucket (.sharedOrder (.sharedBook market) orderId)
        (placed.order previous) =
      contractPart market owner.key outcome (baseShare side placed.amount) holder bucket := by
  rw [Shared.contractLocked_live rfl]
  change contractPart placed.book.market _ _ _ _ _ = _
  rw [placed.home]
  rfl

/-- The operation of a placement whose edit of the books is given. -/
def SharedPlacement.operation
    (placed : SharedPlacement state owner market orderId outcome side price quantity)
    {after : State} {record : SharedBook} {previous ahead behindOf next : Option Pubkey}
    {front : Option Pubkey}
    (holds : SharedInvariant state.shared) (assets : assetLedger.Filed state.shared.assets)
    (positions : positionLedger.Filed state.prediction.positions)
    (edit : SharedEdit state.shared after.shared (.sharedBook market)
      (.sharedOrder (.sharedBook market) orderId) placed.book record (placed.order front) previous
      next ahead behindOf)
    (sameAssets : after.shared.assets = (saveClaims state placed.locked).shared.assets)
    (frame : after = { state with
      shared := after.shared
      prediction := { state.prediction with
        positions := (saveClaims state placed.locked).prediction.positions } })
    (fees : record.accruedQuoteFees = placed.book.accruedQuoteFees) :
    SharedOperation state after where
  key := .sharedBook market
  orderKey := .sharedOrder (.sharedBook market) orderId
  book := placed.book
  record := record
  written := placed.order front
  previous := previous
  next := next
  ahead := ahead
  behind := behindOf
  lost := 0
  gained := assetPart placed.book owner.key outcome (quoteShare side placed.amount)
    (baseShare side placed.amount)
  lostContracts := 0
  gainedContracts := contractPart market owner.key outcome (baseShare side placed.amount)
  fee := 0
  edit := edit
  assets := by
    have edit := placed.assets holds assets
    rw [← sameAssets] at edit
    have nothing : (fun _ => 0 : Unit → Nat) = 0 := rfl
    rw [nothing, Ledger.single_zero]
    exact edit
  contracts := by
    have edit := placed.contracts positions
    rw [frame]
    exact edit
  claimed holder := by
    rw [placed.freshOrder, placed.claimed front holder]
    simp
  claimedContracts holder bucket := by
    rw [placed.freshOrder, placed.claimedContracts front holder bucket]
    simp
  fees := fees
  frame := by
    have positions : after.prediction.positions =
        (saveClaims state placed.locked).prediction.positions := by rw [frame]
    rw [positions]
    exact frame

def SharedInsertion.operation
    (placed : SharedInsertion state owner market orderId outcome side price quantity)
    (holds : SharedInvariant state.shared) (assets : assetLedger.Filed state.shared.assets)
    (positions : positionLedger.Filed state.prediction.positions) (priceFits : price ≤ u64Max)
    (quantityFits : quantity ≤ u64Max) : SharedOperation state placed.result :=
  placed.toSharedPlacement.operation holds assets positions
    (placed.edit holds priceFits quantityFits) rfl rfl (by
      rw [SharedInsertion.headed]
      split <;> rfl)

def SharedAppending.operation
    (placed : SharedAppending state owner market orderId outcome side price quantity)
    (holds : SharedInvariant state.shared) (assets : assetLedger.Filed state.shared.assets)
    (positions : positionLedger.Filed state.prediction.positions) (priceFits : price ≤ u64Max)
    (quantityFits : quantity ≤ u64Max) : SharedOperation state placed.result :=
  placed.toSharedPlacement.operation holds assets positions
    (placed.edit holds priceFits quantityFits) rfl rfl rfl

end Placement

/-! ## Cancellation -/

def SharedCancellation.operation {state : State} {owner : Wallet} {orderKey : Pubkey}
    (leaving : SharedCancellation state owner orderKey) (holds : SharedInvariant state.shared)
    (assets : assetLedger.Filed state.shared.assets)
    (positions : positionLedger.Filed state.prediction.positions) :
    SharedOperation state leaving.result where
  key := leaving.order.book
  orderKey := orderKey
  book := leaving.book
  record := leaving.headed leaving.book.accruedQuoteFees
  written := SharedOrder.canceled leaving.order
  previous := leaving.order.previousOrder
  next := leaving.order.nextOrder
  ahead := leaving.order.nextOrder
  behind := leaving.order.previousOrder
  lost := assetShare leaving.book leaving.order
  gained := 0
  lostContracts := contractShare leaving.order
  gainedContracts := 0
  fee := 0
  edit := leaving.edit holds
  assets := by
    have nothing : (fun _ => 0 : Unit → Nat) = 0 := rfl
    rw [nothing, Ledger.single_zero]
    exact leaving.assets holds assets
  contracts := leaving.contracts holds positions
  claimed holder := by
    rw [leaving.orderStored, Option.elim_some, Shared.assetLocked_live leaving.live leaving.stored,
      Shared.assetLocked_closed (by simp [SharedOrder.canceled])]
    simp
  claimedContracts holder bucket := by
    rw [leaving.orderStored, Option.elim_some, Shared.contractLocked_live leaving.live,
      Shared.contractLocked_closed (by simp [SharedOrder.canceled])]
    simp
  fees := rfl
  frame := rfl

/-! ## Fills -/

namespace SharedFill

variable {state : State} {config : ProtocolConfig} {taker : Wallet} {market makerKey : Pubkey}
variable {outcome : SharedOutcome} {takerSide : OrderSide} {limit quantity : Nat}
variable (fill : SharedFill state config taker market makerKey outcome takerSide limit quantity)

theorem share_split : assetShare fill.book fill.order = assetShare fill.book (fill.reduced false) +
    assetPart fill.book fill.order.owner fill.order.outcome
      (quoteShare fill.order.side fill.plan.makerLockedDebit)
      (baseShare fill.order.side fill.plan.makerLockedDebit) := by
  have bound := fill.debit_le
  simp only [assetShare, reduced, SharedOrder.fill, Bool.false_eq_true, if_false]
  rw [← Shared.assetPart_add]
  cases fill.order.side <;> simp only [quoteShare, baseShare, if_true, reduceCtorEq, if_false] <;>
    rw [Nat.sub_add_cancel bound]

theorem contract_split : contractShare fill.order = contractShare (fill.reduced false) +
    contractPart fill.order.market fill.order.owner fill.order.outcome
      (baseShare fill.order.side fill.plan.makerLockedDebit) := by
  have bound := fill.debit_le
  simp only [contractShare, reduced, SharedOrder.fill, Bool.false_eq_true, if_false]
  rw [← Shared.contractPart_add]
  cases fill.order.side <;> simp only [baseShare, if_true, reduceCtorEq, if_false]
  rw [Nat.sub_add_cancel bound]

def operation (holds : SharedInvariant state.shared)
    (assets : assetLedger.Filed state.shared.assets)
    (positions : positionLedger.Filed state.prediction.positions) :
    SharedOperation state fill.result where
  key := fill.order.book
  orderKey := makerKey
  book := fill.book
  record := fill.charging
  written := fill.reduced fill.plan.makerFullyFilled
  previous := if fill.plan.makerFullyFilled then fill.order.previousOrder else none
  next := if fill.plan.makerFullyFilled then fill.order.nextOrder else none
  ahead := if fill.plan.makerFullyFilled then fill.order.nextOrder else none
  behind := if fill.plan.makerFullyFilled then fill.order.previousOrder else none
  lost := assetPart fill.book fill.order.owner fill.order.outcome
    (quoteShare fill.order.side fill.plan.makerLockedDebit)
    (baseShare fill.order.side fill.plan.makerLockedDebit)
  gained := 0
  lostContracts := contractPart fill.order.market fill.order.owner fill.order.outcome
    (baseShare fill.order.side fill.plan.makerLockedDebit)
  gainedContracts := 0
  fee := fill.fee
  edit := by
    cases full : fill.plan.makerFullyFilled with
    | true => exact fill.edit_full holds full
    | false => exact fill.edit_partial holds full
  assets := fill.assets holds assets
  contracts := by
    rw [(fill.rests holds).market, fill.ofMarket]
    exact fill.contracts positions
  claimed holder := by
    rw [fill.orderStored, Option.elim_some, Shared.assetLocked_live fill.live fill.stored]
    cases full : fill.plan.makerFullyFilled with
    | true =>
        rw [Shared.assetLocked_closed (by simp [reduced, SharedOrder.fill]), fill.debit_full full,
          assetShare]
        simp
    | false =>
        have live : (fill.reduced false).status = .opened := fill.live
        rw [Shared.assetLocked_live live fill.stored,
          fill.share_split]
        simp
  claimedContracts holder bucket := by
    rw [fill.orderStored, Option.elim_some, Shared.contractLocked_live fill.live]
    cases full : fill.plan.makerFullyFilled with
    | true =>
        rw [Shared.contractLocked_closed (by simp [reduced, SharedOrder.fill]),
          fill.debit_full full, contractShare]
        simp
    | false =>
        have live : (fill.reduced false).status = .opened := fill.live
        rw [Shared.contractLocked_live live,
          fill.contract_split]
        simp
  fees := by
    rw [charging]
    split <;> rfl
  frame := rfl

end SharedFill
end Tidebook.Proof
