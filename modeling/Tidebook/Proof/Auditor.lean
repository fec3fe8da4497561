import Tidebook.Program.Emission
import Tidebook.Proof.Run

/-! # An auditor of the spot markets

What somebody who sees nothing but the emitted events makes of them: the open orders, the holdings
of every trader and the fees. The auditor refuses an event that does not fit what came before it.
-/

namespace Tidebook.Proof
open Library Program

/-! ## The auditor -/

/-- What one trader has in one market, in quote (the bid side) and in base (the ask side). -/
@[ext] structure Holding where
  free : OrderSide → Nat
  locked : OrderSide → Nat

namespace Holding

variable (holding : Holding) (side : OrderSide) (amount : Nat)

def receive : Holding := { holding with free := holding.free + Pi.single side amount }

def pay : Option Holding :=
  if amount ≤ holding.free side then
    some { holding with free := holding.free - Pi.single side amount } else none

def lock : Option Holding :=
  (holding.pay side amount).map fun rest =>
    { rest with locked := rest.locked + Pi.single side amount }

/-- Takes from what is locked. -/
def spend : Option Holding :=
  if amount ≤ holding.locked side then
    some { holding with locked := holding.locked - Pi.single side amount } else none

def unlock : Option Holding := (holding.spend side amount).map (receive · side amount)

end Holding

structure OpenOrder where
  market : Pubkey
  orderId : Nat
  owner : Pubkey
  side : OrderSide
  price : Nat
  remaining : Nat
  locked : Nat
  deriving DecidableEq

structure Journal where
  mints : Pubkey → Option (Pubkey × Pubkey)
  holdings : Pubkey × Pubkey → Option Holding
  orders : Pubkey → Option OpenOrder
  fees : Pubkey → Option Nat

def Journal.empty : Journal := ⟨fun _ => none, fun _ => none, fun _ => none, fun _ => none⟩

/-- The side whose collateral is in the mint: base backs asks and quote backs bids. -/
def sideOfMint (mints : Pubkey × Pubkey) (mint : Pubkey) : Option OrderSide :=
  if mint = mints.1 then some .ask else if mint = mints.2 then some .bid else none

/-- What a fill costs an order of the side and what it brings. -/
def costOf (side : OrderSide) (base quote : Nat) : Nat :=
  match side with
  | .bid => quote
  | .ask => base

namespace Journal

variable (journal : Journal)

def hold (market owner : Pubkey) (holding : Holding) : Journal :=
  { journal with holdings := Function.update journal.holdings (market, owner) (some holding) }

def setOrder (key : Pubkey) (order : Option OpenOrder) : Journal :=
  { journal with orders := Function.update journal.orders key order }

def setFees (market : Pubkey) (fees : Option Nat) : Journal :=
  { journal with fees := Function.update journal.fees market fees }

def setMints (market : Pubkey) (mints : Option (Pubkey × Pubkey)) : Journal :=
  { journal with mints := Function.update journal.mints market mints }

/-- A completed order gives up all that it still locks; the rest of the lock of a partly filled one
stays. -/
def makerDebit (order : OpenOrder) (event : FillEvent) : Nat :=
  match order.side with
  | .ask => event.baseQuantity
  | .bid => if event.makerRemainingQuantity = 0 then order.locked else event.quoteQuantity

/-- What a fill does to its maker: the lock pays, and what it does not cost comes back. -/
def settleMaker (holding : Holding) (order : OpenOrder) (event : FillEvent) : Option Holding := do
  let debit := makerDebit order event
  let cost := costOf order.side event.baseQuantity event.quoteQuantity
  guard (cost ≤ debit)
  let spent ← holding.spend order.side debit
  let paid := spent.receive order.side.opposite
    (costOf order.side.opposite event.baseQuantity event.quoteQuantity)
  pure (paid.receive order.side (debit - cost))

/-- The taker pays the fee in quote: on top of what a bid costs, out of what an ask brings. -/
def settleTaker (holding : Holding) (makerSide : OrderSide) (event : FillEvent) :
    Option Holding :=
  match makerSide with
  | .ask => do
      let paid ← holding.pay .bid (event.quoteQuantity + event.takerFeeQuote)
      pure (paid.receive .ask event.baseQuantity)
  | .bid => do
      guard (event.takerFeeQuote ≤ event.quoteQuantity)
      let paid ← holding.pay .ask event.baseQuantity
      pure (paid.receive .bid (event.quoteQuantity - event.takerFeeQuote))

def recordPlaced (event : OrderPlacedEvent) : Option Journal := do
  guard (journal.orders event.order).isNone
  let holding ← journal.holdings (event.market, event.owner)
  let locked ← holding.lock event.side event.lockedCollateral
  pure ((journal.hold event.market event.owner locked).setOrder event.order
    (some ⟨event.market, event.orderId, event.owner, event.side, event.price, event.quantity,
      event.lockedCollateral⟩))

def recordCanceled (event : OrderCanceledEvent) : Option Journal := do
  let order ← journal.orders event.order
  guard (order = ⟨event.market, event.orderId, event.owner, event.side, event.price,
    event.canceledQuantity, event.releasedCollateral⟩)
  let holding ← journal.holdings (event.market, event.owner)
  let released ← holding.unlock event.side event.releasedCollateral
  pure ((journal.hold event.market event.owner released).setOrder event.order none)

def recordFill (event : FillEvent) : Option Journal := do
  let order ← journal.orders event.makerOrder
  guard (order.market = event.market ∧ order.orderId = event.makerOrderId ∧
    order.owner = event.maker ∧ order.side = event.makerSide ∧
    order.price = event.executionPrice ∧
    order.remaining = event.baseQuantity + event.makerRemainingQuantity ∧
    event.maker ≠ event.taker)
  let maker ← journal.holdings (event.market, event.maker)
  let taker ← journal.holdings (event.market, event.taker)
  let makerSettled ← settleMaker maker order event
  let takerSettled ← settleTaker taker order.side event
  let fees ← journal.fees event.market
  let settled := (journal.hold event.market event.maker makerSettled).hold event.market event.taker
    takerSettled
  pure ((settled.setFees event.market (some (fees + event.takerFeeQuote))).setOrder event.makerOrder
    (if event.makerRemainingQuantity = 0 then none else
      some { order with
        remaining := event.makerRemainingQuantity
        locked := order.locked - makerDebit order event }))

def record : SpotEvent → Option Journal
  | .marketInitialized event => do
      guard (journal.mints event.market).isNone
      pure ((journal.setMints event.market (some (event.baseMint, event.quoteMint))).setFees
        event.market (some 0))
  | .marketStatusChanged _ => some journal
  | .marketClosed event => do
      guard (journal.fees event.market = some 0)
      pure ((journal.setMints event.market none).setFees event.market none)
  | .orderPlaced event => journal.recordPlaced event
  | .orderCanceled event => journal.recordCanceled event
  | .fill event => journal.recordFill event
  | .traderBalanceInitialized event => do
      guard (journal.holdings (event.market, event.owner)).isNone
      pure (journal.hold event.market event.owner ⟨0, 0⟩)
  | .deposit event => do
      let mints ← journal.mints event.market
      let side ← sideOfMint mints event.mint
      let holding ← journal.holdings (event.market, event.owner)
      pure (journal.hold event.market event.owner (holding.receive side event.amount))
  | .withdrawal event => do
      let mints ← journal.mints event.market
      let side ← sideOfMint mints event.mint
      let holding ← journal.holdings (event.market, event.owner)
      let paid ← holding.pay side event.amount
      pure (journal.hold event.market event.owner paid)
  | .protocolFeesWithdrawn event => do
      let fees ← journal.fees event.market
      guard (fees = event.amount + event.remainingAccruedQuoteFees)
      pure (journal.setFees event.market (some event.remainingAccruedQuoteFees))

end Journal

/-- What an auditor makes of a list of events, from nothing. -/
def audit (events : List SpotEvent) : Option Journal := events.foldlM Journal.record .empty

/-! ## The chain, as the journal tells it -/

/-- What a balance would hold had its owner migrated nothing. -/
def heldBefore (moved : OrderSide → Nat) (balance : TraderBalance) : Holding where
  free := spotLedger.free balance + moved
  locked := spotLedger.locked balance

/-- What the auditor knows an open order by. -/
def disclosed (order : Order) : OpenOrder :=
  ⟨order.market, order.orderId, order.owner, order.side, order.price, order.remainingQuantity,
    order.lockedCollateral⟩

def openOrder (order : Order) : Option OpenOrder :=
  if order.status = .opened then some (disclosed order) else none

/-- The journal tells the open orders, the fees and, but for what was migrated to shared wallets,
the holdings. -/
structure Tells (journal : Journal) (spot : Spot) (moved : Pubkey × Pubkey → OrderSide → Nat) :
    Prop where
  mints : ∀ key, journal.mints key =
    (spot.markets.get key).map fun market => (market.baseMint, market.quoteMint)
  holdings : ∀ holder, journal.holdings holder =
    (spot.balances.get (spotLedger.file holder)).map (heldBefore (moved holder))
  orders : ∀ key, journal.orders key = (spot.orders.get key).bind openOrder
  fees : ∀ key, journal.fees key =
    (spot.fees.get (.marketFees key)).map MarketFees.accruedQuoteFees
  unmoved : ∀ holder, spot.balances.get (spotLedger.file holder) = none → moved holder = 0

/-- What an accepted migration takes out of a trader's holding. -/
def migration (spot : Spot) (holder : Pubkey × Pubkey) (side : OrderSide) : Instruction → Nat
  | .migrateSpotAsset owner market mint amount =>
      if holder = (market, owner.key) ∧
        ((spot.markets.get market).map fun record => mintOf record side) = some mint then
        amount.toNat else 0
  | _ => 0

/-- What an event of a run emits for the spot markets; what fails emits nothing. -/
def heard (state : State) : Event → List SpotEvent
  | .outside _ => []
  | .instruction sent =>
      match execute state sent with
      | .ok after => (emitted state after sent).toList
      | .error _ => []

/-- What an event of a run migrates out of a trader's holding. -/
def unheard (state : State) (holder : Pubkey × Pubkey) (side : OrderSide) : Event → Nat
  | .outside _ => 0
  | .instruction sent =>
      match execute state sent with
      | .ok _ => migration state.spot holder side sent
      | .error _ => 0

def journaled (world : World) : List Event → List SpotEvent
  | [] => []
  | event :: later => heard world.state event ++ journaled (world.step event) later

def migrated (world : World) (holder : Pubkey × Pubkey) (side : OrderSide) : List Event → Nat
  | [] => 0
  | event :: later =>
      unheard world.state holder side event + migrated (world.step event) holder side later

/-! ## Holdings -/

section Holdings

variable {balance changed : TraderBalance} {side : OrderSide} {amount : Nat}
variable (moved : OrderSide → Nat)

theorem heldBefore_receive (move : spotLedger.Move balance changed 0 0 0 (Pi.single side amount)) :
    heldBefore moved changed = (heldBefore moved balance).receive side amount := by
  ext bucket
  · have locked := move.locked bucket
    have held := move.held bucket
    simp only [heldBefore, Holding.receive, Pi.add_apply, Pi.zero_apply] at locked held ⊢
    omega
  · have locked := move.locked bucket
    simp only [Pi.zero_apply] at locked
    exact locked

theorem heldBefore_pay (move : spotLedger.Move balance changed 0 0 (Pi.single side amount) 0) :
    (heldBefore moved balance).pay side amount = some (heldBefore moved changed) := by
  have own := move.held side
  have ownLocked := move.locked side
  simp only [Pi.single_eq_same, Pi.zero_apply] at own ownLocked
  rw [Holding.pay, if_pos]
  · congr 1
    ext bucket
    · have locked := move.locked bucket
      have held := move.held bucket
      simp only [heldBefore, Pi.add_apply, Pi.sub_apply, Pi.zero_apply] at locked held ⊢
      omega
    · have locked := move.locked bucket
      simp only [Pi.zero_apply] at locked
      exact locked.symm
  · simp only [heldBefore, Pi.add_apply]
    omega

theorem heldBefore_lock (move : spotLedger.Move balance changed 0 (Pi.single side amount) 0 0) :
    (heldBefore moved balance).lock side amount = some (heldBefore moved changed) := by
  have own := move.held side
  have ownLocked := move.locked side
  simp only [Pi.single_eq_same, Pi.zero_apply] at own ownLocked
  rw [Holding.lock, Holding.pay, if_pos, Option.map_some]
  · congr 1
    ext bucket
    · have locked := move.locked bucket
      have held := move.held bucket
      simp only [heldBefore, Pi.add_apply, Pi.sub_apply, Pi.zero_apply] at locked held ⊢
      omega
    · have locked := move.locked bucket
      simp only [heldBefore, Pi.add_apply, Pi.zero_apply] at locked ⊢
      exact locked.symm
  · simp only [heldBefore, Pi.add_apply]
    omega

theorem heldBefore_unlock (move : spotLedger.Move balance changed (Pi.single side amount) 0 0 0) :
    (heldBefore moved balance).unlock side amount = some (heldBefore moved changed) := by
  have ownLocked := move.locked side
  simp only [Pi.single_eq_same, Pi.zero_apply] at ownLocked
  rw [Holding.unlock, Holding.spend, if_pos, Option.map_some]
  · congr 1
    ext bucket
    · have locked := move.locked bucket
      have held := move.held bucket
      simp only [heldBefore, Holding.receive, Pi.add_apply, Pi.zero_apply] at locked held ⊢
      omega
    · have locked := move.locked bucket
      simp only [heldBefore, Holding.receive, Pi.sub_apply, Pi.zero_apply] at locked ⊢
      omega
  · simp only [heldBefore]
    omega

theorem heldBefore_migrate {more : OrderSide → Nat} (only : more = Pi.single side amount)
    (move : spotLedger.Move balance changed 0 0 (Pi.single side amount) 0) :
    heldBefore (moved + more) changed = heldBefore moved balance := by
  ext bucket
  · have locked := move.locked bucket
    have held := move.held bucket
    simp only [heldBefore, only, Pi.add_apply, Pi.zero_apply] at locked held ⊢
    omega
  · have locked := move.locked bucket
    simp only [Pi.zero_apply] at locked
    exact locked

end Holdings

end Tidebook.Proof
