import Mathlib.Data.Nat.Log
import Tidebook.Program.PredictionOrders

/-! # Shared trading rules

The terms a shared book takes from its source market, the claims a trader brings to it, and the
validation and removal of its queue records.
-/

namespace Tidebook.Program
open Tidebook.Library

/-! ## Source terms -/

structure SharedTerms where
  authority : Pubkey
  baseMint : Pubkey
  quoteMint : Pubkey
  baseDecimals : Nat
  quoteDecimals : Nat
  tick : Nat
  lot : Nat
  payout : Nat
  deriving DecidableEq

def SharedBook.terms (book : SharedBook) : SharedTerms where
  authority := book.authority
  baseMint := book.baseMint
  quoteMint := book.quoteMint
  baseDecimals := book.baseDecimals
  quoteDecimals := book.quoteDecimals
  tick := book.priceTick
  lot := book.quantityLot
  payout := book.payoutPerContract

/-- The terms of a source market; `trading` also demands that it is open. -/
def terms (state : State) (market : Pubkey) (kind : MarketKind) (trading : Bool) :
    Result SharedTerms :=
  match kind with
  | .spot => do
      let value ← load state.spot.markets market
      require (value.key = .market value.val.baseMint value.val.quoteMint)
        .sharedMarketKindMismatch
      require (trading → value.val.status = .active) .marketNotActive
      pure {
        authority := value.val.authority
        baseMint := value.val.baseMint
        quoteMint := value.val.quoteMint
        baseDecimals := value.val.baseDecimals
        quoteDecimals := value.val.quoteDecimals
        tick := value.val.priceTickSize
        lot := value.val.quantityLotSize
        payout := 0 }
  | .prediction => do
      let value ← load state.prediction.markets market
      require (value.key = .predictionMarket value.val.marketId) .sharedMarketKindMismatch
      require (trading → value.val.status = .opened ∧ state.now < value.val.closeTs)
        .predictionOrderUnavailable
      require (value.val.payoutPerContract > 0) .invalidPredictionPayout
      let precision := Nat.log 10 value.val.payoutPerContract
      require (10 ^ precision = value.val.payoutPerContract) .invalidPredictionPayout
      pure {
        authority := value.val.authority
        baseMint := .default
        quoteMint := value.val.collateralMint
        baseDecimals := 0
        quoteDecimals := precision
        tick := value.val.priceTick
        lot := 1
        payout := value.val.payoutPerContract }
  | .other => throw .sharedMarketKindMismatch

def tradingOpen (state : State) (book : SharedBook) (market : Pubkey) : Result Unit := do
  require (book.market = market) .invalidSharedBook
  let value ← terms state market book.kind true
  require (book.terms = value) .invalidSharedBook

/-! ## Order terms -/

/-- The index of a list among the book's four best prices. -/
def SharedBook.slot (book : SharedBook) (outcome : SharedOutcome) (side : OrderSide) :
    Result (Fin 4) :=
  let offset : Fin 4 := if side = .ask then 1 else 0
  match book.kind, outcome with
  | .spot, .spot | .prediction, .yes => pure (0 + offset)
  | .prediction, .no => pure (2 + offset)
  | _, _ => throw .sharedMarketKindMismatch

def oppositeSlot (slot : Fin 4) : Fin 4 := slot ^^^ 1

def SharedBook.setBest (book : SharedBook) (slot : Fin 4) (price : Option Nat) : SharedBook :=
  { book with bestPrices := Function.update book.bestPrices slot price }

def quoteAmount (book : SharedBook) (price quantity : Nat) : Result Nat := do
  let amount ← notional price quantity book.baseDecimals
  toU64 amount .orderNotionalOverflow

/-- The list's slot and the claim a resting order locks. -/
def orderTerms (book : SharedBook) (outcome : SharedOutcome) (side : OrderSide)
    (price quantity : Nat) : Result (Fin 4 × Nat) := do
  let slot ← book.slot outcome side
  require (price > 0 ∧ book.priceTick > 0 ∧ book.priceTick ∣ price) .priceNotOnTick
  require (quantity > 0 ∧ book.quantityLot > 0 ∧ book.quantityLot ∣ quantity) .quantityNotOnLot
  require (book.kind = .prediction → price < book.payoutPerContract) .invalidPredictionOrderPrice
  let quote ← quoteAmount book price quantity
  require (quote > 0) .orderNotionalTooSmall
  pure (slot, if side = .bid then quote else quantity)

/-! ## Claims -/

structure ClaimKeys where
  base : Option Pubkey
  quote : Pubkey
  position : Option Pubkey

structure Claims where
  base : Option (Account AssetBalance)
  quote : Account AssetBalance
  position : Option (Account PredictionPosition)

def loadClaims (state : State) (keys : ClaimKeys) : Result Claims := do
  let base ← loadOption state.shared.assets keys.base
  let quote ← load state.shared.assets keys.quote
  let position ← loadOption state.prediction.positions keys.position
  pure ⟨base, quote, position⟩

def asset (account : Account AssetBalance) (owner mint : Pubkey) : Result Unit := do
  require (account.val.owner = owner ∧ account.val.mint = mint) .invalidAssetBalance
  require (account.key = .assetBalance owner mint) .invalidAssetBalance

/-- The supplied claims are exactly the ones the trader has in this book's currencies. -/
def trader (book : SharedBook) (owner : Pubkey) (claims : Claims) : Result Unit := do
  asset claims.quote owner book.quoteMint
  if book.kind = .spot then do
    let base ← okOr claims.base .invalidAssetBalance
    asset base owner book.baseMint
    require claims.position.isNone .invalidAssetBalance
  else do
    require claims.base.isNone .invalidAssetBalance
    let position ← okOr claims.position .invalidAssetBalance
    require (position.val.owner = owner ∧ position.val.market = book.market) .invalidAssetBalance
    require (position.key = .predictionPosition book.market owner) .invalidAssetBalance

/-- The free and the locked bucket of the traded asset. -/
def baseBuckets (kind : MarketKind) (outcome : SharedOutcome) (claims : Claims) :
    Result (Nat × Nat) :=
  match kind, outcome with
  | .spot, .spot => do
      let value ← okOr claims.base .invalidAssetBalance
      pure (value.val.free, value.val.locked)
  | .prediction, .yes => do
      let value ← okOr claims.position .invalidAssetBalance
      pure (value.val.yesFree, value.val.yesLocked)
  | .prediction, .no => do
      let value ← okOr claims.position .invalidAssetBalance
      pure (value.val.noFree, value.val.noLocked)
  | _, _ => throw .sharedMarketKindMismatch

def setBaseBuckets (outcome : SharedOutcome) (claims : Claims) (free locked : Nat) : Claims :=
  match outcome with
  | .spot => { claims with
      base := claims.base.map (Account.map fun value =>
        { value with free := free, locked := locked }) }
  | .yes => { claims with
      position := claims.position.map (Account.map fun value =>
        { value with yesFree := free, yesLocked := locked }) }
  | .no => { claims with
      position := claims.position.map (Account.map fun value =>
        { value with noFree := free, noLocked := locked }) }

def Claims.setQuote (claims : Claims) (free locked : Nat) : Claims :=
  { claims with quote := { claims.quote with
      val := { claims.quote.val with free := free, locked := locked } } }

/-- The two buckets an order of this side locks in: quote for a bid, the traded asset for an
ask. -/
def backingBuckets (kind : MarketKind) (outcome : SharedOutcome) (side : OrderSide)
    (claims : Claims) : Result (Nat × Nat) :=
  match side with
  | .bid => pure (claims.quote.val.free, claims.quote.val.locked)
  | .ask => baseBuckets kind outcome claims

def setBackingBuckets (outcome : SharedOutcome) (side : OrderSide) (claims : Claims)
    (free locked : Nat) : Claims :=
  match side with
  | .bid => claims.setQuote free locked
  | .ask => setBaseBuckets outcome claims free locked

def lock (kind : MarketKind) (outcome : SharedOutcome) (side : OrderSide) (claims : Claims)
    (amount : Nat) : Result Claims := do
  let (free, locked) ← backingBuckets kind outcome side claims
  let newFree ← checkedSub free amount .insufficientFreeBalance
  let newLocked ← checkedAdd locked amount .lockedBalanceOverflow
  pure (setBackingBuckets outcome side claims newFree newLocked)

def unlock (kind : MarketKind) (outcome : SharedOutcome) (side : OrderSide) (claims : Claims)
    (amount : Nat) : Result Claims := do
  let (free, locked) ← backingBuckets kind outcome side claims
  let newFree ← checkedAdd free amount .freeBalanceOverflow
  let newLocked ← checkedSub locked amount .lockedBalanceUnderflow
  pure (setBackingBuckets outcome side claims newFree newLocked)

def saveClaims (state : State) (claims : Claims) : State :=
  { state with
    shared := { state.shared with
      assets := save (saveOption state.shared.assets claims.base) claims.quote }
    prediction := { state.prediction with
      positions := saveOption state.prediction.positions claims.position } }

/-! ## Queue records -/

def SharedPriceLevel.setWorse (price : Option Nat) (level : SharedPriceLevel) : SharedPriceLevel :=
  { level with worsePrice := price }

def SharedPriceLevel.setBetter (price : Option Nat) (level : SharedPriceLevel) :
    SharedPriceLevel :=
  { level with betterPrice := price }

def SharedOrder.setNext (order : Option Pubkey) (record : SharedOrder) : SharedOrder :=
  { record with nextOrder := order }

def SharedOrder.setPrevious (order : Option Pubkey) (record : SharedOrder) : SharedOrder :=
  { record with previousOrder := order }

def checkSharedLevel (book : Account SharedBook) (level : Account SharedPriceLevel) :
    Result Unit := do
  let _ ← book.val.slot level.val.outcome level.val.side
  require (level.val.book = book.key ∧ level.val.market = book.val.market ∧ level.val.price > 0 ∧
    level.val.orderCount > 0 ∧ level.val.totalRemainingQuantity > 0 ∧
    level.val.firstOrder.isSome ∧ level.val.lastOrder.isSome) .invalidSharedNeighbor
  require (level.key = .sharedLevel book.key level.val.outcome level.val.side level.val.price)
    .invalidSharedNeighbor

/-- The least lock that still covers an order's remainder. -/
def minimumLock (book : SharedBook) (order : SharedOrder) : Result Nat :=
  match order.side with
  | .bid => quoteAmount book order.price order.remainingQuantity
  | .ask => pure order.remainingQuantity

/-- A bid may keep rounding dust above its minimum; an ask is backed exactly. -/
def coversMinimum (side : OrderSide) (locked minimum : Nat) : Bool :=
  match side with
  | .bid => locked ≥ minimum
  | .ask => locked = minimum

def checkSharedOrder (book : Account SharedBook) (order : Account SharedOrder) : Result Unit := do
  let _ ← book.val.slot order.val.outcome order.val.side
  require (order.val.book = book.key ∧ order.val.market = book.val.market ∧
    order.val.orderId > 0 ∧ order.val.orderId < book.val.nextOrderId ∧
    order.val.status = .opened ∧ order.val.remainingQuantity > 0 ∧
    order.val.remainingQuantity ≤ order.val.quantity ∧ order.val.price > 0 ∧
    order.val.lockedCollateral > 0) .invalidSharedNeighbor
  require (order.key = .sharedOrder book.key order.val.orderId) .invalidSharedNeighbor
  require (order.val.priceLevel =
    .sharedLevel book.key order.val.outcome order.val.side order.val.price) .invalidSharedNeighbor
  let minimum ← minimumLock book.val order.val
  require (coversMinimum order.val.side order.val.lockedCollateral minimum) .invalidSharedNeighbor

/-! ## Removal -/

/-- A FIFO neighbour of a removed order, which must point back at it. -/
def checkRemovedNeighbor (book : Account SharedBook) (removed : Account SharedOrder)
    (level : Pubkey) (previous : Bool) (neighbor : Account SharedOrder) : Result Unit := do
  checkSharedOrder book neighbor
  require (neighbor.key ≠ removed.key ∧ neighbor.val.priceLevel = level ∧
    neighbor.val.outcome = removed.val.outcome ∧ neighbor.val.side = removed.val.side ∧
    neighbor.val.price = removed.val.price ∧
    (if previous then
      neighbor.val.nextOrder = some removed.key ∧ neighbor.val.orderId < removed.val.orderId
    else neighbor.val.previousOrder = some removed.key ∧
      neighbor.val.orderId > removed.val.orderId)) .invalidSharedNeighbor

/-- A price neighbour of an emptied level, which must point back at it. -/
def checkRemovedPrice (book : Account SharedBook) (current : SharedPriceLevel) (better : Bool)
    (neighbor : Account SharedPriceLevel) : Result Unit := do
  checkSharedLevel book neighbor
  require (neighbor.val.outcome = current.outcome ∧ neighbor.val.side = current.side ∧
    (if better then
      neighbor.val.worsePrice = some current.price ∧
        current.side.Precedes neighbor.val.price current.price
    else neighbor.val.betterPrice = some current.price ∧
      current.side.Precedes current.price neighbor.val.price)) .invalidSharedNeighbor

/-- The removed order belongs to the supplied level, which is where the book expects it. -/
def checkRemoved (book : Account SharedBook) (slot : Fin 4) (removed : Account SharedOrder)
    (current : Account SharedPriceLevel) (previous next : Option (Account SharedOrder)) :
    Result Unit := do
  require (removed.val.priceLevel = current.key ∧ removed.val.price = current.val.price ∧
    removed.val.outcome = current.val.outcome ∧ removed.val.side = current.val.side)
    .invalidSharedNeighbor
  let best ← okOr (book.val.bestPrices slot) .invalidSharedBook
  require ((best = current.val.price ↔ current.val.betterPrice = none) ∧
    removed.val.side.NoLater best current.val.price) .invalidSharedNeighbor
  require (previous.map Account.key = removed.val.previousOrder ∧
    next.map Account.key = removed.val.nextOrder) .invalidSharedNeighbor
  require ((current.val.firstOrder = some removed.key ↔ removed.val.previousOrder = none) ∧
    (current.val.lastOrder = some removed.key ↔ removed.val.nextOrder = none))
    .invalidSharedNeighbor
  forSupplied previous (checkRemovedNeighbor book removed current.key true)
  forSupplied next (checkRemovedNeighbor book removed current.key false)

/-- What the price list must look like when the removed order was or was not the last at its
price. -/
def checkRemovedLevel (book : Account SharedBook) (current : SharedPriceLevel)
    (count total : Nat) (previous next : Option (Account SharedOrder))
    (better worse : Option (Account SharedPriceLevel)) (recipient : Option Pubkey) :
    Result Unit :=
  if count = 0 then do
    require (previous.isNone ∧ next.isNone ∧ total = 0) .invalidSharedNeighbor
    require
      (better.map Account.key =
        current.betterPrice.map (Pubkey.sharedLevel book.key current.outcome current.side) ∧
      worse.map Account.key =
        current.worsePrice.map (Pubkey.sharedLevel book.key current.outcome current.side))
      .invalidSharedNeighbor
    forSupplied better (checkRemovedPrice book current true)
    forSupplied worse (checkRemovedPrice book current false)
    let recipient ← okOr recipient .invalidSharedNeighbor
    require (recipient = current.rentPayer) .invalidSharedNeighbor
  else
    require (total > 0 ∧ (previous.isSome ∨ next.isSome) ∧ better.isNone ∧ worse.isNone ∧
      recipient = none) .invalidSharedNeighbor

/-- The level record after one order, at the given ends, has left its queue. -/
def SharedPriceLevel.unlink (level : SharedPriceLevel) (previous next : Option Pubkey)
    (count total : Nat) : SharedPriceLevel :=
  { level with
    firstOrder := if previous = none then next else level.firstOrder
    lastOrder := if next = none then previous else level.lastOrder
    orderCount := count
    totalRemainingQuantity := total }

/-- The records a removal leaves; a closed level is `none`. -/
structure Removal where
  book : SharedBook
  level : Option SharedPriceLevel
  previous : Option (Account SharedOrder)
  next : Option (Account SharedOrder)
  better : Option (Account SharedPriceLevel)
  worse : Option (Account SharedPriceLevel)

def removeOrder (book : Account SharedBook) (removed : Account SharedOrder)
    (current : Account SharedPriceLevel) (previous next : Option (Account SharedOrder))
    (better worse : Option (Account SharedPriceLevel)) (recipient : Option Pubkey) :
    Result Removal := do
  checkSharedOrder book removed
  checkSharedLevel book current
  let slot ← book.val.slot removed.val.outcome removed.val.side
  checkRemoved book slot removed current previous next
  let count ← checkedSub current.val.orderCount 1 .invalidSharedBook
  let total ← checkedSub current.val.totalRemainingQuantity removed.val.remainingQuantity
    .invalidSharedBook
  let openOrderCount ← checkedSub book.val.openOrderCount 1 .invalidSharedBook
  checkRemovedLevel book current.val count total previous next better worse recipient
  let headed := if count = 0 ∧ better.isNone then
    book.val.setBest slot current.val.worsePrice else book.val
  pure {
    book := { headed with openOrderCount := openOrderCount }
    level := if count = 0 then none
      else some (current.val.unlink removed.val.previousOrder removed.val.nextOrder count total)
    previous := previous.map (Account.map (SharedOrder.setNext removed.val.nextOrder))
    next := next.map (Account.map (SharedOrder.setPrevious removed.val.previousOrder))
    better := better.map (Account.map (SharedPriceLevel.setWorse current.val.worsePrice))
    worse := worse.map (Account.map (SharedPriceLevel.setBetter current.val.betterPrice)) }

def saveOrClose (levels : Store Pubkey SharedPriceLevel) (key : Pubkey) :
    Option SharedPriceLevel → Store Pubkey SharedPriceLevel
  | some level => levels.set key level
  | none => levels.erase key

end Tidebook.Program
