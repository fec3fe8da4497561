import Tidebook.Program.PredictionMarket
import Tidebook.Program.SpotMatch

/-! # Prediction orders

The four lists of a prediction market: first order on an empty side, insertion at a new price,
same-price append, cancellation and matching.
-/

namespace Tidebook.Program
open Tidebook.Library

/-! ## Heads -/

def PredictionOrderBook.bestPrice (book : PredictionOrderBook) :
    PredictionOutcome → OrderSide → Option Nat
  | .yes, .bid => book.yesBestBid
  | .yes, .ask => book.yesBestAsk
  | .no, .bid => book.noBestBid
  | .no, .ask => book.noBestAsk

def PredictionOrderBook.setBestPrice (book : PredictionOrderBook) (outcome : PredictionOutcome)
    (side : OrderSide) (price : Option Nat) : PredictionOrderBook :=
  match outcome, side with
  | .yes, .bid => { book with yesBestBid := price }
  | .yes, .ask => { book with yesBestAsk := price }
  | .no, .bid => { book with noBestBid := price }
  | .no, .ask => { book with noBestAsk := price }

def OrderSide.opposite : OrderSide → OrderSide
  | .bid => .ask
  | .ask => .bid

def OrderSide.NoLater (side : OrderSide) (first second : Nat) : Prop :=
  match side with
  | .bid => first ≥ second
  | .ask => first ≤ second

instance (side : OrderSide) (first second : Nat) : Decidable (side.NoLater first second) :=
  match side with
  | .bid => inferInstanceAs (Decidable (first ≥ second))
  | .ask => inferInstanceAs (Decidable (first ≤ second))

def loadPredictionBook (prediction : Prediction) (market : Pubkey) :
    Result (Account PredictionOrderBook) := do
  let book ← load prediction.books (.predictionBook market)
  require (book.val.market = market) .predictionBookMarketMismatch
  pure book

/-! ## Resting orders -/

/-- The next order identifier and open-order count of an admitted order. -/
def validateRestingOrder (market : PredictionMarket) (book : PredictionOrderBook) (now : Int)
    (orderId : Nat) (outcome : PredictionOutcome) (side : OrderSide) (price quantity : Nat) :
    Result (Nat × Nat) := do
  require (market.status = .opened ∧ now < market.closeTs) .predictionOrderUnavailable
  require (quantity > 0) .invalidPredictionContractQuantity
  require (price > 0 ∧ price < market.payoutPerContract ∧ market.priceTick > 0)
    .invalidPredictionOrderPrice
  require (market.priceTick ∣ price) .invalidPredictionOrderPrice
  require (orderId > 0 ∧ orderId = book.nextOrderId) .invalidPredictionOrderId
  require (∀ other ∈ book.bestPrice outcome side.opposite, side.Precedes other price)
    .predictionOrderWouldCross
  let nextOrderId ← checkedAdd book.nextOrderId 1 .predictionAccountingOverflow
  let openOrderCount ← checkedAdd market.openOrderCount 1 .predictionAccountingOverflow
  pure (nextOrderId, openOrderCount)

/-- The free and the locked bucket that back an order: collateral for a bid, contracts of the
outcome for an ask. -/
def PredictionPosition.buckets (position : PredictionPosition) :
    PredictionOutcome → OrderSide → Nat × Nat
  | _, .bid => (position.collateralFree, position.collateralLocked)
  | .yes, .ask => (position.yesFree, position.yesLocked)
  | .no, .ask => (position.noFree, position.noLocked)

def PredictionPosition.setBuckets (position : PredictionPosition) (outcome : PredictionOutcome)
    (side : OrderSide) (free locked : Nat) : PredictionPosition :=
  match outcome, side with
  | _, .bid => { position with collateralFree := free, collateralLocked := locked }
  | .yes, .ask => { position with yesFree := free, yesLocked := locked }
  | .no, .ask => { position with noFree := free, noLocked := locked }

/-- The exact backing of a resting quantity: no notional is rounded. -/
def backing (side : OrderSide) (price quantity : Nat) (overflow : TidebookError) : Result Nat :=
  match side with
  | .bid => checkedMul price quantity overflow
  | .ask => pure quantity

def lockRestingFunds (position : PredictionPosition) (outcome : PredictionOutcome)
    (side : OrderSide) (price quantity : Nat) : Result (PredictionPosition × Nat) := do
  let amount ← backing side price quantity .predictionAccountingOverflow
  let (free, locked) := position.buckets outcome side
  let nextFree ← checkedSub free amount
    (match side with
      | .bid => .insufficientFreeBalance
      | .ask => .insufficientPredictionPositions)
  let nextLocked ← checkedAdd locked amount .lockedBalanceOverflow
  pure (position.setBuckets outcome side nextFree nextLocked, amount)

/-- A newly submitted order, fully open and behind `previous` in its queue. -/
def newPredictionOrder (owner market : Pubkey) (orderId : Nat) (outcome : PredictionOutcome)
    (side : OrderSide) (price quantity lockedCollateral : Nat) (previous : Option Pubkey) :
    PredictionOrder where
  owner := owner
  market := market
  orderId := orderId
  outcome := outcome
  side := side
  price := price
  priceLevel := .predictionLevel market outcome side price
  previousOrder := previous
  nextOrder := none
  quantity := quantity
  remainingQuantity := quantity
  lockedCollateral := lockedCollateral
  status := .opened

/-- A level opened by its first order, between the two adjacent prices. -/
def newPredictionLevel (owner market : Pubkey) (outcome : PredictionOutcome) (side : OrderSide)
    (price quantity : Nat) (order : Pubkey) (better worse : Option Nat) :
    PredictionPriceLevel where
  market := market
  outcome := outcome
  side := side
  price := price
  betterPrice := better
  worsePrice := worse
  firstOrder := some order
  lastOrder := some order
  totalRemainingQuantity := quantity
  orderCount := 1
  rentPayer := owner

def PredictionPriceLevel.setWorse (price : Option Nat) (level : PredictionPriceLevel) :
    PredictionPriceLevel :=
  { level with worsePrice := price }

def PredictionPriceLevel.setBetter (price : Option Nat) (level : PredictionPriceLevel) :
    PredictionPriceLevel :=
  { level with betterPrice := price }

def PredictionOrder.setNext (order : Option Pubkey) (record : PredictionOrder) :
    PredictionOrder :=
  { record with nextOrder := order }

def PredictionOrder.setPrevious (order : Option Pubkey) (record : PredictionOrder) :
    PredictionOrder :=
  { record with previousOrder := order }

/-! ## Placement on an empty side -/

def handlePlacePredictionOrder (prediction : Prediction) (now : Int) (owner : Wallet)
    (market : Pubkey) (orderId : Nat) (outcome : PredictionOutcome) (side : OrderSide)
    (price quantity : Nat) : Result Prediction := do
  let market ← loadPredictionMarket prediction market
  let position ← loadPosition prediction market.key owner.key
  let book ← loadPredictionBook prediction market.key
  let level := Pubkey.predictionLevel market.key outcome side price
  vacant prediction.levels level
  let order := Pubkey.predictionOrder market.key orderId
  vacant prediction.orders order
  let (nextOrderId, openOrderCount) ←
    validateRestingOrder market.val book.val now orderId outcome side price quantity
  require (book.val.bestPrice outcome side = none) .predictionSideNotEmpty
  let (locked, amount) ← lockRestingFunds position.val outcome side price quantity
  pure { prediction with
    markets := prediction.markets.set market.key
      { market.val with openOrderCount := openOrderCount }
    positions := prediction.positions.set position.key locked
    books := prediction.books.set book.key
      { book.val.setBestPrice outcome side (some price) with nextOrderId := nextOrderId }
    levels := prediction.levels.set level
      (newPredictionLevel owner.key market.key outcome side price quantity order none none)
    orders := prediction.orders.set order
      (newPredictionOrder owner.key market.key orderId outcome side price quantity amount none) }

/-! ## Insertion -/

/-- A price neighbour must be a live canonical level of the list, best exactly when the book
says so. -/
def validateNeighbor (market : Pubkey) (outcome : PredictionOutcome) (side : OrderSide)
    (best : Nat) (level : Account PredictionPriceLevel) : Result Unit :=
  require (level.key = .predictionLevel market outcome side level.val.price ∧
    level.val.market = market ∧ level.val.outcome = outcome ∧ level.val.side = side ∧
    level.val.orderCount > 0 ∧ level.val.totalRemainingQuantity > 0 ∧
    level.val.firstOrder.isSome ∧ level.val.lastOrder.isSome ∧
    (level.val.price = best ↔ level.val.betterPrice = none) ∧
    side.NoLater best level.val.price) .invalidPredictionPriceLevel

/-- The supplied levels are adjacent and enclose the new price. -/
def predictionAdjacent (side : OrderSide) (price best : Nat) :
    Option PredictionPriceLevel → Option PredictionPriceLevel → Bool
  | none, some worse =>
      worse.price = best ∧ worse.betterPrice = none ∧ side.Precedes price worse.price
  | some better, some worse =>
      better.worsePrice = some worse.price ∧ worse.betterPrice = some better.price ∧
        side.Precedes better.price price ∧ side.Precedes price worse.price
  | some better, none => better.worsePrice = none ∧ side.Precedes better.price price
  | none, none => false

/-- Runs a check on a supplied optional account. -/
def forSupplied {α : Type} (account : Option (Account α)) (check : Account α → Result Unit) :
    Result Unit :=
  match account with
  | some account => check account
  | none => pure ()

theorem forSupplied_eq_ok {α : Type} {account : Option (Account α)}
    {check : Account α → Result Unit} {done : Unit} :
    forSupplied account check = .ok done ↔ ∀ value ∈ account, check value = .ok () := by
  cases account <;> simp [forSupplied]

def handleInsertPredictionOrder (prediction : Prediction) (now : Int) (owner : Wallet)
    (market : Pubkey) (betterLevel worseLevel : Option Pubkey) (orderId : Nat)
    (outcome : PredictionOutcome) (side : OrderSide) (price quantity : Nat) :
    Result Prediction := do
  let market ← loadPredictionMarket prediction market
  let position ← loadPosition prediction market.key owner.key
  let book ← loadPredictionBook prediction market.key
  let level := Pubkey.predictionLevel market.key outcome side price
  vacant prediction.levels level
  let order := Pubkey.predictionOrder market.key orderId
  vacant prediction.orders order
  let better ← loadOption prediction.levels betterLevel
  let worse ← loadOption prediction.levels worseLevel
  let (nextOrderId, openOrderCount) ←
    validateRestingOrder market.val book.val now orderId outcome side price quantity
  let best ← okOr (book.val.bestPrice outcome side) .invalidPredictionPriceLevel
  forSupplied better (validateNeighbor market.key outcome side best)
  forSupplied worse (validateNeighbor market.key outcome side best)
  require (predictionAdjacent side price best (better.map Account.val) (worse.map Account.val))
    .invalidPredictionPriceLevel
  let (locked, amount) ← lockRestingFunds position.val outcome side price quantity
  let headed := if better.isNone then book.val.setBestPrice outcome side (some price) else book.val
  pure { prediction with
    markets := prediction.markets.set market.key
      { market.val with openOrderCount := openOrderCount }
    positions := prediction.positions.set position.key locked
    books := prediction.books.set book.key { headed with nextOrderId := nextOrderId }
    levels := saveOption (saveOption
      (prediction.levels.set level (newPredictionLevel owner.key market.key outcome side price
        quantity order (better.map fun value => value.val.price)
        (worse.map fun value => value.val.price)))
      (better.map (Account.map (PredictionPriceLevel.setWorse (some price)))))
      (worse.map (Account.map (PredictionPriceLevel.setBetter (some price))))
    orders := prediction.orders.set order
      (newPredictionOrder owner.key market.key orderId outcome side price quantity amount none) }

/-! ## Append -/

/-- The level a queue instruction acts on, found by its seeds. -/
def loadPredictionLevel (prediction : Prediction) (market : Pubkey) (outcome : PredictionOutcome)
    (side : OrderSide) (price : Nat) : Result (Account PredictionPriceLevel) := do
  let level ← load prediction.levels (.predictionLevel market outcome side price)
  require (level.val.market = market) .invalidPredictionPriceLevel
  require (level.val.outcome = outcome ∧ level.val.side = side ∧ level.val.price = price)
    .invalidPredictionPriceLevel
  pure level

/-- The supplied tail is the level's last open order. -/
def checkTail (market : Pubkey) (outcome : PredictionOutcome) (side : OrderSide)
    (price orderId : Nat) (level : Account PredictionPriceLevel) (tail : Account PredictionOrder) :
    Result Unit := do
  require (level.val.orderCount > 0 ∧ level.val.firstOrder.isSome ∧
    level.val.lastOrder = some tail.key) .invalidPredictionTail
  require (tail.val.market = market ∧ tail.val.priceLevel = level.key ∧
    tail.val.outcome = outcome ∧ tail.val.side = side ∧ tail.val.price = price ∧
    tail.val.status = .opened ∧ tail.val.remainingQuantity > 0 ∧
    tail.val.remainingQuantity ≤ tail.val.quantity ∧ tail.val.nextOrder = none ∧
    tail.val.orderId > 0 ∧ tail.val.orderId < orderId) .invalidPredictionTail
  if level.val.orderCount = 1 then
    require (level.val.firstOrder = some tail.key ∧ tail.val.previousOrder = none ∧
      level.val.totalRemainingQuantity = tail.val.remainingQuantity) .invalidPredictionTail
  else
    require (level.val.firstOrder ≠ some tail.key ∧ tail.val.previousOrder.isSome ∧
      tail.val.previousOrder ≠ some tail.key ∧
      level.val.totalRemainingQuantity ≥ tail.val.remainingQuantity) .invalidPredictionTail

def PredictionPriceLevel.append (level : PredictionPriceLevel) (order : Pubkey)
    (quantity : Nat) : Result PredictionPriceLevel := do
  let total ← checkedAdd level.totalRemainingQuantity quantity .predictionAccountingOverflow
  let count ← checkedAdd level.orderCount 1 .predictionAccountingOverflow
  pure { level with lastOrder := some order, totalRemainingQuantity := total, orderCount := count }

def handleAppendPredictionOrder (prediction : Prediction) (now : Int) (owner : Wallet)
    (market tailOrder : Pubkey) (orderId : Nat) (outcome : PredictionOutcome) (side : OrderSide)
    (price quantity : Nat) : Result Prediction := do
  let market ← loadPredictionMarket prediction market
  let position ← loadPosition prediction market.key owner.key
  let book ← loadPredictionBook prediction market.key
  let level ← loadPredictionLevel prediction market.key outcome side price
  let tail ← load prediction.orders tailOrder
  require (tail.key = .predictionOrder market.key tail.val.orderId) .constraintSeeds
  let order := Pubkey.predictionOrder market.key orderId
  vacant prediction.orders order
  let (nextOrderId, openOrderCount) ←
    validateRestingOrder market.val book.val now orderId outcome side price quantity
  let best ← okOr (book.val.bestPrice outcome side) .invalidPredictionPriceLevel
  require ((best = price ↔ level.val.betterPrice = none) ∧ side.NoLater best price)
    .invalidPredictionPriceLevel
  checkTail market.key outcome side price orderId level tail
  let appended ← level.val.append order quantity
  let (locked, amount) ← lockRestingFunds position.val outcome side price quantity
  pure { prediction with
    markets := prediction.markets.set market.key
      { market.val with openOrderCount := openOrderCount }
    positions := prediction.positions.set position.key locked
    books := prediction.books.set book.key { book.val with nextOrderId := nextOrderId }
    levels := prediction.levels.set level.key appended
    orders := (prediction.orders.set order
      (newPredictionOrder owner.key market.key orderId outcome side price quantity amount
        (some tail.key))).set tail.key (tail.val.setNext (some order)) }

/-! ## Cancellation -/

structure CancelPredictionOrder where
  owner : Wallet
  market : Pubkey
  previousOrder : Option Pubkey
  nextOrder : Option Pubkey
  betterLevel : Option Pubkey
  worseLevel : Option Pubkey
  levelRentRecipient : Option Pubkey

def loadOwnPredictionOrder (prediction : Prediction) (owner : Wallet) (market : Pubkey)
    (orderId : Nat) : Result (Account PredictionOrder) := do
  let order ← load prediction.orders (.predictionOrder market orderId)
  require (order.val.owner = owner.key) .unauthorizedPredictionOrderOwner
  require (order.val.market = market) .predictionPositionMarketMismatch
  pure order

/-- A FIFO neighbour: an open canonical order of the same queue that points back. -/
def validateFifoNeighbor (order : Account PredictionOrder) (previous : Bool)
    (neighbor : Account PredictionOrder) : Result Unit :=
  require (neighbor.key = .predictionOrder order.val.market neighbor.val.orderId ∧
    neighbor.val.market = order.val.market ∧ neighbor.val.outcome = order.val.outcome ∧
    neighbor.val.side = order.val.side ∧ neighbor.val.price = order.val.price ∧
    neighbor.val.priceLevel = order.val.priceLevel ∧ neighbor.val.status = .opened ∧
    neighbor.val.remainingQuantity > 0 ∧
    neighbor.val.remainingQuantity ≤ neighbor.val.quantity ∧
    (if previous then
      neighbor.val.nextOrder = some order.key ∧ neighbor.val.orderId < order.val.orderId
    else neighbor.val.previousOrder = some order.key ∧ neighbor.val.orderId > order.val.orderId))
    .invalidPredictionOrderNeighbor

/-- A price neighbour of an emptied level that points back at it. -/
def validatePriceNeighbor (level : Account PredictionPriceLevel) (best : Nat) (better : Bool)
    (neighbor : Account PredictionPriceLevel) : Result Unit :=
  require (neighbor.key = .predictionLevel level.val.market level.val.outcome level.val.side
      neighbor.val.price ∧
    neighbor.val.market = level.val.market ∧ neighbor.val.outcome = level.val.outcome ∧
    neighbor.val.side = level.val.side ∧ neighbor.val.orderCount > 0 ∧
    neighbor.val.totalRemainingQuantity > 0 ∧ neighbor.val.firstOrder.isSome ∧
    neighbor.val.lastOrder.isSome ∧ (best = neighbor.val.price ↔ neighbor.val.betterPrice = none) ∧
    (if better then
      neighbor.val.worsePrice = some level.val.price ∧
        level.val.side.Precedes neighbor.val.price level.val.price
    else neighbor.val.betterPrice = some level.val.price ∧
      level.val.side.Precedes level.val.price neighbor.val.price)) .invalidPredictionPriceLevel

/-- The order is open, within its own bounds, and exactly backed. -/
def checkBackedOrder (order : PredictionOrder) (orderId nextOrderId : Nat) : Result Unit := do
  require (order.status = .opened) .predictionOrderNotOpen
  require (orderId = order.orderId ∧ orderId > 0 ∧ orderId < nextOrderId ∧
    order.remainingQuantity > 0 ∧ order.remainingQuantity ≤ order.quantity ∧ order.price > 0)
    .predictionOrderAccountingMismatch
  let expectedLock ← backing order.side order.price order.remainingQuantity
    .predictionOrderAccountingMismatch
  require (order.lockedCollateral = expectedLock) .predictionOrderAccountingMismatch

/-- The supplied FIFO neighbours are the order's own, at the level's ends where there is none. -/
def checkFifo (order : Account PredictionOrder) (level : PredictionPriceLevel)
    (previous next : Option (Account PredictionOrder)) : Result Unit := do
  require (previous.map Account.key = order.val.previousOrder ∧
    next.map Account.key = order.val.nextOrder ∧ previous.map Account.key ≠ some order.key ∧
    next.map Account.key ≠ some order.key) .invalidPredictionOrderNeighbor
  require ((level.firstOrder = some order.key ↔ previous.isNone) ∧
    (level.lastOrder = some order.key ↔ next.isNone) ∧ level.firstOrder.isSome ∧
    level.lastOrder.isSome) .invalidPredictionOrderNeighbor
  forSupplied previous (validateFifoNeighbor order true)
  forSupplied next (validateFifoNeighbor order false)

/-- What the price list must look like when the canceled order was or was not the last at its
price. -/
def checkPriceRemoval (order : Account PredictionOrder) (level : Account PredictionPriceLevel)
    (best count total : Nat) (previous next : Option (Account PredictionOrder))
    (better worse : Option (Account PredictionPriceLevel)) (recipient : Option Pubkey) :
    Result Unit :=
  if count = 0 then do
    require (previous.isNone ∧ next.isNone ∧ total = 0) .predictionOrderAccountingMismatch
    let recipient ← okOr recipient .invalidPredictionRentRecipient
    require (recipient = level.val.rentPayer) .invalidPredictionRentRecipient
    require
      (better.map Account.key = level.val.betterPrice.map
        (Pubkey.predictionLevel order.val.market order.val.outcome order.val.side) ∧
      worse.map Account.key = level.val.worsePrice.map
        (Pubkey.predictionLevel order.val.market order.val.outcome order.val.side))
      .invalidPredictionPriceLevel
    forSupplied better (validatePriceNeighbor level best true)
    forSupplied worse (validatePriceNeighbor level best false)
  else do
    require (total > 0 ∧ (previous.isSome ∨ next.isSome)) .predictionOrderAccountingMismatch
    require (better.isNone ∧ worse.isNone ∧ recipient = none) .invalidPredictionPriceLevel

def PredictionPosition.unlock (position : PredictionPosition) (outcome : PredictionOutcome)
    (side : OrderSide) (amount : Nat) : Result PredictionPosition := do
  let (free, locked) := position.buckets outcome side
  let newFree ← checkedAdd free amount .freeBalanceOverflow
  let newLocked ← checkedSub locked amount .lockedBalanceUnderflow
  pure (position.setBuckets outcome side newFree newLocked)

/-- The level record after one order, at the given ends, has left its queue. -/
def PredictionPriceLevel.unlink (level : PredictionPriceLevel) (previous next : Option Pubkey)
    (count total : Nat) : PredictionPriceLevel :=
  { level with
    firstOrder := if previous = none then next else level.firstOrder
    lastOrder := if next = none then previous else level.lastOrder
    orderCount := count
    totalRemainingQuantity := total }

def handleCancelPredictionOrder (prediction : Prediction) (accounts : CancelPredictionOrder)
    (orderId : Nat) : Result Prediction := do
  let market ← loadPredictionMarket prediction accounts.market
  let position ← loadPosition prediction market.key accounts.owner.key
  let book ← loadPredictionBook prediction market.key
  let order ← loadOwnPredictionOrder prediction accounts.owner market.key orderId
  let level ← loadPredictionLevel prediction market.key order.val.outcome order.val.side
    order.val.price
  require (order.val.priceLevel = level.key) .invalidPredictionPriceLevel
  let previous ← loadOption prediction.orders accounts.previousOrder
  let next ← loadOption prediction.orders accounts.nextOrder
  let better ← loadOption prediction.levels accounts.betterLevel
  let worse ← loadOption prediction.levels accounts.worseLevel
  checkBackedOrder order.val orderId book.val.nextOrderId
  checkFifo order level.val previous next
  let best ← okOr (book.val.bestPrice order.val.outcome order.val.side) .invalidPredictionPriceLevel
  require ((best = level.val.price ↔ level.val.betterPrice = none) ∧
    order.val.side.NoLater best level.val.price) .invalidPredictionPriceLevel
  let count ← checkedSub level.val.orderCount 1 .predictionOrderAccountingMismatch
  let total ← checkedSub level.val.totalRemainingQuantity order.val.remainingQuantity
    .predictionOrderAccountingMismatch
  let openOrderCount ← checkedSub market.val.openOrderCount 1 .predictionOrderAccountingMismatch
  checkPriceRemoval order level best count total previous next better worse
    accounts.levelRentRecipient
  let released ← position.val.unlock order.val.outcome order.val.side order.val.lockedCollateral
  pure { prediction with
    markets := prediction.markets.set market.key
      { market.val with openOrderCount := openOrderCount }
    positions := prediction.positions.set position.key released
    books := prediction.books.set book.key
      (if count = 0 ∧ better.isNone then
        book.val.setBestPrice order.val.outcome order.val.side level.val.worsePrice else book.val)
    orders := saveOption (saveOption
      (prediction.orders.set order.key { order.val with
        status := .canceled, remainingQuantity := 0, lockedCollateral := 0
        previousOrder := none, nextOrder := none })
      (previous.map (Account.map (PredictionOrder.setNext (next.map Account.key)))))
      (next.map (Account.map (PredictionOrder.setPrevious (previous.map Account.key))))
    levels := saveOption (saveOption
      (if count = 0 then prediction.levels.erase level.key
        else prediction.levels.set level.key
          (level.val.unlink (previous.map Account.key) (next.map Account.key) count total))
      (better.map (Account.map (PredictionPriceLevel.setWorse level.val.worsePrice))))
      (worse.map (Account.map (PredictionPriceLevel.setBetter level.val.betterPrice))) }

/-! ## Matching -/

structure MatchPredictionOrder where
  taker : Wallet
  market : Pubkey
  makerOrder : Pubkey
  nextOrder : Option Pubkey
  worseLevel : Option Pubkey
  levelRentRecipient : Option Pubkey

def loadPredictionFees (prediction : Prediction) (market : Account PredictionMarket) :
    Result (Account MarketFees) := do
  let fees ← load prediction.fees (.marketFees market.key)
  require (fees.val.market = market.key) .marketFeesMarketMismatch
  require (fees.val.quoteMint = market.val.collateralMint) .marketFeesQuoteMintMismatch
  pure fees

/-- The maker the context admits: an order of this outcome, not the taker's own. -/
def loadPredictionMaker (prediction : Prediction) (market key : Pubkey)
    (outcome : PredictionOutcome) (taker : Wallet) : Result (Account PredictionOrder) := do
  let maker ← load prediction.orders key
  require (maker.key = .predictionOrder market maker.val.orderId) .constraintSeeds
  require (maker.val.market = market) .predictionPositionMarketMismatch
  require (maker.val.outcome = outcome) .invalidPredictionPriceLevel
  require (maker.val.owner ≠ taker.key) .predictionSelfTrade
  pure maker

/-- The taker's limit crosses the maker, who is first at the best price. -/
def checkMakerHead (takerSide : OrderSide) (limitPrice : Nat) (maker : Account PredictionOrder)
    (level : PredictionPriceLevel) (book : PredictionOrderBook) : Result Unit := do
  require (maker.val.status = .opened) .predictionOrderNotOpen
  require (maker.val.side ≠ takerSide) .predictionMatchingSameSide
  require (takerSide.NoLater limitPrice maker.val.price) .predictionOrdersDoNotCross
  require (book.bestPrice maker.val.outcome maker.val.side = some maker.val.price ∧
    level.betterPrice = none) .predictionMakerNotBest
  require (level.firstOrder = some maker.key ∧ maker.val.previousOrder = none)
    .predictionMakerNotHead

/-- The maker's own bounds, its exact backing, and the two ends of its queue. Returns the
backing. -/
def checkMakerBacking (market : PredictionMarket) (maker : Account PredictionOrder)
    (level : PredictionPriceLevel) (nextOrderId : Nat) : Result Nat := do
  require (maker.val.orderId > 0 ∧ maker.val.orderId < nextOrderId ∧
    maker.val.remainingQuantity > 0 ∧ maker.val.remainingQuantity ≤ maker.val.quantity ∧
    maker.val.price > 0 ∧ maker.val.price < market.payoutPerContract ∧
    market.priceTick ∣ maker.val.price ∧ level.orderCount > 0 ∧
    level.totalRemainingQuantity ≥ maker.val.remainingQuantity ∧ level.lastOrder.isSome)
    .predictionOrderAccountingMismatch
  let expectedBacking ← backing maker.val.side maker.val.price maker.val.remainingQuantity
    .predictionAccountingOverflow
  require (maker.val.lockedCollateral = expectedBacking) .predictionOrderAccountingMismatch
  (if level.orderCount = 1 then
    require (level.lastOrder = some maker.key ∧ maker.val.nextOrder = none ∧
      level.totalRemainingQuantity = maker.val.remainingQuantity)
      .predictionOrderAccountingMismatch
  else
    require (level.lastOrder ≠ some maker.key ∧ maker.val.nextOrder.isSome ∧
      maker.val.nextOrder ≠ some maker.key ∧
      level.totalRemainingQuantity > maker.val.remainingQuantity)
      .predictionOrderAccountingMismatch)
  pure expectedBacking

/-- The maker's successor, supplied exactly when it becomes the new head of the level. -/
def checkSuccessor (market : Pubkey) (maker : Account PredictionOrder) (level : Pubkey)
    (promoted : Prop) [Decidable promoted] (next : Option (Account PredictionOrder)) :
    Result Unit :=
  if promoted then do
    let next ← okOr next .invalidPredictionOrderNeighbor
    require (some next.key = maker.val.nextOrder ∧
      next.key = .predictionOrder market next.val.orderId ∧ next.val.market = market ∧
      next.val.outcome = maker.val.outcome ∧ next.val.side = maker.val.side ∧
      next.val.price = maker.val.price ∧ next.val.priceLevel = level ∧
      next.val.status = .opened ∧ next.val.previousOrder = some maker.key ∧
      next.val.orderId > maker.val.orderId ∧ next.val.remainingQuantity > 0 ∧
      next.val.remainingQuantity ≤ next.val.quantity) .invalidPredictionOrderNeighbor
  else require next.isNone .invalidPredictionOrderNeighbor

/-- The next price and the rent recipient, supplied exactly when the level is removed. -/
def checkWorse (market : Pubkey) (maker : PredictionOrder) (level : PredictionPriceLevel)
    (removesLevel : Prop) [Decidable removesLevel] (levelQuantity : Nat)
    (worse : Option (Account PredictionPriceLevel)) (recipient : Option Pubkey) : Result Unit :=
  if removesLevel then do
    require (levelQuantity = 0) .predictionOrderAccountingMismatch
    let recipient ← okOr recipient .invalidPredictionRentRecipient
    require (recipient = level.rentPayer) .invalidPredictionRentRecipient
    require (worse.map Account.key = level.worsePrice.map
      (Pubkey.predictionLevel market maker.outcome maker.side)) .invalidPredictionPriceLevel
    forSupplied worse fun worse =>
      require (worse.val.market = market ∧ worse.val.outcome = maker.outcome ∧
        worse.val.side = maker.side ∧ worse.val.betterPrice = some level.price ∧
        worse.val.orderCount > 0 ∧ worse.val.totalRemainingQuantity > 0 ∧
        worse.val.firstOrder.isSome ∧ worse.val.lastOrder.isSome ∧
        maker.side.Precedes maker.price worse.val.price) .invalidPredictionPriceLevel
  else require (worse.isNone ∧ recipient = none) .invalidPredictionPriceLevel

def PredictionPosition.contractsFree (position : PredictionPosition) : PredictionOutcome → Nat
  | .yes => position.yesFree
  | .no => position.noFree

def PredictionPosition.setContractsFree (position : PredictionPosition)
    (outcome : PredictionOutcome) (free : Nat) : PredictionPosition :=
  match outcome with
  | .yes => { position with yesFree := free }
  | .no => { position with noFree := free }

def PredictionPosition.contractsLocked (position : PredictionPosition) : PredictionOutcome → Nat
  | .yes => position.yesLocked
  | .no => position.noLocked

def PredictionPosition.setContractsLocked (position : PredictionPosition)
    (outcome : PredictionOutcome) (locked : Nat) : PredictionPosition :=
  match outcome with
  | .yes => { position with yesLocked := locked }
  | .no => { position with noLocked := locked }

def settlePositions (outcome : PredictionOutcome) (takerSide : OrderSide)
    (expectedBacking fill notional fee : Nat) (maker taker : PredictionPosition) :
    Result (PredictionPosition × PredictionPosition) :=
  match takerSide with
  | .bid => do
      require (maker.contractsLocked outcome ≥ expectedBacking) .predictionOrderAccountingMismatch
      let cost ← checkedAdd notional fee .predictionAccountingOverflow
      let takerCollateral ← checkedSub taker.collateralFree cost .insufficientFreeBalance
      let makerCollateral ← checkedAdd maker.collateralFree notional .freeBalanceOverflow
      let makerLocked ← checkedSub (maker.contractsLocked outcome) fill .lockedBalanceUnderflow
      let takerFree ← checkedAdd (taker.contractsFree outcome) fill .predictionAccountingOverflow
      pure ({ maker with collateralFree := makerCollateral }.setContractsLocked outcome makerLocked,
        { taker with collateralFree := takerCollateral }.setContractsFree outcome takerFree)
  | .ask => do
      require (maker.collateralLocked ≥ expectedBacking) .predictionOrderAccountingMismatch
      let takerFree ← checkedSub (taker.contractsFree outcome) fill
        .insufficientPredictionPositions
      let proceeds ← checkedSub notional fee .predictionOrderAccountingMismatch
      let takerCollateral ← checkedAdd taker.collateralFree proceeds .freeBalanceOverflow
      let makerCollateral ← checkedSub maker.collateralLocked notional .lockedBalanceUnderflow
      let makerFree ← checkedAdd (maker.contractsFree outcome) fill .predictionAccountingOverflow
      pure ({ maker with collateralLocked := makerCollateral }.setContractsFree outcome makerFree,
        { taker with collateralFree := takerCollateral }.setContractsFree outcome takerFree)

/-- The maker order after a fill; a completed one leaves the book. -/
def PredictionOrder.fill (order : PredictionOrder) (full : Bool) (remaining collateral : Nat) :
    PredictionOrder :=
  if full then { order with
    remainingQuantity := remaining, lockedCollateral := collateral
    previousOrder := none, nextOrder := none, status := .filled }
  else { order with remainingQuantity := remaining, lockedCollateral := collateral }

/-- The maker's level after a fill that does not empty it. -/
def PredictionPriceLevel.fill (level : PredictionPriceLevel) (full : Bool) (next : Option Pubkey)
    (total : Nat) : PredictionPriceLevel :=
  if full then
    { level with
      firstOrder := next, orderCount := level.orderCount - 1, totalRemainingQuantity := total }
  else { level with totalRemainingQuantity := total }

def handleMatchPredictionOrder (prediction : Prediction) (now : Int) (config : ProtocolConfig)
    (accounts : MatchPredictionOrder) (outcome : PredictionOutcome) (takerSide : OrderSide)
    (limitPrice quantity : Nat) : Result Prediction := do
  let market ← loadPredictionMarket prediction accounts.market
  let book ← loadPredictionBook prediction market.key
  let fees ← loadPredictionFees prediction market
  let maker ← loadPredictionMaker prediction market.key accounts.makerOrder outcome accounts.taker
  let level ← loadPredictionLevel prediction market.key outcome maker.val.side maker.val.price
  require (maker.val.priceLevel = level.key) .invalidPredictionPriceLevel
  let makerPosition ← loadPosition prediction market.key maker.val.owner
  let takerPosition ← loadPosition prediction market.key accounts.taker.key
  let next ← loadOption prediction.orders accounts.nextOrder
  let worse ← loadOption prediction.levels accounts.worseLevel
  require (market.val.status = .opened ∧ now < market.val.closeTs) .predictionOrderUnavailable
  require (quantity > 0) .invalidPredictionContractQuantity
  require (limitPrice > 0 ∧ limitPrice < market.val.payoutPerContract ∧ market.val.priceTick > 0 ∧
    market.val.priceTick ∣ limitPrice) .invalidPredictionOrderPrice
  checkMakerHead takerSide limitPrice maker level.val book.val
  let expectedBacking ← checkMakerBacking market.val maker level.val book.val.nextOrderId
  let fill := min quantity maker.val.remainingQuantity
  let notional ← checkedMul maker.val.price fill .predictionAccountingOverflow
  let fee ← calculateTakerFee notional config.takerFeeBps
  let accrued ← checkedAdd fees.val.accruedQuoteFees fee .feeAccrualOverflow
  let remaining := maker.val.remainingQuantity - fill
  let full := remaining = 0
  let removesLevel := full ∧ level.val.orderCount = 1
  let levelQuantity ← checkedSub level.val.totalRemainingQuantity fill
    .predictionOrderAccountingMismatch
  checkSuccessor market.key maker level.key (full ∧ ¬removesLevel) next
  checkWorse market.key maker.val level.val removesLevel levelQuantity worse
    accounts.levelRentRecipient
  let openOrderCount ← (if full then
      checkedSub market.val.openOrderCount 1 .predictionOrderAccountingMismatch
    else pure market.val.openOrderCount)
  let (makerSettled, takerSettled) ← settlePositions outcome takerSide expectedBacking fill notional
    fee makerPosition.val takerPosition.val
  let debit := if maker.val.side = .bid then notional else fill
  let collateral ← checkedSub maker.val.lockedCollateral debit .predictionOrderAccountingMismatch
  pure { prediction with
    markets := prediction.markets.set market.key
      { market.val with openOrderCount := openOrderCount }
    books := prediction.books.set book.key
      (if removesLevel then
        book.val.setBestPrice outcome maker.val.side level.val.worsePrice else book.val)
    fees := prediction.fees.set fees.key { fees.val with accruedQuoteFees := accrued }
    orders := saveOption
      (prediction.orders.set maker.key (maker.val.fill full remaining collateral))
      (next.map (Account.map (PredictionOrder.setPrevious none)))
    levels := saveOption
      (if removesLevel then prediction.levels.erase level.key
        else prediction.levels.set level.key
          (level.val.fill full maker.val.nextOrder levelQuantity))
      (worse.map (Account.map (PredictionPriceLevel.setBetter none)))
    positions := (prediction.positions.set makerPosition.key makerSettled).set takerPosition.key
      takerSettled }

end Tidebook.Program
