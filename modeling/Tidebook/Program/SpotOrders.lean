import Tidebook.Program.Market

/-! # Spot limit orders

Insertion at a new price, same-price append, cancellation and matching on one market's own book.
Every handler loads its accounts, checks and computes on the loaded copies, and saves the changed
ones in the order in which its context declares them.
-/

namespace Tidebook.Program
open Tidebook.Library

/-! ## Prices and heads -/

/-- The first price has strictly higher matching priority on this side. -/
def OrderSide.Precedes : OrderSide → Nat → Nat → Prop
  | .bid, first, second => second < first
  | .ask, first, second => first < second

instance (side : OrderSide) : DecidableRel side.Precedes := fun first second =>
  match side with
  | .bid => inferInstanceAs (Decidable (second < first))
  | .ask => inferInstanceAs (Decidable (first < second))

def Market.best (market : Market) : OrderSide → Option Nat
  | .bid => market.bestBid
  | .ask => market.bestAsk

def Market.setBest (market : Market) (side : OrderSide) (price : Option Nat) : Market :=
  match side with
  | .bid => { market with bestBid := price }
  | .ask => { market with bestAsk := price }

/-! ## Collateral -/

def Market.checkGrid (market : Market) (price quantity : Nat) : Result Unit := do
  require (price > 0) .invalidPrice
  require (quantity > 0) .invalidQuantity
  require (market.priceTickSize ∣ price) .priceNotOnTick
  require (market.quantityLotSize ∣ quantity) .quantityNotOnLot

/-- Base atoms for an ask, the floored notional for a bid; a worthless order is rejected. -/
def Market.collateral (market : Market) (side : OrderSide) (price quantity : Nat) :
    Result Nat := do
  let quoteNotional ← notional price quantity market.baseDecimals
  require (quoteNotional > 0) .orderNotionalTooSmall
  match side with
  | .ask => pure quantity
  | .bid => toU64 quoteNotional .orderNotionalOverflow

def TraderBalance.lock (balance : TraderBalance) (side : OrderSide) (amount : Nat) :
    Result TraderBalance :=
  match side with
  | .ask => do
      let free ← checkedSub balance.baseFree amount .insufficientFreeBalance
      let locked ← checkedAdd balance.baseLocked amount .lockedBalanceOverflow
      pure { balance with baseFree := free, baseLocked := locked }
  | .bid => do
      let free ← checkedSub balance.quoteFree amount .insufficientFreeBalance
      let locked ← checkedAdd balance.quoteLocked amount .lockedBalanceOverflow
      pure { balance with quoteFree := free, quoteLocked := locked }

def TraderBalance.unlock (balance : TraderBalance) (side : OrderSide) (amount : Nat) :
    Result TraderBalance :=
  match side with
  | .ask => do
      let free ← checkedAdd balance.baseFree amount .freeBalanceOverflow
      let locked ← checkedSub balance.baseLocked amount .lockedBalanceUnderflow
      pure { balance with baseFree := free, baseLocked := locked }
  | .bid => do
      let free ← checkedAdd balance.quoteFree amount .freeBalanceOverflow
      let locked ← checkedSub balance.quoteLocked amount .lockedBalanceUnderflow
      pure { balance with quoteFree := free, quoteLocked := locked }

/-! ## Insertion -/

def validateLevel (level : Account PriceLevel) (market : Pubkey) (side : OrderSide) :
    Result Unit := do
  require (level.val.market = market) .priceLevelMarketMismatch
  require (level.val.side = side) .priceLevelSideMismatch
  require (level.key = .priceLevel market side level.val.price) .noncanonicalPriceLevel

/-- The supplied levels enclose the new price in the side's list. -/
def checkAdjacency (market : Pubkey) (side : OrderSide) (price : Nat) (best : Option Nat)
    (better worse : Option (Account PriceLevel)) : Result Unit :=
  match best, better, worse with
  | none, none, none => pure ()
  | some best, none, some worse => do
      validateLevel worse market side
      require (worse.val.price = best) .bestPriceLevelMismatch
      require (worse.val.betterPrice = none) .bestPriceLevelMismatch
      require (side.Precedes price worse.val.price) .invalidPriceLevelOrdering
  | some _, some better, some worse => do
      validateLevel better market side
      validateLevel worse market side
      require (better.val.worsePrice = some worse.val.price) .invalidPriceLevelNeighbors
      require (worse.val.betterPrice = some better.val.price) .invalidPriceLevelNeighbors
      require (side.Precedes better.val.price price ∧ side.Precedes price worse.val.price)
        .invalidPriceLevelOrdering
  | some _, some better, none => do
      validateLevel better market side
      require (better.val.worsePrice = none) .invalidPriceLevelNeighbors
      require (side.Precedes better.val.price price) .invalidPriceLevelOrdering
  | _, _, _ => throw .invalidPriceLevelNeighbors

def PriceLevel.setWorse (price : Option Nat) (level : PriceLevel) : PriceLevel :=
  { level with worsePrice := price }

def PriceLevel.setBetter (price : Option Nat) (level : PriceLevel) : PriceLevel :=
  { level with betterPrice := price }

def Order.setNext (order : Option Pubkey) (record : Order) : Order :=
  { record with nextOrder := order }

def Order.setPrevious (order : Option Pubkey) (record : Order) : Order :=
  { record with previousOrder := order }

/-- A newly submitted order, fully open and behind `previous` in its queue. -/
def newOrder (owner market : Pubkey) (orderId : Nat) (side : OrderSide) (price quantity : Nat)
    (lockedCollateral : Nat) (previous : Option Pubkey) : Order where
  owner := owner
  market := market
  orderId := orderId
  side := side
  price := price
  priceLevel := .priceLevel market side price
  previousOrder := previous
  nextOrder := none
  quantity := quantity
  remainingQuantity := quantity
  lockedCollateral := lockedCollateral
  status := .opened

/-- A level opened by its first order, between the two adjacent prices. -/
def newLevel (owner market : Pubkey) (side : OrderSide) (price quantity : Nat) (order : Pubkey)
    (better worse : Option Nat) : PriceLevel where
  market := market
  side := side
  price := price
  betterPrice := better
  worsePrice := worse
  firstOrder := some order
  lastOrder := some order
  totalRemainingQuantity := quantity
  orderCount := 1
  rentPayer := owner

def Market.submit (market : Market) : Result Market := do
  let nextOrderId ← checkedAdd market.nextOrderId 1 .orderIdOverflow
  let openOrderCount ← checkedAdd market.openOrderCount 1 .openOrderCountOverflow
  pure { market with nextOrderId := nextOrderId, openOrderCount := openOrderCount }

def handleInsertLimitOrder (spot : Spot) (trader : Wallet) (market : Pubkey)
    (betterLevel worseLevel : Option Pubkey) (side : OrderSide) (price quantity : Nat) :
    Result Spot := do
  let market ← load spot.markets market
  require (market.val.status = .active) .marketNotActive
  let order := Pubkey.order market.key market.val.nextOrderId
  vacant spot.orders order
  let level := Pubkey.priceLevel market.key side price
  vacant spot.levels level
  let balance ← loadTraderBalance spot market.key trader.key
  let better ← loadOption spot.levels betterLevel
  let worse ← loadOption spot.levels worseLevel
  market.val.checkGrid price quantity
  checkAdjacency market.key side price (market.val.best side) better worse
  let lockedCollateral ← market.val.collateral side price quantity
  let locked ← balance.val.lock side lockedCollateral
  let submitted ← market.val.submit
  pure { spot with
    markets := spot.markets.set market.key
      (if better.isNone then submitted.setBest side (some price) else submitted)
    orders := spot.orders.set order
      (newOrder trader.key market.key market.val.nextOrderId side price quantity
        lockedCollateral none)
    levels := saveOption (saveOption
      (spot.levels.set level (newLevel trader.key market.key side price quantity order
        (better.map fun value => value.val.price) (worse.map fun value => value.val.price)))
      (better.map (Account.map (PriceLevel.setWorse (some price)))))
      (worse.map (Account.map (PriceLevel.setBetter (some price))))
    balances := spot.balances.set balance.key locked }

/-! ## Append -/

/-- The level a queue instruction acts on, found by its seeds. -/
def loadPriceLevel (spot : Spot) (market : Pubkey) (side : OrderSide) (price : Nat) :
    Result (Account PriceLevel) := do
  let level ← load spot.levels (.priceLevel market side price)
  require (level.val.market = market) .priceLevelMarketMismatch
  require (level.val.side = side) .priceLevelSideMismatch
  require (level.val.price = price) .priceLevelPriceMismatch
  pure level

def PriceLevel.append (level : PriceLevel) (order : Pubkey) (quantity : Nat) :
    Result PriceLevel := do
  let total ← checkedAdd level.totalRemainingQuantity quantity .priceLevelQuantityOverflow
  let count ← checkedAdd level.orderCount 1 .priceLevelOrderCountOverflow
  pure { level with lastOrder := some order, totalRemainingQuantity := total, orderCount := count }

def handleAppendLimitOrder (spot : Spot) (trader : Wallet) (market previousOrder : Pubkey)
    (side : OrderSide) (price quantity : Nat) : Result Spot := do
  let market ← load spot.markets market
  require (market.val.status = .active) .marketNotActive
  let order := Pubkey.order market.key market.val.nextOrderId
  vacant spot.orders order
  let level ← loadPriceLevel spot market.key side price
  let previous ← load spot.orders previousOrder
  require (level.val.lastOrder = some previous.key) .invalidPriceLevelTail
  require (previous.val.priceLevel = level.key) .orderPriceLevelMismatch
  require (previous.val.status = .opened) .orderNotOpen
  require (previous.val.nextOrder = none) .invalidPriceLevelTail
  let balance ← loadTraderBalance spot market.key trader.key
  market.val.checkGrid price quantity
  let lockedCollateral ← market.val.collateral side price quantity
  let locked ← balance.val.lock side lockedCollateral
  let submitted ← market.val.submit
  let appended ← level.val.append order quantity
  pure { spot with
    markets := spot.markets.set market.key submitted
    orders := (spot.orders.set order
      (newOrder trader.key market.key market.val.nextOrderId side price quantity
        lockedCollateral (some previous.key))).set previous.key
      (previous.val.setNext (some order))
    levels := spot.levels.set level.key appended
    balances := spot.balances.set balance.key locked }

/-! ## Cancellation -/

/-- The canceled order's FIFO neighbours are its own and point back at it. -/
def checkQueueNeighbors (order : Account Order) (level : Pubkey)
    (previous next : Option (Account Order)) : Result Unit := do
  require (order.val.previousOrder = previous.map Account.key) .invalidOrderNeighbor
  require (order.val.nextOrder = next.map Account.key) .invalidOrderNeighbor
  require (∀ value ∈ previous, value.val.status = .opened) .orderNotOpen
  require (∀ value ∈ previous, value.val.priceLevel = level) .orderPriceLevelMismatch
  require (∀ value ∈ previous, value.val.nextOrder = some order.key) .brokenOrderQueueLink
  require (∀ value ∈ next, value.val.status = .opened) .orderNotOpen
  require (∀ value ∈ next, value.val.priceLevel = level) .orderPriceLevelMismatch
  require (∀ value ∈ next, value.val.previousOrder = some order.key) .brokenOrderQueueLink

/-- An emptied level's price neighbours and rent recipient are the stored ones. -/
def checkLevelRemoval (market : Account Market) (order : Account Order)
    (level : Account PriceLevel) (total : Nat) (better worse : Option (Account PriceLevel))
    (recipient : Option Pubkey) : Result Unit := do
  require (order.val.previousOrder = none ∧ order.val.nextOrder = none) .invalidPriceLevelEndpoints
  require (level.val.firstOrder = some order.key ∧ level.val.lastOrder = some order.key)
    .invalidPriceLevelEndpoints
  require (total = 0) .invalidPriceLevelAggregate
  require (level.val.betterPrice = none → market.val.best order.val.side = some level.val.price)
    .bestPriceLevelMismatch
  let recipient ← okOr recipient .invalidPriceLevelRentRecipient
  require (recipient = level.val.rentPayer) .invalidPriceLevelRentRecipient
  require
    (better.map Account.key =
      level.val.betterPrice.map (Pubkey.priceLevel market.key order.val.side) ∧
    worse.map Account.key =
      level.val.worsePrice.map (Pubkey.priceLevel market.key order.val.side))
    .invalidPriceLevelNeighbors

/-- A price neighbour at its expected price that points back at the level. -/
def checkPriceNeighbor (market : Pubkey) (side : OrderSide) (expected : Option Nat)
    (neighbor : Option (Account PriceLevel)) (back : PriceLevel → Option Nat) (price : Nat) :
    Result Unit :=
  match neighbor, expected with
  | some neighbor, some expected => do
      require (neighbor.val.market = market) .priceLevelMarketMismatch
      require (neighbor.val.side = side ∧ neighbor.val.price = expected ∧
        back neighbor.val = some price) .invalidPriceLevelNeighbors
  | _, _ => pure ()

/-- The level record after one order, at the given ends, has left its queue. -/
def PriceLevel.unlink (level : PriceLevel) (previous next : Option Pubkey) (count total : Nat) :
    PriceLevel :=
  { level with
    firstOrder := if previous = none then next else level.firstOrder
    lastOrder := if next = none then previous else level.lastOrder
    orderCount := count
    totalRemainingQuantity := total }

def loadOwnOrder (spot : Spot) (owner : Wallet) (market : Pubkey) (orderId : Nat) :
    Result (Account Order) := do
  let order ← load spot.orders (.order market orderId)
  require (order.val.owner = owner.key) .unauthorizedOrderOwner
  require (order.val.market = market) .orderMarketMismatch
  pure order

structure CancelLimitOrder where
  owner : Wallet
  market : Pubkey
  previousOrder : Option Pubkey
  nextOrder : Option Pubkey
  betterLevel : Option Pubkey
  worseLevel : Option Pubkey
  levelRentRecipient : Option Pubkey

def handleCancelLimitOrder (spot : Spot) (accounts : CancelLimitOrder) (orderId : Nat) :
    Result Spot := do
  let market ← load spot.markets accounts.market
  let order ← loadOwnOrder spot accounts.owner market.key orderId
  let level ← loadPriceLevel spot market.key order.val.side order.val.price
  require (order.val.priceLevel = level.key) .orderPriceLevelMismatch
  let previous ← loadOption spot.orders accounts.previousOrder
  let next ← loadOption spot.orders accounts.nextOrder
  let better ← loadOption spot.levels accounts.betterLevel
  let worse ← loadOption spot.levels accounts.worseLevel
  let balance ← loadTraderBalance spot market.key accounts.owner.key
  require (order.val.status = .opened) .orderNotOpen
  checkQueueNeighbors order level.key previous next
  let released ← balance.val.unlock order.val.side order.val.lockedCollateral
  let openOrderCount ← checkedSub market.val.openOrderCount 1 .openOrderCountUnderflow
  let count ← checkedSub level.val.orderCount 1 .priceLevelOrderCountUnderflow
  let total ← checkedSub level.val.totalRemainingQuantity order.val.remainingQuantity
    .priceLevelQuantityUnderflow
  require (count ≠ 0 → better.isNone ∧ worse.isNone ∧ accounts.levelRentRecipient = none)
    .invalidPriceLevelNeighbors
  (if count = 0 then
    checkLevelRemoval market order level total better worse accounts.levelRentRecipient
    else pure ())
  checkPriceNeighbor market.key order.val.side level.val.betterPrice better PriceLevel.worsePrice
    level.val.price
  checkPriceNeighbor market.key order.val.side level.val.worsePrice worse PriceLevel.betterPrice
    level.val.price
  let counted := { market.val with openOrderCount := openOrderCount }
  pure { spot with
    markets := spot.markets.set market.key
      (if count = 0 ∧ better.isNone then counted.setBest order.val.side level.val.worsePrice
        else counted)
    orders := saveOption (saveOption
      (spot.orders.set order.key { order.val with
        lockedCollateral := 0, remainingQuantity := 0
        previousOrder := none, nextOrder := none, status := .canceled })
      (previous.map (Account.map (Order.setNext (next.map Account.key)))))
      (next.map (Account.map (Order.setPrevious (previous.map Account.key))))
    levels := saveOption (saveOption
      (if count = 0 then spot.levels.erase level.key
        else spot.levels.set level.key
          (level.val.unlink (previous.map Account.key) (next.map Account.key) count total))
      (better.map (Account.map (PriceLevel.setWorse level.val.worsePrice))))
      (worse.map (Account.map (PriceLevel.setBetter level.val.betterPrice)))
    balances := spot.balances.set balance.key released }

end Tidebook.Program
