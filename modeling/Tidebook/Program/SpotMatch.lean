import Tidebook.Program.SpotOrders

/-! # Spot matching

One fill against the oldest order at the best opposing price, at that order's price. Both trader
balances and the fee claim change together; no token moves.
-/

namespace Tidebook.Program
open Tidebook.Library

structure MatchLimitOrder where
  taker : Wallet
  market : Pubkey
  makerOrder : Pubkey
  nextOrder : Option Pubkey
  worseLevel : Option Pubkey
  levelRentRecipient : Option Pubkey

/-- The maker the context admits: an open order of this market, not the taker's own. -/
def loadMakerOrder (spot : Spot) (market key : Pubkey) (taker : Wallet) :
    Result (Account Order) := do
  let maker ← load spot.orders key
  require (maker.key = .order market maker.val.orderId) .constraintSeeds
  require (maker.val.market = market) .orderMarketMismatch
  require (maker.val.status = .opened) .orderNotOpen
  require (maker.val.owner ≠ taker.key) .selfTradeNotAllowed
  pure maker

/-- The maker's level, which must have it first and be best on its side. -/
def loadMakerLevel (spot : Spot) (market : Account Market) (maker : Account Order) :
    Result (Account PriceLevel) := do
  let level ← load spot.levels (.priceLevel market.key maker.val.side maker.val.price)
  require (maker.val.priceLevel = level.key) .orderPriceLevelMismatch
  require (level.val.market = market.key) .priceLevelMarketMismatch
  require (level.val.side = maker.val.side) .priceLevelSideMismatch
  require (level.val.price = maker.val.price) .priceLevelPriceMismatch
  require (level.val.firstOrder = some maker.key) .makerNotFifoHead
  require (market.val.best maker.val.side = some maker.val.price) .makerNotAtBestPrice
  pure level

/-- Hints when the filled maker was alone at its price. -/
def checkFilledLast (market : Pubkey) (maker : Account Order) (level : Account PriceLevel)
    (total : Nat) (worse : Option (Account PriceLevel)) (recipient : Option Pubkey) :
    Result Unit := do
  require (maker.val.nextOrder = none ∧ level.val.lastOrder = some maker.key)
    .invalidPriceLevelEndpoints
  require (total = 0) .invalidPriceLevelAggregate
  require (level.val.betterPrice = none) .bestPriceLevelMismatch
  require (worse.map Account.key =
    level.val.worsePrice.map (Pubkey.priceLevel market maker.val.side)) .invalidPriceLevelNeighbors
  let recipient ← okOr recipient .invalidPriceLevelRentRecipient
  require (recipient = level.val.rentPayer) .invalidPriceLevelRentRecipient
  checkPriceNeighbor market maker.val.side level.val.worsePrice worse PriceLevel.betterPrice
    level.val.price

/-- Hints when another order at the same price takes the maker's place. -/
def checkFilledFirst (market : Pubkey) (maker : Account Order) (level : Account PriceLevel)
    (total : Nat) (next : Option (Account Order)) (worse : Option (Account PriceLevel))
    (recipient : Option Pubkey) : Result Unit := do
  let next ← okOr next .invalidOrderNeighbor
  require (next.val.status = .opened) .orderNotOpen
  require (next.val.market = market) .orderMarketMismatch
  require (next.val.priceLevel = level.key) .orderPriceLevelMismatch
  require (next.key ≠ maker.key ∧ next.val.side = maker.val.side ∧
    next.val.price = level.val.price ∧ next.val.previousOrder = some maker.key)
    .brokenOrderQueueLink
  require (total > 0) .invalidPriceLevelAggregate
  require (worse.isNone ∧ recipient = none) .invalidPriceLevelNeighbors

/-- The removal hints a fill must and must not supply. -/
def checkFillHints (market : Pubkey) (maker : Account Order) (level : Account PriceLevel)
    (full : Bool) (count total : Nat) (next : Option (Account Order))
    (worse : Option (Account PriceLevel)) (recipient : Option Pubkey) : Result Unit :=
  if full then do
    require (maker.val.previousOrder = none) .brokenOrderQueueLink
    require (next.map Account.key = maker.val.nextOrder) .invalidOrderNeighbor
    if count = 0 then checkFilledLast market maker level total worse recipient
    else checkFilledFirst market maker level total next worse recipient
  else do
    require next.isNone .invalidOrderNeighbor
    require (worse.isNone ∧ recipient = none) .invalidPriceLevelNeighbors

def settleBalances (takerSide : OrderSide) (plan : SettlementPlan) (fee : Nat)
    (maker taker : TraderBalance) : Result (TraderBalance × TraderBalance) :=
  match takerSide with
  | .bid => do
      let debit ← checkedAdd plan.fill.quoteQuantity fee .feeCalculationOverflow
      let takerQuoteFree ← checkedSub taker.quoteFree debit .insufficientFreeBalance
      let takerBaseFree ← checkedAdd taker.baseFree plan.fill.baseQuantity .freeBalanceOverflow
      let makerBaseLocked ← checkedSub maker.baseLocked plan.makerLockedDebit
        .lockedBalanceUnderflow
      let makerQuoteFree ← checkedAdd maker.quoteFree plan.fill.quoteQuantity .freeBalanceOverflow
      pure ({ maker with baseLocked := makerBaseLocked, quoteFree := makerQuoteFree },
        { taker with quoteFree := takerQuoteFree, baseFree := takerBaseFree })
  | .ask => do
      let proceeds ← checkedSub plan.fill.quoteQuantity fee .feeCalculationOverflow
      let takerBaseFree ← checkedSub taker.baseFree plan.fill.baseQuantity .insufficientFreeBalance
      let takerQuoteFree ← checkedAdd taker.quoteFree proceeds .freeBalanceOverflow
      let makerQuoteLocked ← checkedSub maker.quoteLocked plan.makerLockedDebit
        .lockedBalanceUnderflow
      let makerBaseFree ← checkedAdd maker.baseFree plan.fill.baseQuantity .freeBalanceOverflow
      let makerQuoteFree ← checkedAdd maker.quoteFree plan.makerQuoteRefund .freeBalanceOverflow
      pure ({ maker with
          quoteLocked := makerQuoteLocked, baseFree := makerBaseFree, quoteFree := makerQuoteFree },
        { taker with baseFree := takerBaseFree, quoteFree := takerQuoteFree })

/-- The maker order after a fill; a completed one leaves the book and keeps no lock. -/
def Order.fill (order : Order) (full : Bool) (remaining collateral : Nat) : Order :=
  if full then { order with
    remainingQuantity := 0, lockedCollateral := 0
    previousOrder := none, nextOrder := none, status := .filled }
  else { order with remainingQuantity := remaining, lockedCollateral := collateral }

/-- The maker's level after a fill that does not empty it. -/
def PriceLevel.fill (level : PriceLevel) (full : Bool) (next : Option Pubkey) (count total : Nat) :
    PriceLevel :=
  if full then
    { level with firstOrder := next, orderCount := count, totalRemainingQuantity := total }
  else { level with totalRemainingQuantity := total }

def handleMatchLimitOrder (spot : Spot) (config : ProtocolConfig) (accounts : MatchLimitOrder)
    (takerSide : OrderSide) (limitPrice quantity : Nat) : Result Spot := do
  let market ← load spot.markets accounts.market
  require (market.key = .market market.val.baseMint market.val.quoteMint) .constraintSeeds
  require (market.val.status = .active) .marketNotActive
  let fees ← loadMarketFees spot market
  let maker ← loadMakerOrder spot market.key accounts.makerOrder accounts.taker
  let level ← loadMakerLevel spot market maker
  let next ← loadOption spot.orders accounts.nextOrder
  let worse ← loadOption spot.levels accounts.worseLevel
  let makerBalance ← loadTraderBalance spot market.key maker.val.owner
  let takerBalance ← loadTraderBalance spot market.key accounts.taker.key
  market.val.checkGrid limitPrice quantity
  let plan ← calculateSettlement takerSide limitPrice quantity maker.val.side maker.val.price
    maker.val.remainingQuantity maker.val.lockedCollateral market.val.baseDecimals
  let fee ← calculateTakerFee plan.fill.quoteQuantity config.takerFeeBps
  let accrued ← checkedAdd fees.val.accruedQuoteFees fee .feeAccrualOverflow
  let _ ← checkedSub quantity plan.fill.baseQuantity .invalidQuantity
  let remaining ← checkedSub maker.val.remainingQuantity plan.fill.baseQuantity
    .priceLevelQuantityUnderflow
  let collateral ← checkedSub maker.val.lockedCollateral plan.makerLockedDebit
    .invalidMakerCollateral
  let total ← checkedSub level.val.totalRemainingQuantity plan.fill.baseQuantity
    .priceLevelQuantityUnderflow
  let full := plan.makerFullyFilled
  let count ← (if full then checkedSub level.val.orderCount 1 .priceLevelOrderCountUnderflow
    else pure level.val.orderCount)
  let openOrderCount ← (if full then
      checkedSub market.val.openOrderCount 1 .openOrderCountUnderflow
    else pure market.val.openOrderCount)
  checkFillHints market.key maker level full count total next worse accounts.levelRentRecipient
  let (makerSettled, takerSettled) ←
    settleBalances takerSide plan fee makerBalance.val takerBalance.val
  let counted := { market.val with openOrderCount := openOrderCount }
  let emptied := full ∧ count = 0
  pure { spot with
    markets := spot.markets.set market.key
      (if emptied then counted.setBest maker.val.side level.val.worsePrice else counted)
    fees := spot.fees.set fees.key { fees.val with accruedQuoteFees := accrued }
    orders := saveOption
      (spot.orders.set maker.key (maker.val.fill full remaining collateral))
      (next.map (Account.map (Order.setPrevious none)))
    levels := saveOption
      (if emptied then spot.levels.erase level.key
        else spot.levels.set level.key (level.val.fill full (next.map Account.key) count total))
      (worse.map (Account.map (PriceLevel.setBetter none)))
    balances := (spot.balances.set makerBalance.key makerSettled).set takerBalance.key takerSettled }

end Tidebook.Program
