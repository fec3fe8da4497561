import Tidebook.Program.Step

/-! # Emitted spot events

The events that the spot handlers emit, with the values that they emit in them. The handlers of
prediction markets and of shared books emit nothing.
-/

namespace Tidebook.Program
open Tidebook.Library

structure MarketInitializedEvent where
  market : Pubkey
  marketFees : Pubkey
  authority : Pubkey
  baseMint : Pubkey
  quoteMint : Pubkey
  baseVault : Pubkey
  quoteVault : Pubkey
  priceTickSize : Nat
  quantityLotSize : Nat
  deriving DecidableEq

structure MarketStatusChangedEvent where
  market : Pubkey
  authority : Pubkey
  status : MarketStatus
  deriving DecidableEq

structure MarketClosedEvent where
  market : Pubkey
  marketFees : Pubkey
  authority : Pubkey
  baseMint : Pubkey
  quoteMint : Pubkey
  baseVault : Pubkey
  quoteVault : Pubkey
  deriving DecidableEq

structure OrderPlacedEvent where
  market : Pubkey
  order : Pubkey
  orderId : Nat
  owner : Pubkey
  side : OrderSide
  price : Nat
  quantity : Nat
  lockedCollateral : Nat
  priceLevel : Pubkey
  deriving DecidableEq

structure OrderCanceledEvent where
  market : Pubkey
  order : Pubkey
  orderId : Nat
  owner : Pubkey
  side : OrderSide
  price : Nat
  canceledQuantity : Nat
  releasedCollateral : Nat
  priceLevel : Pubkey
  priceLevelClosed : Bool
  deriving DecidableEq

structure FillEvent where
  market : Pubkey
  makerOrder : Pubkey
  makerOrderId : Nat
  maker : Pubkey
  taker : Pubkey
  makerSide : OrderSide
  executionPrice : Nat
  baseQuantity : Nat
  quoteQuantity : Nat
  takerFeeQuote : Nat
  makerRemainingQuantity : Nat
  takerRemainingQuantity : Nat
  deriving DecidableEq

structure TraderBalanceInitializedEvent where
  market : Pubkey
  owner : Pubkey
  traderBalance : Pubkey
  deriving DecidableEq

structure CustodyEvent where
  market : Pubkey
  owner : Pubkey
  traderBalance : Pubkey
  mint : Pubkey
  marketVault : Pubkey
  amount : Nat
  freeBalance : Nat
  deriving DecidableEq

structure ProtocolFeesWithdrawnEvent where
  market : Pubkey
  marketFees : Pubkey
  superAdmin : Pubkey
  quoteMint : Pubkey
  quoteVault : Pubkey
  destinationQuoteAccount : Pubkey
  amount : Nat
  remainingAccruedQuoteFees : Nat
  deriving DecidableEq

inductive SpotEvent where
  | marketInitialized (event : MarketInitializedEvent)
  | marketStatusChanged (event : MarketStatusChangedEvent)
  | marketClosed (event : MarketClosedEvent)
  | orderPlaced (event : OrderPlacedEvent)
  | orderCanceled (event : OrderCanceledEvent)
  | fill (event : FillEvent)
  | traderBalanceInitialized (event : TraderBalanceInitializedEvent)
  | deposit (event : CustodyEvent)
  | withdrawal (event : CustodyEvent)
  | protocolFeesWithdrawn (event : ProtocolFeesWithdrawnEvent)
  deriving DecidableEq

/-! ## What each handler emits -/

/-- A new order as the placement handlers report it. -/
def emitOrderPlaced (after : Spot) (order : Pubkey) : Option OrderPlacedEvent :=
  (after.orders.get order).map fun record =>
    { market := record.market, order := order, orderId := record.orderId, owner := record.owner
      side := record.side, price := record.price, quantity := record.quantity
      lockedCollateral := record.lockedCollateral, priceLevel := record.priceLevel }

def emitOrderCanceled (spot : Spot) (order : Pubkey) : Option OrderCanceledEvent := do
  let record ← spot.orders.get order
  let level ← spot.levels.get record.priceLevel
  pure
    { market := record.market, order := order, orderId := record.orderId, owner := record.owner
      side := record.side, price := record.price, canceledQuantity := record.remainingQuantity
      releasedCollateral := record.lockedCollateral, priceLevel := record.priceLevel
      priceLevelClosed := level.orderCount - 1 = 0 }

def emitFill (state : State) (accounts : MatchLimitOrder) (takerSide : OrderSide)
    (limitPrice quantity : Nat) : Option FillEvent := do
  let config ← state.protocol.loadConfig.toOption
  let market ← state.spot.markets.get accounts.market
  let maker ← state.spot.orders.get accounts.makerOrder
  let plan ← (calculateSettlement takerSide limitPrice quantity maker.side maker.price
    maker.remainingQuantity maker.lockedCollateral market.baseDecimals).toOption
  let fee ← (calculateTakerFee plan.fill.quoteQuantity config.takerFeeBps).toOption
  pure
    { market := accounts.market, makerOrder := accounts.makerOrder, makerOrderId := maker.orderId
      maker := maker.owner, taker := accounts.taker.key, makerSide := maker.side
      executionPrice := plan.fill.executionPrice, baseQuantity := plan.fill.baseQuantity
      quoteQuantity := plan.fill.quoteQuantity, takerFeeQuote := fee
      makerRemainingQuantity := maker.remainingQuantity - plan.fill.baseQuantity
      takerRemainingQuantity := quantity - plan.fill.baseQuantity }

def emitCustody (after : Spot) (owner : Wallet) (market mint : Pubkey) (amount : Nat) :
    Option CustodyEvent := do
  let record ← after.markets.get market
  let balance ← after.balances.get (.traderBalance market owner.key)
  pure
    { market := market, owner := owner.key, traderBalance := .traderBalance market owner.key
      mint := mint, marketVault := .vault market mint, amount := amount
      freeBalance := if mint = record.baseMint then balance.baseFree else balance.quoteFree }

def emitProtocolFeesWithdrawn (after : Spot) (superAdmin : Wallet)
    (market destination : Pubkey) (amount : Nat) : Option ProtocolFeesWithdrawnEvent := do
  let record ← after.markets.get market
  let fees ← after.fees.get (.marketFees market)
  pure
    { market := market, marketFees := .marketFees market, superAdmin := superAdmin.key
      quoteMint := record.quoteMint, quoteVault := .vault market record.quoteMint
      destinationQuoteAccount := destination, amount := amount
      remainingAccruedQuoteFees := fees.accruedQuoteFees }

def emitMarketClosed (spot : Spot) (authority : Wallet) (market : Pubkey) :
    Option MarketClosedEvent :=
  (spot.markets.get market).map fun record =>
    { market := market, marketFees := .marketFees market, authority := authority.key
      baseMint := record.baseMint, quoteMint := record.quoteMint
      baseVault := .vault market record.baseMint, quoteVault := .vault market record.quoteMint }

/-- The order that a placement on a market files. -/
def placedOrder (spot : Spot) (market : Pubkey) : Option Pubkey :=
  (spot.markets.get market).map fun record => .order market record.nextOrderId

/-- What an accepted instruction emits for the spot markets. -/
def emitted (state after : State) : Instruction → Option SpotEvent
  | .initializeMarket authority baseMint quoteMint priceTickSize quantityLotSize =>
      let market := Pubkey.market baseMint quoteMint
      some (.marketInitialized
        { market := market, marketFees := .marketFees market, authority := authority.key
          baseMint := baseMint, quoteMint := quoteMint, baseVault := .vault market baseMint
          quoteVault := .vault market quoteMint, priceTickSize := priceTickSize.toNat
          quantityLotSize := quantityLotSize.toNat })
  | .pauseMarket authority market =>
      some (.marketStatusChanged ⟨market, authority.key, .paused⟩)
  | .unpauseMarket authority market =>
      some (.marketStatusChanged ⟨market, authority.key, .active⟩)
  | .closeMarket authority market _ =>
      (emitMarketClosed state.spot authority market).map .marketClosed
  | .initializeTraderBalance owner market =>
      some (.traderBalanceInitialized
        ⟨market, owner.key, .traderBalance market owner.key⟩)
  | .deposit owner market mint _ amount =>
      (emitCustody after.spot owner market mint amount.toNat).map .deposit
  | .withdraw owner market mint _ amount =>
      (emitCustody after.spot owner market mint amount.toNat).map .withdrawal
  | .withdrawProtocolFees superAdmin market destination amount =>
      (emitProtocolFeesWithdrawn after.spot superAdmin market destination amount.toNat).map
        .protocolFeesWithdrawn
  | .insertLimitOrder _ market _ _ _ _ _ =>
      ((placedOrder state.spot market).bind (emitOrderPlaced after.spot)).map .orderPlaced
  | .appendLimitOrder _ market _ _ _ _ =>
      ((placedOrder state.spot market).bind (emitOrderPlaced after.spot)).map .orderPlaced
  | .cancelLimitOrder accounts orderId =>
      (emitOrderCanceled state.spot (.order accounts.market orderId.toNat)).map .orderCanceled
  | .matchLimitOrder accounts takerSide limitPrice quantity =>
      (emitFill state accounts takerSide limitPrice.toNat quantity.toNat).map .fill
  | _ => none

end Tidebook.Program
