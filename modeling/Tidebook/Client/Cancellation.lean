import Tidebook.Client.Placement
import Tidebook.Program.SharedOrders

/-! # Which accounts an order leaves with

The client's reading of the accounts that a cancellation names, in a prediction book and in a shared
book.
-/

namespace Tidebook.Client
open Library Program

/-! ## Prediction books -/

def validLevel (market : Pubkey) (outcome : PredictionOutcome) (side : OrderSide) (price : Nat)
    (level : PredictionPriceLevel) : Prop :=
  level.market = market ∧ level.outcome = outcome ∧ level.side = side ∧ level.price = price ∧
    level.orderCount > 0 ∧ level.totalRemainingQuantity > 0 ∧
    level.firstOrder.isSome ∧ level.lastOrder.isSome

instance (market : Pubkey) (outcome : PredictionOutcome) (side : OrderSide) (price : Nat)
    (level : PredictionPriceLevel) : Decidable (validLevel market outcome side price level) := by
  unfold validLevel
  infer_instance

/-- The queue neighbour at an address, which must point back at the order. -/
def checkQueueNeighbor (reads : Reader PredictionOrder) (turn : Nat) (order : PredictionOrder)
    (orderAddress : Pubkey) (isPrevious : Bool) (address : Option Pubkey) : Except String Unit :=
  match address with
  | none => pure ()
  | some address => do
      let found ← reads turn address
      let neighbor ← okOr found "Order queue changed or has invalid neighbors; refresh"
      require (address = .predictionOrder order.market neighbor.orderId ∧
        neighbor.market = order.market ∧ neighbor.priceLevel = order.priceLevel ∧
        neighbor.outcome = order.outcome ∧ neighbor.side = order.side ∧
        neighbor.price = order.price ∧ neighbor.status = .opened ∧
        neighbor.remainingQuantity > 0 ∧ neighbor.remainingQuantity ≤ neighbor.quantity ∧
        (if isPrevious then
          neighbor.nextOrder = some orderAddress ∧ neighbor.orderId < order.orderId
        else neighbor.previousOrder = some orderAddress ∧ neighbor.orderId > order.orderId))
        "Order queue changed or has invalid neighbors; refresh"

/-- The level next to one that is about to close, which must point back at it. -/
def readPriceNeighbor (reads : Reader PredictionPriceLevel) (turn : Nat) (order : PredictionOrder)
    (isBetter : Bool) (price : Option Nat) : Except String (Option Pubkey) :=
  match price with
  | none => pure none
  | some price => do
      let address := Pubkey.predictionLevel order.market order.outcome order.side price
      let found ← reads turn address
      let neighbor ← okOr found "Price neighbors changed or are invalid; refresh"
      require (validLevel order.market order.outcome order.side price neighbor ∧
        (if isBetter then
          neighbor.worsePrice = some order.price ∧ order.side.Precedes price order.price
        else neighbor.betterPrice = some order.price ∧ order.side.Precedes order.price price))
        "Price neighbors changed or are invalid; refresh"
      pure (some address)

/-- The accounts of a cancellation; an account that is left out is `none`. -/
def readPredictionCancellationAccounts (accounts : PredictionPlacementReader) (market : Pubkey)
    (owner : Wallet) (orderAddress : Pubkey) : Except String CancelPredictionOrder := do
  let found ← accounts.predictionOrder 0 orderAddress
  let order ← okOr found "Order is unavailable or does not belong to this wallet and market"
  require (order.owner = owner.key ∧ order.market = market ∧
    orderAddress = .predictionOrder market order.orderId)
    "Order is unavailable or does not belong to this wallet and market"
  require (order.status = .opened) "Only open orders can be canceled"
  let levelAddress := Pubkey.predictionLevel market order.outcome order.side order.price
  require (order.priceLevel = levelAddress) "Order price-level address is invalid"
  let found ← accounts.predictionPriceLevel 1 levelAddress
  let level ← okOr found "Price level is unavailable or invalid; refresh"
  require (validLevel market order.outcome order.side order.price level)
    "Price level is unavailable or invalid; refresh"
  require (order.previousOrder ≠ some orderAddress ∧ order.nextOrder ≠ some orderAddress ∧
    (order.previousOrder.isSome → order.nextOrder ≠ order.previousOrder) ∧
    (level.firstOrder = some orderAddress ↔ order.previousOrder = none) ∧
    (level.lastOrder = some orderAddress ↔ order.nextOrder = none))
    "Order queue endpoints are invalid; refresh"
  checkQueueNeighbor accounts.predictionOrder 2 order orderAddress true order.previousOrder
  checkQueueNeighbor accounts.predictionOrder (2 + order.previousOrder.toList.length) order
    orderAddress false order.nextOrder
  require (order.remainingQuantity > 0 ∧ order.remainingQuantity ≤ order.quantity ∧
    order.lockedCollateral =
      if order.side = .bid then order.price * order.remainingQuantity else order.remainingQuantity)
    "Order backing is inconsistent; refresh"
  let removesLevel := level.orderCount = 1
  let (betterLevel, worseLevel) ← (if removesLevel then do
      require (order.previousOrder = none ∧ order.nextOrder = none ∧
        level.totalRemainingQuantity = order.remainingQuantity)
        "Final-order level totals are inconsistent; refresh"
      let betterLevel ← readPriceNeighbor accounts.predictionPriceLevel 2 order true
        level.betterPrice
      let worseLevel ← readPriceNeighbor accounts.predictionPriceLevel
        (2 + level.betterPrice.toList.length) order false level.worsePrice
      pure (betterLevel, worseLevel)
    else do
      require ((order.previousOrder.isSome ∨ order.nextOrder.isSome) ∧
        order.remainingQuantity < level.totalRemainingQuantity)
        "Level totals are inconsistent; refresh"
      pure (none, none))
  pure {
    owner := owner
    market := market
    previousOrder := order.previousOrder
    nextOrder := order.nextOrder
    betterLevel := betterLevel
    worseLevel := worseLevel
    levelRentRecipient := if removesLevel then some level.rentPayer else none }

/-! ## Shared books -/

/-- What the node answers: one book account, and all order and level records of a book. -/
structure SharedReader where
  sharedBook : Pubkey → Except String (Option SharedBook)
  sharedOrder : Pubkey → Except String (List (Account SharedOrder))
  sharedPriceLevel : Pubkey → Except String (List (Account SharedPriceLevel))

structure SharedSnapshot where
  key : Pubkey
  book : SharedBook
  orders : List (Account SharedOrder)
  levels : List (Account SharedPriceLevel)

def readSharedBook (accounts : SharedReader) (market : Pubkey) :
    Except String (Option SharedSnapshot) := do
  let key := Pubkey.sharedBook market
  match ← accounts.sharedBook key with
  | none => pure none
  | some book => do
      require (book.market = market) "Shared book market mismatch"
      let orders ← accounts.sharedOrder key
      let levels ← accounts.sharedPriceLevel key
      require (∀ row ∈ orders, row.val.book = key ∧ row.val.market = market ∧
        row.key = .sharedOrder key row.val.orderId) "Invalid shared order"
      require (∀ row ∈ levels, row.val.book = key ∧ row.val.market = market) "Invalid shared level"
      pure (some ⟨key, book, orders, levels⟩)

def traderAccounts (book : SharedBook) (owner : Pubkey) : ClaimKeys where
  base := if book.kind = .spot then some (.assetBalance owner book.baseMint) else none
  quote := .assetBalance owner book.quoteMint
  position := if book.kind = .prediction then some (.predictionPosition book.market owner) else none

def cancelShared (snapshot : SharedSnapshot) (owner : Wallet) (key : Pubkey) :
    Except String CancelSharedOrder := do
  let row ← okOr (snapshot.orders.find? fun row => row.key = key) "Order owner mismatch"
  require (row.val.owner = owner.key) "Order owner mismatch"
  let order := row.val
  let listed ← okOr (snapshot.levels.find? fun row => row.key = order.priceLevel)
    "Level missing; refresh"
  let level := listed.val
  let last := level.orderCount = 1
  pure {
    owner := owner
    book := snapshot.key
    claims := traderAccounts snapshot.book owner.key
    order := key
    priceLevel := order.priceLevel
    previousOrder := order.previousOrder
    nextOrder := order.nextOrder
    betterLevel := if last then
      level.betterPrice.map (.sharedLevel snapshot.key order.outcome order.side) else none
    worseLevel := if last then
      level.worsePrice.map (.sharedLevel snapshot.key order.outcome order.side) else none
    levelRentRecipient := if last then some level.rentPayer else none }

end Tidebook.Client
