import Tidebook.Client.Cancellation
import Tidebook.Program.Step

/-! # Planning a bounded prediction trade

The client's preview of up to three fills. Every account it reads is cached, and replaced in the
cache after each simulated fill, so that the next fill is planned on the book as the program will
find it.
-/

namespace Tidebook.Client
open Library Program

/-! ## Reading through a cache -/

structure PredictionMatchingReader where
  predictionOrder : Reader PredictionOrder
  predictionPriceLevel : Reader PredictionPriceLevel
  predictionPosition : Reader PredictionPosition

/-- An account is fetched once; an absent one is remembered as absent. -/
def cached {α : Type} (reads : Reader α) (turn : Nat) (cache : Store Pubkey (Option α))
    (address : Pubkey) : Except String (Option α × Nat × Store Pubkey (Option α)) :=
  match cache.get address with
  | some value => pure (value, turn, cache)
  | none => do
      let value ← reads turn address
      pure (value, turn + 1, cache.set address value)

/-- What was read or simulated so far, and how many reads that took. -/
structure Overlay where
  turn : Nat
  orders : Store Pubkey (Option PredictionOrder)
  levels : Store Pubkey (Option PredictionPriceLevel)
  positions : Store Pubkey PredictionPosition

def Overlay.predictionOrder (overlay : Overlay) (accounts : PredictionMatchingReader)
    (address : Pubkey) : Except String (Option PredictionOrder × Overlay) := do
  let (order, turn, orders) ←
    cached accounts.predictionOrder overlay.turn overlay.orders address
  pure (order, { overlay with turn := turn, orders := orders })

def Overlay.predictionPriceLevel (overlay : Overlay) (accounts : PredictionMatchingReader)
    (address : Pubkey) : Except String (Option PredictionPriceLevel × Overlay) := do
  let (level, turn, levels) ←
    cached accounts.predictionPriceLevel overlay.turn overlay.levels address
  pure (level, { overlay with turn := turn, levels := levels })

/-! ## One maker -/

structure PredictionMatchTarget where
  makerAddress : Pubkey
  levelAddress : Pubkey
  maker : PredictionOrder
  level : PredictionPriceLevel
  nextOrder : Option Pubkey
  worseLevel : Option Pubkey
  rentRecipient : Option Pubkey

/-- An open order of the best level, at its own address. -/
def validOrder (market levelAddress : Pubkey) (outcome : PredictionOutcome) (side : OrderSide)
    (best nextOrderId : Nat) (address : Pubkey) (order : PredictionOrder) : Prop :=
  address = .predictionOrder market order.orderId ∧ order.market = market ∧
    order.priceLevel = levelAddress ∧ order.outcome = outcome ∧ order.side = side ∧
    order.price = best ∧ order.status = .opened ∧ order.remainingQuantity > 0 ∧
    order.remainingQuantity ≤ order.quantity ∧ order.orderId > 0 ∧ order.orderId < nextOrderId

instance (market levelAddress : Pubkey) (outcome : PredictionOutcome) (side : OrderSide)
    (best nextOrderId : Nat) (address : Pubkey) (order : PredictionOrder) :
    Decidable (validOrder market levelAddress outcome side best nextOrderId address order) := by
  unfold validOrder
  infer_instance

/-- The order behind a maker that the trade completes. -/
def readSuccessor (accounts : PredictionMatchingReader) (overlay : Overlay)
    (market levelAddress : Pubkey) (outcome : PredictionOutcome) (side : OrderSide)
    (best nextOrderId : Nat) (makerAddress : Pubkey) (maker : PredictionOrder) :
    Except String (Pubkey × Overlay) := do
  let address ← okOr maker.nextOrder "FIFO successor is missing; refresh"
  let (found, overlay) ← overlay.predictionOrder accounts address
  let next ← okOr found "FIFO successor changed or is invalid; refresh"
  require (validOrder market levelAddress outcome side best nextOrderId address next ∧
    next.previousOrder = some makerAddress ∧ next.orderId > maker.orderId)
    "FIFO successor changed or is invalid; refresh"
  pure (address, overlay)

/-- The level below one that the trade empties. -/
def readWorseLevel (accounts : PredictionMatchingReader) (overlay : Overlay) (market : Pubkey)
    (outcome : PredictionOutcome) (side : OrderSide) (best : Nat) (worsePrice : Option Nat) :
    Except String (Option Pubkey × Overlay) :=
  match worsePrice with
  | none => pure (none, overlay)
  | some price => do
      let address := Pubkey.predictionLevel market outcome side price
      let (found, overlay) ← overlay.predictionPriceLevel accounts address
      let worse ← okOr found "Next price level changed or is invalid; refresh"
      require (validLevel market outcome side price worse ∧ worse.betterPrice = some best ∧
        side.Precedes best price) "Next price level changed or is invalid; refresh"
      pure (some address, overlay)

/-- The best level and the first order in its queue. -/
def readHead (accounts : PredictionMatchingReader) (overlay : Overlay) (market : Pubkey)
    (book : PredictionOrderBook) (outcome : PredictionOutcome) (makerSide : OrderSide)
    (best : Nat) :
    Except String (Pubkey × PredictionPriceLevel × PredictionOrder × Overlay) := do
  let levelAddress := Pubkey.predictionLevel market outcome makerSide best
  let (found, overlay) ← overlay.predictionPriceLevel accounts levelAddress
  let level ← okOr found "Best price level changed or is invalid; refresh"
  require (validLevel market outcome makerSide best level ∧ level.betterPrice = none)
    "Best price level changed or is invalid; refresh"
  let makerAddress ← okOr level.firstOrder "Best price level changed or is invalid; refresh"
  let (found, overlay) ← overlay.predictionOrder accounts makerAddress
  let maker ← okOr found "Best FIFO order changed or is invalid; refresh"
  require (validOrder market levelAddress outcome makerSide best book.nextOrderId makerAddress
    maker ∧ maker.previousOrder = none) "Best FIFO order changed or is invalid; refresh"
  (if level.orderCount = 1 then
    require (level.lastOrder = some makerAddress ∧ maker.nextOrder = none ∧
      level.totalRemainingQuantity = maker.remainingQuantity)
      "Best FIFO endpoints or totals are invalid; refresh"
  else
    require (level.lastOrder ≠ some makerAddress ∧ maker.nextOrder.isSome ∧
      maker.nextOrder ≠ some makerAddress ∧
      level.totalRemainingQuantity > maker.remainingQuantity)
      "Best FIFO endpoints or totals are invalid; refresh")
  pure (makerAddress, level, maker, overlay)

def readPredictionMatchTarget (accounts : PredictionMatchingReader) (overlay : Overlay)
    (market : Pubkey) (book : PredictionOrderBook) (outcome : PredictionOutcome)
    (takerSide : OrderSide) (quantity : Nat) :
    Except String (PredictionMatchTarget × Overlay) := do
  require (book.market = market) "Book market mismatch"
  require (quantity > 0 ∧ quantity ≤ u64Max) "Enter a positive whole u64 quantity"
  let makerSide := takerSide.opposite
  let best ← okOr (predictionBestPrice book outcome makerSide)
    ("No " ++ (match makerSide with | .ask => "sell" | .bid => "buy") ++ " orders for " ++
      (match outcome with | .yes => "YES" | .no => "NO"))
  let levelAddress := Pubkey.predictionLevel market outcome makerSide best
  let (makerAddress, level, maker, overlay) ←
    readHead accounts overlay market book outcome makerSide best
  if quantity < maker.remainingQuantity then
    pure (⟨makerAddress, levelAddress, maker, level, none, none, none⟩, overlay)
  else if level.orderCount > 1 then do
    let (nextOrder, overlay) ← readSuccessor accounts overlay market levelAddress outcome
      makerSide best book.nextOrderId makerAddress maker
    pure (⟨makerAddress, levelAddress, maker, level, some nextOrder, none, none⟩, overlay)
  else do
    let (worseLevel, overlay) ← readWorseLevel accounts overlay market outcome makerSide best
      level.worsePrice
    pure (⟨makerAddress, levelAddress, maker, level, none, worseLevel, some level.rentPayer⟩,
      overlay)

structure PredictionQuote where
  fill : Nat
  notional : Nat
  fee : Nat
  cash : Nat

/-- The maker is the head of the best price that its book lists. -/
def currentMaker (market : PredictionMarket) (book : PredictionOrderBook)
    (target : PredictionMatchTarget) (outcome : PredictionOutcome) (makerSide : OrderSide) : Prop :=
  target.maker.outcome = outcome ∧ target.maker.side = makerSide ∧
    target.maker.market = book.market ∧ target.level.market = book.market ∧
    target.level.outcome = outcome ∧ target.level.side = makerSide ∧
    target.level.price = target.maker.price ∧ target.level.betterPrice = none ∧
    target.level.orderCount > 0 ∧
    target.level.totalRemainingQuantity ≥ target.maker.remainingQuantity ∧
    target.maker.price > 0 ∧ target.maker.price < market.payoutPerContract ∧
    market.priceTick ∣ target.maker.price ∧
    target.makerAddress = .predictionOrder book.market target.maker.orderId ∧
    target.levelAddress = .predictionLevel book.market outcome makerSide target.maker.price ∧
    target.maker.priceLevel = target.levelAddress ∧
    target.level.firstOrder = some target.makerAddress ∧
    predictionBestPrice book outcome makerSide = some target.maker.price ∧
    target.maker.status = .opened ∧ target.maker.previousOrder = none ∧
    target.maker.orderId > 0 ∧ target.maker.orderId < book.nextOrderId ∧
    target.maker.remainingQuantity > 0 ∧ target.maker.remainingQuantity ≤ target.maker.quantity

instance (market : PredictionMarket) (book : PredictionOrderBook) (target : PredictionMatchTarget)
    (outcome : PredictionOutcome) (makerSide : OrderSide) :
    Decidable (currentMaker market book target outcome makerSide) := by
  unfold currentMaker
  infer_instance

def validatePredictionMatch (market : PredictionMarket) (book : PredictionOrderBook)
    (position : PredictionPosition) (target : PredictionMatchTarget) (outcome : PredictionOutcome)
    (side : OrderSide) (limit quantity feeBps : Nat) (owner : Pubkey) (now : Int) :
    Except String PredictionQuote := do
  require (market.status = .opened ∧ now < market.closeTs)
    "Trading requires an open market before close"
  require (quantity > 0 ∧ quantity ≤ u64Max) "Enter a positive whole u64 quantity"
  require (limit > 0 ∧ limit < market.payoutPerContract ∧ limit ≤ u64Max ∧ market.priceTick > 0 ∧
    market.priceTick ∣ limit) "Limit price must be positive, below 1 and tick-aligned"
  require (feeBps ≤ 1000) "Invalid taker fee rate"
  require (position.owner = owner ∧ position.market = book.market) "Position ownership mismatch"
  let maker := target.maker
  let makerSide := side.opposite
  require (maker.owner ≠ owner) "You cannot trade against your own order; cancel it first"
  require (currentMaker market book target outcome makerSide)
    "Maker is not the current best FIFO order; refresh"
  require (side.NoLater limit maker.price) "Limit price does not cross the best order"
  let backing := match makerSide with
    | .bid => maker.price * maker.remainingQuantity
    | .ask => maker.remainingQuantity
  require (maker.lockedCollateral = backing ∧ backing ≤ u64Max) "Maker backing is invalid"
  let fill := min quantity maker.remainingQuantity
  let notional := maker.price * fill
  let fee := (notional * feeBps + 9999) / 10000
  let contracts := position.contractsFree outcome
  require (notional ≤ u64Max) "Trade exceeds u64 collateral bounds"
  match side with
  | .bid => do
      let cash := notional + fee
      require (cash ≤ u64Max) "Trade exceeds u64 collateral bounds"
      require (cash ≤ position.collateralFree) "Not enough free funds for this fill"
      require (contracts + fill ≤ u64Max) "Receiving balance exceeds u64"
      pure ⟨fill, notional, fee, cash⟩
  | .ask => do
      require (fee ≤ notional) "Trade exceeds u64 collateral bounds"
      let cash := notional - fee
      require (fill ≤ contracts) "Not enough free funds for this fill"
      require (position.collateralFree + cash ≤ u64Max) "Receiving balance exceeds u64"
      pure ⟨fill, notional, fee, cash⟩

/-! ## Requests and plans -/

structure PredictionMatchRequest where
  marketAddress : Pubkey
  taker : Wallet
  outcome : PredictionOutcome
  side : OrderSide
  limitPrice : Nat
  quantity : Nat

inductive PredictionMatchStopReason where
  | filled
  | bookExhausted
  | nonCrossing
  | matchCap
  deriving DecidableEq

/-- The target is as it stands before this step and after the earlier ones. -/
structure PredictionMatchStep where
  target : PredictionMatchTarget
  requestedQuantity : Nat
  fillQuantity : Nat
  notional : Nat
  fee : Nat

structure PredictionMatchPlan where
  request : PredictionMatchRequest
  steps : List PredictionMatchStep
  remainingQuantity : Nat
  totalNotional : Nat
  totalFee : Nat
  totalCash : Nat
  stopReason : PredictionMatchStopReason
  finalMarket : PredictionMarket
  finalBook : PredictionOrderBook
  finalPosition : PredictionPosition

def canPostPredictionRemainder (plan : PredictionMatchPlan) : Bool :=
  plan.remainingQuantity > 0 ∧
    (plan.stopReason = .bookExhausted ∨ plan.stopReason = .nonCrossing)

def validateRequest (request : PredictionMatchRequest) (market : PredictionMarket)
    (book : PredictionOrderBook) (position : PredictionPosition) (feeBps accruedFees : Nat)
    (now : Int) : Except String Unit := do
  require (book.market = request.marketAddress ∧ position.market = request.marketAddress ∧
    position.owner = request.taker.key) "Book or position ownership mismatch"
  require (market.status = .opened ∧ now < market.closeTs)
    "Trading requires an open market before close"
  require (request.quantity > 0 ∧ request.quantity ≤ u64Max)
    "Quantity must be a positive whole u64"
  let price := request.limitPrice
  require (price > 0 ∧ price ≤ u64Max ∧ price < market.payoutPerContract ∧ market.priceTick > 0 ∧
    market.priceTick ∣ price) "Limit price must be positive, below 1 and tick-aligned"
  require (feeBps ≤ 1000) "Invalid taker fee rate"
  require (accruedFees ≤ u64Max) "Accrued fees exceeds u64 bounds"

/-- The trade so far: the accounts as the planned fills leave them, and what they add up to. -/
structure Draft where
  market : PredictionMarket
  book : PredictionOrderBook
  taker : PredictionPosition
  fees : Nat
  overlay : Overlay
  steps : List PredictionMatchStep
  remaining : Nat
  totalNotional : Nat
  totalFee : Nat
  totalCash : Nat

def checkedU64 (value : Nat) (label : String) : Except String Nat := do
  require (value ≤ u64Max) (label ++ " exceeds u64 bounds")
  pure value

/-- A difference that went below zero is out of bounds too. -/
def checkedU64Sub (value amount : Nat) (label : String) : Except String Nat := do
  require (amount ≤ value) (label ++ " exceeds u64 bounds")
  checkedU64 (value - amount) label

/-- The maker's position, as earlier fills left it. -/
def readMakerPosition (accounts : PredictionMatchingReader) (overlay : Overlay)
    (market owner : Pubkey) : Except String (PredictionPosition × Overlay) :=
  match overlay.positions.get (.predictionPosition market owner) with
  | some maker => pure (maker, overlay)
  | none => do
      let found ← accounts.predictionPosition overlay.turn (.predictionPosition market owner)
      let stored ← okOr found "Maker position is missing or has invalid ownership"
      require (stored.market = market ∧ stored.owner = owner)
        "Maker position is missing or has invalid ownership"
      pure (stored, { overlay with turn := overlay.turn + 1 })

/-- The maker and the taker after a fill. What is taken from a lock or from free funds was already
found to be there. -/
def previewSettlement (outcome : PredictionOutcome) (side : OrderSide) (quote : PredictionQuote)
    (maker taker : PredictionPosition) : Except String (PredictionPosition × PredictionPosition) :=
  match side with
  | .bid => do
      let contracts ← checkedU64 (taker.contractsFree outcome + quote.fill) "Taker contracts"
      let cash ← checkedU64 (maker.collateralFree + quote.notional) "Maker cash"
      pure ({ maker with collateralFree := cash }.setContractsLocked outcome
          (maker.contractsLocked outcome - quote.fill),
        { taker with collateralFree := taker.collateralFree - quote.cash }.setContractsFree outcome
          contracts)
  | .ask => do
      let cash ← checkedU64 (taker.collateralFree + quote.cash) "Taker cash"
      let contracts ← checkedU64 (maker.contractsFree outcome + quote.fill) "Maker contracts"
      pure ({ maker with collateralLocked := maker.collateralLocked - quote.notional }
          |>.setContractsFree outcome contracts,
        { taker with collateralFree := cash }.setContractsFree outcome
          (taker.contractsFree outcome - quote.fill))

/-- Takes a filled maker out of its level: the successor or the next price becomes the head. -/
def promote (accounts : PredictionMatchingReader) (overlay : Overlay) (book : PredictionOrderBook)
    (outcome : PredictionOutcome) (makerSide : OrderSide) (target : PredictionMatchTarget)
    (full : Bool) (count remainingAtLevel : Nat) :
    Except String (PredictionOrderBook × Overlay) :=
  if full ∧ count = 0 then do
    let overlay := { overlay with levels := overlay.levels.set target.levelAddress none }
    let overlay ← (match target.worseLevel with
      | none => pure overlay
      | some address => do
          let (found, overlay) ← overlay.predictionPriceLevel accounts address
          let worse ← okOr found "Promoted price level disappeared"
          pure { overlay with
            levels := overlay.levels.set address (some { worse with betterPrice := none }) })
    pure (book.setBestPrice outcome makerSide target.level.worsePrice, overlay)
  else do
    let overlay := { overlay with
      levels := overlay.levels.set target.levelAddress (some { target.level with
        orderCount := count, totalRemainingQuantity := remainingAtLevel
        firstOrder := if full then target.maker.nextOrder else target.level.firstOrder }) }
    let overlay ← (match target.nextOrder with
      | none => pure overlay
      | some address => do
          let (found, overlay) ← overlay.predictionOrder accounts address
          let next ← okOr found "Promoted FIFO order disappeared"
          pure { overlay with
            orders := overlay.orders.set address (some { next with previousOrder := none }) })
    pure (book, overlay)

/-- Plans one fill and replaces every account that it changes. -/
def Draft.fill (accounts : PredictionMatchingReader) (request : PredictionMatchRequest)
    (feeBps : Nat) (now : Int) (draft : Draft) : Except String Draft := do
  let makerSide := request.side.opposite
  let (target, overlay) ← readPredictionMatchTarget accounts draft.overlay request.marketAddress
    draft.book request.outcome request.side draft.remaining
  let quote ← validatePredictionMatch draft.market draft.book draft.taker target request.outcome
    request.side request.limitPrice draft.remaining feeBps request.taker.key now
  let (maker, overlay) ←
    readMakerPosition accounts overlay request.marketAddress target.maker.owner
  let backing := match makerSide with
    | .bid => maker.collateralLocked
    | .ask => maker.contractsLocked request.outcome
  require (target.maker.lockedCollateral ≤ backing) "Maker position does not back its order"
  let (maker, taker) ← previewSettlement request.outcome request.side quote maker draft.taker
  let fees ← checkedU64 (draft.fees + quote.fee) "Accrued fees"
  let full : Bool := quote.fill = target.maker.remainingQuantity
  let remainingAtLevel ← checkedU64Sub target.level.totalRemainingQuantity quote.fill
    "Level quantity"
  let count ← (if full then checkedU64Sub target.level.orderCount 1 "Level count"
    else pure target.level.orderCount)
  let openOrderCount ← (if full then checkedU64Sub draft.market.openOrderCount 1 "Market count"
    else pure draft.market.openOrderCount)
  let filled := { target.maker with
    remainingQuantity := target.maker.remainingQuantity - quote.fill
    lockedCollateral := target.maker.lockedCollateral -
      (match makerSide with | .bid => quote.notional | .ask => quote.fill)
    status := if full then .filled else target.maker.status
    nextOrder := if full then none else target.maker.nextOrder }
  let overlay := { overlay with
    positions := overlay.positions.set (.predictionPosition request.marketAddress
      target.maker.owner) maker
    orders := overlay.orders.set target.makerAddress (some filled) }
  let (book, overlay) ← promote accounts overlay draft.book request.outcome makerSide target full
    count remainingAtLevel
  pure {
    market := { draft.market with openOrderCount := openOrderCount }
    book := book
    taker := taker
    fees := fees
    overlay := overlay
    steps := draft.steps ++ [⟨target, draft.remaining, quote.fill, quote.notional, quote.fee⟩]
    remaining := draft.remaining - quote.fill
    totalNotional := draft.totalNotional + quote.notional
    totalFee := draft.totalFee + quote.fee
    totalCash := draft.totalCash + quote.cash }

def Draft.result (request : PredictionMatchRequest) (draft : Draft)
    (stopReason : PredictionMatchStopReason) : PredictionMatchPlan where
  request := request
  steps := draft.steps
  remainingQuantity := draft.remaining
  totalNotional := draft.totalNotional
  totalFee := draft.totalFee
  totalCash := draft.totalCash
  stopReason := stopReason
  finalMarket := draft.market
  finalBook := draft.book
  finalPosition := draft.taker

def maxPredictionMatchesPerTransaction : Nat := 3

/-- Plans on while there is room for another fill. -/
def planFills (accounts : PredictionMatchingReader) (request : PredictionMatchRequest)
    (feeBps : Nat) (now : Int) : Nat → Draft → Except String PredictionMatchPlan
  | room, draft =>
    match predictionBestPrice draft.book request.outcome request.side.opposite with
    | none => pure (draft.result request .bookExhausted)
    | some best =>
      if request.side.NoLater request.limitPrice best then
        match room with
        | 0 => pure (draft.result request .matchCap)
        | room + 1 => do
            let draft ← draft.fill accounts request feeBps now
            if draft.remaining = 0 then pure (draft.result request .filled)
            else planFills accounts request feeBps now room draft
      else pure (draft.result request .nonCrossing)

def planPredictionMatches (accounts : PredictionMatchingReader) (request : PredictionMatchRequest)
    (market : PredictionMarket) (book : PredictionOrderBook) (taker : PredictionPosition)
    (feeBps accruedFees : Nat) (now : Int) : Except String PredictionMatchPlan := do
  validateRequest request market book taker feeBps accruedFees now
  planFills accounts request feeBps now maxPredictionMatchesPerTransaction
    { market := market, book := book, taker := taker, fees := accruedFees
      overlay := ⟨0, .empty, .empty, .empty⟩
      steps := [], remaining := request.quantity
      totalNotional := 0, totalFee := 0, totalCash := 0 }

/-! ## The transaction -/

def PredictionMatchStep.instruction (request : PredictionMatchRequest)
    (step : PredictionMatchStep) : Instruction :=
  .matchPredictionOrder
    { taker := request.taker
      market := request.marketAddress
      makerOrder := step.target.makerAddress
      nextOrder := step.target.nextOrder
      worseLevel := step.target.worseLevel
      levelRentRecipient := step.target.rentRecipient }
    request.outcome request.side (UInt64.ofNat request.limitPrice)
    (UInt64.ofNat step.requestedQuantity)

/-- `serialize` gives the size of the packet, or fails where it is too large to build. -/
def buildPredictionMatchTransaction (serialize : List Instruction → Option Nat)
    (plan : PredictionMatchPlan) (remainder : Option Instruction) :
    Except String (List Instruction) := do
  require (remainder.isSome → canPostPredictionRemainder plan) "Unsafe prediction remainder"
  require (plan.steps ≠ [] ∨ remainder.isSome) "No crossing orders to trade"
  require (plan.steps.length ≤ maxPredictionMatchesPerTransaction)
    "Too many prediction match steps"
  let instructions :=
    plan.steps.map (PredictionMatchStep.instruction plan.request) ++ remainder.toList
  let bytes ← okOr (serialize instructions)
    ("Trade exceeds the transaction packet limit; reduce the quantity or use " ++
      "immediate-only execution")
  require (bytes ≤ 1232) "Trade exceeds the transaction packet limit; reduce the request"
  pure instructions

end Tidebook.Client
