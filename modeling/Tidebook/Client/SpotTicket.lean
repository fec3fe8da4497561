import Tidebook.Client.Amounts
import Tidebook.Client.Placement
import Tidebook.Program.Step

/-! # The spot trade ticket

What the market page does with an order: a bounded plan of matches read from the book, the funds that
it takes, and one transaction of the matches and, where nothing opposing is left within the limit,
the remainder as a resting order.
-/

namespace Tidebook.Client
open Library Program

/-! ## The matching plan -/

def maxMatchesPerTransaction : Nat := 3

structure MatchStep where
  makerOrder : Pubkey
  makerPriceLevel : Pubkey
  makerBalance : Pubkey
  makerPrice : Nat
  nextOrder : Option Pubkey
  worseLevel : Option Pubkey
  levelRentRecipient : Option Pubkey
  takerQuantityBeforeFill : Nat
  fillQuantity : Nat
  deriving DecidableEq

inductive MatchPlanStopReason where
  | filled
  | bookExhausted
  | nonCrossing
  | matchCap
  deriving DecidableEq

structure BoundedMatchPlan where
  steps : List MatchStep
  remainingQuantity : Nat
  stopReason : MatchPlanStopReason
  deriving DecidableEq

structure MatchingReader where
  priceLevel : Reader PriceLevel
  order : Reader Order

/-- What a request for a plan fixes. -/
structure MatchRequest where
  marketAddress : Pubkey
  taker : Pubkey
  takerSide : OrderSide
  limitPrice : Nat
  quantity : Nat

def MatchRequest.crosses (request : MatchRequest) (makerPrice : Nat) : Bool :=
  pricesCross request.takerSide request.limitPrice makerPrice

def MatchRequest.makerSide (request : MatchRequest) : OrderSide := request.takerSide.opposite

structure Traversal where
  visitedLevels : List Pubkey
  visitedOrders : List Pubkey
  steps : List MatchStep
  remainingQuantity : Nat

def Traversal.reads (walk : Traversal) : Nat :=
  walk.visitedLevels.length + walk.visitedOrders.length

/-- The place in a queue that the inner loop has reached. -/
structure QueueCursor where
  levelAddress : Pubkey
  level : PriceLevel
  currentOrder : Pubkey
  expectedPrevious : Option Pubkey
  localOrderCount : Nat
  localLevelQuantity : Nat

section Plan

variable (reads : MatchingReader) (toBase58 : Pubkey → String) (request : MatchRequest)

def readLevel (walk : Traversal) (currentPrice : Nat) (expectedBetterPrice : Option Nat) :
    Except String (Traversal × QueueCursor) := do
  let levelAddress := Pubkey.priceLevel request.marketAddress request.makerSide currentPrice
  require (levelAddress ∉ walk.visitedLevels) "Price-level index contains a cycle"
  let found ← reads.priceLevel walk.reads levelAddress
  let level ← okOr found ("Missing price level " ++ toBase58 levelAddress)
  require (level.market = request.marketAddress ∧ level.side = request.makerSide)
    "Price level crosses a market or side boundary"
  require (level.price = currentPrice) "Price-level PDA and stored price disagree"
  require (level.betterPrice = expectedBetterPrice) "Price level has a broken better-price link"
  require (∀ better ∈ expectedBetterPrice, request.makerSide.Precedes better level.price)
    "Price levels are not strictly ordered"
  let first ← okOr level.firstOrder "Active price level has invalid queue state"
  require (level.lastOrder.isSome ∧ level.orderCount ≠ 0 ∧ level.totalRemainingQuantity ≠ 0)
    "Active price level has invalid queue state"
  pure ({ walk with visitedLevels := levelAddress :: walk.visitedLevels },
    ⟨levelAddress, level, first, none, level.orderCount, level.totalRemainingQuantity⟩)

/-- The outer loop at a price: the book has ended, the limit has, or the level is entered. -/
def enterPrice (walk : Traversal) (currentPrice expectedBetterPrice : Option Nat) :
    Except String (MatchPlanStopReason ⊕ Traversal × QueueCursor) :=
  match currentPrice with
  | none => pure (.inl .bookExhausted)
  | some price =>
      if request.crosses price then do
        let entered ← readLevel reads toBase58 request walk price expectedBetterPrice
        pure (.inr entered)
      else pure (.inl .nonCrossing)

def readMaker (walk : Traversal) (cursor : QueueCursor) : Except String Order := do
  require (cursor.currentOrder ∉ walk.visitedOrders) "FIFO order queue contains a cycle"
  let found ← reads.order walk.reads cursor.currentOrder
  let maker ← okOr found ("Missing maker order " ++ toBase58 cursor.currentOrder)
  require (maker.market = request.marketAddress ∧ maker.priceLevel = cursor.levelAddress ∧
    maker.side = request.makerSide ∧ maker.price = cursor.level.price ∧ maker.status = .opened ∧
    maker.previousOrder = cursor.expectedPrevious ∧ maker.remainingQuantity ≠ 0)
    "Maker order violates FIFO or market invariants"
  require (maker.owner ≠ request.taker) "Self-trading blocks the current matching path"
  pure maker

/-- The fill of one maker and what it leaves of the level. -/
structure PlannedFill where
  step : MatchStep
  makerFullyFilled : Bool
  nextOrderCount : Nat
  nextLevelQuantity : Nat

def planFill (remainingQuantity : Nat) (cursor : QueueCursor) (maker : Order) :
    Except String PlannedFill := do
  let fillQuantity := min remainingQuantity maker.remainingQuantity
  let makerFullyFilled := fillQuantity == maker.remainingQuantity
  require (fillQuantity ≤ cursor.localLevelQuantity) "Price-level aggregate is smaller than the fill"
  let nextLevelQuantity := cursor.localLevelQuantity - fillQuantity
  let nextOrderCount :=
    if makerFullyFilled then cursor.localOrderCount - 1 else cursor.localOrderCount
  let removesPriceLevel := makerFullyFilled && nextOrderCount == 0
  (if removesPriceLevel then
    require (maker.nextOrder = none ∧ cursor.level.lastOrder = some cursor.currentOrder ∧
      nextLevelQuantity = 0) "Final maker does not match level endpoints"
  else require (makerFullyFilled → maker.nextOrder ≠ none) "Filled FIFO maker has no successor")
  pure {
    step := {
      makerOrder := cursor.currentOrder
      makerPriceLevel := cursor.levelAddress
      makerBalance := .traderBalance request.marketAddress maker.owner
      makerPrice := maker.price
      nextOrder := if makerFullyFilled && !removesPriceLevel then maker.nextOrder else none
      worseLevel := if removesPriceLevel then
        cursor.level.worsePrice.map (.priceLevel request.marketAddress request.makerSide) else none
      levelRentRecipient := if removesPriceLevel then some cursor.level.rentPayer else none
      takerQuantityBeforeFill := remainingQuantity
      fillQuantity := fillQuantity }
    makerFullyFilled := makerFullyFilled
    nextOrderCount := nextOrderCount
    nextLevelQuantity := nextLevelQuantity }

/-- Why the plan stops at its cap, which the links of the last maker and of its level tell. -/
def capReason (maker : Order) (level : PriceLevel) : MatchPlanStopReason :=
  match maker.nextOrder, level.worsePrice with
  | some _, _ => .matchCap
  | none, none => .bookExhausted
  | none, some worsePrice => if request.crosses worsePrice then .matchCap else .nonCrossing

/-- Both loops from a place in a queue, with room for so many more steps. -/
def planQueue (room : Nat) (walk : Traversal) (cursor : QueueCursor) :
    Except String BoundedMatchPlan :=
  match room with
  | 0 => pure ⟨walk.steps, walk.remainingQuantity, .bookExhausted⟩
  | room + 1 => do
      let maker ← readMaker reads toBase58 request walk cursor
      let fill ← planFill request walk.remainingQuantity cursor maker
      let remainingQuantity := walk.remainingQuantity - fill.step.fillQuantity
      let steps := walk.steps ++ [fill.step]
      let walk := { walk with
        visitedOrders := cursor.currentOrder :: walk.visitedOrders
        steps := steps, remainingQuantity := remainingQuantity }
      if remainingQuantity = 0 then pure ⟨steps, remainingQuantity, .filled⟩
      else if room = 0 then pure ⟨steps, remainingQuantity, capReason request maker cursor.level⟩
      else do
        require fill.makerFullyFilled "Partial maker left an unexpected taker remainder"
        match maker.nextOrder with
        | some next => planQueue room walk { cursor with
            currentOrder := next, expectedPrevious := some cursor.currentOrder
            localOrderCount := fill.nextOrderCount
            localLevelQuantity := fill.nextLevelQuantity }
        | none => do
            let entered ←
              enterPrice reads toBase58 request walk cursor.level.worsePrice (some cursor.level.price)
            match entered with
            | .inl reason => pure ⟨steps, remainingQuantity, reason⟩
            | .inr (walk, cursor) => planQueue room walk cursor

def planBoundedMatches (market : Market) : Except String BoundedMatchPlan := do
  require (request.quantity ≠ 0) "Matching quantity must be greater than zero"
  let entered ← enterPrice reads toBase58 request ⟨[], [], [], request.quantity⟩
    (market.best request.makerSide) none
  match entered with
  | .inl reason => pure ⟨[], request.quantity, reason⟩
  | .inr (walk, cursor) => planQueue reads toBase58 request maxMatchesPerTransaction walk cursor

end Plan

/-! ## The resting order -/

/-- The placement at a price, which appends where the level exists and inserts where it does not. -/
def buildRestingOrderInstruction (reads : Reader PriceLevel) (toBase58 : Pubkey → String)
    (trader : Wallet) (marketAddress : Pubkey) (market : Market) (side : OrderSide)
    (price quantity : Nat) (rounds : Nat) : Option (Except String Instruction) :=
  match reads 0 (.priceLevel marketAddress side price) with
  | .error failure => some (.error failure)
  | .ok (some level) =>
      match level.lastOrder with
      | none => some (.error "Existing price level has no FIFO tail")
      | some tail => some (.ok (.appendLimitOrder trader marketAddress tail side
          (UInt64.ofNat price) (UInt64.ofNat quantity)))
  | .ok none =>
      (findPriceLevelNeighbors (fun turn => reads (turn + 1)) toBase58 marketAddress side price
        (market.best side) rounds).map fun found => do
          let neighbors ← found
          pure (.insertLimitOrder trader marketAddress neighbors.betterLevel neighbors.worseLevel side
            (UInt64.ofNat price) (UInt64.ofNat quantity))

/-! ## The ticket -/

def MatchStep.instruction (request : MatchRequest) (taker : Wallet) (step : MatchStep) :
    Instruction :=
  .matchLimitOrder ⟨taker, request.marketAddress, step.makerOrder, step.nextOrder, step.worseLevel,
    step.levelRentRecipient⟩ request.takerSide (UInt64.ofNat request.limitPrice)
    (UInt64.ofNat step.takerQuantityBeforeFill)

structure TicketReader where
  matching : MatchingReader
  protocolConfig : Except String (Option ProtocolConfig)

/-- What the page shows of the market and of the trader's balance on it. -/
structure TicketPage where
  marketAddress : Pubkey
  market : Market
  quoteDecimals : Nat
  traderBalance : Option TraderBalance

structure TicketAmounts where
  rawPrice : Nat
  rawQuantity : Nat

/-- The market's checks of what was typed. -/
def readAmounts (page : TicketPage) (price quantity : List Char) : Except String TicketAmounts := do
  let rawPrice ← parseTokenAmount price page.quoteDecimals "Price"
  require (page.market.priceTickSize ∣ rawPrice) ("Price must align to the " ++
    String.ofList (formatAtomicAmount page.market.priceTickSize page.quoteDecimals) ++ " tick")
  let rawQuantity ← parseTokenAmount quantity page.market.baseDecimals "Quantity"
  require (page.market.quantityLotSize ∣ rawQuantity) ("Quantity must align to the " ++
    String.ofList (formatAtomicAmount page.market.quantityLotSize page.market.baseDecimals) ++ " lot")
  pure ⟨rawPrice, rawQuantity⟩

def ticketFee (takerFeeBps grossQuote : Nat) : Nat :=
  if takerFeeBps = 0 then 0 else (grossQuote * takerFeeBps + 9999) / 10000

/-- Collateral of an order at a price, by the client's count. -/
def ticketCollateral (market : Market) (side : OrderSide) (price quantity : Nat) : Nat :=
  match side with
  | .bid => price * quantity / 10 ^ market.baseDecimals
  | .ask => quantity

def matchedCollateral (market : Market) (side : OrderSide) (takerFeeBps : Nat)
    (plan : BoundedMatchPlan) (filledQuantity : Nat) : Nat :=
  match side with
  | .bid => plan.steps.foldl (fun total step =>
      let grossQuote := step.makerPrice * step.fillQuantity / 10 ^ market.baseDecimals
      total + grossQuote + ticketFee takerFeeBps grossQuote) 0
  | .ask => filledQuantity

/-- What the ticket will send: its matches, and how much it rests, if any. -/
structure TicketPlan where
  steps : List MatchStep
  posted : Option Nat

def availableBalance (balance : TraderBalance) (side : OrderSide) : Nat :=
  match side with
  | .bid => balance.quoteFree
  | .ask => balance.baseFree

def insufficientBalance (side : OrderSide) : String :=
  "Insufficient free " ++ (match side with | .bid => "quote" | .ask => "base") ++ " balance"

section Ticket

variable (reads : TicketReader) (toBase58 : Pubkey → String) (trader : Wallet) (page : TicketPage)

def MatchRequest.ofTicket (side : OrderSide) (amounts : TicketAmounts) : MatchRequest :=
  ⟨page.marketAddress, trader.key, side, amounts.rawPrice, amounts.rawQuantity⟩

def planCrossing (balance : TraderBalance) (side : OrderSide) (amounts : TicketAmounts) :
    Except String TicketPlan := do
  let found ← reads.protocolConfig
  let config ← okOr found "Protocol configuration was not found"
  let plan ← planBoundedMatches reads.matching toBase58 (.ofTicket trader page side amounts)
    page.market
  require (plan.steps.length ≠ 0) "No crossing maker is currently available"
  let filledQuantity := amounts.rawQuantity - plan.remainingQuantity
  let safeToPostRemainder := plan.remainingQuantity ≠ 0 ∧
    (plan.stopReason = .bookExhausted ∨ plan.stopReason = .nonCrossing)
  let remainderCollateral :=
    ticketCollateral page.market side amounts.rawPrice plan.remainingQuantity
  let shouldPostRemainder := safeToPostRemainder ∧ remainderCollateral ≠ 0
  let matched := matchedCollateral page.market side config.takerFeeBps plan filledQuantity
  let requiredBalance := if shouldPostRemainder then matched + remainderCollateral else matched
  require (requiredBalance ≤ availableBalance balance side) (insufficientBalance side)
  pure ⟨plan.steps, if shouldPostRemainder then some plan.remainingQuantity else none⟩

def planTicket (side : OrderSide) (price quantity : List Char) :
    Except String (TicketAmounts × TicketPlan) := do
  require (page.market.status = .active) "This market is paused and cannot accept new orders"
  let balance ← okOr page.traderBalance "Initialize and fund your market balance first"
  let amounts ← readAmounts page price quantity
  let crossesBest := (page.market.best side.opposite).any
    (MatchRequest.ofTicket trader page side amounts).crosses
  if crossesBest then do
    let plan ← planCrossing reads toBase58 trader page balance side amounts
    pure (amounts, plan)
  else do
    require (ticketCollateral page.market side amounts.rawPrice amounts.rawQuantity ≤
      availableBalance balance side) (insufficientBalance side)
    pure (amounts, ⟨[], some amounts.rawQuantity⟩)

/-- The one transaction of a ticket. -/
def placeOrder (side : OrderSide) (price quantity : List Char) (rounds : Nat) :
    Option (Except String (List Instruction)) :=
  match planTicket reads toBase58 trader page side price quantity with
  | .error failure => some (.error failure)
  | .ok (amounts, plan) =>
      let matches_ := plan.steps.map
        (MatchStep.instruction (.ofTicket trader page side amounts) trader)
      match plan.posted with
      | none => some (.ok matches_)
      | some remainder =>
          (buildRestingOrderInstruction reads.matching.priceLevel toBase58 trader page.marketAddress
            page.market side amounts.rawPrice remainder rounds).map fun built => do
              let placement ← built
              pure (matches_ ++ [placement])

end Ticket

end Tidebook.Client
