import Tidebook.Program.SharedTrading

/-! # Shared orders

Placement, cancellation and matching on a shared book.
-/

namespace Tidebook.Program
open Tidebook.Library

def loadSharedBook (shared : Shared) (market : Pubkey) : Result (Account SharedBook) := do
  let book ← load shared.books (.sharedBook market)
  require (book.val.market = market) .invalidSharedBook
  pure book

/-! ## Placement -/

structure PlaceSharedOrder where
  owner : Wallet
  market : Pubkey
  claims : ClaimKeys
  tail : Option Pubkey
  betterLevel : Option Pubkey
  worseLevel : Option Pubkey

/-- The stored level, unless the account is freshly allocated. -/
def existingLevel (levels : Store Pubkey SharedPriceLevel) (key : Pubkey) :
    Option (Account SharedPriceLevel) :=
  match levels.get key with
  | some level => if level.market = .default ∧ level.orderCount = 0 then none else some ⟨key, level⟩
  | none => none

/-- Joining an existing price: the level is where the book expects it and the supplied tail is
its last order. Returns the level with the new order appended. -/
def joinLevel (book : Account SharedBook) (slot : Fin 4) (outcome : SharedOutcome)
    (side : OrderSide) (price quantity : Nat) (order : Pubkey) (level : Account SharedPriceLevel)
    (tail : Option (Account SharedOrder)) (better worse : Option (Account SharedPriceLevel)) :
    Result (Account SharedOrder × SharedPriceLevel) := do
  checkSharedLevel book level
  require (level.val.outcome = outcome ∧ level.val.side = side ∧ level.val.price = price ∧
    better.isNone ∧ worse.isNone) .invalidSharedNeighbor
  let best ← okOr (book.val.bestPrices slot) .invalidSharedBook
  require ((level.val.betterPrice = none ↔ best = price) ∧ side.NoLater best price)
    .invalidSharedNeighbor
  let tail ← okOr tail .invalidSharedNeighbor
  checkSharedOrder book tail
  require (level.val.lastOrder = some tail.key ∧ tail.val.priceLevel = level.key ∧
    tail.val.outcome = outcome ∧ tail.val.side = side ∧ tail.val.price = price ∧
    tail.val.nextOrder = none) .invalidSharedNeighbor
  (if level.val.orderCount = 1 then
    require (level.val.firstOrder = some tail.key ∧ tail.val.previousOrder = none ∧
      level.val.totalRemainingQuantity = tail.val.remainingQuantity) .invalidSharedNeighbor
  else
    require (level.val.firstOrder ≠ some tail.key ∧ tail.val.previousOrder.isSome ∧
      level.val.totalRemainingQuantity > tail.val.remainingQuantity) .invalidSharedNeighbor)
  let count ← checkedAdd level.val.orderCount 1 .invalidSharedBook
  let total ← checkedAdd level.val.totalRemainingQuantity quantity .invalidSharedBook
  pure (tail, { level.val with
    lastOrder := some order, orderCount := count, totalRemainingQuantity := total })

/-- A supplied price neighbour belongs to the list. -/
def checkListLevel (book : Account SharedBook) (outcome : SharedOutcome) (side : OrderSide)
    (level : Account SharedPriceLevel) : Result Unit := do
  checkSharedLevel book level
  require (level.val.outcome = outcome ∧ level.val.side = side) .invalidSharedNeighbor

/-- Opening a new price: the supplied levels are adjacent and enclose it. -/
def checkSpread (book : Account SharedBook) (slot : Fin 4) (outcome : SharedOutcome)
    (side : OrderSide) (price : Nat) (tail : Option (Account SharedOrder))
    (better worse : Option (Account SharedPriceLevel)) : Result Unit := do
  require tail.isNone .invalidSharedNeighbor
  forSupplied better (checkListLevel book outcome side)
  forSupplied worse (checkListLevel book outcome side)
  match book.val.bestPrices slot with
  | none => require (better.isNone ∧ worse.isNone) .invalidSharedNeighbor
  | some best => do
      (match better with
        | some value => do
            require (side.Precedes value.val.price price ∧ side.NoLater best value.val.price)
              .invalidSharedNeighbor
            require (value.val.worsePrice = worse.map fun level => level.val.price)
              .invalidSharedNeighbor
            require (value.val.betterPrice = none ↔ value.val.price = best) .invalidSharedNeighbor
        | none => do
            let value ← okOr worse .invalidSharedNeighbor
            require (value.val.price = best ∧ value.val.betterPrice = none) .invalidSharedNeighbor)
      forSupplied worse fun value =>
        require ((value.val.betterPrice = better.map fun level => level.val.price) ∧
          side.Precedes price value.val.price) .invalidSharedNeighbor

/-- A newly submitted order, fully open and behind `previous` in its queue. -/
def newSharedOrder (owner : Pubkey) (book : Account SharedBook) (orderId : Nat)
    (outcome : SharedOutcome) (side : OrderSide) (price quantity lockedCollateral : Nat)
    (previous : Option Pubkey) : SharedOrder where
  owner := owner
  market := book.val.market
  book := book.key
  orderId := orderId
  outcome := outcome
  side := side
  price := price
  priceLevel := .sharedLevel book.key outcome side price
  previousOrder := previous
  nextOrder := none
  quantity := quantity
  remainingQuantity := quantity
  lockedCollateral := lockedCollateral
  status := .opened

/-- A level opened by its first order, between the two adjacent prices. -/
def newSharedLevel (owner : Pubkey) (book : Account SharedBook) (outcome : SharedOutcome)
    (side : OrderSide) (price quantity : Nat) (order : Pubkey) (better worse : Option Nat) :
    SharedPriceLevel where
  book := book.key
  market := book.val.market
  outcome := outcome
  side := side
  price := price
  betterPrice := better
  worsePrice := worse
  firstOrder := some order
  lastOrder := some order
  totalRemainingQuantity := quantity
  orderCount := 1
  rentPayer := owner

def handlePlaceSharedOrder (state : State) (accounts : PlaceSharedOrder) (outcome : SharedOutcome)
    (side : OrderSide) (price quantity orderId : Nat) : Result State := do
  let book ← loadSharedBook state.shared accounts.market
  let claims ← loadClaims state accounts.claims
  let order := Pubkey.sharedOrder book.key orderId
  vacant state.shared.orders order
  let level := Pubkey.sharedLevel book.key outcome side price
  let tail ← loadOption state.shared.orders accounts.tail
  let better ← loadOption state.shared.levels accounts.betterLevel
  let worse ← loadOption state.shared.levels accounts.worseLevel
  tradingOpen state book.val accounts.market
  trader book.val accounts.owner.key claims
  let (slot, amount) ← orderTerms book.val outcome side price quantity
  require (orderId > 0 ∧ orderId = book.val.nextOrderId) .invalidOrderId
  require (∀ opposite ∈ book.val.bestPrices (oppositeSlot slot), side.Precedes opposite price)
    .invalidPrice
  let nextOrderId ← checkedAdd orderId 1 .orderIdOverflow
  let openOrderCount ← checkedAdd book.val.openOrderCount 1 .invalidSharedBook
  let counted := { book.val with nextOrderId := nextOrderId, openOrderCount := openOrderCount }
  match existingLevel state.shared.levels level with
  | some current => do
      let (tail, joined) ← joinLevel book slot outcome side price quantity order current tail better
        worse
      let locked ← lock book.val.kind outcome side claims amount
      let funded := saveClaims state locked
      pure { funded with
        shared := { funded.shared with
          books := state.shared.books.set book.key counted
          orders := (state.shared.orders.set order
            (newSharedOrder accounts.owner.key book orderId outcome side price quantity amount
              (some tail.key))).set tail.key (tail.val.setNext (some order))
          levels := state.shared.levels.set current.key joined } }
  | none => do
      checkSpread book slot outcome side price tail better worse
      let locked ← lock book.val.kind outcome side claims amount
      let funded := saveClaims state locked
      pure { funded with
        shared := { funded.shared with
          books := state.shared.books.set book.key
            (if better.isNone then counted.setBest slot (some price) else counted)
          orders := state.shared.orders.set order
            (newSharedOrder accounts.owner.key book orderId outcome side price quantity amount none)
          levels := saveOption (saveOption
            (state.shared.levels.set level (newSharedLevel accounts.owner.key book outcome side
              price quantity order (better.map fun value => value.val.price)
              (worse.map fun value => value.val.price)))
            (better.map (Account.map (SharedPriceLevel.setWorse (some price)))))
            (worse.map (Account.map (SharedPriceLevel.setBetter (some price)))) } }

/-! ## Cancellation -/

structure CancelSharedOrder where
  owner : Wallet
  book : Pubkey
  claims : ClaimKeys
  order : Pubkey
  priceLevel : Pubkey
  previousOrder : Option Pubkey
  nextOrder : Option Pubkey
  betterLevel : Option Pubkey
  worseLevel : Option Pubkey
  levelRentRecipient : Option Pubkey

/-- A book supplied by its own address. -/
def loadBookAccount (shared : Shared) (key : Pubkey) : Result (Account SharedBook) := do
  let book ← load shared.books key
  require (book.key = .sharedBook book.val.market) .constraintSeeds
  pure book

def handleCancelSharedOrder (state : State) (accounts : CancelSharedOrder) : Result State := do
  let book ← loadBookAccount state.shared accounts.book
  let claims ← loadClaims state accounts.claims
  let order ← load state.shared.orders accounts.order
  require (order.val.owner = accounts.owner.key) .unauthorizedSharedOrderOwner
  let level ← load state.shared.levels accounts.priceLevel
  let previous ← loadOption state.shared.orders accounts.previousOrder
  let next ← loadOption state.shared.orders accounts.nextOrder
  let better ← loadOption state.shared.levels accounts.betterLevel
  let worse ← loadOption state.shared.levels accounts.worseLevel
  trader book.val accounts.owner.key claims
  checkSharedOrder book order
  let released ← unlock book.val.kind order.val.outcome order.val.side claims
    order.val.lockedCollateral
  let removal ← removeOrder book order level previous next better worse accounts.levelRentRecipient
  let freed := saveClaims state released
  pure { freed with
    shared := { freed.shared with
      books := state.shared.books.set book.key removal.book
      orders := saveOption (saveOption
        (state.shared.orders.set order.key { order.val with
          status := .canceled, lockedCollateral := 0, previousOrder := none, nextOrder := none })
        removal.previous) removal.next
      levels := saveOption (saveOption
        (saveOrClose state.shared.levels level.key removal.level) removal.better) removal.worse } }

/-! ## Matching -/

structure MatchSharedOrder where
  taker : Wallet
  market : Pubkey
  makerOrder : Pubkey
  priceLevel : Pubkey
  makerClaims : ClaimKeys
  takerClaims : ClaimKeys
  nextOrder : Option Pubkey
  worseLevel : Option Pubkey
  levelRentRecipient : Option Pubkey

/-- The maker is the first order of the best opposing level. -/
def checkSharedMaker (book : Account SharedBook) (slot : Fin 4) (outcome : SharedOutcome)
    (taker : Wallet) (maker : Account SharedOrder) (level : Account SharedPriceLevel) :
    Result Unit := do
  checkSharedOrder book maker
  checkSharedLevel book level
  require (maker.val.owner ≠ taker.key) .selfTradeNotAllowed
  require (maker.val.outcome = outcome ∧ maker.val.priceLevel = level.key ∧
    level.val.outcome = outcome ∧ level.val.side = maker.val.side ∧
    level.val.price = maker.val.price) .invalidSharedNeighbor
  require (book.val.bestPrices (oppositeSlot slot) = some maker.val.price ∧
    level.val.betterPrice = none) .makerNotAtBestPrice
  require (level.val.firstOrder = some maker.key ∧ maker.val.previousOrder = none)
    .makerNotFifoHead

/-- The maker's and the taker's claims after one fill. -/
def settleClaims (kind : MarketKind) (outcome : SharedOutcome) (takerSide : OrderSide)
    (plan : SettlementPlan) (fee : Nat) (maker taker : Claims) : Result (Claims × Claims) := do
  let (makerFree, makerLocked) ← baseBuckets kind outcome maker
  let (takerFree, takerLocked) ← baseBuckets kind outcome taker
  match takerSide with
  | .bid => do
      let cost ← checkedAdd plan.fill.quoteQuantity fee .freeBalanceOverflow
      let takerQuote ← checkedSub taker.quote.val.free cost .insufficientFreeBalance
      let makerQuote ← checkedAdd maker.quote.val.free plan.fill.quoteQuantity .freeBalanceOverflow
      let makerBase ← checkedSub makerLocked plan.makerLockedDebit .lockedBalanceUnderflow
      let takerBase ← checkedAdd takerFree plan.fill.baseQuantity .freeBalanceOverflow
      pure (setBaseBuckets outcome (maker.setQuote makerQuote maker.quote.val.locked) makerFree
          makerBase,
        setBaseBuckets outcome (taker.setQuote takerQuote taker.quote.val.locked) takerBase
          takerLocked)
  | .ask => do
      let proceeds ← checkedSub plan.fill.quoteQuantity fee .feeCalculationOverflow
      let takerBase ← checkedSub takerFree plan.fill.baseQuantity .insufficientFreeBalance
      let makerBase ← checkedAdd makerFree plan.fill.baseQuantity .freeBalanceOverflow
      let takerQuote ← checkedAdd taker.quote.val.free proceeds .freeBalanceOverflow
      let makerQuoteLocked ← checkedSub maker.quote.val.locked plan.makerLockedDebit
        .lockedBalanceUnderflow
      let makerQuote ← checkedAdd maker.quote.val.free plan.makerQuoteRefund .freeBalanceOverflow
      pure (setBaseBuckets outcome (maker.setQuote makerQuote makerQuoteLocked) makerBase
          makerLocked,
        setBaseBuckets outcome (taker.setQuote takerQuote taker.quote.val.locked) takerBase
          takerLocked)

/-- The maker order after a fill; a completed one leaves the book. -/
def SharedOrder.fill (order : SharedOrder) (full : Bool) (remaining collateral : Nat) :
    SharedOrder :=
  if full then { order with
    remainingQuantity := remaining, lockedCollateral := collateral
    previousOrder := none, nextOrder := none, status := .filled }
  else { order with remainingQuantity := remaining, lockedCollateral := collateral }

/-- A partial fill removes nothing and takes no removal hint. -/
def reduceLevel (book : SharedBook) (level : SharedPriceLevel) (total : Nat)
    (next : Option (Account SharedOrder)) (worse : Option (Account SharedPriceLevel))
    (recipient : Option Pubkey) : Result Removal := do
  require (next.isNone ∧ worse.isNone ∧ recipient = none) .invalidSharedNeighbor
  pure ⟨book, some { level with totalRemainingQuantity := total }, none, none, none, none⟩

def handleMatchSharedOrder (state : State) (accounts : MatchSharedOrder) (outcome : SharedOutcome)
    (takerSide : OrderSide) (limitPrice quantity : Nat) : Result State := do
  let book ← loadSharedBook state.shared accounts.market
  let config ← state.protocol.loadConfig
  let maker ← load state.shared.orders accounts.makerOrder
  let level ← load state.shared.levels accounts.priceLevel
  let makerClaims ← loadClaims state accounts.makerClaims
  let takerClaims ← loadClaims state accounts.takerClaims
  let next ← loadOption state.shared.orders accounts.nextOrder
  let worse ← loadOption state.shared.levels accounts.worseLevel
  tradingOpen state book.val accounts.market
  let (slot, _) ← orderTerms book.val outcome takerSide limitPrice quantity
  checkSharedMaker book slot outcome accounts.taker maker level
  trader book.val maker.val.owner makerClaims
  trader book.val accounts.taker.key takerClaims
  let plan ← calculateSettlement takerSide limitPrice quantity maker.val.side maker.val.price
    maker.val.remainingQuantity maker.val.lockedCollateral book.val.baseDecimals
  let fee ← calculateTakerFee plan.fill.quoteQuantity config.takerFeeBps
  let accrued ← checkedAdd book.val.accruedQuoteFees fee .feeAccrualOverflow
  let remaining ← checkedSub maker.val.remainingQuantity plan.fill.baseQuantity .invalidSharedBook
  let collateral ← checkedSub maker.val.lockedCollateral plan.makerLockedDebit .invalidSharedBook
  let total ← checkedSub level.val.totalRemainingQuantity plan.fill.baseQuantity .invalidSharedBook
  let (makerSettled, takerSettled) ←
    settleClaims book.val.kind outcome takerSide plan fee makerClaims takerClaims
  let removal ← (if plan.makerFullyFilled then
      removeOrder book maker level none next none worse accounts.levelRentRecipient
    else reduceLevel book.val level.val total next worse accounts.levelRentRecipient)
  let settled := saveClaims (saveClaims state makerSettled) takerSettled
  pure { settled with
    shared := { settled.shared with
      books := state.shared.books.set book.key { removal.book with accruedQuoteFees := accrued }
      orders := saveOption
        (state.shared.orders.set maker.key
          (maker.val.fill plan.makerFullyFilled remaining collateral)) removal.next
      levels := saveOption (saveOrClose state.shared.levels level.key removal.level)
        removal.worse } }

end Tidebook.Program
