import Tidebook.Library.Loop
import Tidebook.Program.PredictionOrders

/-! # Where a resting order goes

The client's search for the price levels next to a new price, in a spot book and in a prediction
book. Every account is read on its own, so a reader may answer each read differently.
-/

namespace Tidebook.Client
open Library Program

/-- What the node answers: the number of earlier reads, then the address. -/
abbrev Reader (α : Type) := Nat → Pubkey → Except String (Option α)

/-- A node that keeps answering with the same accounts. -/
def faithful {α : Type} (store : Store Pubkey α) : Reader α := fun _ address => .ok (store.get address)

/-! ## Spot books -/

structure PriceLevelNeighbors where
  betterLevel : Option Pubkey
  worseLevel : Option Pubkey

structure PriceLevelCursor where
  visited : List Pubkey
  expectedBetterPrice : Option Nat
  betterLevel : Option Pubkey
  currentPrice : Nat

def visitPriceLevel (reads : Reader PriceLevel) (toBase58 : Pubkey → String) (market : Pubkey)
    (side : OrderSide) (price : Nat) (cursor : PriceLevelCursor) :
    Except String (Turn PriceLevelCursor PriceLevelNeighbors) := do
  let currentLevel := Pubkey.priceLevel market side cursor.currentPrice
  require (currentLevel ∉ cursor.visited) "Price-level index contains a cycle"
  let found ← reads cursor.visited.length currentLevel
  let level ← okOr found ("Price-level index points to missing account " ++ toBase58 currentLevel)
  require (level.market = market ∧ level.side = side)
    "Price-level index crosses a market or side boundary"
  require (level.price = cursor.currentPrice) "Price-level PDA and stored price do not match"
  require (level.betterPrice = cursor.expectedBetterPrice)
    "Price-level index has a broken reciprocal link"
  require (∀ expected ∈ cursor.expectedBetterPrice, side.Precedes expected level.price)
    "Price-level index is not strictly ordered"
  require (price ≠ level.price) "Price level appeared during traversal; refresh and retry"
  if side.Precedes price level.price then
    pure (.stop ⟨cursor.betterLevel, some currentLevel⟩)
  else
    match level.worsePrice with
    | none => pure (.stop ⟨some currentLevel, none⟩)
    | some worsePrice =>
        pure (.again ⟨currentLevel :: cursor.visited, some level.price, some currentLevel, worsePrice⟩)

def findPriceLevelNeighbors (reads : Reader PriceLevel) (toBase58 : Pubkey → String)
    (market : Pubkey) (side : OrderSide) (price : Nat) (bestPrice : Option Nat) (rounds : Nat) :
    Option (Except String PriceLevelNeighbors) :=
  match bestPrice with
  | none => some (.ok ⟨none, none⟩)
  | some best => loop (visitPriceLevel reads toBase58 market side price) rounds ⟨[], none, none, best⟩

/-! ## Prediction books -/

def predictionBestPrice (book : PredictionOrderBook) (outcome : PredictionOutcome)
    (side : OrderSide) : Option Nat :=
  match outcome with
  | .yes => match side with
      | .bid => book.yesBestBid
      | .ask => book.yesBestAsk
  | .no => match side with
      | .bid => book.noBestBid
      | .ask => book.noBestAsk

structure PredictionInsertTarget where
  better : Option PredictionPriceLevel
  worse : Option PredictionPriceLevel

inductive PredictionPlacementTarget where
  | append (levelAddress tailAddress : Pubkey) (level : PredictionPriceLevel) (tail : PredictionOrder)
  | insert (target : PredictionInsertTarget)
  | place

/-- What is wrong with a neighbouring level on its own. -/
def invalidNeighbor (book : PredictionOrderBook) (outcome : PredictionOutcome) (side : OrderSide)
    (best : Nat) (level : PredictionPriceLevel) : Prop :=
  level.market ≠ book.market ∨ level.outcome ≠ outcome ∨ level.side ≠ side ∨
    level.orderCount = 0 ∨ level.totalRemainingQuantity = 0 ∨
    level.firstOrder = none ∨ level.lastOrder = none ∨
    ¬(best = level.price ↔ level.betterPrice = none) ∨ side.Precedes level.price best

instance (book : PredictionOrderBook) (outcome : PredictionOutcome) (side : OrderSide) (best : Nat)
    (level : PredictionPriceLevel) : Decidable (invalidNeighbor book outcome side best level) := by
  unfold invalidNeighbor
  infer_instance

def validNeighbors (side : OrderSide) (price best : Nat) :
    Option PredictionPriceLevel → Option PredictionPriceLevel → Bool
  | none, some worse =>
      worse.price = best ∧ worse.betterPrice = none ∧ side.Precedes price worse.price
  | some better, some worse =>
      better.worsePrice = some worse.price ∧ worse.betterPrice = some better.price ∧
        side.Precedes better.price price ∧ side.Precedes price worse.price
  | some better, none => better.worsePrice = none ∧ side.Precedes better.price price
  | none, none => false

def validatePredictionNeighbors (book : PredictionOrderBook) (outcome : PredictionOutcome)
    (side : OrderSide) (price : Nat) (target : PredictionInsertTarget) : Except String Unit := do
  let best ← okOr (predictionBestPrice book outcome side)
    "Insertion requires an occupied side; refresh"
  require (∀ level ∈ target.better, ¬invalidNeighbor book outcome side best level)
    "Invalid neighboring price level; refresh"
  require (∀ level ∈ target.worse, ¬invalidNeighbor book outcome side best level)
    "Invalid neighboring price level; refresh"
  require (validNeighbors side price best target.better target.worse)
    "Price neighbors are stale or not adjacent; refresh"

structure PredictionCursor where
  visited : Nat
  seen : List Nat
  better : Option PredictionPriceLevel
  cursor : Nat

/-- One turn of the bounded traversal, which reads on after the level of the new price itself. -/
def visitPredictionLevel (reads : Reader PredictionPriceLevel) (market : Pubkey)
    (book : PredictionOrderBook) (outcome : PredictionOutcome) (side : OrderSide) (price : Nat)
    (walk : PredictionCursor) : Except String (Turn PredictionCursor PredictionInsertTarget) := do
  require (walk.visited < 128) "Price search exceeds 128 levels; choose a nearer price"
  require (walk.cursor ∉ walk.seen) "Price-list cycle; refresh"
  let found ← reads (walk.visited + 1) (.predictionLevel market outcome side walk.cursor)
  let current ← okOr found "Price list changed or is invalid; refresh"
  require (current.price = walk.cursor ∧ current.market = market ∧ current.outcome = outcome ∧
    current.side = side ∧ current.betterPrice = walk.better.map PredictionPriceLevel.price)
    "Price list changed or is invalid; refresh"
  require (current.price ≠ price) "Price list changed; refresh"
  if side.Precedes price current.price then do
    let target := ⟨walk.better, some current⟩
    validatePredictionNeighbors book outcome side price target
    pure (.stop target)
  else
    match current.worsePrice with
    | none => do
        let target := ⟨some current, none⟩
        validatePredictionNeighbors book outcome side price target
        pure (.stop target)
    | some worsePrice => do
        require (side.Precedes current.price worsePrice) "Invalid price ordering; refresh"
        pure (.again ⟨walk.visited + 1, walk.cursor :: walk.seen, some current, worsePrice⟩)

structure PredictionPlacementReader where
  predictionPriceLevel : Reader PredictionPriceLevel
  predictionOrder : Reader PredictionOrder

/-- The level that already exists, with its tail. -/
def readTail (accounts : PredictionPlacementReader) (levelAddress : Pubkey)
    (level : PredictionPriceLevel) : Except String PredictionPlacementTarget := do
  let tailAddress ← okOr level.lastOrder "Existing price level has no queue tail"
  let found ← accounts.predictionOrder 1 tailAddress
  let tail ← okOr found "Price-level tail account is unavailable"
  pure (.append levelAddress tailAddress level tail)

def readPredictionPlacementTarget (accounts : PredictionPlacementReader) (market : Pubkey)
    (book : PredictionOrderBook) (outcome : PredictionOutcome) (side : OrderSide) (price : Nat)
    (rounds : Nat) : Option (Except String PredictionPlacementTarget) :=
  let levelAddress := Pubkey.predictionLevel market outcome side price
  if book.market ≠ market then some (.error "Book belongs to a different market")
  else
    match accounts.predictionPriceLevel 0 levelAddress with
    | .error failure => some (.error failure)
    | .ok (some level) => some (readTail accounts levelAddress level)
    | .ok none =>
        match predictionBestPrice book outcome side with
        | none => some (.ok .place)
        | some best =>
            (loop (visitPredictionLevel accounts.predictionPriceLevel market book outcome side price)
              rounds ⟨0, [], none, best⟩).map (Except.map .insert)

/-- The price accounts of an insertion: a missing neighbour is left out. -/
def PredictionInsertTarget.betterLevel (target : PredictionInsertTarget) (market : Pubkey)
    (outcome : PredictionOutcome) (side : OrderSide) : Option Pubkey :=
  target.better.map fun level => .predictionLevel market outcome side level.price

def PredictionInsertTarget.worseLevel (target : PredictionInsertTarget) (market : Pubkey)
    (outcome : PredictionOutcome) (side : OrderSide) : Option Pubkey :=
  target.worse.map fun level => .predictionLevel market outcome side level.price

end Tidebook.Client
