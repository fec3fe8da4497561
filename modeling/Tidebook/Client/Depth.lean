import Tidebook.Client.Placement
import Tidebook.Library.Depth

/-! # The depth of a book

What the client shows of one side of a book: its price levels, read one account at a time from the
best price on, up to a limit.
-/

namespace Tidebook.Client
open Library Program

/-! ## Spot books -/

section Spot

variable (reads : Reader PriceLevel) (toBase58 : Pubkey → String) (market : Pubkey)
variable (side : OrderSide)

def sideLabel : OrderSide → String
  | .bid => "bid"
  | .ask => "ask"

/-- One turn of the traversal: a level with its address. -/
def fetchPriceLevel (visited : List Nat) (currentPrice : Nat) :
    Except String (Account PriceLevel) := do
  let address := Pubkey.priceLevel market side currentPrice
  require (address ∉ visited.map (Pubkey.priceLevel market side)) "Price-level index contains a cycle"
  let found ← reads visited.length address
  let level ← okOr found ("Missing " ++ sideLabel side ++ " price level " ++ toBase58 address)
  require (level.market = market ∧ level.side = side ∧ level.price = currentPrice)
    ("Invalid " ++ sideLabel side ++ " price-level link")
  pure ⟨address, level⟩

def fetchPriceLevelSide (bestPrice : Option Nat) (limit : Nat) :
    Except String (List (Account PriceLevel)) := do
  let (levels, _) ← gather (fetchPriceLevel reads toBase58 market side)
    (fun level => level.val.worsePrice) limit [] bestPrice
  pure levels

end Spot

/-! ## Prediction books -/

def predictionDepthLimit : Nat := 20

structure PredictionDepth where
  levels : List PredictionPriceLevel
  hasMore : Bool

section Prediction

variable (reads : Reader PredictionPriceLevel) (market : Pubkey) (book : PredictionOrderBook)
variable (outcome : PredictionOutcome) (side : OrderSide)

def readDepthLevel (visited : List Nat) (price : Nat) : Except String PredictionPriceLevel := do
  let found ← reads visited.length (.predictionLevel market outcome side price)
  let value ← okOr found "Order book changed or contains invalid links; refresh depth"
  require (value.market = market ∧ value.outcome = outcome ∧ value.side = side ∧
    value.price = price ∧ price ≠ 0 ∧ value.orderCount ≠ 0 ∧ value.totalRemainingQuantity ≠ 0 ∧
    value.firstOrder ≠ none ∧ value.lastOrder ≠ none ∧ value.betterPrice = visited.getLast? ∧
    ∀ worse ∈ value.worsePrice, side.Precedes price worse)
    "Order book changed or contains invalid links; refresh depth"
  pure value

def readPredictionDepth : Except String PredictionDepth := do
  require (book.market = market) "Book ownership mismatch"
  let (levels, price) ← gather (readDepthLevel reads market outcome side)
    PredictionPriceLevel.worsePrice predictionDepthLimit [] (predictionBestPrice book outcome side)
  pure ⟨levels, price.isSome⟩

end Prediction
end Tidebook.Client
