import Tidebook.Proof.Conservation
import Tidebook.Proof.PredictionHints

/-! # Placement hints

What the client finds for a new resting order is what the program accepts, and nothing else is.
-/

namespace Tidebook.Proof
open Library Program Client

structure SpotHint (spot : Spot) (market : Pubkey) (record : Market) (side : OrderSide)
    (prices : List Nat) (price : Nat) (better worse : Option Nat) : Prop where
  gap : InGap side.Precedes prices price better worse
  unique : ∀ above below, InGap side.Precedes prices price above below → above = better ∧ below = worse
  found : ∀ toBase58, ∃ rounds,
    findPriceLevelNeighbors (faithful spot.levels) toBase58 market side price (record.best side)
      rounds = some (.ok (spotNeighbors market side better worse))
  accepted : ∀ trader quantity betterLevel worseLevel,
    (∃ after, handleInsertLimitOrder spot trader market betterLevel worseLevel side price quantity =
        .ok after) ↔
      ⟨betterLevel, worseLevel⟩ = spotNeighbors market side better worse ∧
      spotTerms spot trader market side price quantity = .ok ()

structure FreshTarget (prediction : Prediction) (market : Pubkey) (book : PredictionOrderBook)
    (outcome : PredictionOutcome) (side : OrderSide) (prices : List Nat) (price : Nat)
    (better worse : Option Nat) : Prop where
  gap : InGap side.Precedes prices price better worse
  unique : ∀ above below, InGap side.Precedes prices price above below → above = better ∧ below = worse
  found : ∃ rounds target,
    readPredictionPlacementTarget ⟨faithful prediction.levels, faithful prediction.orders⟩ market book
      outcome side price rounds = some (.ok (if prices = [] then .place else .insert target)) ∧
    target.betterLevel market outcome side = better.map (.predictionLevel market outcome side) ∧
    target.worseLevel market outcome side = worse.map (.predictionLevel market outcome side)
  placed : ∀ now owner orderId quantity,
    (∃ after, handlePlacePredictionOrder prediction now owner market orderId outcome side price
        quantity = .ok after) ↔
      prices = [] ∧
      predictionTerms prediction now owner market orderId outcome side price quantity = .ok ()
  inserted : ∀ now owner orderId quantity betterLevel worseLevel,
    (∃ after, handleInsertPredictionOrder prediction now owner market betterLevel worseLevel orderId
        outcome side price quantity = .ok after) ↔
      prices ≠ [] ∧ betterLevel = better.map (.predictionLevel market outcome side) ∧
      worseLevel = worse.map (.predictionLevel market outcome side) ∧
      predictionTerms prediction now owner market orderId outcome side price quantity = .ok ()

def ListedTarget (prediction : Prediction) (market : Pubkey) (book : PredictionOrderBook)
    (outcome : PredictionOutcome) (side : OrderSide) (price : Nat) : Prop :=
  ∃ level key tail,
    prediction.levels.get (.predictionLevel market outcome side price) = some level ∧
    level.lastOrder = some key ∧ prediction.orders.get key = some tail ∧
    (∀ rounds,
      readPredictionPlacementTarget ⟨faithful prediction.levels, faithful prediction.orders⟩ market
          book outcome side price rounds =
        some (.ok (.append (.predictionLevel market outcome side price) key level tail))) ∧
    ∀ now owner orderId quantity tailOrder,
      (∃ after, handleAppendPredictionOrder prediction now owner market tailOrder orderId outcome side
          price quantity = .ok after) ↔
        tailOrder = key ∧
        predictionTerms prediction now owner market orderId outcome side price quantity = .ok () ∧
        ∃ appended, level.append (.predictionOrder market orderId) quantity = .ok appended

/-- In both books the client finds exactly what the program accepts, and its searches end whatever
the node answers. -/
theorem placement_hints :
    (∀ (spot : Spot) (market : Pubkey) (record : Market) (side : OrderSide) (prices : List Nat)
      (price : Nat), spot.markets.get market = some record →
        SpotList spot.levels market side (record.best side) prices → price ∉ prices →
          ∃ better worse, SpotHint spot market record side prices price better worse) ∧
    (∀ (prediction : Prediction) (market : Pubkey) (book : PredictionOrderBook)
      (outcome : PredictionOutcome) (side : OrderSide) (prices : List Nat) (price : Nat),
        prediction.books.get (.predictionBook market) = some book → book.market = market →
        PredictionList prediction market book outcome side prices →
          (prices.length ≤ 128 → price ∉ prices → ∃ better worse,
            FreshTarget prediction market book outcome side prices price better worse) ∧
          (price ∈ prices → ListedTarget prediction market book outcome side price)) ∧
    (∀ (reads : Reader PriceLevel) (toBase58 : Pubkey → String) (market : Pubkey) (side : OrderSide)
      (price : Nat) (best : Option Nat), Decoded reads → (∀ top ∈ best, top ≤ u64Max) → ∃ rounds,
        (findPriceLevelNeighbors reads toBase58 market side price best rounds).isSome) ∧
    ∀ (accounts : PredictionPlacementReader) (market : Pubkey) (book : PredictionOrderBook)
      (outcome : PredictionOutcome) (side : OrderSide) (price : Nat), ∃ rounds,
        (readPredictionPlacementTarget accounts market book outcome side price rounds).isSome := by
  refine ⟨?_, ?_, ?_, ?_⟩
  · intro spot market record side prices price stored list fresh
    obtain ⟨left, right, split, before, after⟩ :=
      exists_gap (precedes_total side) list.linked.sorted fresh
    have gap : InGap side.Precedes prices price left.getLast? right.head? :=
      ⟨left, right, split, rfl, rfl, before, after⟩
    refine ⟨_, _, gap, fun above below also => also.unique gap,
      fun toBase58 => ⟨_, findPriceLevelNeighbors_finds list gap⟩, ?_⟩
    intro trader quantity betterLevel worseLevel
    rw [handleInsertLimitOrder_iff stored list fresh gap, spotNeighbors,
      PriceLevelNeighbors.mk.injEq, and_assoc]
  · intro prediction market book outcome side prices price stored home list
    refine ⟨fun short fresh => ?_, fun listed => ?_⟩
    · obtain ⟨left, right, split, before, after⟩ :=
        exists_gap (precedes_total side) list.linked.sorted fresh
      have gap : InGap side.Precedes prices price left.getLast? right.head? :=
        ⟨left, right, split, rfl, rfl, before, after⟩
      obtain ⟨betterLevel, worseLevel⟩ := predictionTarget_levels list gap
      exact ⟨_, _, gap, fun above below also => also.unique gap,
        ⟨_, _, readPredictionPlacementTarget_fresh list home short fresh gap, betterLevel, worseLevel⟩,
        fun now owner orderId quantity => handlePlacePredictionOrder_iff stored list fresh,
        fun now owner orderId quantity => handleInsertPredictionOrder_iff stored list fresh gap⟩
    · obtain ⟨level, key, tail, found, last, present, target⟩ :=
        readPredictionPlacementTarget_listed list home listed
      exact ⟨level, key, tail, found, last, present, target, fun now owner orderId quantity =>
        handleAppendPredictionOrder_iff stored list found last present⟩
  · intro reads toBase58 market side price best decoded fits
    exact ⟨_, findPriceLevelNeighbors_ends decoded toBase58 market side price fits⟩
  · intro accounts market book outcome side price
    exact ⟨_, readPredictionPlacementTarget_ends accounts market book outcome side price⟩

/-! In every run all books keep to such lists. -/

theorem placement_lists (genesis : Genesis) (events : List Event) :
    (∀ market record side, (genesis.after events).state.spot.markets.get market = some record →
      ∃ prices, SpotList (genesis.after events).state.spot.levels market side (record.best side)
        prices) ∧
    ∀ market book outcome side,
      (genesis.after events).state.prediction.books.get (.predictionBook market) = some book →
        ∃ prices, PredictionList (genesis.after events).state.prediction market book outcome side
          prices := by
  have holds := run_invariant genesis events
  exact ⟨fun market record side stored => holds.spot.list stored side,
    fun market book outcome side stored => holds.prediction.list stored outcome side⟩

set_option maxRecDepth 4096 in
theorem placement_hints_traded :
    (∃ record prices better worse,
      SpotHint Sample.traded.spot Sample.spot record .bid prices 25 better worse) ∧
    ∃ book, (∃ better worse,
      FreshTarget Sample.traded.prediction Sample.question book .yes .ask [6] 7 better worse) ∧
      ListedTarget Sample.traded.prediction Sample.question book .yes .ask 6 := by
  have known : (Sample.traded.spot.markets.get Sample.spot).isSome ∧
      spotLinks Sample.traded.spot.levels Sample.spot .bid 25 = none ∧
      (Sample.traded.prediction.books.get (.predictionBook Sample.question)).map
          (fun book => (book.market, book.bestPrice .yes .ask)) = some (Sample.question, some 6) ∧
      (predictionLinks Sample.traded.prediction.levels Sample.question .yes .ask 6).map
        (fun link => (link.prev, link.next)) = some (none, none) := by
    decide +kernel
  obtain ⟨traded, vacant, opened, alone⟩ := known
  obtain ⟨record, stored⟩ := Option.isSome_iff_exists.mp traded
  obtain ⟨book, filed, named⟩ := Option.map_eq_some_iff.mp opened
  obtain ⟨home, best⟩ := Prod.mk.inj named
  obtain ⟨link, single, ends⟩ := Option.map_eq_some_iff.mp alone
  obtain ⟨prev, next⟩ := link
  cases ends
  obtain ⟨spotLists, predictionLists⟩ :=
    placement_lists Sample.start (Sample.funding ++ Sample.opening ++ Sample.trading)
  obtain ⟨prices, list⟩ := spotLists Sample.spot record .bid stored
  obtain ⟨asks, asked⟩ := predictionLists Sample.question book .yes .ask filed
  obtain rfl := asked.linked.singleton best single
  obtain ⟨better, worse, hint⟩ := placement_hints.1 Sample.traded.spot Sample.spot record .bid prices
    25 stored list (list.linked.not_mem vacant)
  obtain ⟨fresh, listed⟩ := placement_hints.2.1 Sample.traded.prediction Sample.question book .yes .ask
    [6] 7 filed home asked
  obtain ⟨-, existing⟩ := placement_hints.2.1 Sample.traded.prediction Sample.question book .yes .ask
    [6] 6 filed home asked
  exact ⟨⟨record, prices, better, worse, hint⟩, book, fresh (by decide) (by decide),
    existing (by decide)⟩

end Tidebook.Proof
