import Tidebook.Proof.PredictionBook

/-! # The invariant of the prediction books -/

namespace Tidebook.Proof
open Library Program

namespace Predicted

/-! ## Measures of the order store -/

def lockedBy (holder : Pubkey × Pubkey) (bucket : Bucket) (_ : Pubkey) (order : PredictionOrder) :
    Nat :=
  if order.status = .opened ∧ (order.market, order.owner) = holder ∧
    Bucket.of order.outcome order.side = bucket then order.lockedCollateral else 0

def openIn (market : Pubkey) (_ : Pubkey) (order : PredictionOrder) : Nat :=
  if order.market = market ∧ order.status = .opened then 1 else 0

theorem lockedBy_live {order : PredictionOrder} (live : order.status = .opened) (key : Pubkey)
    (holder : Pubkey × Pubkey) (bucket : Bucket) :
    lockedBy holder bucket key order = Ledger.single (order.market, order.owner)
      (Pi.single (.of order.outcome order.side) order.lockedCollateral) holder bucket := by
  simp only [lockedBy, live, true_and, Ledger.single, Pi.single_apply, ← ite_and, eq_comm]

theorem lockedBy_closed {order : PredictionOrder} (closed : order.status ≠ .opened) (key : Pubkey)
    (holder : Pubkey × Pubkey) (bucket : Bucket) : lockedBy holder bucket key order = 0 := by
  simp [lockedBy, closed]

/-! ## Resting orders -/

def exactBacking (side : OrderSide) (price quantity : Nat) : Nat :=
  match side with
  | .bid => price * quantity
  | .ask => quantity

structure Resting (market : PredictionMarket) (order : PredictionOrder) : Prop where
  price_pos : 0 < order.price
  price_lt : order.price < market.payoutPerContract
  tick : market.priceTick ∣ order.price
  id_pos : 0 < order.orderId
  remaining_pos : 0 < order.remainingQuantity
  remaining_le : order.remainingQuantity ≤ order.quantity
  backed : order.lockedCollateral = exactBacking order.side order.price order.remainingQuantity
  fits : order.lockedCollateral ≤ u64Max
  level : order.priceLevel =
    .predictionLevel order.market order.outcome order.side order.price

def Rests (markets : Store Pubkey PredictionMarket) (order : PredictionOrder) : Prop :=
  order.status = .opened → ∃ market, markets.get order.market = some market ∧ Resting market order

def Issued (books : Store Pubkey PredictionOrderBook) (order : PredictionOrder) : Prop :=
  ∃ book, books.get (.predictionBook order.market) = some book ∧ order.orderId < book.nextOrderId

end Predicted

open Predicted (Rests Issued Resting)

structure PredictionInvariant (prediction : Prediction) : Prop where
  markets : prediction.markets.Keyed fun market => .predictionMarket market.marketId
  books : prediction.books.Keyed fun book => .predictionBook book.market
  orders : prediction.orders.Keyed fun order => .predictionOrder order.market order.orderId
  levels : prediction.levels.Keyed fun level =>
    .predictionLevel level.market level.outcome level.side level.price
  sound : predictionShelf.Sound listPrecedes (predictionHeads prediction.books) prediction.orders
    prediction.levels
  resting : ∀ key order, prediction.orders.get key = some order → Rests prediction.markets order
  issued : ∀ key order, prediction.orders.get key = some order → Issued prediction.books order
  counts : ∀ key market, prediction.markets.get key = some market →
    market.openOrderCount = prediction.orders.total (Predicted.openIn key)

def resolutionTerms (market : PredictionMarket) :=
  (market.collateralVault, market.resolver, market.fallback, market.closeTs,
    market.earliestResolutionTs, market.resolutionDelaySeconds)

def courseOf (market : PredictionMarket) :=
  (market.status, market.resolutionPhase, market.proposal, market.finalOutcome)

structure SameQuestion (before after : PredictionMarket) : Prop where
  marketId : after.marketId = before.marketId
  collateralMint : after.collateralMint = before.collateralMint
  payout : after.payoutPerContract = before.payoutPerContract
  tick : after.priceTick = before.priceTick
  resolution : resolutionTerms after = resolutionTerms before

namespace Predicted

theorem Resting.congr {before after : PredictionMarket} {order : PredictionOrder}
    (rest : Resting before order) (same : SameQuestion before after) : Resting after order :=
  { rest with
    price_lt := same.payout.symm ▸ rest.price_lt
    tick := same.tick.symm ▸ rest.tick }

theorem Rests.update {markets : Store Pubkey PredictionMarket} {key : Pubkey}
    {before after : PredictionMarket} {order : PredictionOrder}
    (stored : markets.get key = some before) (same : SameQuestion before after)
    (rests : Rests markets order) : Rests (markets.set key after) order := by
  intro live
  obtain ⟨market, found, rest⟩ := rests live
  rw [Store.get_set]
  split
  · next home =>
      rw [home, stored] at found
      cases found
      exact ⟨after, rfl, rest.congr same⟩
  · exact ⟨market, found, rest⟩

theorem Rests.setNext {markets : Store Pubkey PredictionMarket} {order : PredictionOrder}
    (value : Option Pubkey) (rests : Rests markets order) :
    Rests markets (predictionShelf.setNext value order) := by
  intro live
  obtain ⟨market, found, rest⟩ := rests live
  obtain ⟨h1, h2, h3, h4, h5, h6, h7, h8, h9⟩ := rest
  exact ⟨market, found, h1, h2, h3, h4, h5, h6, h7, h8, h9⟩

theorem Rests.setPrevious {markets : Store Pubkey PredictionMarket} {order : PredictionOrder}
    (value : Option Pubkey) (rests : Rests markets order) :
    Rests markets (predictionShelf.setPrevious value order) := by
  intro live
  obtain ⟨market, found, rest⟩ := rests live
  obtain ⟨h1, h2, h3, h4, h5, h6, h7, h8, h9⟩ := rest
  exact ⟨market, found, h1, h2, h3, h4, h5, h6, h7, h8, h9⟩

theorem Issued.update {books : Store Pubkey PredictionOrderBook} {key : Pubkey}
    {before after : PredictionOrderBook} {order : PredictionOrder}
    (stored : books.get (.predictionBook key) = some before)
    (later : before.nextOrderId ≤ after.nextOrderId) (issued : Issued books order) :
    Issued (books.set (.predictionBook key) after) order := by
  obtain ⟨book, found, earlier⟩ := issued
  simp only [Issued, Store.get_set]
  split
  · next home =>
      rw [home, stored] at found
      cases found
      exact ⟨after, rfl, lt_of_lt_of_le earlier later⟩
  · exact ⟨book, found, earlier⟩

/-- Writing one order and relinking its neighbours keeps what the pointers do not enter. -/
theorem relinked {P : PredictionOrder → Prop} {orders : Store Pubkey PredictionOrder}
    {key : Pubkey} {order : PredictionOrder} {previous next after before : Option Pubkey}
    (blindNext : ∀ value order, P order → P (predictionShelf.setNext value order))
    (blindPrevious : ∀ value order, P order → P (predictionShelf.setPrevious value order))
    (holds : ∀ key order, orders.get key = some order → P order) (written : P order)
    (found : Pubkey) (record : PredictionOrder)
    (present : (predictionShelf.relink (orders.set key order) previous next after before).get found =
      some record) : P record := by
  refine Shelf.relink_forall (P := fun _ order => P order) (fun _ => blindNext)
    (fun _ => blindPrevious) (fun other old stored => ?_) found record present
  rw [Store.get_set] at stored
  split at stored
  · cases stored
    exact written
  · exact holds other old stored

theorem relink_openIn {orders : Store Pubkey PredictionOrder}
    {previous next after before : Option Pubkey} (market : Pubkey) :
    (predictionShelf.relink orders previous next after before).total (openIn market) =
      orders.total (openIn market) :=
  Shelf.relink_total (fun _ _ _ => rfl) fun _ _ _ => rfl

theorem relink_lockedBy {orders : Store Pubkey PredictionOrder}
    {previous next after before : Option Pubkey} (holder : Pubkey × Pubkey) (bucket : Bucket) :
    (predictionShelf.relink orders previous next after before).total (lockedBy holder bucket) =
      orders.total (lockedBy holder bucket) :=
  Shelf.relink_total (fun _ _ _ => rfl) fun _ _ _ => rfl

end Predicted

/-! ## One edit

Every order handler writes the market's count, its book, one order, the pointers of the order's
neighbours and some levels.
-/

structure PredictionEdit (prediction after : Prediction) (key orderKey : Pubkey)
    (market : PredictionMarket) (count : Nat) (book headed : PredictionOrderBook)
    (written : PredictionOrder) (previous next ahead behind : Option Pubkey) : Prop where
  stored : prediction.markets.get key = some market
  bookStored : prediction.books.get (.predictionBook key) = some book
  bookMarket : headed.market = book.market
  later : book.nextOrderId ≤ headed.nextOrderId
  named : orderKey = .predictionOrder key written.orderId
  home : written.market = key
  issued : written.orderId < headed.nextOrderId
  rests : written.status = .opened → Resting market written
  markets : after.markets =
    prediction.markets.set key { market with openOrderCount := count }
  books : after.books = prediction.books.set (.predictionBook key) headed
  orders : after.orders =
    predictionShelf.relink (prediction.orders.set orderKey written) previous next ahead behind
  levels : after.levels.Keyed fun level =>
    .predictionLevel level.market level.outcome level.side level.price
  sound : predictionShelf.Sound listPrecedes (predictionHeads after.books) after.orders after.levels
  counted : count + (prediction.orders.get orderKey).elim 0 (Predicted.openIn key orderKey) =
    market.openOrderCount + Predicted.openIn key orderKey written

theorem PredictionInvariant.edit {prediction after : Prediction} {key orderKey : Pubkey}
    {market : PredictionMarket} {count : Nat} {book headed : PredictionOrderBook}
    {written : PredictionOrder} {previous next ahead behind : Option Pubkey}
    (holds : PredictionInvariant prediction)
    (edit : PredictionEdit prediction after key orderKey market count book headed written previous
      next ahead behind) : PredictionInvariant after where
  markets := by
    rw [edit.markets]
    have keyed := holds.markets key market edit.stored
    exact holds.markets.set keyed
  books := by
    rw [edit.books]
    refine holds.books.set ?_
    rw [edit.bookMarket]
    exact holds.books _ _ edit.bookStored
  orders := by
    rw [edit.orders]
    refine Shelf.relink_keyed (fun _ _ => rfl) (fun _ _ => rfl) (holds.orders.set ?_)
    rw [edit.home, edit.named]
  levels := edit.levels
  sound := edit.sound
  resting := by
    rw [edit.orders, edit.markets]
    have same : SameQuestion market { market with openOrderCount := count } := ⟨rfl, rfl, rfl, rfl, rfl⟩
    refine Predicted.relinked (fun value _ => Rests.setNext value)
      (fun value _ => Rests.setPrevious value)
      (fun found order present => (holds.resting found order present).update edit.stored same)
      fun live => ⟨_, ?_, (edit.rests live).congr same⟩
    rw [edit.home, Store.get_set_self]
  issued := by
    rw [edit.orders, edit.books]
    refine Predicted.relinked (fun _ _ issued => issued) (fun _ _ issued => issued)
      (fun found order present => (holds.issued found order present).update edit.bookStored
        edit.later) ⟨headed, ?_, edit.issued⟩
    rw [edit.home, Store.get_set_self]
  counts found other present := by
    have changed := Store.total_set (f := Predicted.openIn found) prediction.orders orderKey written
    rw [edit.orders, Predicted.relink_openIn]
    rw [edit.markets, Store.get_set] at present
    split at present
    · next same =>
        subst same
        cases present
        have before := holds.counts found market edit.stored
        have after := edit.counted
        dsimp only
        omega
    · next different =>
        have before := holds.counts found other present
        have unseen : Predicted.openIn found orderKey written = 0 := by
          simp [Predicted.openIn, edit.home, Ne.symm different]
        have gone : (prediction.orders.get orderKey).elim 0 (Predicted.openIn found orderKey) =
            0 := by
          cases old : prediction.orders.get orderKey with
          | none => rfl
          | some order =>
              have named := holds.orders orderKey order old
              rw [edit.named, Pubkey.predictionOrder.injEq] at named
              simp [Predicted.openIn, ← named.1, Ne.symm different]
        omega

theorem PredictionEdit.locks {prediction after : Prediction} {key orderKey : Pubkey}
    {market : PredictionMarket} {count : Nat} {book headed : PredictionOrderBook}
    {written : PredictionOrder} {previous next ahead behind : Option Pubkey}
    (edit : PredictionEdit prediction after key orderKey market count book headed written previous
      next ahead behind) (holder : Pubkey × Pubkey) (bucket : Bucket) :
    after.orders.total (Predicted.lockedBy holder bucket) +
        (prediction.orders.get orderKey).elim 0 (Predicted.lockedBy holder bucket orderKey) =
      prediction.orders.total (Predicted.lockedBy holder bucket) +
        Predicted.lockedBy holder bucket orderKey written := by
  rw [edit.orders, Predicted.relink_lockedBy]
  exact Store.total_set _ _ _

/-! ## Everything that is not an order -/

theorem PredictionInvariant.retag {prediction : Prediction} {key : Pubkey}
    {market record : PredictionMarket} {positions : Store Pubkey PredictionPosition}
    (holds : PredictionInvariant prediction) (stored : prediction.markets.get key = some market)
    (same : SameQuestion market record) (count : record.openOrderCount = market.openOrderCount) :
    PredictionInvariant { prediction with
      markets := prediction.markets.set key record, positions := positions } where
  markets := by
    refine holds.markets.set ?_
    rw [same.marketId]
    exact holds.markets key market stored
  books := holds.books
  orders := holds.orders
  levels := holds.levels
  sound := holds.sound
  resting found order present := (holds.resting found order present).update stored same
  issued := holds.issued
  counts found other present := by
    rw [Store.get_set] at present
    split at present
    · next home =>
        cases present
        rw [count, home]
        exact holds.counts key market stored
    · exact holds.counts found other present

theorem PredictionInvariant.reposition {prediction : Prediction}
    (holds : PredictionInvariant prediction) (positions : Store Pubkey PredictionPosition)
    (fees : Store Pubkey MarketFees) :
    PredictionInvariant { prediction with positions := positions, fees := fees } :=
  ⟨holds.markets, holds.books, holds.orders, holds.levels, holds.sound, holds.resting, holds.issued,
    holds.counts⟩

theorem PredictionInvariant.open_market {prediction : Prediction} {record : PredictionMarket}
    {fees : Store Pubkey MarketFees} (holds : PredictionInvariant prediction)
    (unbooked : prediction.books.get (.predictionBook (.predictionMarket record.marketId)) = none)
    (count : record.openOrderCount = 0) :
    PredictionInvariant { prediction with
      markets := prediction.markets.set (.predictionMarket record.marketId) record
      fees := fees
      books := prediction.books.set (.predictionBook (.predictionMarket record.marketId))
        ⟨.predictionMarket record.marketId, 1, none, none, none, none⟩ } := by
  have empty : ∀ found order, prediction.orders.get found = some order →
      order.market ≠ .predictionMarket record.marketId := by
    intro found order present home
    obtain ⟨book, stored, _⟩ := holds.issued found order present
    rw [home, unbooked] at stored
    cases stored
  refine ⟨holds.markets.set rfl, holds.books.set rfl, holds.orders, holds.levels, ?_, ?_, ?_, ?_⟩
  · refine holds.sound.congr ?_
    have before : predictionHeads prediction.books (.predictionMarket record.marketId) =
        bestOf ⟨.predictionMarket record.marketId, 1, none, none, none, none⟩ := by
      funext ⟨outcome, side⟩
      cases outcome <;> cases side <;> simp [predictionHeads, unbooked, bestOf,
        PredictionOrderBook.bestPrice]
    rw [predictionHeads_set, ← before, Function.update_eq_self]
  · intro found order present live
    obtain ⟨market, stored, rest⟩ := holds.resting found order present live
    refine ⟨market, ?_, rest⟩
    rw [Store.get_set_ne _ _ (empty found order present), stored]
  · intro found order present
    obtain ⟨book, stored, earlier⟩ := holds.issued found order present
    refine ⟨book, ?_, earlier⟩
    rw [Store.get_set_ne _ _ fun same => empty found order present
      (Pubkey.predictionBook.inj same), stored]
  · intro found other present
    rw [Store.get_set] at present
    split at present
    · next home =>
        cases present
        rw [count, eq_comm, Store.total_eq_zero]
        intro key order stored
        simp only [Predicted.openIn]
        rw [if_neg fun both => empty key order stored (both.1.trans home)]
    · exact holds.counts found other present

end Tidebook.Proof
