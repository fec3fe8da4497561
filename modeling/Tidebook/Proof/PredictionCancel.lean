import Tidebook.Proof.PredictionPlace

/-! # Prediction departures -/

namespace Tidebook.Proof
open Library Program

/-! ## Departures -/

structure PredictionDeparture (prediction : Prediction) (orderKey : Pubkey) where
  market : PredictionMarket
  book : PredictionOrderBook
  order : PredictionOrder
  level : PredictionPriceLevel
  stored : prediction.markets.get order.market = some market
  bookStored : prediction.books.get (.predictionBook order.market) = some book
  orderStored : prediction.orders.get orderKey = some order
  live : order.status = .opened
  levelStored : prediction.levels.get
    (.predictionLevel order.market order.outcome order.side order.price) = some level

def PredictionPriceLevel.vacated (level : PredictionPriceLevel) (order : PredictionOrder) :
    PredictionPriceLevel :=
  level.unlink order.previousOrder order.nextOrder (level.orderCount - 1)
    (level.totalRemainingQuantity - order.remainingQuantity)

namespace PredictionDeparture

variable {prediction : Prediction} {orderKey : Pubkey}
variable (leaving : PredictionDeparture prediction orderKey)

def headed : PredictionOrderBook :=
  if leaving.level.orderCount = 1 ∧ leaving.level.betterPrice = none then
    leaving.book.setBestPrice leaving.order.outcome leaving.order.side leaving.level.worsePrice
  else leaving.book

def markets : Store Pubkey PredictionMarket :=
  prediction.markets.set leaving.order.market
    { leaving.market with openOrderCount := leaving.market.openOrderCount - 1 }

def books : Store Pubkey PredictionOrderBook :=
  prediction.books.set (.predictionBook leaving.order.market) leaving.headed

def orders (gone : PredictionOrder) : Store Pubkey PredictionOrder :=
  predictionShelf.unlink prediction.orders orderKey leaving.order gone

def levels : Store Pubkey PredictionPriceLevel :=
  predictionShelf.vacate prediction.levels leaving.order leaving.level
    (PredictionPriceLevel.vacated leaving.level leaving.order)

theorem headed_best : bestOf leaving.headed =
    if leaving.level.orderCount = 1 ∧ leaving.level.betterPrice = none then
      Function.update (bestOf leaving.book) (leaving.order.outcome, leaving.order.side)
        leaving.level.worsePrice
    else bestOf leaving.book := by
  rw [headed]
  split
  · exact bestOf_setBestPrice _ _ _ _
  · rfl

theorem headed_market : leaving.headed.market = leaving.book.market := by
  rw [headed]
  split
  · exact setBestPrice_market _ _ _ _
  · rfl

theorem headed_nextOrderId : leaving.headed.nextOrderId = leaving.book.nextOrderId := by
  rw [headed]
  split
  · exact setBestPrice_nextOrderId _ _ _ _
  · rfl

theorem sound (holds : PredictionInvariant prediction) {gone : PredictionOrder}
    (closed : gone.status ≠ .opened) :
    predictionShelf.Sound listPrecedes (predictionHeads leaving.books) (leaving.orders gone)
      leaving.levels := by
  refine holds.sound.remove leaving.order gone orderKey leaving.orderStored
    (predictionShelf_live.mpr leaving.live) leaving.levelStored (predictionShelf_closed closed) rfl
    ?_ ?_
  · rw [books, predictionHeads_set]
    change Function.update _ leaving.order.market _ leaving.order.market = _
    rw [Function.update_self, headed_best, ← predictionHeads_stored leaving.bookStored]
    rfl
  · intro other different
    rw [books, predictionHeads_set]
    exact Function.update_of_ne different _ _

theorem open_count (holds : PredictionInvariant prediction) : 0 < leaving.market.openOrderCount := by
  rw [holds.counts _ _ leaving.stored]
  refine lt_of_lt_of_le ?_ (Store.le_total leaving.orderStored)
  simp [Predicted.openIn, leaving.live]

theorem level_keyed (holds : PredictionInvariant prediction) : leaving.levels.Keyed fun level =>
    .predictionLevel level.market level.outcome level.side level.price := by
  rw [levels, Shelf.vacate]
  split
  · exact Shelf.relevel_keyed (fun _ _ => rfl) (fun _ _ => rfl) (holds.levels.erase _)
  · have keyed := holds.levels _ _ leaving.levelStored
    exact holds.levels.set keyed

theorem edit {after : Prediction} {gone : PredictionOrder} (holds : PredictionInvariant prediction)
    (closed : gone.status ≠ .opened) (home : gone.market = leaving.order.market)
    (named : gone.orderId = leaving.order.orderId) (markets : after.markets = leaving.markets)
    (books : after.books = leaving.books) (orders : after.orders = leaving.orders gone)
    (levels : after.levels = leaving.levels) :
    PredictionEdit prediction after leaving.order.market orderKey leaving.market
      (leaving.market.openOrderCount - 1) leaving.book leaving.headed gone
      leaving.order.previousOrder leaving.order.nextOrder leaving.order.nextOrder
      leaving.order.previousOrder where
  stored := leaving.stored
  bookStored := leaving.bookStored
  bookMarket := leaving.headed_market
  later := leaving.headed_nextOrderId.ge
  named := by
    rw [named]
    exact holds.orders _ _ leaving.orderStored
  home := home
  issued := by
    rw [named, leaving.headed_nextOrderId]
    exact holds.earlier leaving.bookStored _ _ leaving.orderStored rfl
  rests live := absurd live closed
  markets := markets
  books := books
  orders := orders
  levels := levels ▸ leaving.level_keyed holds
  sound := by
    rw [books, orders, levels]
    exact leaving.sound holds closed
  counted := by
    have counted := leaving.open_count holds
    have was : Predicted.openIn leaving.order.market orderKey leaving.order = 1 := by
      simp [Predicted.openIn, leaving.live]
    have isNow : Predicted.openIn leaving.order.market orderKey gone = 0 := by
      simp [Predicted.openIn, closed]
    rw [leaving.orderStored, isNow, Option.elim_some, was]
    omega

end PredictionDeparture

/-! ## Cancellation -/

/-- A cancellation that passed every check of its handler. -/
structure PredictionCancellation (prediction : Prediction) (owner : Wallet) (key : Pubkey)
    (orderId : Nat) extends PredictionDeparture prediction (.predictionOrder key orderId) where
  home : order.market = key
  own : order.owner = owner.key
  position : PredictionPosition
  released : PredictionPosition
  positionStored : prediction.positions.get (.predictionPosition key owner.key) = some position
  unlock : position.unlock order.outcome order.side order.lockedCollateral = .ok released

def PredictionOrder.canceled (order : PredictionOrder) : PredictionOrder :=
  { order with
    status := .canceled, remainingQuantity := 0, lockedCollateral := 0
    previousOrder := none, nextOrder := none }

def PredictionCancellation.result {prediction : Prediction} {owner : Wallet} {key : Pubkey}
    {orderId : Nat} (leaving : PredictionCancellation prediction owner key orderId) : Prediction :=
  { prediction with
    markets := leaving.markets
    positions := prediction.positions.set (.predictionPosition key owner.key) leaving.released
    books := leaving.books
    orders := leaving.orders (PredictionOrder.canceled leaving.order)
    levels := leaving.levels }

theorem positionUnlock_ok {position released : PredictionPosition} {outcome : PredictionOutcome}
    {side : OrderSide} {amount : Nat}
    (passed : position.unlock outcome side amount = .ok released) :
    positionLedger.Move position released (Pi.single (.of outcome side) amount) 0 0 0 := by
  simp only [PredictionPosition.unlock, buckets_eq, bind_eq_ok, checkedAdd_eq_ok, checkedSub_eq_ok,
    pure_eq_ok] at passed
  obtain ⟨_, ⟨_, rfl⟩, _, ⟨enough, rfl⟩, rfl⟩ := passed
  have moved : positionLedger.Move position (position.setBuckets outcome side
      (positionLedger.free position (.of outcome side) + amount)
      (positionLedger.locked position (.of outcome side) - amount))
      (Pi.single (.of outcome side) amount) (Pi.single (.of outcome side) 0)
      (Pi.single (.of outcome side) 0) (Pi.single (.of outcome side) 0) :=
    setBuckets_move (by omega) (by omega)
  simpa only [Pi.single_zero] using moved

theorem loadOwnPredictionOrder_ok {prediction : Prediction} {owner : Wallet} {market : Pubkey}
    {orderId : Nat} {order : Account PredictionOrder}
    (passed : loadOwnPredictionOrder prediction owner market orderId = .ok order) :
    order.key = .predictionOrder market orderId ∧
      prediction.orders.get (.predictionOrder market orderId) = some order.val ∧
      order.val.owner = owner.key ∧ order.val.market = market := by
  simp only [loadOwnPredictionOrder, bind_eq_ok, load_eq_ok, require_eq_ok, pure_eq_ok] at passed
  obtain ⟨_, ⟨filed, stored⟩, _, own, _, home, rfl⟩ := passed
  exact ⟨filed, stored, own, home⟩

theorem checkFifo_ok {order : Account PredictionOrder} {level : PredictionPriceLevel}
    {previous next : Option (Account PredictionOrder)} {done : Unit}
    (passed : checkFifo order level previous next = .ok done) :
    order.val.previousOrder = previous.map Account.key ∧
      order.val.nextOrder = next.map Account.key := by
  simp only [checkFifo, bind_eq_ok, require_eq_ok] at passed
  obtain ⟨_, linked, _⟩ := passed
  exact ⟨linked.1.symm, linked.2.1.symm⟩

theorem checkBackedOrder_ok {order : PredictionOrder} {orderId nextOrderId : Nat} {done : Unit}
    (passed : checkBackedOrder order orderId nextOrderId = .ok done) : order.status = .opened := by
  simp only [checkBackedOrder, bind_eq_ok, require_eq_ok] at passed
  obtain ⟨_, live, _⟩ := passed
  exact live

theorem checkPriceRemoval_ok {order : Account PredictionOrder}
    {level : Account PredictionPriceLevel} {best count total : Nat}
    {previous next : Option (Account PredictionOrder)}
    {better worse : Option (Account PredictionPriceLevel)} {recipient : Option Pubkey} {done : Unit}
    (passed : checkPriceRemoval order level best count total previous next better worse recipient =
      .ok done) :
    (count = 0 → better.map Account.key = level.val.betterPrice.map
        (Pubkey.predictionLevel order.val.market order.val.outcome order.val.side) ∧
      worse.map Account.key = level.val.worsePrice.map
        (Pubkey.predictionLevel order.val.market order.val.outcome order.val.side)) ∧
      (count ≠ 0 → better = none ∧ worse = none) := by
  constructor
  · intro emptied
    rw [checkPriceRemoval, if_pos emptied] at passed
    simp only [bind_eq_ok, require_eq_ok, okOr_eq_ok] at passed
    obtain ⟨_, _, _, _, _, _, _, keys, _⟩ := passed
    exact keys
  · intro stays
    rw [checkPriceRemoval, if_neg stays] at passed
    simp only [bind_eq_ok, require_eq_ok, Option.isNone_iff_eq_none] at passed
    obtain ⟨_, _, absent⟩ := passed
    exact ⟨absent.1, absent.2.1⟩

theorem handleCancelPredictionOrder_ok {prediction after : Prediction}
    {accounts : CancelPredictionOrder} {orderId : Nat} (holds : PredictionInvariant prediction)
    (done : handleCancelPredictionOrder prediction accounts orderId = .ok after) :
    ∃ leaving : PredictionCancellation prediction accounts.owner accounts.market orderId,
      leaving.result = after := by
  obtain ⟨owner, market, previousKey, nextKey, betterKey, worseKey, recipient⟩ := accounts
  simp only [handleCancelPredictionOrder, bind_eq_ok, require_eq_ok, loadOption_eq_ok, okOr_eq_ok,
    checkedSub_eq_ok, pure_eq_ok] at done
  obtain ⟨record, ownMarket, position, ownPosition, book, ownBook, order, ownOrder, level, ownLevel,
    _, -, previous, ⟨_, hasPrevious⟩, next, ⟨_, hasNext⟩, better, ⟨_, hasBetter⟩, worse,
    ⟨_, hasWorse⟩, _, backed, _, queue, best, -, _, -, _, ⟨counted, rfl⟩, _, ⟨_, rfl⟩, _, ⟨_, rfl⟩,
    _, removal, released, unlock, rfl⟩ := done
  obtain ⟨marketFiled, stored, _⟩ := loadPredictionMarket_ok ownMarket
  obtain ⟨positionFiled, positionStored⟩ := loadPosition_ok ownPosition
  obtain ⟨bookFiled, bookStored, _⟩ := loadPredictionBook_ok ownBook
  obtain ⟨filed, orderStored, own, home⟩ := loadOwnPredictionOrder_ok ownOrder
  obtain ⟨levelFiled, levelStored, _, _, _⟩ := loadPredictionLevel_ok ownLevel
  obtain ⟨isPrevious, isNext⟩ := checkFifo_ok queue
  have live := checkBackedOrder_ok backed
  obtain ⟨emptied, stays⟩ := checkPriceRemoval_ok removal
  rw [marketFiled] at positionFiled positionStored bookFiled bookStored filed orderStored home
  rw [marketFiled] at levelFiled levelStored
  dsimp only at *
  subst home
  have single : level.val.orderCount - 1 = 0 ↔ level.val.orderCount = 1 := by omega
  have there : prediction.levels.get (predictionShelf.file order.val.market
      ((order.val.outcome, order.val.side), order.val.price)) = some level.val := levelStored
  have orders := save_unlink holds.sound orderStored (predictionShelf_live.mpr live) isPrevious
    isNext hasPrevious hasNext (PredictionOrder.canceled order.val)
  have levels : saveOption (saveOption
      (if level.val.orderCount - 1 = 0 then prediction.levels.erase level.key
        else prediction.levels.set level.key (level.val.unlink (previous.map Account.key)
          (next.map Account.key) (level.val.orderCount - 1)
          (level.val.totalRemainingQuantity - order.val.remainingQuantity)))
      (better.map (Account.map (PredictionPriceLevel.setWorse level.val.worsePrice))))
      (worse.map (Account.map (PredictionPriceLevel.setBetter level.val.betterPrice))) =
        predictionShelf.vacate prediction.levels order.val level.val
          (PredictionPriceLevel.vacated level.val order.val) := by
    rw [levelFiled]
    by_cases last : level.val.orderCount = 1
    · obtain ⟨betterKeys, worseKeys⟩ := emptied (single.mpr last)
      rw [if_pos (single.mpr last)]
      exact (save_relevel holds.sound there betterKeys worseKeys hasBetter hasWorse).trans
        (predictionShelf.vacate_last order.val last).symm
    · obtain ⟨rfl, rfl⟩ := stays (single.not.mpr last)
      rw [if_neg (single.not.mpr last), ← isPrevious, ← isNext]
      exact (predictionShelf.vacate_stays order.val last).symm
  have headed : (if level.val.orderCount - 1 = 0 ∧ better.isNone then
      book.val.setBestPrice order.val.outcome order.val.side level.val.worsePrice
      else book.val) = if level.val.orderCount = 1 ∧ level.val.betterPrice = none then
      book.val.setBestPrice order.val.outcome order.val.side level.val.worsePrice
      else book.val := by
    by_cases last : level.val.orderCount = 1
    · simp only [last, true_and, map_key_none (emptied (single.mpr last)).1]
    · rw [if_neg fun both => last (single.mp both.1), if_neg fun both => last both.1]
  refine ⟨⟨⟨record.val, book.val, order.val, level.val, stored, bookStored, orderStored, live,
    levelStored⟩, rfl, own, position.val, released, positionStored, unlock⟩, ?_⟩
  simp only [PredictionCancellation.result]
  rw [levels, positionFiled, bookFiled, filed, headed, marketFiled]
  congr 1
  exact orders.symm

theorem PredictionCancellation.ledger {prediction : Prediction} {owner : Wallet} {key : Pubkey}
    {orderId : Nat} (leaving : PredictionCancellation prediction owner key orderId)
    (filed : positionLedger.Filed prediction.positions) :
    positionLedger.Edit prediction.positions leaving.result.positions
      (Ledger.single (leaving.order.market, leaving.order.owner)
        (Pi.single (.of leaving.order.outcome leaving.order.side)
          leaving.order.lockedCollateral)) 0 0 0 := by
  have written := position_write filed leaving.positionStored (positionUnlock_ok leaving.unlock)
  rw [leaving.home, leaving.own]
  simp only [Ledger.single_zero] at written
  exact written

theorem PredictionCancellation.edit {prediction : Prediction} {owner : Wallet} {key : Pubkey}
    {orderId : Nat} (leaving : PredictionCancellation prediction owner key orderId)
    (holds : PredictionInvariant prediction) :
    PredictionEdit prediction leaving.result leaving.order.market (.predictionOrder key orderId)
      leaving.market (leaving.market.openOrderCount - 1) leaving.book leaving.headed
      (PredictionOrder.canceled leaving.order) leaving.order.previousOrder leaving.order.nextOrder
      leaving.order.nextOrder leaving.order.previousOrder :=
  leaving.toPredictionDeparture.edit holds (by simp [PredictionOrder.canceled]) rfl rfl rfl rfl rfl
    rfl

end Tidebook.Proof
