import Tidebook.Proof.PredictionInvariant

/-! # Prediction placements -/

namespace Tidebook.Proof
open Library Program

/-! ## Admission -/

structure Admitted (market : PredictionMarket) (book : PredictionOrderBook) (now : Int)
    (orderId : Nat) (outcome : PredictionOutcome) (side : OrderSide) (price quantity : Nat) :
    Prop where
  opened : market.status = .opened
  before : now < market.closeTs
  quantity_pos : 0 < quantity
  price_pos : 0 < price
  price_lt : price < market.payoutPerContract
  tick : market.priceTick ∣ price
  id_pos : 0 < orderId
  id_next : orderId = book.nextOrderId
  apart : ∀ other ∈ book.bestPrice outcome side.opposite, side.Precedes other price

section Admission

variable {market : PredictionMarket} {book : PredictionOrderBook} {now : Int} {orderId : Nat}
variable {outcome : PredictionOutcome} {side : OrderSide} {price quantity : Nat}

theorem validateRestingOrder_ok {next count : Nat}
    (passed : validateRestingOrder market book now orderId outcome side price quantity =
      .ok (next, count)) :
    Admitted market book now orderId outcome side price quantity ∧
      next = book.nextOrderId + 1 ∧ count = market.openOrderCount + 1 := by
  simp only [validateRestingOrder, bind_eq_ok, require_eq_ok, checkedAdd_eq_ok, pure_eq_ok,
    Prod.mk.injEq] at passed
  obtain ⟨_, trading, _, some_quantity, _, priced, _, tick, _, id, _, apart, _, ⟨_, rfl⟩, _, ⟨_, rfl⟩,
    rfl, rfl⟩ := passed
  exact ⟨⟨trading.1, trading.2, some_quantity, priced.1, priced.2.1, tick, id.1, id.2, apart⟩, rfl,
    rfl⟩

theorem backing_eq_ok {overflow : TidebookError} {amount : Nat} :
    backing side price quantity overflow = .ok amount ↔
      (side = .bid → price * quantity ≤ u64Max) ∧
        amount = Predicted.exactBacking side price quantity := by
  cases side with
  | bid => simp [backing, Predicted.exactBacking]
  | ask => simpa [backing, Predicted.exactBacking] using eq_comm

theorem lockRestingFunds_ok {position locked : PredictionPosition} {amount : Nat}
    (passed : lockRestingFunds position outcome side price quantity = .ok (locked, amount)) :
    amount = Predicted.exactBacking side price quantity ∧ amount ≤ u64Max ∧
      positionLedger.Move position locked 0 (Pi.single (.of outcome side) amount) 0 0 := by
  simp only [lockRestingFunds, bind_eq_ok, backing_eq_ok, buckets_eq, checkedSub_eq_ok,
    checkedAdd_eq_ok, pure_eq_ok, Prod.mk.injEq] at passed
  obtain ⟨_, ⟨_, rfl⟩, _, ⟨enough, rfl⟩, _, ⟨fits, rfl⟩, rfl, rfl⟩ := passed
  refine ⟨rfl, le_trans (Nat.le_add_left _ _) fits, ?_⟩
  have moved : positionLedger.Move position (position.setBuckets outcome side
      (positionLedger.free position (.of outcome side) -
        Predicted.exactBacking side price quantity)
      (positionLedger.locked position (.of outcome side) +
        Predicted.exactBacking side price quantity))
      (Pi.single (.of outcome side) 0)
      (Pi.single (.of outcome side) (Predicted.exactBacking side price quantity))
      (Pi.single (.of outcome side) 0) (Pi.single (.of outcome side) 0) :=
    setBuckets_move rfl (by omega)
  simpa only [Pi.single_zero] using moved

theorem newPredictionOrder_rests {owner key : Pubkey} {amount : Nat} {previous : Option Pubkey}
    (admitted : Admitted market book now orderId outcome side price quantity)
    (backed : amount = Predicted.exactBacking side price quantity) (fits : amount ≤ u64Max) :
    Predicted.Resting market
      (newPredictionOrder owner key orderId outcome side price quantity amount previous) :=
  ⟨admitted.price_pos, admitted.price_lt, admitted.tick, admitted.id_pos, admitted.quantity_pos,
    le_refl _, backed, fits, rfl⟩

end Admission

theorem PredictionInvariant.earlier {prediction : Prediction}
    (holds : PredictionInvariant prediction) {key : Pubkey} {book : PredictionOrderBook}
    (stored : prediction.books.get (.predictionBook key) = some book) (other : Pubkey)
    (order : PredictionOrder) (present : prediction.orders.get other = some order)
    (home : order.market = key) : order.orderId < book.nextOrderId := by
  obtain ⟨found, known, earlier⟩ := holds.issued other order present
  rw [home, stored] at known
  cases known
  exact earlier

/-! ## A new price -/

structure PredictionInsertion (prediction : Prediction) (now : Int) (owner : Wallet)
    (key : Pubkey) (orderId : Nat) (outcome : PredictionOutcome) (side : OrderSide)
    (price quantity : Nat) where
  market : PredictionMarket
  book : PredictionOrderBook
  position : PredictionPosition
  locked : PredictionPosition
  amount : Nat
  better : Option Nat
  worse : Option Nat
  stored : prediction.markets.get key = some market
  bookStored : prediction.books.get (.predictionBook key) = some book
  freshOrder : prediction.orders.get (.predictionOrder key orderId) = none
  freshLevel : prediction.levels.get (.predictionLevel key outcome side price) = none
  positionStored : prediction.positions.get (.predictionPosition key owner.key) = some position
  admitted : Admitted market book now orderId outcome side price quantity
  adjacent : Adjacent listPrecedes (predictionShelf.book (predictionHeads prediction.books)
    prediction.orders prediction.levels key) ((outcome, side), price) better worse
  lock : lockRestingFunds position outcome side price quantity = .ok (locked, amount)

namespace PredictionInsertion

variable {prediction : Prediction} {now : Int} {owner : Wallet} {key : Pubkey} {orderId : Nat}
variable {outcome : PredictionOutcome} {side : OrderSide} {price quantity : Nat}
variable (placed : PredictionInsertion prediction now owner key orderId outcome side price quantity)

def headed : PredictionOrderBook :=
  { (if placed.better = none then placed.book.setBestPrice outcome side (some price)
      else placed.book) with nextOrderId := placed.book.nextOrderId + 1 }

def order : PredictionOrder :=
  newPredictionOrder owner.key key orderId outcome side price quantity placed.amount none

def result : Prediction :=
  { prediction with
    markets := prediction.markets.set key
      { placed.market with openOrderCount := placed.market.openOrderCount + 1 }
    positions := prediction.positions.set (.predictionPosition key owner.key) placed.locked
    books := prediction.books.set (.predictionBook key) placed.headed
    levels := predictionShelf.relevel key (outcome, side)
      (prediction.levels.set (.predictionLevel key outcome side price)
        (newPredictionLevel owner.key key outcome side price quantity (.predictionOrder key orderId)
          placed.better placed.worse)) placed.better placed.worse (some price) (some price)
    orders := prediction.orders.set (.predictionOrder key orderId) placed.order }

theorem headed_market : placed.headed.market = placed.book.market := by
  rw [headed]
  split
  · exact setBestPrice_market _ _ _ _
  · rfl

theorem headed_best : bestOf placed.headed = if placed.better = none then
    Function.update (bestOf placed.book) (outcome, side) (some price)
    else bestOf placed.book := by
  rw [headed, bestOf_nextOrderId]
  split
  · exact bestOf_setBestPrice _ _ _ _
  · rfl

theorem ledger (filed : positionLedger.Filed prediction.positions) :
    positionLedger.Edit prediction.positions placed.result.positions 0
      (Ledger.single (key, owner.key) (Pi.single (.of outcome side) placed.amount)) 0 0 := by
  have written := position_write filed placed.positionStored (lockRestingFunds_ok placed.lock).2.2
  simp only [Ledger.single_zero] at written
  exact written

theorem edit (holds : PredictionInvariant prediction) :
    PredictionEdit prediction placed.result key (.predictionOrder key orderId) placed.market
      (placed.market.openOrderCount + 1) placed.book placed.headed placed.order none none none
      none where
  stored := placed.stored
  bookStored := placed.bookStored
  bookMarket := placed.headed_market
  later := Nat.le_succ _
  named := rfl
  home := rfl
  issued := by
    have id := placed.admitted.id_next
    exact Nat.lt_succ_of_le id.le
  rests _ := by
    obtain ⟨backed, fits, _⟩ := lockRestingFunds_ok placed.lock
    exact newPredictionOrder_rests placed.admitted backed fits
  markets := rfl
  books := rfl
  orders := rfl
  levels := Shelf.relevel_keyed (fun _ _ => rfl) (fun _ _ => rfl) (holds.levels.set rfl)
  sound := by
    refine holds.sound.insert placed.order _ _ placed.freshOrder placed.freshLevel
      (predictionShelf_live.mpr rfl) rfl rfl placed.adjacent ?_ placed.admitted.quantity_pos ?_ ?_
    · intro other found present home _
      have earlier := holds.earlier placed.bookStored other found present home
      rwa [← placed.admitted.id_next] at earlier
    · simp only [result, predictionHeads_set]
      change Function.update _ key _ key = _
      rw [Function.update_self, headed_best, ← predictionHeads_stored placed.bookStored]
      rfl
    · intro other different
      simp only [result, predictionHeads_set]
      exact Function.update_of_ne different _ _
  counted := by
    rw [placed.freshOrder]
    simp [Predicted.openIn, order, newPredictionOrder]

end PredictionInsertion

theorem handlePlacePredictionOrder_ok {prediction after : Prediction} {now : Int} {owner : Wallet}
    {market : Pubkey} {orderId : Nat} {outcome : PredictionOutcome} {side : OrderSide}
    {price quantity : Nat}
    (done : handlePlacePredictionOrder prediction now owner market orderId outcome side price
      quantity = .ok after) :
    ∃ placed : PredictionInsertion prediction now owner market orderId outcome side price quantity,
      placed.result = after := by
  simp only [handlePlacePredictionOrder, bind_eq_ok, vacant_eq_ok, require_eq_ok,
    pure_eq_ok] at done
  obtain ⟨record, ownMarket, position, ownPosition, book, ownBook, _, freshLevel, _, freshOrder,
    ⟨_, _⟩, valid, _, empty, ⟨locked, amount⟩, lock, rfl⟩ := done
  obtain ⟨marketFiled, stored, _⟩ := loadPredictionMarket_ok ownMarket
  obtain ⟨positionFiled, positionStored⟩ := loadPosition_ok ownPosition
  obtain ⟨bookFiled, bookStored, _⟩ := loadPredictionBook_ok ownBook
  obtain ⟨admitted, rfl, rfl⟩ := validateRestingOrder_ok valid
  rw [marketFiled] at freshLevel freshOrder positionFiled positionStored bookFiled bookStored
  have none_there : predictionHeads prediction.books market (outcome, side) = none := by
    rw [predictionHeads_stored bookStored]
    exact empty
  refine ⟨⟨record.val, book.val, position.val, locked, amount, none, none, stored, bookStored,
    freshOrder, freshLevel, positionStored, admitted, ⟨by simp, by simp, fun _ => ?_⟩, lock⟩, ?_⟩
  · exact none_there.symm
  · simp only [PredictionInsertion.result, PredictionInsertion.headed, PredictionInsertion.order,
      marketFiled, positionFiled, bookFiled, if_true]
    rfl

/-! ## Insertion -/

/-- What the hint checks leave of the two supplied levels. -/
structure PredictionHints (market : Pubkey) (outcome : PredictionOutcome) (side : OrderSide)
    (price best : Nat) (better worse : Option (Account PredictionPriceLevel)) : Prop where
  betterKey : ∀ level ∈ better, level.key = .predictionLevel market outcome side level.val.price
  worseKey : ∀ level ∈ worse, level.key = .predictionLevel market outcome side level.val.price
  above : ∀ level ∈ better, side.Precedes level.val.price price ∧
    level.val.worsePrice = worse.map fun value => value.val.price
  below : ∀ level ∈ worse, side.Precedes price level.val.price
  first : better = none → (worse.map fun value => value.val.price) = some best

theorem validateNeighbor_ok {market : Pubkey} {outcome : PredictionOutcome} {side : OrderSide}
    {best : Nat} {level : Account PredictionPriceLevel} {done : Unit}
    (passed : validateNeighbor market outcome side best level = .ok done) :
    level.key = .predictionLevel market outcome side level.val.price := by
  rw [validateNeighbor, require_eq_ok] at passed
  exact passed.1

theorem predictionHints {market : Pubkey} {outcome : PredictionOutcome} {side : OrderSide}
    {price best : Nat} {better worse : Option (Account PredictionPriceLevel)} {done also : Unit}
    (betterChecked : forSupplied better (validateNeighbor market outcome side best) = .ok done)
    (worseChecked : forSupplied worse (validateNeighbor market outcome side best) = .ok also)
    (adjacent : predictionAdjacent side price best (better.map Account.val)
      (worse.map Account.val)) : PredictionHints market outcome side price best better worse := by
  rw [forSupplied_eq_ok] at betterChecked worseChecked
  refine ⟨fun level member => validateNeighbor_ok (betterChecked level member),
    fun level member => validateNeighbor_ok (worseChecked level member), ?_, ?_, ?_⟩
  · cases better <;> cases worse <;> simp_all [predictionAdjacent]
  · cases better <;> cases worse <;> simp only [predictionAdjacent, Option.map_some,
      Option.map_none, decide_eq_true_eq] at adjacent
    · simp
    · simpa using adjacent.2.2
    · simp
    · simpa using adjacent.2.2.2
  · cases better <;> cases worse <;> simp_all [predictionAdjacent]

theorem PredictionHints.adjacent (prediction : Prediction) {key : Pubkey}
    {book : PredictionOrderBook} {outcome : PredictionOutcome} {side : OrderSide}
    {price best : Nat} {better worse : Option (Account PredictionPriceLevel)}
    (stored : prediction.books.get (.predictionBook key) = some book)
    (isBest : book.bestPrice outcome side = some best)
    (hasBetter : ∀ level ∈ better, prediction.levels.get level.key = some level.val)
    (hints : PredictionHints key outcome side price best better worse) :
    Adjacent listPrecedes (predictionShelf.book (predictionHeads prediction.books)
      prediction.orders prediction.levels key) ((outcome, side), price)
      (better.map fun level => level.val.price) (worse.map fun level => level.val.price) where
  above found named := by
    obtain ⟨level, member, rfl⟩ := Option.map_eq_some_iff.mp named
    obtain ⟨ordered, next⟩ := hints.above level member
    refine ⟨ordered, _, Shelf.book_level.mpr ⟨level.val, ?_, rfl⟩, next⟩
    have loaded := hasBetter level member
    rwa [hints.betterKey level member] at loaded
  below found named := by
    obtain ⟨level, member, rfl⟩ := Option.map_eq_some_iff.mp named
    exact hints.below level member
  first none := by
    have here : (predictionShelf.book (predictionHeads prediction.books) prediction.orders
        prediction.levels key).best (outcome, side) = some best :=
      (congrFun (predictionHeads_stored stored) _).trans isBest
    exact (hints.first (Option.map_eq_none_iff.mp none)).trans here.symm

theorem PredictionHints.keys {key : Pubkey} {outcome : PredictionOutcome} {side : OrderSide}
    {price best : Nat} {better worse : Option (Account PredictionPriceLevel)}
    (hints : PredictionHints key outcome side price best better worse) :
    (better.map Account.key = (better.map fun level => level.val.price).map
        fun price => predictionShelf.file key ((outcome, side), price)) ∧
      worse.map Account.key = (worse.map fun level => level.val.price).map
        fun price => predictionShelf.file key ((outcome, side), price) := by
  constructor
  · cases better with
    | none => rfl
    | some better => exact congrArg some (hints.betterKey better rfl)
  · cases worse with
    | none => rfl
    | some worse => exact congrArg some (hints.worseKey worse rfl)

theorem handleInsertPredictionOrder_ok {prediction after : Prediction} {now : Int} {owner : Wallet}
    {market : Pubkey} {betterLevel worseLevel : Option Pubkey} {orderId : Nat}
    {outcome : PredictionOutcome} {side : OrderSide} {price quantity : Nat}
    (done : handleInsertPredictionOrder prediction now owner market betterLevel worseLevel orderId
      outcome side price quantity = .ok after) :
    ∃ placed : PredictionInsertion prediction now owner market orderId outcome side price quantity,
      placed.result = after := by
  simp only [handleInsertPredictionOrder, bind_eq_ok, vacant_eq_ok, require_eq_ok,
    loadOption_eq_ok, okOr_eq_ok, pure_eq_ok] at done
  obtain ⟨record, ownMarket, position, ownPosition, book, ownBook, _, freshLevel, _, freshOrder,
    better, ⟨_, hasBetter⟩, worse, ⟨_, hasWorse⟩, ⟨_, _⟩, valid, best, isBest, _, betterChecked, _,
    worseChecked, _, enclosed, ⟨locked, amount⟩, lock, rfl⟩ := done
  obtain ⟨marketFiled, stored, _⟩ := loadPredictionMarket_ok ownMarket
  obtain ⟨positionFiled, positionStored⟩ := loadPosition_ok ownPosition
  obtain ⟨bookFiled, bookStored, _⟩ := loadPredictionBook_ok ownBook
  obtain ⟨admitted, rfl, rfl⟩ := validateRestingOrder_ok valid
  rw [marketFiled] at freshLevel freshOrder positionFiled positionStored bookFiled bookStored
  rw [marketFiled] at betterChecked worseChecked
  have hints := predictionHints betterChecked worseChecked enclosed
  have adjacent := hints.adjacent prediction bookStored isBest hasBetter
  have vacant : prediction.levels.get (predictionShelf.file market ((outcome, side), price)) =
    none := freshLevel
  have saved := save_opened vacant hints.keys.1 hints.keys.2 hasBetter hasWorse adjacent
  refine ⟨⟨record.val, book.val, position.val, locked, amount, better.map fun level =>
    level.val.price, worse.map fun level => level.val.price, stored, bookStored, freshOrder,
    freshLevel, positionStored, admitted, adjacent, lock⟩, ?_⟩
  simp only [PredictionInsertion.result, PredictionInsertion.headed, PredictionInsertion.order,
    marketFiled, positionFiled, bookFiled, Option.map_eq_none_iff, Option.isNone_iff_eq_none]
  congr 1
  exact (saved _).symm

/-! ## Append -/

structure PredictionAppending (prediction : Prediction) (now : Int) (owner : Wallet)
    (key : Pubkey) (orderId : Nat) (outcome : PredictionOutcome) (side : OrderSide)
    (price quantity : Nat) where
  market : PredictionMarket
  book : PredictionOrderBook
  position : PredictionPosition
  locked : PredictionPosition
  amount : Nat
  level : PredictionPriceLevel
  tail : Pubkey
  stored : prediction.markets.get key = some market
  bookStored : prediction.books.get (.predictionBook key) = some book
  freshOrder : prediction.orders.get (.predictionOrder key orderId) = none
  levelStored : prediction.levels.get (.predictionLevel key outcome side price) = some level
  last : level.lastOrder = some tail
  positionStored : prediction.positions.get (.predictionPosition key owner.key) = some position
  admitted : Admitted market book now orderId outcome side price quantity
  lock : lockRestingFunds position outcome side price quantity = .ok (locked, amount)

def PredictionPriceLevel.pushed (level : PredictionPriceLevel) (order : Pubkey)
    (quantity : Nat) : PredictionPriceLevel :=
  { level with
    lastOrder := some order
    totalRemainingQuantity := level.totalRemainingQuantity + quantity
    orderCount := level.orderCount + 1 }

namespace PredictionAppending

variable {prediction : Prediction} {now : Int} {owner : Wallet} {key : Pubkey} {orderId : Nat}
variable {outcome : PredictionOutcome} {side : OrderSide} {price quantity : Nat}
variable (placed : PredictionAppending prediction now owner key orderId outcome side price quantity)

def headed : PredictionOrderBook :=
  { placed.book with nextOrderId := placed.book.nextOrderId + 1 }

def order : PredictionOrder :=
  newPredictionOrder owner.key key orderId outcome side price quantity placed.amount
    (some placed.tail)

def result : Prediction :=
  { prediction with
    markets := prediction.markets.set key
      { placed.market with openOrderCount := placed.market.openOrderCount + 1 }
    positions := prediction.positions.set (.predictionPosition key owner.key) placed.locked
    books := prediction.books.set (.predictionBook key) placed.headed
    levels := prediction.levels.set (.predictionLevel key outcome side price)
      (PredictionPriceLevel.pushed placed.level (.predictionOrder key orderId) quantity)
    orders := predictionShelf.relink
      (prediction.orders.set (.predictionOrder key orderId) placed.order) (some placed.tail) none
      (some (.predictionOrder key orderId)) none }

theorem ledger (filed : positionLedger.Filed prediction.positions) :
    positionLedger.Edit prediction.positions placed.result.positions 0
      (Ledger.single (key, owner.key) (Pi.single (.of outcome side) placed.amount)) 0 0 := by
  have written := position_write filed placed.positionStored (lockRestingFunds_ok placed.lock).2.2
  simp only [Ledger.single_zero] at written
  exact written

theorem edit (holds : PredictionInvariant prediction) :
    PredictionEdit prediction placed.result key (.predictionOrder key orderId) placed.market
      (placed.market.openOrderCount + 1) placed.book placed.headed placed.order (some placed.tail)
      none (some (.predictionOrder key orderId)) none where
  stored := placed.stored
  bookStored := placed.bookStored
  bookMarket := rfl
  later := Nat.le_succ _
  named := rfl
  home := rfl
  issued := by
    have id := placed.admitted.id_next
    exact Nat.lt_succ_of_le id.le
  rests _ := by
    obtain ⟨backed, fits, _⟩ := lockRestingFunds_ok placed.lock
    exact newPredictionOrder_rests placed.admitted backed fits
  markets := rfl
  books := rfl
  orders := rfl
  levels := by
    have keyed := holds.levels _ _ placed.levelStored
    exact holds.levels.set keyed
  sound := by
    refine holds.sound.append placed.order _ placed.freshOrder placed.levelStored placed.last
      (predictionShelf_live.mpr rfl) rfl rfl ?_ placed.admitted.quantity_pos ?_
    · intro other found present home _
      have earlier := holds.earlier placed.bookStored other found present home
      rwa [← placed.admitted.id_next] at earlier
    · have same : bestOf placed.headed = predictionHeads prediction.books key := by
        rw [predictionHeads_stored placed.bookStored]
        exact bestOf_nextOrderId _ _
      simp only [result, predictionHeads_set, same, Function.update_eq_self]
  counted := by
    rw [placed.freshOrder]
    simp [Predicted.openIn, order, newPredictionOrder]

end PredictionAppending

theorem loadPredictionLevel_ok {prediction : Prediction} {market : Pubkey}
    {outcome : PredictionOutcome} {side : OrderSide} {price : Nat}
    {level : Account PredictionPriceLevel}
    (passed : loadPredictionLevel prediction market outcome side price = .ok level) :
    level.key = .predictionLevel market outcome side price ∧
      prediction.levels.get (.predictionLevel market outcome side price) = some level.val ∧
      level.val.market = market ∧ level.val.outcome = outcome ∧ level.val.side = side ∧
      level.val.price = price := by
  simp only [loadPredictionLevel, bind_eq_ok, load_eq_ok, require_eq_ok, pure_eq_ok] at passed
  obtain ⟨_, ⟨filed, stored⟩, _, ofMarket, _, placed, rfl⟩ := passed
  exact ⟨filed, stored, ofMarket, placed⟩

theorem predictionAppend_ok {level appended : PredictionPriceLevel} {order : Pubkey}
    {quantity : Nat} (passed : level.append order quantity = .ok appended) :
    appended = PredictionPriceLevel.pushed level order quantity := by
  simp only [PredictionPriceLevel.append, bind_eq_ok, checkedAdd_eq_ok, pure_eq_ok] at passed
  obtain ⟨_, ⟨_, rfl⟩, _, ⟨_, rfl⟩, rfl⟩ := passed
  rfl

theorem checkTail_ok {market : Pubkey} {outcome : PredictionOutcome} {side : OrderSide}
    {price orderId : Nat} {level : Account PredictionPriceLevel} {tail : Account PredictionOrder}
    {done : Unit} (passed : checkTail market outcome side price orderId level tail = .ok done) :
    level.val.lastOrder = some tail.key := by
  simp only [checkTail, bind_eq_ok, require_eq_ok] at passed
  obtain ⟨_, ends, _⟩ := passed
  exact ends.2.2

theorem handleAppendPredictionOrder_ok {prediction after : Prediction} {now : Int} {owner : Wallet}
    {market tailOrder : Pubkey} {orderId : Nat} {outcome : PredictionOutcome} {side : OrderSide}
    {price quantity : Nat}
    (done : handleAppendPredictionOrder prediction now owner market tailOrder orderId outcome side
      price quantity = .ok after) :
    ∃ placed : PredictionAppending prediction now owner market orderId outcome side price quantity,
      placed.result = after := by
  simp only [handleAppendPredictionOrder, bind_eq_ok, load_eq_ok, vacant_eq_ok, require_eq_ok,
    okOr_eq_ok, pure_eq_ok] at done
  obtain ⟨record, ownMarket, position, ownPosition, book, ownBook, level, ownLevel, ⟨tail, order⟩,
    ⟨rfl, tailStored⟩, _, -, _, freshOrder, ⟨_, _⟩, valid, _, -, _, -, _, tailed, _, append,
    ⟨locked, amount⟩, lock, rfl⟩ := done
  obtain ⟨marketFiled, stored, _⟩ := loadPredictionMarket_ok ownMarket
  obtain ⟨positionFiled, positionStored⟩ := loadPosition_ok ownPosition
  obtain ⟨bookFiled, bookStored, _⟩ := loadPredictionBook_ok ownBook
  obtain ⟨levelFiled, levelStored, _, _, _⟩ := loadPredictionLevel_ok ownLevel
  obtain ⟨admitted, rfl, rfl⟩ := validateRestingOrder_ok valid
  have last := checkTail_ok tailed
  rw [marketFiled] at freshOrder positionFiled positionStored bookFiled bookStored levelFiled
  rw [marketFiled] at levelStored
  refine ⟨⟨record.val, book.val, position.val, locked, amount, level.val, tail, stored, bookStored,
    freshOrder, levelStored, last, positionStored, admitted, lock⟩, ?_⟩
  simp only [PredictionAppending.result, PredictionAppending.headed, PredictionAppending.order,
    marketFiled, positionFiled, bookFiled, levelFiled, predictionAppend_ok append]
  congr 1
  exact (save_appended predictionShelf freshOrder tailStored _).symm

end Tidebook.Proof
