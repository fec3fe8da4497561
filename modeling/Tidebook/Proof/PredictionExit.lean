import Tidebook.Proof.Conservation
import Tidebook.Proof.SpotExit

/-! # Exits from the legacy books

The owner of an open prediction order can always cancel it, whatever has become of the question;
with the exit from the spot books, cancellation on the legacy books is always available.
-/

namespace Tidebook.Proof
open Library Program

/-! ## Prediction orders -/

def predictionExit (order : PredictionOrder) (level : PredictionPriceLevel) (owner : Wallet) :
    CancelPredictionOrder where
  owner := owner
  market := order.market
  previousOrder := order.previousOrder
  nextOrder := order.nextOrder
  betterLevel := if level.orderCount = 1 then
    level.betterPrice.map (.predictionLevel order.market order.outcome order.side) else none
  worseLevel := if level.orderCount = 1 then
    level.worsePrice.map (.predictionLevel order.market order.outcome order.side) else none
  levelRentRecipient := if level.orderCount = 1 then some level.rentPayer else none

section Prediction

variable {prediction : Prediction} (holds : PredictionInvariant prediction) {key : Pubkey}
variable {order : PredictionOrder} {level : PredictionPriceLevel}
variable (stored : prediction.orders.get key = some order) (live : order.status = .opened)
variable (found : prediction.levels.get
  (.predictionLevel order.market order.outcome order.side order.price) = some level)

include holds stored live

theorem neighbor_valid {other : Pubkey} {neighbor : PredictionOrder}
    (present : prediction.orders.get other = some neighbor) (rests : neighbor.status = .opened)
    (home : neighbor.market = order.market)
    (place : ((neighbor.outcome, neighbor.side), neighbor.price) =
      ((order.outcome, order.side), order.price)) :
    other = .predictionOrder order.market neighbor.orderId ∧ neighbor.outcome = order.outcome ∧
      neighbor.side = order.side ∧ neighbor.price = order.price ∧
      neighbor.priceLevel = order.priceLevel ∧ neighbor.remainingQuantity > 0 ∧
      neighbor.remainingQuantity ≤ neighbor.quantity := by
  obtain ⟨_, -, rest⟩ := holds.resting other neighbor present rests
  obtain ⟨_, -, own⟩ := holds.resting key order stored live
  obtain ⟨sided, priced⟩ := Prod.mk.inj place
  obtain ⟨answered, sided⟩ := Prod.mk.inj sided
  refine ⟨home ▸ holds.orders other neighbor present, answered, sided, priced, ?_,
    rest.remaining_pos, rest.remaining_le⟩
  rw [rest.level, own.level, home, answered, sided, priced]

include found

theorem checkFifo_total {previous next : Option (Account PredictionOrder)}
    (isPrevious : order.previousOrder = previous.map Account.key)
    (isNext : order.nextOrder = next.map Account.key)
    (hasPrevious : ∀ value ∈ previous, prediction.orders.get value.key = some value.val)
    (hasNext : ∀ value ∈ next, prediction.orders.get value.key = some value.val) :
    checkFifo ⟨key, order⟩ level previous next = .ok () := by
  have opened := predictionShelf_live.mpr live
  obtain ⟨heads, ends⟩ := holds.sound.ends stored opened found
  obtain ⟨first, last, -⟩ := holds.sound.filled
    (show prediction.levels.get (predictionShelf.file order.market
      ((order.outcome, order.side), order.price)) = some level from found)
  have noPrevious : previous.isNone ↔ order.previousOrder = none := by
    rw [isPrevious, Option.map_eq_none_iff, Option.isNone_iff_eq_none]
  have noNext : next.isNone ↔ order.nextOrder = none := by
    rw [isNext, Option.map_eq_none_iff, Option.isNone_iff_eq_none]
  simp only [checkFifo, bind_eq_ok, require_eq_ok, forSupplied_eq_ok, validateFifoNeighbor]
  refine ⟨(), ⟨isPrevious.symm, isNext.symm, ?_, ?_⟩, (),
    ⟨heads.trans noPrevious.symm, ends.trans noNext.symm, Option.isSome_iff_ne_none.mpr first,
      Option.isSome_iff_ne_none.mpr last⟩, (), fun value member => ?_, fun value member => ?_⟩
  · exact fun link => (holds.sound.previous stored opened (isPrevious.trans link)).1 rfl
  · exact fun link => (holds.sound.following stored opened (isNext.trans link)).1 rfl
  · have link : order.previousOrder = some value.key := by rw [isPrevious, member, Option.map_some]
    obtain ⟨-, -, neighbor, present, home, rests, place, back⟩ :=
      holds.sound.previous stored opened link
    cases (hasPrevious value member).symm.trans present
    have rests := predictionShelf_live.mp rests
    obtain ⟨named, answered, sided, priced, listed, some_left, within⟩ :=
      neighbor_valid holds stored live present rests home place
    have older := holds.sound.previous_older stored opened link present
    exact ⟨named, home, answered, sided, priced, listed, rests, some_left, within, back, older⟩
  · have link : order.nextOrder = some value.key := by rw [isNext, member, Option.map_some]
    obtain ⟨-, neighbor, present, home, rests, place, back⟩ :=
      holds.sound.following stored opened link
    cases (hasNext value member).symm.trans present
    have rests := predictionShelf_live.mp rests
    obtain ⟨named, answered, sided, priced, listed, some_left, within⟩ :=
      neighbor_valid holds stored live present rests home place
    have newer := holds.sound.following_newer stored opened link present
    exact ⟨named, home, answered, sided, priced, listed, rests, some_left, within, back, newer⟩

omit stored live in
theorem priceNeighbor_valid {best price : Nat} {neighbor : PredictionPriceLevel}
    (top : predictionHeads prediction.books order.market (order.outcome, order.side) = some best)
    (present : prediction.levels.get
      (.predictionLevel order.market order.outcome order.side price) = some neighbor) :
    neighbor.market = level.market ∧ neighbor.outcome = level.outcome ∧
      neighbor.side = level.side ∧ neighbor.price = price ∧ neighbor.orderCount > 0 ∧
      neighbor.totalRemainingQuantity > 0 ∧ neighbor.firstOrder.isSome ∧
      neighbor.lastOrder.isSome ∧ (best = neighbor.price ↔ neighbor.betterPrice = none) := by
  obtain ⟨homeIs, answerIs, sideIs, priceIs⟩ :=
    Pubkey.predictionLevel.inj (holds.levels _ level found)
  obtain ⟨home, answer, side, priced⟩ :=
    Pubkey.predictionLevel.inj (holds.levels _ neighbor present)
  have there : prediction.levels.get (predictionShelf.file order.market
      ((order.outcome, order.side), price)) = some neighbor := present
  obtain ⟨first, last, total⟩ := holds.sound.filled there
  have leads := holds.sound.top there
  rw [top, Option.some.injEq] at leads
  exact ⟨home.symm.trans homeIs, answer.symm.trans answerIs, side.symm.trans sideIs, priced.symm,
    holds.sound.occupied there, total, Option.isSome_iff_ne_none.mpr first,
    Option.isSome_iff_ne_none.mpr last, priced ▸ leads⟩

theorem checkPriceRemoval_total {best : Nat} {previous next : Option (Account PredictionOrder)}
    (owner : Wallet)
    (top : predictionHeads prediction.books order.market (order.outcome, order.side) = some best)
    (isPrevious : order.previousOrder = previous.map Account.key)
    (isNext : order.nextOrder = next.map Account.key) : ∃ better worse,
      loadOption prediction.levels (predictionExit order level owner).betterLevel = .ok better ∧
      loadOption prediction.levels (predictionExit order level owner).worseLevel = .ok worse ∧
      checkPriceRemoval ⟨key, order⟩
        ⟨.predictionLevel order.market order.outcome order.side order.price, level⟩ best
        (level.orderCount - 1) (level.totalRemainingQuantity - order.remainingQuantity) previous next
        better worse (predictionExit order level owner).levelRentRecipient = .ok () := by
  have here : prediction.levels.get (predictionShelf.file order.market
      ((order.outcome, order.side), order.price)) = some level := found
  obtain ⟨homeIs, answerIs, sideIs, priceIs⟩ :=
    Pubkey.predictionLevel.inj (holds.levels _ level found)
  obtain ⟨alone, several, counted, covered⟩ :=
    holds.sound.alone stored (predictionShelf_live.mpr live) found
  have positive : 0 < level.orderCount := counted
  by_cases last : level.orderCount = 1
  · obtain ⟨noPrevious, noNext, total, -, -⟩ := alone last
    have emptied : level.totalRemainingQuantity - order.remainingQuantity = 0 :=
      Nat.sub_eq_zero_of_le (le_of_eq total)
    simp only [predictionExit, if_pos last]
    obtain ⟨better, loadedBetter, isBetter, hasBetter, above⟩ := loadOption_better holds.sound here
    obtain ⟨worse, loadedWorse, isWorse, hasWorse, below⟩ := loadOption_worse holds.sound here
    refine ⟨better, worse, loadedBetter, loadedWorse, ?_⟩
    rw [checkPriceRemoval, if_pos (by omega)]
    simp only [bind_eq_ok, require_eq_ok, okOr_eq_ok, forSupplied_eq_ok, validatePriceNeighbor]
    refine ⟨(), ⟨?_, ?_, emptied⟩, level.rentPayer, rfl, (), rfl, (),
      ⟨isBetter.symm, isWorse.symm⟩, (), fun value member => ?_, fun value member => ?_⟩
    · rw [Option.isNone_iff_eq_none, ← Option.map_eq_none_iff (f := Account.key), ← isPrevious]
      exact noPrevious
    · rw [Option.isNone_iff_eq_none, ← Option.map_eq_none_iff (f := Account.key), ← isNext]
      exact noNext
    · obtain ⟨price, link, keyed, before, back⟩ := above value member
      have present := hasBetter value member
      rw [keyed] at present
      obtain ⟨home, answer, side, priced, rest⟩ := priceNeighbor_valid holds found top present
      refine ⟨?_, home, answer, side, rest.1, rest.2.1, rest.2.2.1, rest.2.2.2.1, rest.2.2.2.2, ?_⟩
      · rw [keyed, homeIs, answerIs, sideIs, priced]
        rfl
      · rw [if_pos trivial, priced, ← priceIs, ← sideIs]
        exact ⟨back, before⟩
    · obtain ⟨price, link, keyed, after, back⟩ := below value member
      have present := hasWorse value member
      rw [keyed] at present
      obtain ⟨home, answer, side, priced, rest⟩ := priceNeighbor_valid holds found top present
      refine ⟨?_, home, answer, side, rest.1, rest.2.1, rest.2.2.1, rest.2.2.2.1, rest.2.2.2.2, ?_⟩
      · rw [keyed, homeIs, answerIs, sideIs, priced]
        rfl
      · rw [if_neg (by decide), priced, ← priceIs, ← sideIs]
        exact ⟨back, after⟩
  · obtain ⟨neighbored, remains⟩ := several last
    have left : level.totalRemainingQuantity - order.remainingQuantity > 0 :=
      Nat.sub_pos_of_lt remains
    simp only [predictionExit, if_neg last]
    refine ⟨none, none, rfl, rfl, ?_⟩
    rw [checkPriceRemoval, if_neg (by omega)]
    simp only [bind_eq_ok, require_eq_ok]
    refine ⟨(), ⟨left, neighbored.imp (fun some_previous => ?_) fun some_next => ?_⟩, rfl, rfl, trivial⟩
    · rw [Option.isSome_iff_ne_none, Ne, ← Option.map_eq_none_iff (f := Account.key), ← isPrevious]
      exact some_previous
    · rw [Option.isSome_iff_ne_none, Ne, ← Option.map_eq_none_iff (f := Account.key), ← isNext]
      exact some_next

theorem handleCancelPredictionOrder_total {owner : Wallet} (own : order.owner = owner.key)
    {position released : PredictionPosition}
    (filed : positionLedger.Filed prediction.positions)
    (positionStored :
      prediction.positions.get (.predictionPosition order.market owner.key) = some position)
    (unlock : position.unlock order.outcome order.side order.lockedCollateral = .ok released) :
    ∃ after, handleCancelPredictionOrder prediction (predictionExit order level owner)
      order.orderId = .ok after := by
  obtain rfl := holds.orders key order stored
  have opened := predictionShelf_live.mpr live
  obtain ⟨market, marketStored, rest⟩ := holds.resting _ order stored live
  obtain ⟨book, bookStored, earlier⟩ := holds.issued _ order stored
  obtain ⟨homeIs, answerIs, sideIs, priceIs⟩ :=
    Pubkey.predictionLevel.inj (holds.levels _ level found)
  obtain ⟨positionHome, positionOwner⟩ :=
    Pubkey.predictionPosition.inj (filed _ position positionStored)
  obtain ⟨-, -, counted, covered⟩ := holds.sound.alone stored opened found
  have here : prediction.levels.get (predictionShelf.file order.market
      ((order.outcome, order.side), order.price)) = some level := found
  have open_count : 1 ≤ market.openOrderCount := (PredictionDeparture.mk market book order level
    marketStored bookStored stored live found).open_count holds
  obtain ⟨best, top, reaches⟩ : ∃ best,
      predictionHeads prediction.books order.market (order.outcome, order.side) = some best ∧
      (order.price = best ∨ order.side.Precedes best order.price) :=
    holds.sound.best_reaches stored opened
  have leads := holds.sound.top here
  rw [top, Option.some.injEq] at leads
  obtain ⟨previous, loadedPrevious, isPrevious, hasPrevious⟩ :=
    loadOption_total prediction.orders order.previousOrder fun other link => by
      obtain ⟨-, -, neighbor, present, -⟩ := holds.sound.previous stored opened link
      exact Option.ne_none_iff_exists'.mpr ⟨neighbor, present⟩
  obtain ⟨next, loadedNext, isNext, hasNext⟩ :=
    loadOption_total prediction.orders order.nextOrder fun other link => by
      obtain ⟨-, neighbor, present, -⟩ := holds.sound.following stored opened link
      exact Option.ne_none_iff_exists'.mpr ⟨neighbor, present⟩
  obtain ⟨better, worse, loadedBetter, loadedWorse, removal⟩ :=
    checkPriceRemoval_total holds stored live found owner top isPrevious isNext
  have queue := checkFifo_total holds stored live found isPrevious isNext hasPrevious hasNext
  have backed : backing order.side order.price order.remainingQuantity
      .predictionOrderAccountingMismatch = .ok order.lockedCollateral := by
    have fits := rest.fits
    have exact_ := rest.backed
    cases side : order.side <;> rw [side] at exact_ <;>
      simp only [Predicted.exactBacking] at exact_
    · simp only [backing, checkedMul_eq_ok]
      exact ⟨exact_ ▸ fits, exact_⟩
    · simp only [backing, pure_eq_ok, exact_]
  have first : best = level.price ↔ level.betterPrice = none := by
    rw [← priceIs]
    exact leads
  have latest : order.side.NoLater best level.price := by
    rw [← priceIs]
    cases side : order.side <;> simp only [side, OrderSide.Precedes] at reaches <;>
      simp only [OrderSide.NoLater] <;> omega
  have heads : book.bestPrice order.outcome order.side = some best := by
    rw [predictionHeads_stored bookStored] at top
    exact top
  simp only [handleCancelPredictionOrder, loadPredictionMarket, loadPosition, loadPredictionBook,
    loadOwnPredictionOrder, loadPredictionLevel, checkBackedOrder, bind_eq_ok, load_eq_ok,
    require_eq_ok, okOr_eq_ok, checkedSub_eq_ok, pure_eq_ok]
  exact ⟨_, _, ⟨⟨order.market, market⟩, ⟨rfl, marketStored⟩, (),
      holds.markets _ market marketStored, rfl⟩, _,
    ⟨⟨.predictionPosition order.market owner.key, position⟩, ⟨rfl, positionStored⟩, (),
      positionHome.symm, (), positionOwner.symm, rfl⟩, _,
    ⟨⟨.predictionBook order.market, book⟩, ⟨rfl, bookStored⟩, (),
      (Pubkey.predictionBook.inj (holds.books _ book bookStored)).symm, rfl⟩, _,
    ⟨⟨.predictionOrder order.market order.orderId, order⟩, ⟨rfl, stored⟩, (), own, (), rfl, rfl⟩, _,
    ⟨⟨.predictionLevel order.market order.outcome order.side order.price, level⟩, ⟨rfl, found⟩, (),
      homeIs.symm, (), ⟨answerIs.symm, sideIs.symm, priceIs.symm⟩, rfl⟩, (), rest.level, previous,
    loadedPrevious, next, loadedNext, better, loadedBetter, worse, loadedWorse, (),
    ⟨(), live, (), ⟨rfl, rest.id_pos, earlier, rest.remaining_pos, rest.remaining_le,
      rest.price_pos⟩, order.lockedCollateral, backed, rfl⟩, (), queue, best, heads, (),
    ⟨first, latest⟩, _, ⟨counted, rfl⟩, _, ⟨covered, rfl⟩, _, ⟨open_count, rfl⟩, (), removal,
    released, unlock, rfl⟩

end Prediction

def PredictionOrder.spliced (gone : PredictionOrder) (key : Pubkey) (order : PredictionOrder) :
    PredictionOrder :=
  { order with
    previousOrder := if gone.nextOrder = some key then gone.previousOrder else order.previousOrder
    nextOrder := if gone.previousOrder = some key then gone.nextOrder else order.nextOrder }

def PredictionPosition.refunded (position : PredictionPosition) (outcome : PredictionOutcome)
    (side : OrderSide) (amount : Nat) : PredictionPosition :=
  position.setBuckets outcome side ((position.buckets outcome side).1 + amount)
    ((position.buckets outcome side).2 - amount)

/-- One order is canceled and its exact backing comes back; every other order keeps all but the
links that led to it, and nothing else moves. -/
structure PredictionRefund (state after : State) (key : Pubkey) (order : PredictionOrder) :
    Prop where
  cleared : after.prediction.orders.get key = some (PredictionOrder.canceled order)
  others : ∀ other, other ≠ key → after.prediction.orders.get other =
    (state.prediction.orders.get other).map (PredictionOrder.spliced order other)
  exact_ : order.lockedCollateral =
    match order.side with
    | .bid => order.price * order.remainingQuantity
    | .ask => order.remainingQuantity
  refund : ∃ position,
    state.prediction.positions.get (.predictionPosition order.market order.owner) =
      some position ∧
    order.lockedCollateral ≤ (position.buckets order.outcome order.side).2 ∧
    after.prediction.positions.get (.predictionPosition order.market order.owner) = some
      (PredictionPosition.refunded position order.outcome order.side order.lockedCollateral)
  positions : ∀ other, other ≠ .predictionPosition order.market order.owner →
    after.prediction.positions.get other = state.prediction.positions.get other
  elsewhere : after.prediction.fees = state.prediction.fees ∧ after.spot = state.spot ∧
    after.shared = state.shared ∧ after.tokens = state.tokens ∧ after.protocol = state.protocol

theorem positionUnlock_eq_ok {position released : PredictionPosition} {outcome : PredictionOutcome}
    {side : OrderSide} {amount : Nat} :
    position.unlock outcome side amount = .ok released ↔
      (position.buckets outcome side).1 + amount ≤ u64Max ∧
        amount ≤ (position.buckets outcome side).2 ∧
        released = PredictionPosition.refunded position outcome side amount := by
  simp only [PredictionPosition.unlock, bind_eq_ok, checkedAdd_eq_ok, checkedSub_eq_ok,
    pure_eq_ok, PredictionPosition.refunded]
  constructor
  · rintro ⟨_, ⟨fits, rfl⟩, _, ⟨enough, rfl⟩, rfl⟩
    exact ⟨fits, enough, rfl⟩
  · rintro ⟨fits, enough, rfl⟩
    exact ⟨_, ⟨fits, rfl⟩, _, ⟨enough, rfl⟩, rfl⟩

theorem PredictionCancellation.refund {state : State} {owner : Wallet} {key : Pubkey}
    {orderId : Nat} (leaving : PredictionCancellation state.prediction owner key orderId)
    (holds : PredictionInvariant state.prediction) :
    PredictionRefund state { state with prediction := leaving.result }
      (.predictionOrder key orderId) leaving.order where
  cleared := by
    have opened := predictionShelf_live.mpr leaving.live
    refine predictionShelf.unlink_self _ _ _ (fun link => ?_) fun link => ?_
    · exact (holds.sound.previous leaving.orderStored opened link).1 rfl
    · exact (holds.sound.following leaving.orderStored opened link).1 rfl
  others other different := by
    refine (predictionShelf.unlink_get _ _ _ different).trans (congrArg (Option.map · _) ?_)
    funext record
    by_cases behind : leaving.order.nextOrder = some other <;>
      by_cases ahead : leaving.order.previousOrder = some other <;>
      simp [predictionShelf, PredictionOrder.spliced, PredictionOrder.setNext,
        PredictionOrder.setPrevious, behind, ahead]
  exact_ := by
    obtain ⟨_, -, rest⟩ := holds.resting _ leaving.order leaving.orderStored leaving.live
    exact rest.backed
  refund := by
    obtain ⟨-, enough, same⟩ := positionUnlock_eq_ok.mp leaving.unlock
    rw [leaving.home, leaving.own]
    exact ⟨leaving.position, leaving.positionStored, enough, same ▸ Store.get_set_self _ _ _⟩
  positions other different := by
    rw [leaving.home, leaving.own] at different
    exact Store.get_set_ne _ _ different
  elsewhere := ⟨rfl, rfl, rfl, rfl, rfl⟩

section PredictionRefunds

variable {state : State} (holds : Invariant state) (solvent : Solvent state)
include holds solvent

theorem position_fits {market : Pubkey} {record : PredictionMarket} {owner : Pubkey}
    {position : PredictionPosition} (stored : state.prediction.markets.get market = some record)
    (held : state.prediction.positions.get (.predictionPosition market owner) = some position)
    (bucket : Bucket) :
    positionLedger.free position bucket + positionLedger.locked position bucket ≤ u64Max := by
  cases bucket with
  | collateral =>
      have bound := positionLedger.held_le held .collateral
      have home : positionLedger.pool (positionLedger.holder position) = market :=
        (Pubkey.predictionPosition.inj (holds.accounts.filed _ position held)).1.symm
      rw [home] at bound
      have fits := solvent.question_fits holds stored
      omega
  | contracts outcome =>
      exact (holds.accounts.contracts_le stored held outcome).trans
        ((holds.accounts.backing market record stored).supply_fits outcome)

theorem positionUnlock_total {key : Pubkey} {order : PredictionOrder}
    (stored : state.prediction.orders.get key = some order) (live : order.status = .opened) :
    ∃ position released,
      state.prediction.positions.get (.predictionPosition order.market order.owner) =
        some position ∧
      position.unlock order.outcome order.side order.lockedCollateral = .ok released := by
  obtain ⟨record, marketStored, rest⟩ := holds.prediction.resting key order stored live
  have locks := holds.positionLocks (order.market, order.owner) (.of order.outcome order.side)
  have own := Store.le_total (f := Predicted.lockedBy (order.market, order.owner)
    (.of order.outcome order.side)) stored
  rw [Predicted.lockedBy_live live, Ledger.single, if_pos rfl, Pi.single_eq_same] at own
  have some_lock : 0 < order.lockedCollateral := by
    rw [rest.backed]
    cases order.side
    · exact Nat.mul_pos rest.price_pos rest.remaining_pos
    · exact rest.remaining_pos
  cases held : state.prediction.positions.get (.predictionPosition order.market order.owner) with
  | none =>
      have nothing : positionLedger.lockedOf state.prediction.positions
          (order.market, order.owner) (.of order.outcome order.side) = 0 := by
        simp [Ledger.lockedOf, positionLedger, held]
      omega
  | some position =>
      have fits := position_fits holds solvent marketStored held (.of order.outcome order.side)
      rw [Ledger.lockedOf_stored held] at locks
      have buckets := buckets_eq position order.outcome order.side
      refine ⟨position, _, rfl, positionUnlock_eq_ok.mpr ⟨?_, ?_, rfl⟩⟩
      · rw [buckets]
        dsimp only
        omega
      · rw [buckets]
        dsimp only
        omega

theorem prediction_exit (entered : Entered state) {key : Pubkey} {order : PredictionOrder}
    {owner : Wallet} (stored : state.prediction.orders.get key = some order)
    (live : order.status = .opened) (own : order.owner = owner.key) : ∃ level after orderId,
    state.prediction.levels.get
      (.predictionLevel order.market order.outcome order.side order.price) = some level ∧
    UInt64.toNat orderId = order.orderId ∧
    execute state (.cancelPredictionOrder (predictionExit order level owner) orderId) =
      .ok after ∧
    PredictionRefund state after key order := by
  obtain ⟨level, found⟩ := holds.prediction.sound.has_level stored (predictionShelf_live.mpr live)
  obtain ⟨position, released, held, unlock⟩ := positionUnlock_total holds solvent stored live
  obtain ⟨orderId, number⟩ := fits_uint64 (entered.predicted key order stored)
  rw [own] at held
  obtain ⟨after, done⟩ := handleCancelPredictionOrder_total holds.prediction stored live found own
    holds.accounts.filed held unlock
  obtain ⟨leaving, rfl⟩ := handleCancelPredictionOrder_ok holds.prediction done
  obtain rfl := holds.prediction.orders key order stored
  have same : order = leaving.order := Option.some.inj (stored.symm.trans leaving.orderStored)
  have refund := leaving.refund holds.prediction
  rw [← same] at refund
  refine ⟨level, { state with prediction := leaving.result }, orderId, found, number, ?_, refund⟩
  rw [execute, number, done]
  rfl

end PredictionRefunds

/-! ## Every run -/

/-- In every state that a run reaches, the owner of an open order on a legacy book cancels it with
the stored accounts, whatever the status of the market. -/
theorem legacy_cancellation (genesis : Genesis) (events : List Event) {state : State}
    (reached : (genesis.after events).state = state) :
    (∀ key order owner, state.spot.orders.get key = some order → order.status = .opened →
      order.owner = Wallet.key owner → ∃ level after orderId,
        state.spot.levels.get (.priceLevel order.market order.side order.price) = some level ∧
        UInt64.toNat orderId = order.orderId ∧
        execute state (.cancelLimitOrder (spotExit order level owner) orderId) = .ok after ∧
        SpotRefund state after key order) ∧
    ∀ key order owner, state.prediction.orders.get key = some order → order.status = .opened →
      order.owner = Wallet.key owner → ∃ level after orderId,
        state.prediction.levels.get
          (.predictionLevel order.market order.outcome order.side order.price) = some level ∧
        UInt64.toNat orderId = order.orderId ∧
        execute state (.cancelPredictionOrder (predictionExit order level owner) orderId) =
          .ok after ∧
        PredictionRefund state after key order := by
  subst reached
  have holds := run_invariant genesis events
  have solvent := run_solvent genesis events
  have entered := run_entered genesis events
  exact ⟨fun key order owner => spot_exit holds solvent entered,
    fun key order owner => prediction_exit holds solvent entered⟩

set_option maxRecDepth 4096 in
/-- Alice takes her ask off the sample market. -/
theorem legacy_cancellation_traded : ∃ accounts orderId after,
    execute Sample.traded (.cancelLimitOrder accounts orderId) = .ok after := by
  obtain ⟨order, stored, known⟩ := (Option.any_eq_true (fun order : Order =>
    order.status = .opened ∧ order.owner = Sample.alice.key)
    (Sample.traded.spot.orders.get (.order Sample.spot 1))).mp (by decide +kernel)
  obtain ⟨live, own⟩ := of_decide_eq_true known
  obtain ⟨level, after, orderId, -, -, done, -⟩ := (legacy_cancellation Sample.start
    (Sample.funding ++ Sample.opening ++ Sample.trading) rfl).1 _ order Sample.alice stored live own
  exact ⟨_, orderId, after, done⟩

end Tidebook.Proof
