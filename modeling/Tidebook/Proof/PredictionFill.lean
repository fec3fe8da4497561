import Tidebook.Proof.PredictionCancel

/-! # Prediction fills -/

namespace Tidebook.Proof
open Library Program

/-! ## Settlement -/

/-- What one fill does to the positions of its two sides: the maker's lock shrinks by its debit,
and together they lose the fee. -/
def PositionsSettled (bucket : Bucket) (debit fee : Nat)
    (maker taker makerSettled takerSettled : PredictionPosition) : Prop :=
  ∃ paid got given taken, positionLedger.Move maker makerSettled (Pi.single bucket debit) 0 paid got ∧
    positionLedger.Move taker takerSettled 0 0 given taken ∧
    ∀ found, paid found + given found =
      got found + taken found + (Pi.single .collateral fee : Bucket → Nat) found

def fillDebit (side : OrderSide) (fill notional : Nat) : Nat := if side = .bid then notional else fill

theorem settlePositions_ok {outcome : PredictionOutcome} {takerSide makerSide : OrderSide}
    {backing fill notional fee : Nat} {maker taker makerSettled takerSettled : PredictionPosition}
    (sides : makerSide ≠ takerSide)
    (passed : settlePositions outcome takerSide backing fill notional fee maker taker =
      .ok (makerSettled, takerSettled)) :
    PositionsSettled (.of outcome makerSide) (fillDebit makerSide fill notional) fee maker taker
      makerSettled takerSettled := by
  cases takerSide with
  | bid =>
      obtain rfl : makerSide = .ask := by
        cases makerSide
        · exact absurd rfl sides
        · rfl
      simp only [settlePositions, bind_eq_ok, require_eq_ok, checkedAdd_eq_ok, checkedSub_eq_ok,
        pure_eq_ok, Prod.mk.injEq] at passed
      obtain ⟨_, _, _, ⟨_, rfl⟩, _, ⟨paid, rfl⟩, _, ⟨_, rfl⟩, _, ⟨held, rfl⟩, _, ⟨_, rfl⟩, rfl,
        rfl⟩ := passed
      refine ⟨Pi.single (.contracts outcome) fill, Pi.single .collateral notional,
        Pi.single .collateral (notional + fee), Pi.single (.contracts outcome) fill,
        ⟨?_, fun bucket => ?_, fun bucket => ?_⟩, ⟨?_, fun bucket => ?_, fun bucket => ?_⟩,
        fun bucket => ?_⟩
      all_goals cases outcome
      all_goals try rcases bucket with _ | (_ | _)
      all_goals simp [positionLedger, PredictionPosition.setContractsLocked,
        PredictionPosition.setContractsFree, PredictionPosition.contractsLocked,
        PredictionPosition.contractsFree, Bucket.of, fillDebit] at held paid ⊢
      all_goals omega
  | ask =>
      obtain rfl : makerSide = .bid := by
        cases makerSide
        · rfl
        · exact absurd rfl sides
      simp only [settlePositions, bind_eq_ok, require_eq_ok, checkedAdd_eq_ok, checkedSub_eq_ok,
        pure_eq_ok, Prod.mk.injEq] at passed
      obtain ⟨_, _, _, ⟨held, rfl⟩, _, ⟨feePaid, rfl⟩, _, ⟨_, rfl⟩, _, ⟨paid, rfl⟩, _, ⟨_, rfl⟩, rfl,
        rfl⟩ := passed
      refine ⟨Pi.single .collateral notional, Pi.single (.contracts outcome) fill,
        Pi.single (.contracts outcome) fill, Pi.single .collateral (notional - fee),
        ⟨?_, fun bucket => ?_, fun bucket => ?_⟩, ⟨?_, fun bucket => ?_, fun bucket => ?_⟩,
        fun bucket => ?_⟩
      all_goals cases outcome
      all_goals try rcases bucket with _ | (_ | _)
      all_goals simp [positionLedger, PredictionPosition.setContractsFree,
        PredictionPosition.contractsFree, Bucket.of, fillDebit] at held paid ⊢
      all_goals omega

/-! ## Fills -/

/-- A match that passed every check of its handler. -/
structure PredictionFill (prediction : Prediction) (now : Int) (config : ProtocolConfig)
    (taker : Wallet) (key makerKey : Pubkey) (outcome : PredictionOutcome)
    (takerSide : OrderSide) (limit quantity : Nat) extends
    PredictionDeparture prediction makerKey where
  fees : MarketFees
  makerPosition : PredictionPosition
  takerPosition : PredictionPosition
  backing : Nat
  fee : Nat
  makerSettled : PredictionPosition
  takerSettled : PredictionPosition
  home : order.market = key
  isOutcome : order.outcome = outcome
  opened : market.status = .opened
  before : now < market.closeTs
  quantity_pos : 0 < quantity
  feesStored : prediction.fees.get (.marketFees key) = some fees
  own : order.owner ≠ taker.key
  sides : order.side ≠ takerSide
  cross : takerSide.NoLater limit order.price
  best : book.bestPrice order.outcome order.side = some order.price
  first : level.firstOrder = some makerKey
  makerStored : prediction.positions.get (.predictionPosition key order.owner) = some makerPosition
  takerStored : prediction.positions.get (.predictionPosition key taker.key) = some takerPosition
  charged : calculateTakerFee (order.price * min quantity order.remainingQuantity)
    config.takerFeeBps = .ok fee
  settled : settlePositions outcome takerSide backing (min quantity order.remainingQuantity)
    (order.price * min quantity order.remainingQuantity) fee makerPosition takerPosition =
      .ok (makerSettled, takerSettled)

namespace PredictionFill

variable {prediction : Prediction} {now : Int} {config : ProtocolConfig} {taker : Wallet}
variable {key makerKey : Pubkey} {outcome : PredictionOutcome} {takerSide : OrderSide}
variable {limit quantity : Nat}
variable (fill : PredictionFill prediction now config taker key makerKey outcome takerSide limit
  quantity)

def filled : Nat := min quantity fill.order.remainingQuantity

def debit : Nat := fillDebit fill.order.side fill.filled (fill.order.price * fill.filled)

def reduced (full : Bool) : PredictionOrder :=
  fill.order.fill full (fill.order.remainingQuantity - fill.filled)
    (fill.order.lockedCollateral - fill.debit)

def result : Prediction where
  markets := if fill.order.remainingQuantity ≤ quantity then fill.markets
    else prediction.markets.set key fill.market
  books := if fill.order.remainingQuantity ≤ quantity then fill.books
    else prediction.books.set (.predictionBook key) fill.book
  fees := prediction.fees.set (.marketFees key)
    { fill.fees with accruedQuoteFees := fill.fees.accruedQuoteFees + fill.fee }
  orders := if fill.order.remainingQuantity ≤ quantity then fill.orders (fill.reduced true)
    else prediction.orders.set makerKey (fill.reduced false)
  levels := if fill.order.remainingQuantity ≤ quantity then fill.levels
    else prediction.levels.set
      (.predictionLevel fill.order.market fill.order.outcome fill.order.side fill.order.price)
      { fill.level with totalRemainingQuantity := fill.level.totalRemainingQuantity - fill.filled }
  positions := (prediction.positions.set (.predictionPosition key fill.order.owner)
    fill.makerSettled).set (.predictionPosition key taker.key) fill.takerSettled

theorem ledger (filed : positionLedger.Filed prediction.positions) :
    positionLedger.Edit prediction.positions fill.result.positions
      (Ledger.single (fill.order.market, fill.order.owner)
        (Pi.single (.of fill.order.outcome fill.order.side) fill.debit)) 0
      (Ledger.single fill.order.market (Pi.single .collateral fill.fee)) 0 := by
  obtain ⟨paid, got, given, taken, maker, taking, balanced⟩ :=
    settlePositions_ok fill.sides fill.settled
  have first := position_write filed fill.makerStored maker
  have kept : (prediction.positions.set (.predictionPosition key fill.order.owner)
      fill.makerSettled).get (.predictionPosition key taker.key) = some fill.takerPosition := by
    rw [Store.get_set_ne _ _ fun same => fill.own (Pubkey.predictionPosition.inj same).2.symm]
    exact fill.takerStored
  have both := first.trans (position_write (first.filed filed) kept taking)
  simp only [Ledger.single_zero, add_zero] at both
  rw [fill.home, fill.isOutcome]
  refine both.rebalance fun pool bucket => ?_
  simp only [Pi.add_apply, Pi.zero_apply, Ledger.single]
  split
  · have net := balanced bucket
    omega
  · rfl

theorem rests (holds : PredictionInvariant prediction) :
    Predicted.Resting fill.market fill.order := by
  obtain ⟨market, stored, rest⟩ := holds.resting _ _ fill.orderStored fill.live
  rw [fill.stored] at stored
  cases stored
  exact rest

/-- The lock left after a fill is exactly what backs the rest. -/
theorem backed_rest (holds : PredictionInvariant prediction) :
    fill.order.lockedCollateral - fill.debit = Predicted.exactBacking fill.order.side
      fill.order.price (fill.order.remainingQuantity - fill.filled) := by
  have backed := (fill.rests holds).backed
  simp only [debit, fillDebit]
  cases side : fill.order.side with
  | bid =>
      rw [side] at backed
      simp only [Predicted.exactBacking] at backed ⊢
      rw [backed, if_pos trivial, Nat.mul_sub]
  | ask =>
      rw [side] at backed
      simp only [Predicted.exactBacking] at backed ⊢
      rw [backed, if_neg (by simp)]

theorem debit_le (holds : PredictionInvariant prediction) :
    fill.debit ≤ fill.order.lockedCollateral := by
  have backed := (fill.rests holds).backed
  simp only [debit, fillDebit]
  cases side : fill.order.side with
  | bid =>
      rw [side] at backed
      simp only [Predicted.exactBacking] at backed
      rw [backed, if_pos rfl]
      exact Nat.mul_le_mul_left _ (min_le_right _ _)
  | ask =>
      rw [side] at backed
      simp only [Predicted.exactBacking] at backed
      rw [backed, if_neg (by simp)]
      exact min_le_right _ _

theorem debit_full (holds : PredictionInvariant prediction)
    (full : fill.order.remainingQuantity ≤ quantity) :
    fill.debit = fill.order.lockedCollateral := by
  have rest := fill.backed_rest holds
  have bound := fill.debit_le holds
  have all : fill.order.remainingQuantity - fill.filled = 0 := by
    rw [filled, min_eq_right full, Nat.sub_self]
  rw [all] at rest
  have zero : Predicted.exactBacking fill.order.side fill.order.price 0 = 0 := by
    cases fill.order.side <;> simp [Predicted.exactBacking]
  omega

theorem rests_partial (holds : PredictionInvariant prediction)
    (partly : ¬fill.order.remainingQuantity ≤ quantity) :
    Predicted.Resting fill.market (fill.reduced false) := by
  have rest := fill.rests holds
  have small : fill.filled < fill.order.remainingQuantity := by
    rw [filled]
    omega
  have bound := rest.remaining_le
  have fits := rest.fits
  refine ⟨rest.price_pos, rest.price_lt, rest.tick, rest.id_pos, Nat.sub_pos_of_lt small, ?_,
    fill.backed_rest holds, ?_, rest.level⟩
  · exact le_trans (Nat.sub_le _ _) bound
  · exact le_trans (Nat.sub_le _ _) fits

theorem edit_partial (holds : PredictionInvariant prediction)
    (partly : ¬fill.order.remainingQuantity ≤ quantity) :
    PredictionEdit prediction fill.result fill.order.market makerKey fill.market
      fill.market.openOrderCount fill.book fill.book (fill.reduced false) none none none none where
  stored := fill.stored
  bookStored := fill.bookStored
  bookMarket := rfl
  later := le_refl _
  named := holds.orders _ _ fill.orderStored
  home := rfl
  issued := by
    have earlier := holds.earlier fill.bookStored _ _ fill.orderStored rfl
    exact earlier
  rests _ := fill.rests_partial holds partly
  markets := by
    simp only [result, if_neg partly, fill.home]
  books := by
    simp only [result, if_neg partly, fill.home]
  orders := by
    simp only [result, if_neg partly]
    rfl
  levels := by
    simp only [result, if_neg partly]
    have keyed := holds.levels _ _ fill.levelStored
    exact holds.levels.set keyed
  sound := by
    have small : fill.filled < fill.order.remainingQuantity := by
      rw [filled]
      omega
    have same : predictionHeads (prediction.books.set (.predictionBook key) fill.book) =
        predictionHeads prediction.books := by
      have stored := predictionHeads_stored fill.bookStored
      rw [fill.home] at stored
      rw [predictionHeads_set, ← stored, Function.update_eq_self]
    simp only [result, if_neg partly]
    exact holds.sound.reduce fill.order (fill.reduced false) makerKey fill.orderStored
      (predictionShelf_live.mpr fill.live) small fill.levelStored rfl
      (predictionShelf_live.mpr fill.live) rfl rfl same
  counted := by
    rw [fill.orderStored, Option.elim_some]
    rfl

theorem edit_full (holds : PredictionInvariant prediction)
    (full : fill.order.remainingQuantity ≤ quantity) :
    PredictionEdit prediction fill.result fill.order.market makerKey fill.market
      (fill.market.openOrderCount - 1) fill.book fill.headed (fill.reduced true)
      fill.order.previousOrder fill.order.nextOrder fill.order.nextOrder fill.order.previousOrder :=
  fill.toPredictionDeparture.edit holds (by simp [reduced, PredictionOrder.fill]) rfl rfl
    (by simp only [result, if_pos full]) (by simp only [result, if_pos full])
    (by simp only [result, if_pos full]) (by simp only [result, if_pos full])

theorem edit (holds : PredictionInvariant prediction) : ∃ count headed previous next ahead behind,
    PredictionEdit prediction fill.result fill.order.market makerKey fill.market count fill.book
      headed (fill.reduced (fill.order.remainingQuantity ≤ quantity)) previous next ahead
      behind := by
  by_cases full : fill.order.remainingQuantity ≤ quantity
  · rw [decide_eq_true full]
    exact ⟨_, _, _, _, _, _, fill.edit_full holds full⟩
  · rw [decide_eq_false full]
    exact ⟨_, _, _, _, _, _, fill.edit_partial holds full⟩

end PredictionFill

/-! ## The handler -/

theorem loadPredictionFees_ok {prediction : Prediction} {market : Account PredictionMarket}
    {fees : Account MarketFees} (passed : loadPredictionFees prediction market = .ok fees) :
    fees.key = .marketFees market.key ∧
      prediction.fees.get (.marketFees market.key) = some fees.val := by
  simp only [loadPredictionFees, bind_eq_ok, load_eq_ok, require_eq_ok, pure_eq_ok] at passed
  obtain ⟨_, ⟨filed, stored⟩, _, -, _, -, rfl⟩ := passed
  exact ⟨filed, stored⟩

theorem loadPredictionMaker_ok {prediction : Prediction} {market key : Pubkey}
    {outcome : PredictionOutcome} {taker : Wallet} {maker : Account PredictionOrder}
    (passed : loadPredictionMaker prediction market key outcome taker = .ok maker) :
    maker.key = key ∧ prediction.orders.get key = some maker.val ∧ maker.val.market = market ∧
      maker.val.outcome = outcome ∧ maker.val.owner ≠ taker.key := by
  simp only [loadPredictionMaker, bind_eq_ok, load_eq_ok, require_eq_ok, pure_eq_ok] at passed
  obtain ⟨_, ⟨filed, stored⟩, _, -, _, home, _, isOutcome, _, own, rfl⟩ := passed
  exact ⟨filed, stored, home, isOutcome, own⟩

theorem checkMakerHead_eq_ok {takerSide : OrderSide} {limit : Nat}
    {maker : Account PredictionOrder} {level : PredictionPriceLevel} {book : PredictionOrderBook}
    {done : Unit} : checkMakerHead takerSide limit maker level book = .ok done ↔
      maker.val.status = .opened ∧ maker.val.side ≠ takerSide ∧
        takerSide.NoLater limit maker.val.price ∧
        (book.bestPrice maker.val.outcome maker.val.side = some maker.val.price ∧
          level.betterPrice = none) ∧
        level.firstOrder = some maker.key ∧ maker.val.previousOrder = none := by
  simp only [checkMakerHead, bind_eq_ok, require_eq_ok, exists_const]

theorem checkMakerBacking_ok {market : PredictionMarket} {maker : Account PredictionOrder}
    {level : PredictionPriceLevel} {nextOrderId amount : Nat}
    (passed : checkMakerBacking market maker level nextOrderId = .ok amount) :
    (level.orderCount = 1 → maker.val.nextOrder = none) ∧
      (level.orderCount ≠ 1 → maker.val.nextOrder ≠ none) := by
  simp only [checkMakerBacking, bind_eq_ok, require_eq_ok, ite_eq_ok, pure_eq_ok] at passed
  obtain ⟨_, _, _, _, _, _, _, ends, _⟩ := passed
  obtain ⟨alone, checked⟩ | ⟨crowd, checked⟩ := ends
  · exact ⟨fun _ => checked.2.1, fun other => absurd alone other⟩
  · exact ⟨fun other => absurd other crowd, fun _ => Option.isSome_iff_ne_none.mp checked.2.1⟩

theorem checkSuccessor_ok {market : Pubkey} {maker : Account PredictionOrder} {level : Pubkey}
    {promoted : Prop} [Decidable promoted] {next : Option (Account PredictionOrder)} {done : Unit}
    (passed : checkSuccessor market maker level promoted next = .ok done) :
    (promoted → maker.val.nextOrder = next.map Account.key) ∧ (¬promoted → next = none) := by
  rw [checkSuccessor, ite_eq_ok] at passed
  obtain ⟨yes, checked⟩ | ⟨no, checked⟩ := passed
  · simp only [bind_eq_ok, okOr_eq_ok, require_eq_ok] at checked
    obtain ⟨follower, rfl, linked⟩ := checked
    exact ⟨fun _ => linked.1.symm, fun other => absurd yes other⟩
  · rw [require_eq_ok, Option.isNone_iff_eq_none] at checked
    exact ⟨fun other => absurd other no, fun _ => checked⟩

theorem checkWorse_ok {market : Pubkey} {maker : PredictionOrder} {level : PredictionPriceLevel}
    {removes : Prop} [Decidable removes] {total : Nat}
    {worse : Option (Account PredictionPriceLevel)} {recipient : Option Pubkey} {done : Unit}
    (passed : checkWorse market maker level removes total worse recipient = .ok done) :
    (removes → worse.map Account.key = level.worsePrice.map
      (Pubkey.predictionLevel market maker.outcome maker.side)) ∧ (¬removes → worse = none) := by
  rw [checkWorse, ite_eq_ok] at passed
  obtain ⟨yes, checked⟩ | ⟨no, checked⟩ := passed
  · simp only [bind_eq_ok, okOr_eq_ok, require_eq_ok] at checked
    obtain ⟨_, _, _, _, _, _, _, keys, _⟩ := checked
    exact ⟨fun _ => keys, fun other => absurd yes other⟩
  · rw [require_eq_ok] at checked
    exact ⟨fun other => absurd other no, fun _ => Option.isNone_iff_eq_none.mp checked.1⟩

section Handler

variable {prediction : Prediction} {maker : Account PredictionOrder}
variable {level : Account PredictionPriceLevel}

theorem save_successor (holds : PredictionInvariant prediction)
    (stored : prediction.orders.get maker.key = some maker.val) (live : maker.val.status = .opened)
    (front : maker.val.previousOrder = none) {next : Option (Account PredictionOrder)}
    (isNext : maker.val.nextOrder = next.map Account.key)
    (hasNext : ∀ value ∈ next, prediction.orders.get value.key = some value.val)
    (gone : PredictionOrder) :
    saveOption (prediction.orders.set maker.key gone)
        (next.map (Account.map (PredictionOrder.setPrevious none))) =
      predictionShelf.unlink prediction.orders maker.key maker.val gone := by
  have top : maker.val.previousOrder = (none : Option (Account PredictionOrder)).map Account.key :=
    front
  exact save_unlink holds.sound stored (predictionShelf_live.mpr live) top isNext (by simp) hasNext
    gone

theorem save_filled_level (holds : PredictionInvariant prediction) {market : Pubkey}
    (list : PredictionOutcome × OrderSide) {price : Nat} {record : PredictionPriceLevel}
    (stored : prediction.levels.get (.predictionLevel market list.1 list.2 price) = some record)
    (top : record.betterPrice = none) {worse : Option (Account PredictionPriceLevel)}
    (keys : worse.map Account.key =
      record.worsePrice.map (Pubkey.predictionLevel market list.1 list.2))
    (hasWorse : ∀ value ∈ worse, prediction.levels.get value.key = some value.val) :
    saveOption (prediction.levels.erase (.predictionLevel market list.1 list.2 price))
        (worse.map (Account.map (PredictionPriceLevel.setBetter none))) =
      predictionShelf.relevel market list
        (prediction.levels.erase (.predictionLevel market list.1 list.2 price))
        record.betterPrice record.worsePrice record.worsePrice record.betterPrice := by
  have there : prediction.levels.get (predictionShelf.file market (list, price)) = some record :=
    stored
  have better : (none : Option (Account PredictionPriceLevel)).map Account.key =
      record.betterPrice.map fun other => predictionShelf.file market (list, other) := by
    rw [top]
    rfl
  have saved := save_relevel holds.sound there better keys (by simp) hasWorse
  rw [← top]
  exact saved

end Handler

theorem handleMatchPredictionOrder_ok {prediction after : Prediction} {now : Int}
    {config : ProtocolConfig} {accounts : MatchPredictionOrder} {outcome : PredictionOutcome}
    {takerSide : OrderSide} {limit quantity : Nat} (holds : PredictionInvariant prediction)
    (done : handleMatchPredictionOrder prediction now config accounts outcome takerSide limit
      quantity = .ok after) :
    ∃ fill : PredictionFill prediction now config accounts.taker accounts.market
      accounts.makerOrder outcome takerSide limit quantity, fill.result = after := by
  obtain ⟨taker, market, makerKey, nextKey, worseKey, recipient⟩ := accounts
  simp only [handleMatchPredictionOrder, bind_eq_ok, require_eq_ok, loadOption_eq_ok,
    checkedSub_eq_ok, checkedAdd_eq_ok, checkedMul_eq_ok, pure_eq_ok, exists_const, and_assoc,
    exists_eq_left, exists_and_left] at done
  obtain ⟨record, ownMarket, book, ownBook, fees, ownFees, maker, ownMaker, level, ownLevel, -,
    makerPosition, ownMakerPosition, takerPosition, ownTakerPosition, next, -, hasNext, worse, -,
    hasWorse, opened, before, some_quantity, -, -, -, -, _, head, backing, backed, done⟩ := done
  obtain ⟨-, fee, charged, -, -, done⟩ := done
  obtain ⟨_, successor, _, next_price, count, counted, done⟩ := done
  obtain ⟨⟨makerSettled, takerSettled⟩, settled, -, rfl⟩ := done
  obtain ⟨marketFiled, stored, _⟩ := loadPredictionMarket_ok ownMarket
  obtain ⟨bookFiled, bookStored, _⟩ := loadPredictionBook_ok ownBook
  obtain ⟨feesFiled, feesStored⟩ := loadPredictionFees_ok ownFees
  obtain ⟨makerFiled, makerStored, home, isOutcome, own⟩ := loadPredictionMaker_ok ownMaker
  obtain ⟨levelFiled, levelStored, _, _, _⟩ := loadPredictionLevel_ok ownLevel
  obtain ⟨makerPositionFiled, makerPositionStored⟩ := loadPosition_ok ownMakerPosition
  obtain ⟨takerPositionFiled, takerPositionStored⟩ := loadPosition_ok ownTakerPosition
  obtain ⟨live, sides, cross, ⟨best, top⟩, first, front⟩ := checkMakerHead_eq_ok.mp head
  obtain ⟨alone, crowd⟩ := checkMakerBacking_ok backed
  rw [marketFiled] at bookFiled bookStored feesFiled feesStored home levelFiled levelStored
  rw [marketFiled] at makerPositionFiled makerPositionStored takerPositionFiled takerPositionStored
  rw [marketFiled] at successor next_price
  dsimp only at *
  subst home
  subst isOutcome
  rw [makerFiled] at first
  refine ⟨⟨⟨record.val, book.val, maker.val, level.val, stored, bookStored, makerStored, live,
    levelStored⟩, fees.val, makerPosition.val, takerPosition.val, backing, fee, makerSettled,
    takerSettled, rfl, rfl, opened, before, some_quantity, feesStored, own, sides, cross, best,
    first, makerPositionStored, takerPositionStored, charged, settled⟩, ?_⟩
  have zero : maker.val.remainingQuantity - min quantity maker.val.remainingQuantity = 0 ↔
      maker.val.remainingQuantity ≤ quantity := by omega
  simp only [zero] at successor next_price counted
  simp only [PredictionFill.result, PredictionFill.reduced, PredictionFill.filled,
    PredictionFill.debit, fillDebit, zero]
  rw [feesFiled, makerPositionFiled, takerPositionFiled, makerFiled, bookFiled, levelFiled,
    marketFiled]
  by_cases full : maker.val.remainingQuantity ≤ quantity
  · simp only [full, true_and, if_true, checkedSub_eq_ok] at successor next_price counted
    obtain ⟨_, rfl⟩ := counted
    obtain ⟨follows, leads⟩ := checkSuccessor_ok successor
    obtain ⟨keys, no_worse⟩ := checkWorse_ok next_price
    have isNext : maker.val.nextOrder = next.map Account.key := by
      by_cases last : level.val.orderCount = 1
      · rw [alone last, leads (not_not.mpr last)]
        rfl
      · exact follows last
    have orders := save_successor holds (makerFiled ▸ makerStored) live front isNext hasNext
      (maker.val.fill true (maker.val.remainingQuantity - min quantity maker.val.remainingQuantity)
        (maker.val.lockedCollateral - if maker.val.side = .bid then
          maker.val.price * min quantity maker.val.remainingQuantity
          else min quantity maker.val.remainingQuantity))
    rw [makerFiled] at orders
    have levels : saveOption
        (if level.val.orderCount = 1 then prediction.levels.erase
            (.predictionLevel maker.val.market maker.val.outcome maker.val.side maker.val.price)
          else prediction.levels.set
            (.predictionLevel maker.val.market maker.val.outcome maker.val.side maker.val.price)
            (level.val.fill true maker.val.nextOrder
              (level.val.totalRemainingQuantity - min quantity maker.val.remainingQuantity)))
        (worse.map (Account.map (PredictionPriceLevel.setBetter none))) =
          predictionShelf.vacate prediction.levels maker.val level.val
            (PredictionPriceLevel.vacated level.val maker.val) := by
      by_cases last : level.val.orderCount = 1
      · rw [if_pos last]
        exact (save_filled_level holds (maker.val.outcome, maker.val.side) levelStored top
          (keys last) hasWorse).trans (predictionShelf.vacate_last maker.val last).symm
      · obtain rfl := no_worse last
        rw [if_neg last, min_eq_right full]
        refine Eq.trans ?_ (predictionShelf.vacate_stays maker.val last).symm
        simp [saveOption, PredictionPriceLevel.fill, PredictionPriceLevel.vacated,
          PredictionPriceLevel.unlink, front, crowd last]
        rfl
    have headed : (if level.val.orderCount = 1 then
        book.val.setBestPrice maker.val.outcome maker.val.side level.val.worsePrice
        else book.val) = if level.val.orderCount = 1 ∧ level.val.betterPrice = none then
        book.val.setBestPrice maker.val.outcome maker.val.side level.val.worsePrice
        else book.val := by
      simp only [top, and_true]
    simp only [full, true_and, if_true, decide_true]
    rw [levels, headed]
    congr 1
    exact orders.symm
  · simp only [full, false_and, if_false, pure_eq_ok] at successor next_price counted
    subst counted
    obtain rfl := (checkSuccessor_ok successor).2 not_false
    obtain rfl := (checkWorse_ok next_price).2 not_false
    simp only [full, false_and, if_false, decide_false]
    simp [saveOption, PredictionPriceLevel.fill]

end Tidebook.Proof
