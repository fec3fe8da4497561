import Tidebook.Proof.PredictionExit

/-! # Accepted prediction orders

What it takes for the prediction handlers to accept a placement or a match: with the stored
accounts, nothing beyond the terms of the order, its funds and the room for its amounts.
-/

namespace Tidebook.Proof
open Library Program

section Loads

variable {prediction : Prediction} (holds : PredictionInvariant prediction)

include holds

theorem PredictionInvariant.load_market {key : Pubkey} {market : PredictionMarket}
    (stored : prediction.markets.get key = some market) :
    loadPredictionMarket prediction key = .ok ⟨key, market⟩ := by
  simp only [loadPredictionMarket, bind_eq_ok, load_eq_ok, require_eq_ok, pure_eq_ok]
  exact ⟨⟨key, market⟩, ⟨rfl, stored⟩, (), holds.markets key market stored, rfl⟩

theorem PredictionInvariant.load_book {key : Pubkey} {book : PredictionOrderBook}
    (stored : prediction.books.get (.predictionBook key) = some book) :
    loadPredictionBook prediction key = .ok ⟨.predictionBook key, book⟩ := by
  simp only [loadPredictionBook, bind_eq_ok, load_eq_ok, require_eq_ok, pure_eq_ok]
  exact ⟨⟨_, book⟩, ⟨rfl, stored⟩, (), (Pubkey.predictionBook.inj (holds.books _ book stored)).symm,
    rfl⟩

theorem PredictionInvariant.load_level {key : Pubkey} {outcome : PredictionOutcome}
    {side : OrderSide} {price : Nat} {level : PredictionPriceLevel}
    (stored : prediction.levels.get (.predictionLevel key outcome side price) = some level) :
    loadPredictionLevel prediction key outcome side price =
      .ok ⟨.predictionLevel key outcome side price, level⟩ := by
  obtain ⟨homeIs, answerIs, sideIs, priceIs⟩ :=
    Pubkey.predictionLevel.inj (holds.levels _ level stored)
  simp only [loadPredictionLevel, bind_eq_ok, load_eq_ok, require_eq_ok, pure_eq_ok]
  exact ⟨⟨_, level⟩, ⟨rfl, stored⟩, (), homeIs.symm, (),
    ⟨answerIs.symm, sideIs.symm, priceIs.symm⟩, rfl⟩

omit holds in
theorem load_position {market owner : Pubkey} {position : PredictionPosition}
    (filed : positionLedger.Filed prediction.positions)
    (stored : prediction.positions.get (.predictionPosition market owner) = some position) :
    loadPosition prediction market owner = .ok ⟨.predictionPosition market owner, position⟩ := by
  obtain ⟨marketIs, ownerIs⟩ := Pubkey.predictionPosition.inj (filed _ position stored)
  simp only [loadPosition, bind_eq_ok, load_eq_ok, require_eq_ok, pure_eq_ok]
  exact ⟨⟨_, position⟩, ⟨rfl, stored⟩, (), marketIs.symm, (), ownerIs.symm, rfl⟩

end Loads

/-! ## Matches -/

/-- The accounts a maker is matched with: the successor it promotes, or what its emptied level
leaves. -/
def predictionTake (maker : PredictionOrder) (level : PredictionPriceLevel) (taker : Wallet)
    (key : Pubkey) (quantity : Nat) : MatchPredictionOrder where
  taker := taker
  market := maker.market
  makerOrder := key
  nextOrder := if maker.remainingQuantity ≤ quantity ∧ level.orderCount ≠ 1 then
    maker.nextOrder else none
  worseLevel := if maker.remainingQuantity ≤ quantity ∧ level.orderCount = 1 then
    level.worsePrice.map (.predictionLevel maker.market maker.outcome maker.side) else none
  levelRentRecipient := if maker.remainingQuantity ≤ quantity ∧ level.orderCount = 1 then
    some level.rentPayer else none

section Match

variable {prediction : Prediction} (holds : PredictionInvariant prediction) {key : Pubkey}
variable {maker : PredictionOrder} {level : PredictionPriceLevel} {market : PredictionMarket}
variable {book : PredictionOrderBook} {takerSide : OrderSide} {limit quantity : Nat}
variable (stored : prediction.orders.get key = some maker) (live : maker.status = .opened)
variable (found : prediction.levels.get
  (.predictionLevel maker.market maker.outcome maker.side maker.price) = some level)
variable (bookStored : prediction.books.get (.predictionBook maker.market) = some book)
variable (best : book.bestPrice maker.outcome maker.side = some maker.price)
variable (first : level.firstOrder = some key)

include holds stored live found bookStored best first

theorem checkMakerHead_total (sides : maker.side ≠ takerSide)
    (cross : takerSide.NoLater limit maker.price) :
    checkMakerHead takerSide limit ⟨key, maker⟩ level book = .ok () := by
  have opened := predictionShelf_live.mpr live
  have top : level.betterPrice = none := by
    have here : prediction.levels.get (predictionShelf.file maker.market
        ((maker.outcome, maker.side), maker.price)) = some level := found
    refine (holds.sound.top here).mp ?_
    rw [predictionHeads_stored bookStored]
    exact best
  have ahead := (holds.sound.ends stored opened found).1.mp first
  simp only [checkMakerHead, bind_eq_ok, require_eq_ok]
  exact ⟨(), live, (), sides, (), cross, (), ⟨best, top⟩, first, ahead⟩

omit best in
theorem checkMakerBacking_total (marketStored : prediction.markets.get maker.market = some market) :
    checkMakerBacking market ⟨key, maker⟩ level book.nextOrderId = .ok maker.lockedCollateral := by
  have opened := predictionShelf_live.mpr live
  obtain ⟨_, known, rest⟩ := holds.resting key maker stored live
  cases known.symm.trans marketStored
  have earlier := holds.earlier bookStored key maker stored rfl
  obtain ⟨alone, several, counted, covered⟩ := holds.sound.alone stored opened found
  obtain ⟨heads, ends⟩ := holds.sound.ends stored opened found
  have here : prediction.levels.get (predictionShelf.file maker.market
      ((maker.outcome, maker.side), maker.price)) = some level := found
  obtain ⟨-, last, -⟩ := holds.sound.filled here
  have ahead : maker.previousOrder = none := heads.mp first
  have backed : backing maker.side maker.price maker.remainingQuantity
      .predictionAccountingOverflow = .ok maker.lockedCollateral := by
    refine backing_eq_ok.mpr ⟨fun bid => ?_, rest.backed⟩
    have fits := rest.fits
    rw [rest.backed, bid] at fits
    exact fits
  simp only [checkMakerBacking, bind_eq_ok, require_eq_ok, pure_eq_ok]
  refine ⟨(), ⟨rest.id_pos, earlier, rest.remaining_pos, rest.remaining_le, rest.price_pos,
    rest.price_lt, rest.tick, counted, covered, Option.isSome_iff_ne_none.mpr last⟩,
    maker.lockedCollateral, backed, (), rfl, (), ?_, rfl⟩
  by_cases last : level.orderCount = 1
  · obtain ⟨-, noNext, total, -, ending⟩ := alone last
    rw [if_pos last, require_eq_ok]
    exact ⟨ending, noNext, total⟩
  · obtain ⟨neighbored, more⟩ := several last
    have some_next : maker.nextOrder ≠ none :=
      neighbored.resolve_left fun previous => previous ahead
    have not_last : level.lastOrder ≠ some key := fun ending => some_next (ends.mp ending)
    have other : maker.nextOrder ≠ some key := fun link =>
      (holds.sound.following stored opened link).1 rfl
    rw [if_neg last, require_eq_ok]
    exact ⟨not_last, Option.isSome_iff_ne_none.mpr some_next, other, more⟩

omit bookStored best in
theorem checkSuccessor_total (taker : Wallet) (quantity : Nat) (promoted : Prop)
    [Decidable promoted]
    (promotes : promoted ↔ maker.remainingQuantity ≤ quantity ∧ level.orderCount ≠ 1) :
    ∃ next, loadOption prediction.orders (predictionTake maker level taker key quantity).nextOrder =
        .ok next ∧
      checkSuccessor maker.market ⟨key, maker⟩
        (.predictionLevel maker.market maker.outcome maker.side maker.price) promoted next =
          .ok () := by
  have opened := predictionShelf_live.mpr live
  by_cases full : maker.remainingQuantity ≤ quantity ∧ level.orderCount ≠ 1
  · obtain ⟨other, newer, link, -, present, home, rests, place, back⟩ :=
      holds.sound.successor stored opened found first full.2
    have after := holds.sound.following_newer stored opened link present
    have rests := predictionShelf_live.mp rests
    obtain ⟨named, answered, sided, priced, listed, some_left, within⟩ :=
      neighbor_valid holds stored live present rests home place
    obtain ⟨_, -, own⟩ := holds.resting key maker stored live
    have loaded : loadOption prediction.orders (predictionTake maker level taker key
        quantity).nextOrder = .ok (some ⟨other, newer⟩) := by
      rw [predictionTake, if_pos full]
      refine loadOption_eq_ok.mpr ⟨link, ?_⟩
      rintro _ ⟨⟩
      exact present
    refine ⟨some ⟨other, newer⟩, loaded, ?_⟩
    rw [checkSuccessor, if_pos (promotes.mpr full)]
    simp only [bind_eq_ok, okOr_eq_ok, require_eq_ok]
    exact ⟨⟨other, newer⟩, rfl, link.symm, named, home, answered, sided, priced,
      listed.trans own.level, rests, back, after, some_left, within⟩
  · have loaded : loadOption prediction.orders (predictionTake maker level taker key
        quantity).nextOrder = .ok none := by
      rw [predictionTake, if_neg full]
      rfl
    refine ⟨none, loaded, ?_⟩
    rw [checkSuccessor, if_neg (promotes.not.mpr full)]
    rfl

omit bookStored best first in
theorem checkWorse_total (taker : Wallet) (quantity : Nat) (removes : Prop) [Decidable removes]
    (removing : removes ↔ maker.remainingQuantity ≤ quantity ∧ level.orderCount = 1) :
    ∃ worse, loadOption prediction.levels
        (predictionTake maker level taker key quantity).worseLevel = .ok worse ∧
      checkWorse maker.market maker level removes
        (level.totalRemainingQuantity - min quantity maker.remainingQuantity) worse
        (predictionTake maker level taker key quantity).levelRentRecipient = .ok () := by
  have here : prediction.levels.get (predictionShelf.file maker.market
      ((maker.outcome, maker.side), maker.price)) = some level := found
  obtain ⟨alone, -⟩ := holds.sound.alone stored (predictionShelf_live.mpr live) found
  obtain ⟨homeIs, answerIs, sideIs, priceIs⟩ :=
    Pubkey.predictionLevel.inj (holds.levels _ level found)
  by_cases full : maker.remainingQuantity ≤ quantity ∧ level.orderCount = 1
  · obtain ⟨-, -, total, -, -⟩ := alone full.2
    have emptied : level.totalRemainingQuantity - min quantity maker.remainingQuantity = 0 := by
      have same : level.totalRemainingQuantity = maker.remainingQuantity := total
      rw [same, Nat.min_eq_right full.1, Nat.sub_self]
    simp only [predictionTake, if_pos full]
    obtain ⟨worse, loaded, isWorse, hasWorse, behind⟩ := loadOption_worse holds.sound here
    refine ⟨worse, loaded, ?_⟩
    rw [checkWorse, if_pos (removing.mpr full)]
    simp only [bind_eq_ok, okOr_eq_ok, require_eq_ok, forSupplied_eq_ok]
    refine ⟨(), emptied, level.rentPayer, rfl, (), rfl, (), isWorse.symm, fun value member => ?_⟩
    obtain ⟨price, link, keyed, after, back⟩ := behind value member
    have present := hasWorse value member
    rw [keyed] at present
    have there : prediction.levels.get (predictionShelf.file maker.market
        ((maker.outcome, maker.side), price)) = some value.val := present
    obtain ⟨home, answer, side, priced⟩ :=
      Pubkey.predictionLevel.inj (holds.levels _ value.val present)
    obtain ⟨some_first, some_last, some_left⟩ := holds.sound.filled there
    exact ⟨home.symm, answer.symm, side.symm, priceIs ▸ back, holds.sound.occupied there, some_left,
      Option.isSome_iff_ne_none.mpr some_first, Option.isSome_iff_ne_none.mpr some_last,
      priced ▸ after⟩
  · simp only [predictionTake, if_neg full]
    refine ⟨none, rfl, ?_⟩
    rw [checkWorse, if_neg (removing.not.mpr full)]
    exact require_eq_ok.mpr ⟨rfl, rfl⟩

theorem handleMatchPredictionOrder_total {now : Int} {config : ProtocolConfig} {taker : Wallet}
    {makerPosition takerPosition : PredictionPosition} {charge : MarketFees} {fee : Nat}
    {settled : PredictionPosition × PredictionPosition}
    (filed : positionLedger.Filed prediction.positions)
    (charged : Charged PredictionMarket.collateralMint prediction.markets prediction.fees)
    (marketStored : prediction.markets.get maker.market = some market)
    (trading : market.status = .opened ∧ now < market.closeTs) (some_quantity : 0 < quantity)
    (priced : 0 < limit ∧ limit < market.payoutPerContract ∧ 0 < market.priceTick ∧
      market.priceTick ∣ limit)
    (own : maker.owner ≠ taker.key) (sides : maker.side ≠ takerSide)
    (cross : takerSide.NoLater limit maker.price)
    (makerStored : prediction.positions.get (.predictionPosition maker.market maker.owner) =
      some makerPosition)
    (takerStored : prediction.positions.get (.predictionPosition maker.market taker.key) =
      some takerPosition)
    (fits : maker.price * min quantity maker.remainingQuantity ≤ u64Max)
    (feeOk : calculateTakerFee (maker.price * min quantity maker.remainingQuantity)
      config.takerFeeBps = .ok fee)
    (chargeStored : prediction.fees.get (.marketFees maker.market) = some charge)
    (accrues : charge.accruedQuoteFees + fee ≤ u64Max)
    (settles : settlePositions maker.outcome takerSide maker.lockedCollateral
      (min quantity maker.remainingQuantity)
      (maker.price * min quantity maker.remainingQuantity) fee makerPosition takerPosition =
        .ok settled) :
    ∃ after, handleMatchPredictionOrder prediction now config
      (predictionTake maker level taker key quantity) maker.outcome takerSide limit quantity =
        .ok after := by
  obtain rfl := holds.orders key maker stored
  have opened := predictionShelf_live.mpr live
  obtain ⟨_, known, rest⟩ := holds.resting _ maker stored live
  cases known.symm.trans marketStored
  obtain ⟨_, -, counted, covered⟩ := holds.sound.alone stored opened found
  have open_count : 1 ≤ market.openOrderCount := (PredictionDeparture.mk market book maker level
    marketStored bookStored stored live found).open_count holds
  have full : maker.remainingQuantity - min quantity maker.remainingQuantity = 0 ↔
      maker.remainingQuantity ≤ quantity := by omega
  obtain ⟨next, loadedNext, successor⟩ := checkSuccessor_total holds stored live found first
    taker quantity (maker.remainingQuantity - min quantity maker.remainingQuantity = 0 ∧
      ¬(maker.remainingQuantity - min quantity maker.remainingQuantity = 0 ∧ level.orderCount = 1))
    (by rw [full]; exact ⟨fun ⟨done, stays⟩ => ⟨done, fun last => stays ⟨done, last⟩⟩,
      fun ⟨done, several⟩ => ⟨done, fun both => several both.2⟩⟩)
  obtain ⟨worse, loadedWorse, below⟩ := checkWorse_total holds stored live found taker
    quantity (maker.remainingQuantity - min quantity maker.remainingQuantity = 0 ∧
      level.orderCount = 1) (by rw [full])
  obtain ⟨_, sameCharge, home, quote⟩ := charged maker.market market marketStored
  cases sameCharge.symm.trans chargeStored
  have enough : (if maker.side = .bid then maker.price * min quantity maker.remainingQuantity
      else min quantity maker.remainingQuantity) ≤ maker.lockedCollateral := by
    rw [rest.backed]
    cases maker.side
    · exact Nat.mul_le_mul_left _ (Nat.min_le_right _ _)
    · exact Nat.min_le_right _ _
  have level_covers : min quantity maker.remainingQuantity ≤ level.totalRemainingQuantity :=
    (Nat.min_le_right _ _).trans covered
  have loadedFees : loadPredictionFees prediction ⟨maker.market, market⟩ =
      .ok ⟨.marketFees maker.market, charge⟩ := by
    simp only [loadPredictionFees, bind_eq_ok, load_eq_ok, require_eq_ok, pure_eq_ok]
    exact ⟨⟨_, charge⟩, ⟨rfl, chargeStored⟩, (), home, (), quote, rfl⟩
  have loadedMaker : loadPredictionMaker prediction maker.market
      (.predictionOrder maker.market maker.orderId) maker.outcome taker =
        .ok ⟨.predictionOrder maker.market maker.orderId, maker⟩ := by
    simp only [loadPredictionMaker, bind_eq_ok, load_eq_ok, require_eq_ok, pure_eq_ok]
    exact ⟨⟨_, maker⟩, ⟨rfl, stored⟩, (), rfl, (), rfl, (), rfl, (), own, rfl⟩
  have counting : ∃ count, (if maker.remainingQuantity -
        min quantity maker.remainingQuantity = 0 then
      checkedSub market.openOrderCount 1 .predictionOrderAccountingMismatch
      else pure market.openOrderCount) = Except.ok count := by
    split
    · exact ⟨_, checkedSub_eq_ok.mpr ⟨open_count, rfl⟩⟩
    · exact ⟨_, rfl⟩
  obtain ⟨count, counting⟩ := counting
  simp only [handleMatchPredictionOrder, bind_eq_ok, require_eq_ok, checkedMul_eq_ok,
    checkedAdd_eq_ok, checkedSub_eq_ok]
  exact ⟨_, _, holds.load_market marketStored, _, holds.load_book bookStored, _, loadedFees, _,
    loadedMaker, _, holds.load_level found, (), rest.level, _, load_position filed makerStored, _,
    load_position filed takerStored, next, loadedNext, worse, loadedWorse, (), trading, (),
    some_quantity, (), priced, (),
    checkMakerHead_total holds stored live found bookStored best first sides cross, _,
    checkMakerBacking_total holds stored live found bookStored first marketStored, _, ⟨fits, rfl⟩,
    fee, feeOk, _, ⟨accrues, rfl⟩, _, ⟨level_covers, rfl⟩, (), successor, (), below, count,
    counting, settled, settles, _, ⟨enough, rfl⟩, rfl⟩

end Match

/-! ## Levels around a price -/

section Levels

variable {prediction : Prediction} (holds : PredictionInvariant prediction) {key : Pubkey}
variable {outcome : PredictionOutcome} {side : OrderSide} {price best found : Nat}
variable {better worse : Option Nat}
variable (top : predictionHeads prediction.books key (outcome, side) = some best)
variable (adjacent : Adjacent listPrecedes (predictionShelf.book (predictionHeads prediction.books)
  prediction.orders prediction.levels key) ((outcome, side), price) better worse)

include holds top in
theorem PredictionInvariant.neighbor_passes {level : PredictionPriceLevel}
    (present : prediction.levels.get (.predictionLevel key outcome side found) = some level) :
    validateNeighbor key outcome side best ⟨.predictionLevel key outcome side found, level⟩ =
        .ok () ∧
      level.price = found ∧ (found = best ↔ level.betterPrice = none) := by
  have there : prediction.levels.get (predictionShelf.file key ((outcome, side), found)) =
      some level := present
  obtain ⟨home, answer, sided, priced⟩ := Pubkey.predictionLevel.inj (holds.levels _ level present)
  obtain ⟨some_first, some_last, some_left⟩ := holds.sound.filled there
  have leads := holds.sound.top there
  rw [top, Option.some.injEq, eq_comm] at leads
  obtain ⟨_, known, reaches⟩ := holds.sound.best_level there
  cases known.symm.trans top
  refine ⟨require_eq_ok.mpr ⟨by rw [priced], home.symm, answer.symm, sided.symm,
    holds.sound.occupied there, some_left, Option.isSome_iff_ne_none.mpr some_first,
    Option.isSome_iff_ne_none.mpr some_last, ?_, ?_⟩, priced.symm, leads⟩
  · rw [← priced]
    exact leads
  · rw [← priced]
    cases side <;> simp only [listPrecedes, OrderSide.Precedes] at reaches <;>
      simp only [OrderSide.NoLater] <;> omega

include adjacent in
theorem adjacent_above (named : better = some found) : ∃ level,
    prediction.levels.get (.predictionLevel key outcome side found) = some level ∧
      level.worsePrice = worse ∧ side.Precedes found price := by
  obtain ⟨ordered, _, shown, next⟩ := adjacent.above found named
  obtain ⟨level, present, rfl⟩ := Shelf.book_level.mp shown
  exact ⟨level, present, next, ordered⟩

include holds top adjacent in
theorem adjacent_below (named : worse = some found) : ∃ level,
    prediction.levels.get (.predictionLevel key outcome side found) = some level ∧
      level.betterPrice = better ∧ side.Precedes price found := by
  have ordered := adjacent.below found named
  cases isBetter : better with
  | none =>
      have leads := adjacent.first isBetter
      have here : worse = some best := leads.trans top
      cases named.symm.trans here
      obtain ⟨level, -, -, present, alone, -⟩ := holds.sound.head top
      exact ⟨level, present, alone, ordered⟩
  | some other =>
      obtain ⟨level, present, next, -⟩ := adjacent_above adjacent isBetter
      have there : prediction.levels.get (predictionShelf.file key ((outcome, side), other)) =
          some level := present
      obtain ⟨-, neighbor, also, back⟩ := holds.sound.worse there (next.trans named)
      exact ⟨neighbor, also, back, ordered⟩

/-- Two loaded levels that name each other around a price enclose it. -/
theorem predictionAdjacent_total {file : Nat → Pubkey}
    {above below : Option (Account PredictionPriceLevel)}
    (isBetter : better.map file = above.map Account.key)
    (isWorse : worse.map file = below.map Account.key) (some_hint : better = none → worse ≠ none)
    (betterIs : ∀ value ∈ above, better = some value.val.price ∧ value.val.worsePrice = worse ∧
      side.Precedes value.val.price price)
    (worseIs : ∀ value ∈ below, worse = some value.val.price ∧ value.val.betterPrice = better ∧
      side.Precedes price value.val.price ∧
        (value.val.price = best ↔ value.val.betterPrice = none)) :
    predictionAdjacent side price best (above.map Account.val) (below.map Account.val) := by
  cases above with
  | none =>
      have alone : better = none := Option.map_eq_none_iff.mp isBetter
      cases below with
      | none => exact absurd (Option.map_eq_none_iff.mp isWorse) (some_hint alone)
      | some value =>
          obtain ⟨-, back, ordered, leads⟩ := worseIs value rfl
          have none_better := back.trans alone
          simp only [predictionAdjacent, Option.map_some, Option.map_none, decide_eq_true_eq]
          exact ⟨leads.mpr none_better, none_better, ordered⟩
  | some level =>
      obtain ⟨named, next, ordered⟩ := betterIs level rfl
      cases below with
      | none =>
          have absent : worse = none := Option.map_eq_none_iff.mp isWorse
          simp only [predictionAdjacent, Option.map_some, Option.map_none, decide_eq_true_eq]
          exact ⟨next.trans absent, ordered⟩
      | some value =>
          obtain ⟨also, back, after, -⟩ := worseIs value rfl
          simp only [predictionAdjacent, Option.map_some, decide_eq_true_eq]
          exact ⟨next.trans also, back.trans named, ordered, after⟩

end Levels

/-! ## Placements -/

/-- Room for one more order. -/
structure Roomy (market : PredictionMarket) (book : PredictionOrderBook) : Prop where
  gridded : 0 < market.priceTick
  ids : book.nextOrderId + 1 ≤ u64Max
  count : market.openOrderCount + 1 ≤ u64Max

theorem validateRestingOrder_total {market : PredictionMarket} {book : PredictionOrderBook}
    {now : Int} {orderId : Nat} {outcome : PredictionOutcome} {side : OrderSide}
    {price quantity : Nat}
    (admitted : Admitted market book now orderId outcome side price quantity)
    (room : Roomy market book) :
    validateRestingOrder market book now orderId outcome side price quantity =
      .ok (book.nextOrderId + 1, market.openOrderCount + 1) := by
  simp only [validateRestingOrder, bind_eq_ok, require_eq_ok, checkedAdd_eq_ok, pure_eq_ok]
  exact ⟨(), ⟨admitted.opened, admitted.before⟩, (), admitted.quantity_pos, (),
    ⟨admitted.price_pos, admitted.price_lt, room.gridded⟩, (), admitted.tick, (),
    ⟨admitted.id_pos, admitted.id_next⟩, (), admitted.apart, _, ⟨room.ids, rfl⟩, _,
    ⟨room.count, rfl⟩, rfl⟩

section Place

variable {prediction : Prediction} (holds : PredictionInvariant prediction) {now : Int}
variable {owner : Wallet} {key : Pubkey} {orderId price quantity : Nat}
variable {outcome : PredictionOutcome} {side : OrderSide} {market : PredictionMarket}
variable {book : PredictionOrderBook} {position locked : PredictionPosition} {amount : Nat}
variable (filed : positionLedger.Filed prediction.positions)
variable (stored : prediction.markets.get key = some market)
variable (bookStored : prediction.books.get (.predictionBook key) = some book)
variable (positionStored :
  prediction.positions.get (.predictionPosition key owner.key) = some position)
variable (admitted : Admitted market book now orderId outcome side price quantity)
variable (room : Roomy market book)
variable (lock : lockRestingFunds position outcome side price quantity = .ok (locked, amount))

include holds bookStored admitted in
theorem fresh_prediction_order : prediction.orders.get (.predictionOrder key orderId) = none := by
  cases present : prediction.orders.get (.predictionOrder key orderId) with
  | none => rfl
  | some order =>
      obtain ⟨home, named⟩ := Pubkey.predictionOrder.inj (holds.orders _ order present)
      have earlier := holds.earlier bookStored _ order present home.symm
      rw [← named, admitted.id_next] at earlier
      exact absurd earlier (lt_irrefl _)

include holds filed stored bookStored positionStored admitted room lock

theorem handlePlacePredictionOrder_total (empty : book.bestPrice outcome side = none) :
    ∃ after, handlePlacePredictionOrder prediction now owner key orderId outcome side price
      quantity = .ok after := by
  have freshLevel : prediction.levels.get (.predictionLevel key outcome side price) = none := by
    cases present : prediction.levels.get (.predictionLevel key outcome side price) with
    | none => rfl
    | some level =>
        have here : prediction.levels.get (predictionShelf.file key ((outcome, side), price)) =
            some level := present
        obtain ⟨best, top, -⟩ := holds.sound.best_level here
        rw [predictionHeads_stored bookStored] at top
        exact absurd (empty.symm.trans top) (by simp)
  simp only [handlePlacePredictionOrder, bind_eq_ok, vacant_eq_ok, require_eq_ok]
  exact ⟨_, _, holds.load_market stored, _, load_position filed positionStored, _,
    holds.load_book bookStored, (), freshLevel, (),
    fresh_prediction_order holds bookStored admitted, _, validateRestingOrder_total admitted room,
    (), empty, _, lock, rfl⟩

theorem handleInsertPredictionOrder_total {best : Nat} {better worse : Option Nat}
    (isBest : book.bestPrice outcome side = some best)
    (freshLevel : prediction.levels.get (.predictionLevel key outcome side price) = none)
    (adjacent : Adjacent listPrecedes (predictionShelf.book (predictionHeads prediction.books)
      prediction.orders prediction.levels key) ((outcome, side), price) better worse) :
    ∃ after, handleInsertPredictionOrder prediction now owner key
      (better.map (.predictionLevel key outcome side))
      (worse.map (.predictionLevel key outcome side)) orderId outcome side price quantity =
        .ok after := by
  have top : predictionHeads prediction.books key (outcome, side) = some best := by
    rw [predictionHeads_stored bookStored]
    exact isBest
  have some_hint : better = none → worse ≠ none := by
    intro alone absent
    have leads := adjacent.first alone
    rw [absent] at leads
    exact absurd (leads.trans top) (by simp)
  obtain ⟨betterLevel, loadedBetter, isBetter, hasBetter, above⟩ :=
    loadOption_named fun _ named => adjacent_above adjacent named
  obtain ⟨worseLevel, loadedWorse, isWorse, hasWorse, below⟩ :=
    loadOption_named fun _ named => adjacent_below holds top adjacent named
  have betterIs : ∀ value ∈ betterLevel, better = some value.val.price ∧
      validateNeighbor key outcome side best value = .ok () ∧ value.val.worsePrice = worse ∧
        side.Precedes value.val.price price := by
    rintro ⟨_, level⟩ member
    obtain ⟨found, named, rfl, next, ordered⟩ := above _ member
    obtain ⟨passed, priced, -⟩ := holds.neighbor_passes top (hasBetter _ member)
    exact ⟨priced.symm ▸ named, passed, next, priced.symm ▸ ordered⟩
  have worseIs : ∀ value ∈ worseLevel, worse = some value.val.price ∧
      validateNeighbor key outcome side best value = .ok () ∧ value.val.betterPrice = better ∧
        side.Precedes price value.val.price ∧
        (value.val.price = best ↔ value.val.betterPrice = none) := by
    rintro ⟨_, level⟩ member
    obtain ⟨found, named, rfl, back, ordered⟩ := below _ member
    obtain ⟨passed, priced, leads⟩ := holds.neighbor_passes top (hasWorse _ member)
    exact ⟨priced.symm ▸ named, passed, back, priced.symm ▸ ordered, priced.symm ▸ leads⟩
  have enclosed := predictionAdjacent_total isBetter isWorse some_hint
    (fun value member => (betterIs value member).imp_right And.right)
    (fun value member => (worseIs value member).imp_right And.right)
  simp only [handleInsertPredictionOrder, bind_eq_ok, vacant_eq_ok, require_eq_ok, okOr_eq_ok,
    forSupplied_eq_ok]
  exact ⟨_, _, holds.load_market stored, _, load_position filed positionStored, _,
    holds.load_book bookStored, (), freshLevel, (),
    fresh_prediction_order holds bookStored admitted, betterLevel, loadedBetter, worseLevel,
    loadedWorse, _, validateRestingOrder_total admitted room, best, isBest, (),
    fun value member => (betterIs value member).2.1, (),
    fun value member => (worseIs value member).2.1, (), enclosed, _, lock, rfl⟩

theorem handleAppendPredictionOrder_total {level : PredictionPriceLevel} {tail : Pubkey}
    (found : prediction.levels.get (.predictionLevel key outcome side price) = some level)
    (last : level.lastOrder = some tail)
    (total : level.totalRemainingQuantity + quantity ≤ u64Max)
    (count : level.orderCount + 1 ≤ u64Max) :
    ∃ after, handleAppendPredictionOrder prediction now owner key tail orderId outcome side price
      quantity = .ok after := by
  have there : prediction.levels.get (predictionShelf.file key ((outcome, side), price)) =
      some level := found
  obtain ⟨best, top, reaches⟩ := holds.sound.best_level there
  have isBest : book.bestPrice outcome side = some best := by
    rw [predictionHeads_stored bookStored] at top
    exact top
  have leads := holds.sound.top there
  rw [top, Option.some.injEq] at leads
  have latest : side.NoLater best price := by
    cases side <;> simp only [listPrecedes, OrderSide.Precedes] at reaches <;>
      simp only [OrderSide.NoLater] <;> omega
  obtain ⟨order, present, rfl, live, place⟩ := holds.sound.tail there last
  have rests := predictionShelf_live.mp live
  obtain ⟨_, -, rest⟩ := holds.resting tail order present rests
  obtain ⟨listed, priced⟩ := Prod.mk.inj place
  obtain ⟨answered, sided⟩ := Prod.mk.inj listed
  obtain rfl := holds.orders tail order present
  have own : prediction.levels.get (predictionShelf.file (predictionShelf.home order)
      (predictionShelf.node order).place) = some level := by
    rw [place]
    exact there
  obtain ⟨alone, several, counted, covered⟩ := holds.sound.alone present live own
  obtain ⟨heads, ends⟩ := holds.sound.ends present live own
  obtain ⟨some_first, -, -⟩ := holds.sound.filled there
  have earlier := holds.earlier bookStored _ order present rfl
  rw [← admitted.id_next] at earlier
  have none_next : order.nextOrder = none := ends.mp last
  have tailed : checkTail order.market outcome side price orderId
      ⟨.predictionLevel order.market outcome side price, level⟩
      ⟨.predictionOrder order.market order.orderId, order⟩ = .ok () := by
    have listing : order.priceLevel = .predictionLevel order.market outcome side price := by
      rw [rest.level, show order.outcome = outcome from answered,
        show order.side = side from sided, show order.price = price from priced]
    simp only [checkTail, bind_eq_ok, require_eq_ok]
    refine ⟨(), ⟨counted, Option.isSome_iff_ne_none.mpr some_first, last⟩, (), ⟨trivial, listing,
      answered, sided, priced, rests, rest.remaining_pos, rest.remaining_le, none_next, rest.id_pos,
      earlier⟩, ?_⟩
    by_cases single : level.orderCount = 1
    · obtain ⟨none_previous, -, sum, first, -⟩ := alone single
      rw [if_pos single, require_eq_ok]
      exact ⟨first, none_previous, sum⟩
    · have some_previous : order.previousOrder ≠ none :=
        (several single).1.resolve_right fun next => next none_next
      rw [if_neg single, require_eq_ok]
      exact ⟨fun first => some_previous (heads.mp first),
        Option.isSome_iff_ne_none.mpr some_previous,
        fun link => (holds.sound.previous present live link).1 rfl, covered⟩
  have appended : ∃ pushed, level.append (.predictionOrder order.market orderId) quantity =
      .ok pushed := by
    simp only [PredictionPriceLevel.append, bind_eq_ok, checkedAdd_eq_ok]
    exact ⟨_, _, ⟨total, rfl⟩, _, ⟨count, rfl⟩, rfl⟩
  obtain ⟨pushed, appended⟩ := appended
  simp only [handleAppendPredictionOrder, bind_eq_ok, load_eq_ok, vacant_eq_ok, require_eq_ok,
    okOr_eq_ok]
  exact ⟨_, _, holds.load_market stored, _, load_position filed positionStored, _,
    holds.load_book bookStored, _, holds.load_level found,
    ⟨.predictionOrder order.market order.orderId, order⟩, ⟨rfl, present⟩, (), rfl, (),
    fresh_prediction_order holds bookStored admitted, _, validateRestingOrder_total admitted room,
    best, isBest, (), ⟨leads, latest⟩, (), tailed, pushed, appended, _, lock, rfl⟩

end Place

end Tidebook.Proof
