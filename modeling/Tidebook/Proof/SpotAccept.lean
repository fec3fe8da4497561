import Tidebook.Proof.SpotExit

/-! # Accepted spot matches

What it takes for the spot book to accept a match: with the stored accounts of the first opposing
order, nothing beyond an active market, terms on its grid, a limit that crosses, a fill worth an
atom and a taker who can pay.
-/

namespace Tidebook.Proof
open Library Program

/-- The accounts a maker is matched with: the successor it promotes, or what its emptied level
leaves. -/
def spotTake (maker : Order) (level : PriceLevel) (taker : Wallet) (key : Pubkey) (quantity : Nat) :
    MatchLimitOrder where
  taker := taker
  market := maker.market
  makerOrder := key
  nextOrder := if maker.remainingQuantity ≤ quantity ∧ level.orderCount ≠ 1 then
    maker.nextOrder else none
  worseLevel := if maker.remainingQuantity ≤ quantity ∧ level.orderCount = 1 then
    level.worsePrice.map (.priceLevel maker.market maker.side) else none
  levelRentRecipient := if maker.remainingQuantity ≤ quantity ∧ level.orderCount = 1 then
    some level.rentPayer else none

section Match

variable {spot : Spot} (holds : SpotInvariant spot) {key : Pubkey} {maker : Order}
variable {level : PriceLevel} {market : Market}
variable (stored : spot.orders.get key = some maker) (live : maker.status = .opened)
variable (found : spot.levels.get (.priceLevel maker.market maker.side maker.price) = some level)
variable (first : level.firstOrder = some key)

include holds stored live found first

theorem loadMakerLevel_total (best : market.best maker.side = some maker.price) :
    loadMakerLevel spot ⟨maker.market, market⟩ ⟨key, maker⟩ =
      .ok ⟨.priceLevel maker.market maker.side maker.price, level⟩ := by
  obtain ⟨_, -, rest⟩ := holds.resting key maker stored live
  obtain ⟨homeIs, sideIs, priceIs⟩ := Pubkey.priceLevel.inj (holds.levels _ level found)
  simp only [loadMakerLevel, bind_eq_ok, load_eq_ok, require_eq_ok, pure_eq_ok]
  exact ⟨⟨_, level⟩, ⟨rfl, found⟩, (), rest.level, (), homeIs.symm, (), sideIs.symm, (),
    priceIs.symm, (), first, (), best, rfl⟩

theorem checkFilledFirst_total {total : Nat} (several : level.orderCount ≠ 1) (left : 0 < total) :
    ∃ next : Account Order, maker.nextOrder = some next.key ∧
      spot.orders.get next.key = some next.val ∧
      checkFilledFirst maker.market ⟨key, maker⟩
        ⟨.priceLevel maker.market maker.side maker.price, level⟩ total (some next) none none =
          .ok () := by
  obtain ⟨other, newer, link, different, present, home, rests, place, back⟩ :=
    holds.books.successor stored (spotShelf_live.mpr live) found first several
  have rests := spotShelf_live.mp rests
  obtain ⟨sided, priced⟩ := Prod.mk.inj place
  obtain ⟨_, -, rest⟩ := holds.resting other newer present rests
  obtain ⟨-, -, own⟩ := Pubkey.priceLevel.inj (holds.levels _ level found)
  have listed : newer.priceLevel = .priceLevel maker.market maker.side maker.price := by
    rw [rest.level, show newer.market = maker.market from home,
      show newer.side = maker.side from sided, show newer.price = maker.price from priced]
  refine ⟨⟨other, newer⟩, link, present, ?_⟩
  simp only [checkFilledFirst, bind_eq_ok, okOr_eq_ok, require_eq_ok]
  exact ⟨_, rfl, (), rests, (), home, (), listed, (), ⟨different, sided, priced.trans own, back⟩, (),
    left, rfl, trivial⟩

omit first in
theorem checkFilledLast_total (alone : level.orderCount = 1) (top : level.betterPrice = none) :
    ∃ worse, loadOption spot.levels
        (level.worsePrice.map (.priceLevel maker.market maker.side)) = .ok worse ∧
      checkFilledLast maker.market ⟨key, maker⟩
        ⟨.priceLevel maker.market maker.side maker.price, level⟩ 0 worse (some level.rentPayer) =
          .ok () := by
  have opened := spotShelf_live.mpr live
  have here : spot.levels.get (spotShelf.file maker.market (maker.side, maker.price)) =
      some level := found
  obtain ⟨-, noNext, -, -, last⟩ := (holds.books.alone stored opened found).1 alone
  obtain ⟨worse, loaded, isWorse, hasWorse, behind⟩ := loadOption_worse holds.books here
  have neighbor : checkPriceNeighbor maker.market maker.side level.worsePrice worse
      PriceLevel.betterPrice level.price = .ok () := by
    have nothing : ∀ value ∈ (none : Option (Account PriceLevel)), False :=
      fun _ absent => nomatch absent
    refine (checkPriceNeighbors_total holds found (fun value member => (nothing value member).elim)
      (fun value member => ?_) (fun value member => (nothing value member).elim) hasWorse).2
    obtain ⟨price, link, keyed, -⟩ := behind value member
    exact ⟨price, link, keyed⟩
  refine ⟨worse, loaded, ?_⟩
  simp only [checkFilledLast, bind_eq_ok, okOr_eq_ok, require_eq_ok]
  exact ⟨(), ⟨noNext, last⟩, (), trivial, (), top, (), isWorse.symm, _, rfl, (), rfl, neighbor⟩

theorem checkFillHints_total (best : market.best maker.side = some maker.price)
    (marketStored : spot.markets.get maker.market = some market) (taker : Wallet) (quantity : Nat) :
    ∃ next worse,
      loadOption spot.orders (spotTake maker level taker key quantity).nextOrder = .ok next ∧
      loadOption spot.levels (spotTake maker level taker key quantity).worseLevel = .ok worse ∧
      checkFillHints maker.market ⟨key, maker⟩
        ⟨.priceLevel maker.market maker.side maker.price, level⟩
        (decide (maker.remainingQuantity ≤ quantity))
        (if maker.remainingQuantity ≤ quantity then level.orderCount - 1 else level.orderCount)
        (level.totalRemainingQuantity - min quantity maker.remainingQuantity) next worse
        (spotTake maker level taker key quantity).levelRentRecipient = .ok () := by
  have opened := spotShelf_live.mpr live
  have here : spot.levels.get (spotShelf.file maker.market (maker.side, maker.price)) =
      some level := found
  have top : level.betterPrice = none := by
    refine (holds.books.top here).mp ?_
    rw [spotHeads_stored marketStored]
    exact best
  have ahead : maker.previousOrder = none := (holds.books.ends stored opened found).1.mp first
  obtain ⟨alone, several, counted, -⟩ := holds.books.alone stored opened found
  have counted : 0 < level.orderCount := counted
  by_cases full : maker.remainingQuantity ≤ quantity
  · by_cases last : level.orderCount = 1
    · obtain ⟨-, noNext, total, -, -⟩ := alone last
      obtain ⟨worse, loaded, passed⟩ := checkFilledLast_total holds stored live found last top
      have emptied : level.totalRemainingQuantity - min quantity maker.remainingQuantity = 0 := by
        have same : level.totalRemainingQuantity = maker.remainingQuantity := total
        rw [same, Nat.min_eq_right full, Nat.sub_self]
      have none_next : maker.nextOrder = none := noNext
      simp only [spotTake, full, last, ne_eq, not_true, and_false, if_false, and_self, if_true,
        emptied]
      refine ⟨none, worse, rfl, loaded, ?_⟩
      simp only [checkFillHints, decide_true, if_true, bind_eq_ok, require_eq_ok]
      exact ⟨(), ahead, (), none_next.symm, passed⟩
    · have left : 0 < level.totalRemainingQuantity - min quantity maker.remainingQuantity := by
        have more : maker.remainingQuantity < level.totalRemainingQuantity := (several last).2
        rw [Nat.min_eq_right full]
        omega
      obtain ⟨next, link, present, passed⟩ :=
        checkFilledFirst_total holds stored live found first last left
      have stays : ¬level.orderCount - 1 = 0 := by omega
      simp only [spotTake, full, last, ne_eq, not_false_iff, and_self, if_true, and_false, if_false]
      refine ⟨some next, none, loadOption_eq_ok.mpr ⟨link, ?_⟩, rfl, ?_⟩
      · rintro _ ⟨⟩
        exact present
      · simp only [checkFillHints, decide_true, if_true, stays, if_false, bind_eq_ok, require_eq_ok]
        exact ⟨(), ahead, (), link.symm, passed⟩
  · simp only [spotTake, full, false_and, if_false]
    refine ⟨none, none, rfl, rfl, ?_⟩
    simp only [checkFillHints, decide_false, Bool.false_eq_true, if_false, bind_eq_ok, require_eq_ok]
    exact ⟨(), rfl, rfl, trivial⟩

theorem handleMatchLimitOrder_total {config : ProtocolConfig} {taker : Wallet}
    {takerSide : OrderSide} {limit quantity fee : Nat} {plan : SettlementPlan}
    {charge : MarketFees} {makerBalance takerBalance : TraderBalance}
    {settled : TraderBalance × TraderBalance}
    (charged : Charged Market.quoteMint spot.markets spot.fees)
    (marketStored : spot.markets.get maker.market = some market)
    (active : market.status = .active) (best : market.best maker.side = some maker.price)
    (own : maker.owner ≠ taker.key) (gridded : market.checkGrid limit quantity = .ok ())
    (makerStored : spot.balances.get (.traderBalance maker.market maker.owner) = some makerBalance)
    (takerStored : spot.balances.get (.traderBalance maker.market taker.key) = some takerBalance)
    (planned : calculateSettlement takerSide limit quantity maker.side maker.price
      maker.remainingQuantity maker.lockedCollateral market.baseDecimals = .ok plan)
    (feeOk : calculateTakerFee plan.fill.quoteQuantity config.takerFeeBps = .ok fee)
    (chargeStored : spot.fees.get (.marketFees maker.market) = some charge)
    (accrues : charge.accruedQuoteFees + fee ≤ u64Max)
    (settles : settleBalances takerSide plan fee makerBalance takerBalance = .ok settled) :
    ∃ after, handleMatchLimitOrder spot config (spotTake maker level taker key quantity) takerSide
      limit quantity = .ok after := by
  obtain rfl := holds.orders key maker stored
  have opened := spotShelf_live.mpr live
  have facts := calculateSettlement_facts planned
  obtain ⟨_, sameCharge, home, quote⟩ := charged maker.market market marketStored
  cases sameCharge.symm.trans chargeStored
  obtain ⟨-, -, counted, covered⟩ := holds.books.alone stored opened found
  have counted : 0 < level.orderCount := counted
  have covered : maker.remainingQuantity ≤ level.totalRemainingQuantity := covered
  have open_count : 1 ≤ market.openOrderCount :=
    (Departure.mk market maker level marketStored stored live found).open_count holds
  obtain ⟨balanceHome, balanceOwner⟩ :=
    Pubkey.traderBalance.inj (holds.balances _ makerBalance makerStored)
  obtain ⟨takerHome, takerOwner⟩ :=
    Pubkey.traderBalance.inj (holds.balances _ takerBalance takerStored)
  have debited : plan.makerLockedDebit ≤ maker.lockedCollateral :=
    (Fill.mk (Departure.mk market maker level marketStored stored live found) charge makerBalance
      takerBalance plan fee settled.1 settled.2 rfl active chargeStored own first best makerStored
      takerStored gridded planned feeOk settles :
        Fill spot config taker maker.market (.order maker.market maker.orderId) takerSide limit
          quantity).debit_le
  obtain ⟨next, worse, loadedNext, loadedWorse, hints⟩ :=
    checkFillHints_total holds stored live found first best marketStored taker quantity
  have base := facts.base
  have taken : plan.fill.baseQuantity ≤ quantity ∧
      plan.fill.baseQuantity ≤ maker.remainingQuantity := by
    rw [base]
    exact ⟨Nat.min_le_left _ _, Nat.min_le_right _ _⟩
  have counting : (if plan.makerFullyFilled then
      checkedSub level.orderCount 1 .priceLevelOrderCountUnderflow else pure level.orderCount) =
      Except.ok (if maker.remainingQuantity ≤ quantity then level.orderCount - 1
        else level.orderCount) := by
    rw [facts.full]
    by_cases full : maker.remainingQuantity ≤ quantity
    · simp only [full, decide_true, if_true]
      exact checkedSub_eq_ok.mpr ⟨counted, rfl⟩
    · simp only [full, decide_false, Bool.false_eq_true, if_false]
      rfl
  have opening : ∃ count, (if plan.makerFullyFilled then
      checkedSub market.openOrderCount 1 .openOrderCountUnderflow
      else pure market.openOrderCount) = Except.ok count := by
    split
    · exact ⟨_, checkedSub_eq_ok.mpr ⟨open_count, rfl⟩⟩
    · exact ⟨_, rfl⟩
  obtain ⟨count, opening⟩ := opening
  rw [← facts.full, ← base] at hints
  have keyed := holds.markets _ market marketStored
  simp only [handleMatchLimitOrder, loadMakerOrder, loadMarketFees, loadTraderBalance, bind_eq_ok,
    load_eq_ok, require_eq_ok, checkedAdd_eq_ok, checkedSub_eq_ok, pure_eq_ok]
  exact ⟨_, ⟨maker.market, market⟩, ⟨rfl, marketStored⟩, (), keyed, (), active, _,
    ⟨⟨_, charge⟩, ⟨rfl, chargeStored⟩, (), home, (), quote, rfl⟩, _,
    ⟨⟨_, maker⟩, ⟨rfl, stored⟩, (), rfl, (), rfl, (), live, (), own, rfl⟩, _,
    loadMakerLevel_total holds stored live found first best, next, loadedNext, worse, loadedWorse, _,
    ⟨⟨_, makerBalance⟩, ⟨rfl, makerStored⟩, (), balanceHome.symm, (), balanceOwner.symm, rfl⟩, _,
    ⟨⟨_, takerBalance⟩, ⟨rfl, takerStored⟩, (), takerHome.symm, (), takerOwner.symm, rfl⟩, (),
    gridded, plan, planned, fee, feeOk, _, ⟨accrues, rfl⟩, _, ⟨taken.1, rfl⟩, _,
    ⟨taken.2, rfl⟩, _, ⟨debited, rfl⟩, _, ⟨taken.2.trans covered, rfl⟩, _, counting, count, opening, (), hints,
    settled, settles, rfl⟩

end Match

end Tidebook.Proof
