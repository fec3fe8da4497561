import Tidebook.Proof.SpotCancel

/-! # Spot fills -/

namespace Tidebook.Proof
open Library Program

/-! ## Settlement -/

/-- What one fill does to the balances of its two sides: the maker's lock shrinks by its debit,
and together they lose the fee. -/
def Settled (makerSide : OrderSide) (debit fee : Nat)
    (maker taker makerSettled takerSettled : TraderBalance) : Prop :=
  ∃ paid got given taken, spotLedger.Move maker makerSettled (Pi.single makerSide debit) 0 paid got ∧
    spotLedger.Move taker takerSettled 0 0 given taken ∧
    ∀ side, paid side + given side = got side + taken side + (Pi.single .bid fee : OrderSide → Nat) side

theorem settleBalances_ok {takerSide makerSide : OrderSide} {limit quantity price remaining : Nat}
    {locked decimals fee : Nat} {plan : SettlementPlan}
    {maker taker makerSettled takerSettled : TraderBalance}
    (facts : SettlementFacts takerSide limit quantity makerSide price remaining locked decimals plan)
    (passed : settleBalances takerSide plan fee maker taker = .ok (makerSettled, takerSettled)) :
    Settled makerSide plan.makerLockedDebit fee maker taker makerSettled takerSettled := by
  cases takerSide with
  | bid =>
      obtain rfl : makerSide = .ask := by
        cases makerSide
        · exact absurd rfl facts.sides
        · rfl
      have debit := facts.debit
      simp only [makerDebit] at debit
      simp only [settleBalances, bind_eq_ok, checkedAdd_eq_ok, checkedSub_eq_ok, pure_eq_ok,
        Prod.mk.injEq] at passed
      obtain ⟨_, ⟨_, rfl⟩, _, ⟨paid, rfl⟩, _, ⟨_, rfl⟩, _, ⟨held, rfl⟩, _, ⟨_, rfl⟩, rfl, rfl⟩ :=
        passed
      refine ⟨Pi.single .ask plan.fill.baseQuantity, Pi.single .bid plan.fill.quoteQuantity,
        Pi.single .bid (plan.fill.quoteQuantity + fee), Pi.single .ask plan.fill.baseQuantity,
        ⟨rfl, fun side => ?_, fun side => ?_⟩, ⟨rfl, fun side => ?_, fun side => ?_⟩,
        fun side => ?_⟩ <;>
        cases side <;> simp [spotLedger] <;> omega
  | ask =>
      obtain rfl : makerSide = .bid := by
        cases makerSide
        · rfl
        · exact absurd rfl facts.sides
      obtain ⟨enough, _, refund⟩ := facts.bid_lock rfl
      simp only [settleBalances, bind_eq_ok, checkedAdd_eq_ok, checkedSub_eq_ok, pure_eq_ok,
        Prod.mk.injEq] at passed
      obtain ⟨_, ⟨feePaid, rfl⟩, _, ⟨paid, rfl⟩, _, ⟨_, rfl⟩, _, ⟨held, rfl⟩, _, ⟨_, rfl⟩, _,
        ⟨_, rfl⟩, rfl, rfl⟩ := passed
      refine ⟨Pi.single .bid plan.fill.quoteQuantity, Pi.single .ask plan.fill.baseQuantity,
        Pi.single .ask plan.fill.baseQuantity, Pi.single .bid (plan.fill.quoteQuantity - fee),
        ⟨rfl, fun side => ?_, fun side => ?_⟩, ⟨rfl, fun side => ?_, fun side => ?_⟩,
        fun side => ?_⟩ <;>
        cases side <;> simp [spotLedger] <;> omega

/-! ## Fills -/

/-- A match that passed every check of its handler. -/
structure Fill (spot : Spot) (config : ProtocolConfig) (taker : Wallet) (key makerKey : Pubkey)
    (takerSide : OrderSide) (limit quantity : Nat) extends Departure spot makerKey where
  fees : MarketFees
  makerBalance : TraderBalance
  takerBalance : TraderBalance
  plan : SettlementPlan
  fee : Nat
  makerSettled : TraderBalance
  takerSettled : TraderBalance
  home : order.market = key
  active : market.status = .active
  feesStored : spot.fees.get (.marketFees key) = some fees
  own : order.owner ≠ taker.key
  first : level.firstOrder = some makerKey
  best : market.best order.side = some order.price
  makerStored : spot.balances.get (.traderBalance key order.owner) = some makerBalance
  takerStored : spot.balances.get (.traderBalance key taker.key) = some takerBalance
  gridded : market.checkGrid limit quantity = .ok ()
  settled : calculateSettlement takerSide limit quantity order.side order.price
    order.remainingQuantity order.lockedCollateral market.baseDecimals = .ok plan
  charged : calculateTakerFee plan.fill.quoteQuantity config.takerFeeBps = .ok fee
  balanced : settleBalances takerSide plan fee makerBalance takerBalance =
    .ok (makerSettled, takerSettled)

def Fill.result {spot : Spot} {config : ProtocolConfig} {taker : Wallet} {key makerKey : Pubkey}
    {takerSide : OrderSide} {limit quantity : Nat}
    (fill : Fill spot config taker key makerKey takerSide limit quantity) : Spot where
  markets := if fill.plan.makerFullyFilled then fill.markets
    else spot.markets.set key fill.market
  fees := spot.fees.set (.marketFees key)
    { fill.fees with accruedQuoteFees := fill.fees.accruedQuoteFees + fill.fee }
  orders :=
    if fill.plan.makerFullyFilled then fill.orders (fill.order.fill true 0 0)
    else spot.orders.set makerKey (fill.order.fill false
      (fill.order.remainingQuantity - fill.plan.fill.baseQuantity)
      (fill.order.lockedCollateral - fill.plan.makerLockedDebit))
  levels := if fill.plan.makerFullyFilled then fill.levels
    else spot.levels.set (.priceLevel fill.order.market fill.order.side fill.order.price)
      { fill.level with
        totalRemainingQuantity :=
          fill.level.totalRemainingQuantity - fill.plan.fill.baseQuantity }
  balances := (spot.balances.set (.traderBalance key fill.order.owner) fill.makerSettled).set
    (.traderBalance key taker.key) fill.takerSettled

theorem loadMarketFees_ok {spot : Spot} {market : Account Market} {fees : Account MarketFees}
    (passed : loadMarketFees spot market = .ok fees) : fees.key = .marketFees market.key ∧
      spot.fees.get (.marketFees market.key) = some fees.val := by
  simp only [loadMarketFees, bind_eq_ok, load_eq_ok, require_eq_ok, pure_eq_ok] at passed
  obtain ⟨_, ⟨filed, stored⟩, _, -, _, -, rfl⟩ := passed
  exact ⟨filed, stored⟩

theorem loadMakerOrder_ok {spot : Spot} {market key : Pubkey} {taker : Wallet}
    {maker : Account Order} (passed : loadMakerOrder spot market key taker = .ok maker) :
    maker.key = key ∧ spot.orders.get key = some maker.val ∧ maker.val.market = market ∧
      maker.val.status = .opened ∧ maker.val.owner ≠ taker.key := by
  simp only [loadMakerOrder, bind_eq_ok, load_eq_ok, require_eq_ok, pure_eq_ok] at passed
  obtain ⟨_, ⟨filed, stored⟩, _, -, _, home, _, live, _, own, rfl⟩ := passed
  exact ⟨filed, stored, home, live, own⟩

theorem loadMakerLevel_ok {spot : Spot} {market : Account Market} {maker : Account Order}
    {level : Account PriceLevel} (passed : loadMakerLevel spot market maker = .ok level) :
    level.key = .priceLevel market.key maker.val.side maker.val.price ∧
      spot.levels.get (.priceLevel market.key maker.val.side maker.val.price) = some level.val ∧
      level.val.firstOrder = some maker.key ∧
      market.val.best maker.val.side = some maker.val.price := by
  simp only [loadMakerLevel, bind_eq_ok, load_eq_ok, require_eq_ok, pure_eq_ok] at passed
  obtain ⟨_, ⟨filed, stored⟩, _, -, _, -, _, -, _, -, _, first, _, best, rfl⟩ := passed
  exact ⟨filed, stored, first, best⟩

theorem checkFillHints_full {market : Pubkey} {maker : Account Order} {level : Account PriceLevel}
    {count total : Nat} {next : Option (Account Order)} {worse : Option (Account PriceLevel)}
    {recipient : Option Pubkey} {done : Unit}
    (passed : checkFillHints market maker level true count total next worse recipient = .ok done) :
    maker.val.previousOrder = none ∧ next.map Account.key = maker.val.nextOrder ∧
      (count = 0 → maker.val.nextOrder = none ∧ level.val.betterPrice = none ∧
        worse.map Account.key =
          level.val.worsePrice.map (Pubkey.priceLevel market maker.val.side)) ∧
      (count ≠ 0 → next ≠ none ∧ worse = none) := by
  simp only [checkFillHints, if_true, bind_eq_ok, require_eq_ok, ite_eq_ok] at passed
  obtain ⟨_, top, _, isNext, rest⟩ := passed
  refine ⟨top, isNext, fun last => ?_, fun stays => ?_⟩
  · obtain ⟨_, rest⟩ | ⟨stays, _⟩ := rest
    · simp only [checkFilledLast, bind_eq_ok, require_eq_ok] at rest
      obtain ⟨_, ends, _, -, _, better, _, keys, _⟩ := rest
      exact ⟨ends.1, better, keys⟩
    · exact absurd last stays
  · obtain ⟨last, _⟩ | ⟨_, rest⟩ := rest
    · exact absurd last stays
    · simp only [checkFilledFirst, bind_eq_ok, require_eq_ok, okOr_eq_ok] at rest
      obtain ⟨follower, rfl, _, -, _, -, _, -, _, -, _, -, absent⟩ := rest
      exact ⟨by simp, Option.isNone_iff_eq_none.mp absent.1⟩

theorem checkFillHints_partial {market : Pubkey} {maker : Account Order}
    {level : Account PriceLevel} {count total : Nat} {next : Option (Account Order)}
    {worse : Option (Account PriceLevel)} {recipient : Option Pubkey} {done : Unit}
    (passed : checkFillHints market maker level false count total next worse recipient =
      .ok done) : next = none ∧ worse = none := by
  simp only [checkFillHints, Bool.false_eq_true, if_false, bind_eq_ok, require_eq_ok] at passed
  obtain ⟨_, noNext, absent⟩ := passed
  exact ⟨Option.isNone_iff_eq_none.mp noNext, Option.isNone_iff_eq_none.mp absent.1⟩

theorem handleMatchLimitOrder_ok {spot after : Spot} {config : ProtocolConfig}
    {accounts : MatchLimitOrder} {takerSide : OrderSide} {limitPrice quantity : Nat}
    (holds : SpotInvariant spot)
    (done : handleMatchLimitOrder spot config accounts takerSide limitPrice quantity = .ok after) :
    ∃ fill : Fill spot config accounts.taker accounts.market accounts.makerOrder takerSide
      limitPrice quantity, fill.result = after := by
  obtain ⟨taker, market, makerKey, nextKey, worseKey, recipient⟩ := accounts
  simp only [handleMatchLimitOrder, bind_eq_ok, load_eq_ok, require_eq_ok, loadOption_eq_ok,
    checkedSub_eq_ok, checkedAdd_eq_ok, pure_eq_ok, exists_const, and_assoc, exists_eq_left,
    exists_and_left] at done
  obtain ⟨⟨key, record⟩, rfl, stored, -, active, fees, ownFees, maker, ownMaker, level, ownLevel,
    next, -, hasNext, worse, -, hasWorse, makerBalance, ownMakerBalance, takerBalance,
    ownTakerBalance, _, gridded, plan, settled, fee, charged, done⟩ := done
  obtain ⟨-, -, -, -, -, count, counted, openOrderCount, opened, _, hints, done⟩ := done
  obtain ⟨⟨makerSettled, takerSettled⟩, balanced, rfl⟩ := done
  obtain ⟨feesFiled, feesStored⟩ := loadMarketFees_ok ownFees
  obtain ⟨makerFiled, makerStored, home, live, own⟩ := loadMakerOrder_ok ownMaker
  obtain ⟨levelFiled, levelStored, first, best⟩ := loadMakerLevel_ok ownLevel
  obtain ⟨makerBalanceFiled, makerBalanceStored, _, _⟩ := loadTraderBalance_ok ownMakerBalance
  obtain ⟨takerBalanceFiled, takerBalanceStored, _, _⟩ := loadTraderBalance_ok ownTakerBalance
  dsimp only at *
  subst home
  rw [makerFiled] at first
  refine ⟨⟨⟨record, maker.val, level.val, stored, makerStored, live, levelStored⟩, fees.val,
    makerBalance.val, takerBalance.val, plan, fee, makerSettled, takerSettled, rfl, active,
    feesStored, own, first, best, makerBalanceStored, takerBalanceStored, gridded, settled, charged,
    balanced⟩, ?_⟩
  simp only [Fill.result]
  rw [feesFiled, makerBalanceFiled, takerBalanceFiled, makerFiled]
  cases full : plan.makerFullyFilled with
  | false =>
      rw [full] at counted opened hints
      obtain ⟨rfl, rfl⟩ := checkFillHints_partial hints
      simp only [Bool.false_eq_true, if_false, pure_eq_ok] at counted opened
      subst counted opened
      rw [levelFiled]
      simp [PriceLevel.fill, saveOption]
  | true =>
      rw [full] at counted opened hints
      obtain ⟨top, isNext, last, stays⟩ := checkFillHints_full hints
      simp only [if_true, checkedSub_eq_ok] at counted opened
      obtain ⟨some_count, rfl⟩ := counted
      obtain ⟨_, rfl⟩ := opened
      have single : level.val.orderCount - 1 = 0 ↔ level.val.orderCount = 1 := by omega
      have whole : plan.fill.baseQuantity = maker.val.remainingQuantity := by
        have facts := calculateSettlement_facts settled
        have covered := facts.full.symm.trans full
        rw [decide_eq_true_iff] at covered
        rw [facts.base, min_eq_right covered]
      have front : maker.val.previousOrder = (none : Option (Account Order)).map Account.key := top
      have orders := save_unlink holds.books makerStored (spotShelf_live.mpr live) front
        isNext.symm (by simp) hasNext (maker.val.fill true 0 0)
      have levels : saveOption
          (if level.val.orderCount - 1 = 0 then spot.levels.erase level.key
            else spot.levels.set level.key (level.val.fill true (next.map Account.key)
              (level.val.orderCount - 1)
              (level.val.totalRemainingQuantity - plan.fill.baseQuantity)))
          (worse.map (Account.map (PriceLevel.setBetter none))) =
            spotShelf.vacate spot.levels maker.val level.val (vacated level.val maker.val) := by
        rw [levelFiled, whole]
        by_cases alone : level.val.orderCount = 1
        · obtain ⟨_, noBetter, keys⟩ := last (single.mpr alone)
          have better : (none : Option (Account PriceLevel)).map Account.key =
              level.val.betterPrice.map
                (Pubkey.priceLevel maker.val.market maker.val.side) := by rw [noBetter]; rfl
          have saved := save_relevel holds.books levelStored better keys (by simp) hasWorse
          rw [if_pos (single.mpr alone), ← noBetter]
          exact saved.trans (spotShelf.vacate_last maker.val alone).symm
        · obtain ⟨some_next, rfl⟩ := stays (single.not.mpr alone)
          have follows : maker.val.nextOrder ≠ none := by
            rw [← isNext, Ne, Option.map_eq_none_iff]
            exact some_next
          rw [if_neg (single.not.mpr alone)]
          refine Eq.trans ?_ (spotShelf.vacate_stays maker.val alone).symm
          simp [saveOption, PriceLevel.fill, vacated, PriceLevel.unlink, top, isNext, follows]
          rfl
      have market : (if level.val.orderCount - 1 = 0 then
          { record with openOrderCount := record.openOrderCount - 1 }.setBest maker.val.side
            level.val.worsePrice
          else { record with openOrderCount := record.openOrderCount - 1 }) =
          if level.val.orderCount = 1 ∧ level.val.betterPrice = none then
            { record with openOrderCount := record.openOrderCount - 1 }.setBest maker.val.side
              level.val.worsePrice
          else { record with openOrderCount := record.openOrderCount - 1 } := by
        by_cases alone : level.val.orderCount = 1
        · rw [if_pos (single.mpr alone), if_pos ⟨alone, (last (single.mpr alone)).2.1⟩]
        · rw [if_neg (single.not.mpr alone), if_neg fun both => alone both.1]
      simp only [if_true, true_and]
      rw [levels, market]
      congr 1
      exact orders.symm

/-! ## Fills preserve the ledger -/

section Fill

variable {spot : Spot} {config : ProtocolConfig} {taker : Wallet} {key makerKey : Pubkey}
variable {takerSide : OrderSide} {limit quantity : Nat}
variable (fill : Fill spot config taker key makerKey takerSide limit quantity)

theorem Fill.facts : SettlementFacts takerSide limit quantity fill.order.side fill.order.price
    fill.order.remainingQuantity fill.order.lockedCollateral fill.market.baseDecimals fill.plan :=
  calculateSettlement_facts fill.settled

theorem Fill.ledger (holds : SpotInvariant spot) :
    spotLedger.Edit spot.balances fill.result.balances
      (Ledger.single (fill.order.market, fill.order.owner)
        (Pi.single fill.order.side fill.plan.makerLockedDebit)) 0
      (Ledger.single fill.order.market (Pi.single .bid fill.fee)) 0 := by
  obtain ⟨paid, got, given, taken, maker, taking, balanced⟩ :=
    settleBalances_ok fill.facts fill.balanced
  have first := balance_write holds.balances fill.makerStored maker
  have kept : (spot.balances.set (.traderBalance key fill.order.owner) fill.makerSettled).get
      (.traderBalance key taker.key) = some fill.takerBalance := by
    rw [Store.get_set_ne _ _ fun same => fill.own (Pubkey.traderBalance.inj same).2.symm]
    exact fill.takerStored
  have both := first.trans (balance_write (first.filed holds.balances) kept taking)
  simp only [Ledger.single_zero, add_zero] at both
  rw [fill.home]
  refine both.rebalance fun pool side => ?_
  simp only [Pi.add_apply, Pi.zero_apply, Ledger.single]
  split
  · have net := balanced side
    omega
  · rfl

theorem Fill.rests (holds : SpotInvariant spot) : Resting fill.market fill.order := by
  obtain ⟨market, stored, rest⟩ := holds.resting _ _ fill.orderStored fill.live
  rw [fill.stored] at stored
  cases stored
  exact rest

/-- What a partial fill leaves of its maker still rests: the floored notional of the remainder
and that of the fill together never exceed that of the whole. -/
theorem Fill.rests_partial (holds : SpotInvariant spot)
    (partly : fill.plan.makerFullyFilled = false) :
    Resting fill.market (fill.order.fill false
      (fill.order.remainingQuantity - fill.plan.fill.baseQuantity)
      (fill.order.lockedCollateral - fill.plan.makerLockedDebit)) := by
  have facts := fill.facts
  have rest := fill.rests holds
  have less : quantity < fill.order.remainingQuantity := by
    have full := facts.full
    rw [partly, eq_comm, decide_eq_false_iff_not] at full
    omega
  have base : fill.plan.fill.baseQuantity = quantity := by rw [facts.base]; omega
  have lot := (checkGrid_ok fill.gridded).2.2.2
  have split := quote_split fill.order.price quantity (fill.order.remainingQuantity - quantity)
    (10 ^ fill.market.baseDecimals)
  have debit := facts.debit
  have bound := rest.remaining_le
  rw [Nat.add_sub_cancel' less.le] at split
  rw [base]
  refine ⟨rest.price_pos, rest.price_fits, rest.tick, Nat.sub_pos_of_lt less, ?_,
    rest.quantity_fits, Nat.dvd_sub rest.lot lot, rest.scale, fun isBid => ?_, fun isAsk => ?_,
    rest.level, rest.earlier⟩
  · exact le_trans (Nat.sub_le _ _) bound
  · have locked := rest.bid_lock isBid
    have quote : fill.plan.makerLockedDebit = fill.plan.fill.quoteQuantity := by
      rw [debit, show fill.order.side = .bid from isBid, partly]
      rfl
    have cost := facts.quote
    rw [min_eq_left less.le] at cost
    simp only [Order.fill, Bool.false_eq_true, if_false]
    omega
  · have locked := rest.ask_lock isAsk
    have all : fill.plan.makerLockedDebit = fill.plan.fill.baseQuantity := by
      rw [debit, show fill.order.side = .ask from isAsk]
      rfl
    simp only [Order.fill, Bool.false_eq_true, if_false]
    omega

def Fill.reduced : Order := fill.order.fill false
  (fill.order.remainingQuantity - fill.plan.fill.baseQuantity)
  (fill.order.lockedCollateral - fill.plan.makerLockedDebit)

theorem Fill.debit_le : fill.plan.makerLockedDebit ≤ fill.order.lockedCollateral := by
  have facts := fill.facts
  cases side : fill.order.side with
  | bid => exact (facts.bid_lock side).2.1
  | ask =>
      have debit := facts.debit
      rw [side] at debit
      have backed := (facts.ask_lock side).1
      have base := facts.base
      simp only [makerDebit] at debit
      omega

theorem Fill.edit_partial (holds : SpotInvariant spot) (partly : fill.plan.makerFullyFilled = false) :
    SpotEdit spot fill.result fill.order.market makerKey fill.market fill.market fill.reduced
      none none none none where
  stored := fill.stored
  terms := ⟨rfl, rfl, rfl, rfl, rfl, le_refl _⟩
  named := holds.orders _ _ fill.orderStored
  home := rfl
  rests _ := fill.rests_partial holds partly
  markets := by simp only [Fill.result, partly, Bool.false_eq_true, if_false, fill.home]
  orders := by
    simp only [Fill.result, partly, Bool.false_eq_true, if_false]
    rfl
  levels := by
    simp only [Fill.result, partly, Bool.false_eq_true, if_false]
    refine holds.levels.set ?_
    have keyed := holds.levels _ _ fill.levelStored
    exact keyed
  balances := (fill.ledger holds).filed holds.balances
  books := by
    have less : fill.plan.fill.baseQuantity < fill.order.remainingQuantity := by
      have known := fill.facts.full
      rw [partly, eq_comm, decide_eq_false_iff_not] at known
      rw [fill.facts.base]
      omega
    have same : spotHeads (spot.markets.set key fill.market) = spotHeads spot.markets := by
      have stored := spotHeads_stored fill.stored
      rw [fill.home] at stored
      rw [spotHeads_set, ← stored, Function.update_eq_self]
    simp only [Fill.result, partly, Bool.false_eq_true, if_false]
    exact holds.books.reduce fill.order fill.reduced makerKey fill.orderStored
      (spotShelf_live.mpr fill.live) less fill.levelStored rfl (spotShelf_live.mpr fill.live) rfl
      rfl same
  counted := by
    rw [fill.orderStored, Option.elim_some]
    rfl
  locked holder side := by
    have moved := (fill.ledger holds).locked holder side
    have bound := fill.debit_le
    have whose : (fill.reduced.market, fill.reduced.owner) =
      (fill.order.market, fill.order.owner) := rfl
    rw [fill.orderStored, Option.elim_some, lockedBy_live fill.live,
      lockedBy_live (show fill.reduced.status = .opened from fill.live), whose]
    simp only [Ledger.single, Pi.single_apply, Pi.zero_apply] at moved ⊢
    simp only [Fill.reduced, Order.fill, Bool.false_eq_true, if_false]
    split at moved
    · next same =>
        rw [if_pos same, if_pos same]
        split at moved
        · next sided =>
            rw [if_pos sided, if_pos sided]
            omega
        · next other =>
            rw [if_neg other, if_neg other]
            exact moved
    · next other =>
        rw [if_neg other, if_neg other]
        exact moved

theorem Fill.debit_full (full : fill.plan.makerFullyFilled = true) :
    fill.plan.makerLockedDebit = fill.order.lockedCollateral := by
  have facts := fill.facts
  have covered : fill.order.remainingQuantity ≤ quantity := by
    have known := facts.full
    rw [full, eq_comm, decide_eq_true_iff] at known
    exact known
  have debit := facts.debit
  cases side : fill.order.side with
  | bid =>
      rw [side, full] at debit
      exact debit
  | ask =>
      rw [side] at debit
      have backed := (facts.ask_lock side).1
      have base := facts.base
      simp only [makerDebit] at debit
      omega

def Fill.written : Order :=
  if fill.plan.makerFullyFilled then fill.order.fill true 0 0 else fill.reduced

theorem Fill.edit (holds : SpotInvariant spot) : ∃ record previous next ahead behind,
    SpotEdit spot fill.result fill.order.market makerKey fill.market record fill.written previous
      next ahead behind := by
  rw [Fill.written]
  cases full : fill.plan.makerFullyFilled with
  | true =>
      have ledger := fill.ledger holds
      rw [fill.debit_full full] at ledger
      have closed : (fill.order.fill true 0 0).status ≠ .opened := by simp [Order.fill]
      refine ⟨_, _, _, _, _, fill.toDeparture.edit holds closed rfl rfl ?_ ?_ ?_ ledger⟩
      · simp only [Fill.result, full, if_true]
      · simp only [Fill.result, full, if_true]
      · simp only [Fill.result, full, if_true]
  | false => exact ⟨_, _, _, _, _, fill.edit_partial holds full⟩

end Fill
end Tidebook.Proof
