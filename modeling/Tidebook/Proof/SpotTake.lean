import Tidebook.Proof.Reachable
import Tidebook.Proof.SpotAccept

/-! # Taking the first order

In a reachable state a funded taker can match the first order of the best opposing level that its
limit reaches, exactly when the fill is worth an atom of quote; and what that leaves of the book.
-/

namespace Tidebook.Proof
open Library Program

/-! ## Room for the amounts -/

section Room

variable {state : State} (holds : Invariant state) (solvent : Solvent state)
include holds solvent

theorem pair_fits {market : Pubkey} {record : Market} {fees : MarketFees} {first second : Pubkey}
    {left right : TraderBalance} (stored : state.spot.markets.get market = some record)
    (feesStored : state.spot.fees.get (.marketFees market) = some fees)
    (hasLeft : state.spot.balances.get (.traderBalance market first) = some left)
    (hasRight : state.spot.balances.get (.traderBalance market second) = some right)
    (different : first ≠ second) (side : OrderSide) :
    spotLedger.free left side + spotLedger.locked left side +
        (spotLedger.free right side + spotLedger.locked right side) +
      (match side with | .bid => fees.accruedQuoteFees | .ask => 0) ≤ u64Max := by
  have home : ∀ {owner : Pubkey} {balance : TraderBalance},
      state.spot.balances.get (.traderBalance market owner) = some balance →
      spotLedger.pool (spotLedger.holder balance) = market := fun held =>
    (Pubkey.traderBalance.inj (holds.spot.balances _ _ held)).1.symm
  have bound := spotLedger.pair_held_le hasLeft hasRight
    (fun same => different (Pubkey.traderBalance.inj same).2)
    ((home hasLeft).trans (home hasRight).symm) side
  rw [home hasLeft] at bound
  have guarded : guardOf (.vault market (mintOf record side)) ≠ none := by simp [guardOf]
  have fits := solvent.fits holds guarded
  have waiting := accrued_stored feesStored
  obtain ⟨rfl, distinct⟩ := holds.canonical market record stored
  refine le_trans ?_ fits
  cases side with
  | bid =>
      simp only [owed, spotOwed, mintOf, if_true, waiting]
      omega
  | ask =>
      simp only [owed, spotOwed, mintOf, if_true]
      omega

end Room

/-! ## Acceptance -/

def takerCost (takerSide : OrderSide) (gross fee base : Nat) : Nat :=
  match takerSide with
  | .bid => gross + fee
  | .ask => base

/-- The first order of the best level on the other side of a taker that may match it. -/
structure Facing (state : State) (config : ProtocolConfig) (taker : Wallet)
    (takerSide : OrderSide) (limit quantity : Nat) (key : Pubkey) where
  maker : Order
  level : PriceLevel
  market : Market
  balance : TraderBalance
  configured : state.protocol.config = some config
  stored : state.spot.orders.get key = some maker
  live : maker.status = .opened
  found : state.spot.levels.get (.priceLevel maker.market maker.side maker.price) = some level
  first : level.firstOrder = some key
  marketStored : state.spot.markets.get maker.market = some market
  active : market.status = .active
  best : market.best maker.side = some maker.price
  sided : maker.side = takerSide.opposite
  cross : pricesCross takerSide limit maker.price
  own : maker.owner ≠ taker.key
  gridded : market.checkGrid limit quantity = .ok ()
  balanceStored : state.spot.balances.get (.traderBalance maker.market taker.key) = some balance
  limitFits : limit ≤ u64Max
  quantityFits : quantity ≤ u64Max

namespace Facing

variable {state : State} {config : ProtocolConfig} {taker : Wallet} {takerSide : OrderSide}
variable {limit quantity : Nat} {key : Pubkey}
variable (facing : Facing state config taker takerSide limit quantity key)

def base : Nat := min quantity facing.maker.remainingQuantity

def gross : Nat := facing.maker.price * facing.base / 10 ^ facing.market.baseDecimals

def fee : Nat := takerFee facing.gross config.takerFeeBps

def cost : Nat := takerCost takerSide facing.gross facing.fee facing.base

def instruction : Instruction :=
  .matchLimitOrder (spotTake facing.maker facing.level taker key quantity) takerSide
    (UInt64.ofNat limit) (UInt64.ofNat quantity)

theorem execute_instruction : execute state facing.instruction =
    onSpot state (handleMatchLimitOrder state.spot config
      (spotTake facing.maker facing.level taker key quantity) takerSide limit quantity) := by
  have limitWord : (UInt64.ofNat limit).toNat = limit :=
    UInt64.toNat_ofNat_of_lt' (Nat.lt_succ_of_le facing.limitFits)
  have quantityWord : (UInt64.ofNat quantity).toNat = quantity :=
    UInt64.toNat_ofNat_of_lt' (Nat.lt_succ_of_le facing.quantityFits)
  simp only [instruction, execute, Protocol.loadConfig, facing.configured, limitWord, quantityWord]
  rfl

section Accepts

variable (reachable : Reachable state)
include reachable

theorem resting : Resting facing.market facing.maker := by
  obtain ⟨market, stored, rest⟩ :=
    reachable.invariant.spot.resting key facing.maker facing.stored facing.live
  cases facing.marketStored.symm.trans stored
  exact rest

theorem settlement (worth : 0 < facing.gross) (fits : facing.gross ≤ u64Max) :
    ∃ plan, calculateSettlement takerSide limit quantity facing.maker.side facing.maker.price
      facing.maker.remainingQuantity facing.maker.lockedCollateral facing.market.baseDecimals =
        .ok plan := by
  have rest := facing.resting reachable
  have some_quantity := (checkGrid_ok facing.gridded).2.1
  have some_base : 0 < min quantity facing.maker.remainingQuantity :=
    lt_min some_quantity rest.remaining_pos
  have within : min quantity facing.maker.remainingQuantity ≤ u64Max :=
    (min_le_left _ _).trans facing.quantityFits
  have product : facing.maker.price * min quantity facing.maker.remainingQuantity ≤ u128Max :=
    (Nat.mul_le_mul rest.price_fits within).trans (by decide)
  have filled := calculateFill_eq_ok.mpr ⟨some_base, rest.scale, product, worth, fits, rfl⟩
  have sides : takerSide ≠ facing.maker.side := by
    rw [facing.sided]
    cases takerSide <;> exact fun same => by cases same
  have legs : ∃ legs, makerLegs facing.maker.side
      ⟨min quantity facing.maker.remainingQuantity, facing.gross, facing.maker.price⟩
      (min quantity facing.maker.remainingQuantity == facing.maker.remainingQuantity)
      facing.maker.remainingQuantity facing.maker.lockedCollateral = .ok legs := by
    cases side : facing.maker.side with
    | ask =>
        simp only [makerLegs, bind_eq_ok, require_eq_ok, pure_eq_ok]
        exact ⟨_, (), rest.ask_lock side, rfl⟩
    | bid =>
        have covered : facing.gross ≤ facing.maker.lockedCollateral :=
          (Nat.div_le_div_right (Nat.mul_le_mul_left _ (min_le_right _ _))).trans
            (rest.bid_lock side)
        simp only [makerLegs, bind_eq_ok, require_eq_ok, pure_eq_ok]
        refine ⟨_, (), ?_, rfl⟩
        split
        · exact ⟨covered, le_rfl⟩
        · exact ⟨le_rfl, covered⟩
  obtain ⟨legs, balanced⟩ := legs
  simp only [calculateSettlement, bind_eq_ok, require_eq_ok, pure_eq_ok]
  exact ⟨_, (), sides, (), facing.cross, _, filled, legs, balanced, rfl⟩

theorem locked_le {makerBalance : TraderBalance}
    (makerStored : state.spot.balances.get
      (.traderBalance facing.maker.market facing.maker.owner) = some makerBalance) :
    facing.maker.lockedCollateral ≤ spotLedger.locked makerBalance facing.maker.side := by
  have locks := reachable.invariant.spot.locks (facing.maker.market, facing.maker.owner)
    facing.maker.side
  have own := Store.le_total
    (f := lockedBy (facing.maker.market, facing.maker.owner) facing.maker.side) facing.stored
  rw [Ledger.lockedOf_stored makerStored] at locks
  rw [lockedBy_live facing.live, Ledger.single, if_pos rfl, Pi.single_eq_same] at own
  omega

theorem accepts (worth : 0 < facing.gross)
    (funded : facing.cost ≤ spotLedger.free facing.balance takerSide) :
    ∃ after, execute state facing.instruction = .ok after := by
  have holds := reachable.invariant
  have solvent := reachable.solvent
  have rest := facing.resting reachable
  obtain ⟨makerBalance, makerStored⟩ := Option.ne_none_iff_exists'.mp
    (reachable.entered.seated key facing.maker facing.stored)
  obtain ⟨charge, chargeStored, -, -⟩ := holds.charged _ _ facing.marketStored
  have locked := facing.locked_le reachable makerStored
  have room := pair_fits holds solvent facing.marketStored chargeStored makerStored
    facing.balanceStored facing.own
  have capped := holds.capped config facing.configured
  have small : facing.fee ≤ facing.gross := takerFee_le _ capped
  have least : facing.gross ≤ facing.maker.price * facing.maker.remainingQuantity /
      10 ^ facing.market.baseDecimals :=
    Nat.div_le_div_right (Nat.mul_le_mul_left _ (min_le_right _ _))
  have inBase : facing.base ≤ facing.maker.remainingQuantity := min_le_right _ _
  -- Either party already holds the quote, so it fits wherever it goes.
  have fits : facing.gross ≤ u64Max := by
    have quotes := room .bid
    cases takerSide with
    | bid =>
        simp only [cost, takerCost, spotLedger] at funded
        simp only [spotLedger] at quotes
        omega
    | ask =>
        have isBid : facing.maker.side = .bid := facing.sided
        have backed := rest.bid_lock isBid
        rw [isBid] at locked
        simp only [spotLedger] at locked quotes
        omega
  obtain ⟨plan, planned⟩ := facing.settlement reachable worth fits
  have facts := calculateSettlement_facts planned
  have quote : plan.fill.quoteQuantity = facing.gross := facts.quote
  have base : plan.fill.baseQuantity = facing.base := facts.base
  have feeOk : calculateTakerFee plan.fill.quoteQuantity config.takerFeeBps = .ok facing.fee := by
    rw [quote]
    exact calculateTakerFee_total fits capped
  have settles : ∃ settled, settleBalances takerSide plan facing.fee makerBalance facing.balance =
      .ok settled := by
    have quotes := room .bid
    have bases := room .ask
    cases takerSide with
    | bid =>
        have isAsk : facing.maker.side = .ask := facing.sided
        have backed := rest.ask_lock isAsk
        have debit : plan.makerLockedDebit = facing.base := by
          rw [facts.debit, isAsk, base]
          rfl
        rw [isAsk] at locked
        simp only [cost, takerCost, spotLedger] at funded
        simp only [spotLedger] at locked quotes bases
        simp only [settleBalances, bind_eq_ok, checkedAdd_eq_ok, checkedSub_eq_ok, pure_eq_ok,
          quote, base, debit]
        exact ⟨_, _, ⟨by omega, rfl⟩, _, ⟨by omega, rfl⟩, _, ⟨by omega, rfl⟩, _, ⟨by omega, rfl⟩, _,
          ⟨by omega, rfl⟩, rfl⟩
    | ask =>
        have isBid : facing.maker.side = .bid := facing.sided
        obtain ⟨covered, within, refund⟩ := facts.bid_lock isBid
        rw [isBid] at locked
        rw [quote] at covered
        simp only [cost, takerCost, spotLedger] at funded
        simp only [spotLedger] at locked quotes bases
        simp only [settleBalances, bind_eq_ok, checkedAdd_eq_ok, checkedSub_eq_ok, pure_eq_ok,
          quote, base, refund]
        exact ⟨_, _, ⟨by omega, rfl⟩, _, ⟨by omega, rfl⟩, _, ⟨by omega, rfl⟩, _, ⟨by omega, rfl⟩, _,
          ⟨by omega, rfl⟩, _, ⟨by omega, rfl⟩, rfl⟩
  obtain ⟨settled, settles⟩ := settles
  have accrues : charge.accruedQuoteFees + facing.fee ≤ u64Max := by
    have quotes := room .bid
    cases takerSide with
    | bid =>
        simp only [cost, takerCost, spotLedger] at funded
        simp only [spotLedger] at quotes
        omega
    | ask =>
        have isBid : facing.maker.side = .bid := facing.sided
        have backed := rest.bid_lock isBid
        rw [isBid] at locked
        simp only [spotLedger] at locked quotes
        omega
  obtain ⟨after, done⟩ := handleMatchLimitOrder_total holds.spot facing.stored facing.live
    facing.found facing.first holds.charged facing.marketStored facing.active facing.best
    facing.own facing.gridded makerStored facing.balanceStored planned feeOk chargeStored
    accrues settles
  rw [facing.execute_instruction, done]
  exact ⟨{ state with spot := after }, rfl⟩

end Accepts

end Facing

/-! ## What a take leaves -/

/-- What a fill does not touch of a market's record. -/
structure Retained (before after : Market) : Prop where
  terms : SameTerms before after
  status : after.status = before.status
  number : after.nextOrderId = before.nextOrderId
  count : after.openOrderCount ≤ before.openOrderCount

theorem Retained.refl (market : Market) : Retained market market :=
  ⟨⟨rfl, rfl, rfl, rfl, rfl, le_rfl⟩, rfl, rfl, le_rfl⟩

theorem Retained.trans {first second third : Market} (before : Retained first second)
    (later : Retained second third) : Retained first third where
  terms := ⟨later.terms.baseMint.trans before.terms.baseMint,
    later.terms.quoteMint.trans before.terms.quoteMint, later.terms.tick.trans before.terms.tick,
    later.terms.lot.trans before.terms.lot, later.terms.decimals.trans before.terms.decimals,
    before.terms.nextOrderId.trans later.terms.nextOrderId⟩
  status := later.status.trans before.status
  number := later.number.trans before.number
  count := later.count.trans before.count

theorem Departure.retained {spot : Spot} {orderKey : Pubkey} (leaving : Departure spot orderKey) :
    Retained leaving.market leaving.record where
  terms := leaving.terms
  status := by
    rw [Departure.record]
    split
    · cases leaving.order.side <;> rfl
    · rfl
  number := leaving.record_nextOrderId
  count := by
    rw [leaving.record_count]
    exact Nat.sub_le _ _

section Filled

variable {spot : Spot} {config : ProtocolConfig} {taker : Wallet} {key makerKey : Pubkey}
variable {takerSide : OrderSide} {limit quantity : Nat}
variable (fill : Fill spot config taker key makerKey takerSide limit quantity)
variable (holds : SpotInvariant spot)

include holds

theorem Fill.front : fill.order.previousOrder = none :=
  (holds.books.ends fill.orderStored (spotShelf_live.mpr fill.live) fill.levelStored).1.mp fill.first

theorem Fill.top : fill.level.betterPrice = none := by
  have here : spot.levels.get (spotShelf.file fill.order.market
      (fill.order.side, fill.order.price)) = some fill.level := fill.levelStored
  refine (holds.books.top here).mp ?_
  rw [spotHeads_stored fill.stored]
  exact fill.best

theorem Fill.result_orders : ∃ written, fill.result.orders =
    (spot.orders.set makerKey written).modify
      (if fill.order.remainingQuantity ≤ quantity then fill.order.nextOrder else none)
      (Order.setPrevious none) := by
  have full := fill.facts.full
  by_cases covered : fill.order.remainingQuantity ≤ quantity
  · have front : (spotShelf.node fill.order).link.prev = none := fill.front holds
    rw [decide_eq_true covered] at full
    refine ⟨fill.order.fill true 0 0, ?_⟩
    simp only [Fill.result, full, if_true, if_pos covered, Departure.orders, Shelf.unlink,
      Shelf.relink, front, Store.modify_none]
    rfl
  · rw [decide_eq_false covered] at full
    refine ⟨fill.reduced, ?_⟩
    simp only [Fill.result, full, Bool.false_eq_true, if_false, if_neg covered, Store.modify_none]
    rfl

theorem Fill.result_levels : fill.result.levels =
    if fill.order.remainingQuantity ≤ quantity ∧ fill.level.orderCount = 1 then
      (spot.levels.erase (.priceLevel fill.order.market fill.order.side fill.order.price)).modify
        (fill.level.worsePrice.map (.priceLevel fill.order.market fill.order.side))
        (PriceLevel.setBetter none)
    else spot.levels.set (.priceLevel fill.order.market fill.order.side fill.order.price)
      { fill.level with
        orderCount := if fill.order.remainingQuantity ≤ quantity then fill.level.orderCount - 1
          else fill.level.orderCount
        totalRemainingQuantity :=
          fill.level.totalRemainingQuantity - min quantity fill.order.remainingQuantity
        firstOrder := if fill.order.remainingQuantity ≤ quantity then fill.order.nextOrder
          else fill.level.firstOrder } := by
  have full := fill.facts.full
  by_cases covered : fill.order.remainingQuantity ≤ quantity
  · rw [decide_eq_true covered] at full
    simp only [Fill.result, full, if_true, Departure.levels, covered, true_and]
    split
    · next last =>
        have top : (spotShelf.levelNode fill.level).link.prev = none := fill.top holds
        rw [Shelf.vacate_last _ last, Shelf.relevel, top]
        rfl
    · next stays =>
        obtain ⟨_, several, -, -⟩ := holds.books.alone fill.orderStored
          (spotShelf_live.mpr fill.live) fill.levelStored
        have front := fill.front holds
        have some_next : fill.order.nextOrder ≠ none :=
          (several stays).1.resolve_left fun previous => previous front
        rw [Shelf.vacate_stays _ stays, min_eq_right covered]
        simp only [vacated, PriceLevel.unlink, front, some_next, if_true, if_false]
        rfl
  · rw [decide_eq_false covered] at full
    simp only [Fill.result, full, Bool.false_eq_true, if_false, covered, false_and, fill.facts.base]

omit holds in
theorem Fill.result_market : ∃ record, fill.result.markets.get key = some record ∧
    Retained fill.market record ∧ record.best = Function.update fill.market.best fill.order.side
      (if fill.order.remainingQuantity ≤ quantity ∧ fill.level.orderCount = 1 ∧
          fill.level.betterPrice = none then
        fill.level.worsePrice else some fill.order.price) := by
  have full := fill.facts.full
  have here : Function.update fill.market.best fill.order.side (some fill.order.price) =
      fill.market.best := by
    rw [← fill.best]
    exact Function.update_eq_self _ _
  by_cases covered : fill.order.remainingQuantity ≤ quantity
  · rw [decide_eq_true covered] at full
    refine ⟨fill.toDeparture.record, ?_, fill.toDeparture.retained, ?_⟩
    · simp only [Fill.result, full, if_true, Departure.markets]
      rw [fill.home, Store.get_set_self]
    · rw [fill.toDeparture.record_best]
      simp only [covered, true_and]
      split
      · rfl
      · exact here.symm
  · rw [decide_eq_false covered] at full
    refine ⟨fill.market, ?_, .refl _, ?_⟩
    · simp only [Fill.result, full, Bool.false_eq_true, if_false]
      rw [Store.get_set_self]
    · simp only [covered, false_and, if_false]
      exact here.symm

end Filled

namespace Facing

variable {state after : State} {config : ProtocolConfig} {taker : Wallet} {takerSide : OrderSide}
variable {limit quantity : Nat} {key : Pubkey}
variable (facing : Facing state config taker takerSide limit quantity key)

/-- The fill takes the maker's level with it. -/
def Empties : Prop := facing.maker.remainingQuantity ≤ quantity ∧ facing.level.orderCount = 1

instance decidableEmpties : Decidable facing.Empties :=
  inferInstanceAs (Decidable (facing.maker.remainingQuantity ≤ quantity ∧
    facing.level.orderCount = 1))

/-- What an accepted take leaves. -/
structure Taken (after : State) : Prop where
  worth : 0 < facing.gross
  top : facing.level.betterPrice = none
  front : facing.maker.previousOrder = none
  elsewhere : after.protocol = state.protocol ∧ after.now = state.now
  market : ∃ record, after.spot.markets.get facing.maker.market = some record ∧
    Retained facing.market record ∧ record.best = Function.update facing.market.best
      facing.maker.side (if facing.Empties then facing.level.worsePrice
        else some facing.maker.price)
  orders : ∃ written, after.spot.orders = (state.spot.orders.set key written).modify
    (if facing.maker.remainingQuantity ≤ quantity then facing.maker.nextOrder else none)
    (Order.setPrevious none)
  levels : after.spot.levels = if facing.Empties then
      (state.spot.levels.erase
        (.priceLevel facing.maker.market facing.maker.side facing.maker.price)).modify
        (facing.level.worsePrice.map (.priceLevel facing.maker.market facing.maker.side))
        (PriceLevel.setBetter none)
    else state.spot.levels.set
      (.priceLevel facing.maker.market facing.maker.side facing.maker.price)
      { facing.level with
        orderCount := if facing.maker.remainingQuantity ≤ quantity then facing.level.orderCount - 1
          else facing.level.orderCount
        totalRemainingQuantity := facing.level.totalRemainingQuantity - facing.base
        firstOrder := if facing.maker.remainingQuantity ≤ quantity then facing.maker.nextOrder
          else facing.level.firstOrder }
  balance : ∃ later, after.spot.balances.get (.traderBalance facing.maker.market taker.key) =
      some later ∧
    spotLedger.free later takerSide + facing.cost = spotLedger.free facing.balance takerSide

theorem taken (reachable : Reachable state)
    (done : execute state facing.instruction = .ok after) : facing.Taken after := by
  have holds := reachable.invariant.spot
  rw [facing.execute_instruction] at done
  obtain ⟨spot, changed, rfl⟩ := onSpot_ok done
  obtain ⟨fill, rfl⟩ := handleMatchLimitOrder_ok holds changed
  have order : fill.order = facing.maker :=
    Option.some.inj (fill.orderStored.symm.trans facing.stored)
  have level : fill.level = facing.level := by
    have stored := fill.levelStored
    rw [order, facing.found, Option.some.injEq] at stored
    exact stored.symm
  have market : fill.market = facing.market := by
    have stored := fill.stored
    rw [order, facing.marketStored, Option.some.injEq] at stored
    exact stored.symm
  have balance : fill.takerBalance = facing.balance :=
    Option.some.inj (fill.takerStored.symm.trans facing.balanceStored)
  have facts := fill.facts
  have gross : fill.plan.fill.quoteQuantity = facing.gross := by
    rw [facts.quote, order, market]
    rfl
  have fee : fill.fee = facing.fee := by
    rw [(calculateTakerFee_ok fill.charged).2.1, gross]
    rfl
  have base : fill.plan.fill.baseQuantity = facing.base := by
    rw [facts.base, order]
    rfl
  have top := fill.top holds
  have worth : 0 < facing.gross := by
    rw [← gross, facts.quote]
    exact facts.quote_pos
  refine ⟨worth, level ▸ top, order ▸ fill.front holds, ⟨rfl, rfl⟩,
    ?_, ?_, ?_, ?_⟩
  · obtain ⟨record, stored, retained, best⟩ := fill.result_market
    rw [market, order, level] at best
    rw [level] at top
    refine ⟨record, stored, market ▸ retained, best.trans (congrArg _ ?_)⟩
    by_cases empties : facing.Empties
    · rw [if_pos empties, if_pos ⟨empties.1, empties.2, top⟩]
    · rw [if_neg empties, if_neg fun all => empties ⟨all.1, all.2.1⟩]
  · obtain ⟨written, orders⟩ := fill.result_orders holds
    rw [order] at orders
    exact ⟨written, orders⟩
  · have levels := fill.result_levels holds
    rw [order, level] at levels
    exact levels
  · refine ⟨fill.takerSettled, Store.get_set_self _ _ _, ?_⟩
    have settled := fill.balanced
    rw [balance] at settled
    cases takerSide with
    | bid =>
        simp only [settleBalances, bind_eq_ok, checkedAdd_eq_ok, checkedSub_eq_ok, pure_eq_ok,
          Prod.mk.injEq, gross, fee] at settled
        obtain ⟨_, ⟨-, rfl⟩, _, ⟨enough, rfl⟩, _, ⟨-, rfl⟩, _, ⟨-, rfl⟩, _, ⟨-, rfl⟩, -, isTaker⟩ :=
          settled
        rw [← isTaker]
        exact Nat.sub_add_cancel enough
    | ask =>
        simp only [settleBalances, bind_eq_ok, checkedAdd_eq_ok, checkedSub_eq_ok, pure_eq_ok,
          Prod.mk.injEq, base] at settled
        obtain ⟨_, ⟨-, rfl⟩, _, ⟨enough, rfl⟩, _, ⟨-, rfl⟩, _, ⟨-, rfl⟩, _, ⟨-, rfl⟩, _, ⟨-, rfl⟩, -,
          isTaker⟩ := settled
        rw [← isTaker]
        exact Nat.sub_add_cancel enough

end Facing

end Tidebook.Proof
