import Tidebook.Proof.SharedRemove

/-! # Shared fills -/

namespace Tidebook.Proof
open Library Program
open Shared (assetPart contractPart mintPart traded quoteShare baseShare)

/-! ## Settlement -/

@[simp] theorem Flow.add_none (flow : Flow) : flow + Flow.none = flow := rfl

@[simp] theorem Flow.none_add (flow : Flow) : Flow.none + flow = flow := by
  obtain ⟨lost, gained, out, into⟩ := flow
  change Flow.mk _ _ _ _ = _
  simp only [Flow.none, Nat.zero_add]

section Flows

variable (plan : SettlementPlan) (fee : Nat)

def makerQuote : OrderSide → Flow
  | .ask => ⟨0, 0, 0, plan.fill.quoteQuantity⟩
  | .bid => ⟨plan.makerLockedDebit, 0, plan.fill.quoteQuantity, 0⟩

def makerBase : OrderSide → Flow
  | .ask => ⟨plan.makerLockedDebit, 0, plan.fill.baseQuantity, 0⟩
  | .bid => ⟨0, 0, 0, plan.fill.baseQuantity⟩

def takerQuote : OrderSide → Flow
  | .bid => ⟨0, 0, plan.fill.quoteQuantity + fee, 0⟩
  | .ask => ⟨0, 0, 0, plan.fill.quoteQuantity - fee⟩

def takerBase : OrderSide → Flow
  | .bid => ⟨0, 0, 0, plan.fill.baseQuantity⟩
  | .ask => ⟨0, 0, plan.fill.baseQuantity, 0⟩

end Flows

theorem baseBuckets_setQuote (kind : MarketKind) (outcome : SharedOutcome) (claims : Claims)
    (free locked : Nat) :
    baseBuckets kind outcome (claims.setQuote free locked) = baseBuckets kind outcome claims := by
  cases kind <;> cases outcome <;> rfl

theorem ClaimsMove.setBoth {kind : MarketKind} {outcome : SharedOutcome} {claims : Claims}
    {quoteFree quoteLocked free locked oldFree oldLocked : Nat} {quote base : Flow}
    (buckets : baseBuckets kind outcome claims = .ok (oldFree, oldLocked))
    (quoteMoved : quoteLocked + quote.lost = claims.quote.val.locked + quote.gained)
    (quoteNet : quoteFree + quoteLocked + quote.out =
      claims.quote.val.free + claims.quote.val.locked + quote.into)
    (moved : locked + base.lost = oldLocked + base.gained)
    (net : free + locked + base.out = oldFree + oldLocked + base.into) :
    ClaimsMove outcome claims
      (setBaseBuckets outcome (claims.setQuote quoteFree quoteLocked) free locked) quote base := by
  have first := ClaimsMove.setQuote outcome quoteMoved quoteNet
  have kept := (baseBuckets_setQuote kind outcome claims quoteFree quoteLocked).trans buckets
  simpa using first.trans (ClaimsMove.setBase kept moved net)

theorem settleClaims_ok {kind : MarketKind} {outcome : SharedOutcome}
    {takerSide makerSide : OrderSide} {limit quantity price remaining locked decimals fee : Nat}
    {plan : SettlementPlan} {maker taker makerSettled takerSettled : Claims}
    (facts : SettlementFacts takerSide limit quantity makerSide price remaining locked decimals plan)
    (passed : settleClaims kind outcome takerSide plan fee maker taker =
      .ok (makerSettled, takerSettled)) :
    ClaimsMove outcome maker makerSettled (makerQuote plan makerSide) (makerBase plan makerSide) ∧
      ClaimsMove outcome taker takerSettled (takerQuote plan fee takerSide)
        (takerBase plan takerSide) ∧
      (takerSide = .ask → fee ≤ plan.fill.quoteQuantity) := by
  cases takerSide with
  | bid =>
      obtain rfl : makerSide = .ask := by
        cases makerSide
        · exact absurd rfl facts.sides
        · rfl
      have debit := facts.debit
      simp only [makerDebit] at debit
      simp only [settleClaims, bind_eq_ok, Prod.exists, checkedAdd_eq_ok, checkedSub_eq_ok,
        pure_eq_ok, Prod.mk.injEq] at passed
      obtain ⟨_, _, makerBuckets, _, _, takerBuckets, _, ⟨_, rfl⟩, _, ⟨paid, rfl⟩, _, ⟨_, rfl⟩, _,
        ⟨held, rfl⟩, _, ⟨_, rfl⟩, rfl, rfl⟩ := passed
      refine ⟨ClaimsMove.setBoth makerBuckets ?_ ?_ ?_ ?_,
        ClaimsMove.setBoth takerBuckets ?_ ?_ ?_ ?_, fun other => by cases other⟩
      all_goals simp only [makerQuote, makerBase, takerQuote, takerBase]
      all_goals omega
  | ask =>
      obtain rfl : makerSide = .bid := by
        cases makerSide
        · rfl
        · exact absurd rfl facts.sides
      obtain ⟨enough, _, refund⟩ := facts.bid_lock rfl
      simp only [settleClaims, bind_eq_ok, Prod.exists, checkedAdd_eq_ok, checkedSub_eq_ok,
        pure_eq_ok, Prod.mk.injEq] at passed
      obtain ⟨_, _, makerBuckets, _, _, takerBuckets, _, ⟨feePaid, rfl⟩, _, ⟨paid, rfl⟩, _,
        ⟨_, rfl⟩, _, ⟨_, rfl⟩, _, ⟨held, rfl⟩, _, ⟨_, rfl⟩, rfl, rfl⟩ := passed
      refine ⟨ClaimsMove.setBoth makerBuckets ?_ ?_ ?_ ?_,
        ClaimsMove.setBoth takerBuckets ?_ ?_ ?_ ?_, fun _ => feePaid⟩
      all_goals simp only [makerQuote, makerBase, takerQuote, takerBase]
      all_goals omega

/-! ## Fills -/

/-- A match that passed every check of its handler. -/
structure SharedFill (state : State) (config : ProtocolConfig) (taker : Wallet)
    (market makerKey : Pubkey) (outcome : SharedOutcome) (takerSide : OrderSide)
    (limit quantity : Nat) extends SharedDeparture state.shared makerKey where
  home : order.book = .sharedBook market
  ofMarket : book.market = market
  trading : tradingOpen state book market = .ok ()
  slot : Fin 4
  amount : Nat
  priced : Priced book outcome takerSide limit quantity slot amount
  isOutcome : order.outcome = outcome
  own : order.owner ≠ taker.key
  best : headOf book (order.outcome, order.side) = some order.price
  top : level.betterPrice = none
  first : level.firstOrder = some makerKey
  front : order.previousOrder = none
  makerClaims : Claims
  takerClaims : Claims
  makerSettled : Claims
  takerSettled : Claims
  makerHeld : ClaimsHeld state book order.owner makerClaims
  takerHeld : ClaimsHeld state book taker.key takerClaims
  plan : SettlementPlan
  fee : Nat
  settled : calculateSettlement takerSide limit quantity order.side order.price
    order.remainingQuantity order.lockedCollateral book.baseDecimals = .ok plan
  charged : calculateTakerFee plan.fill.quoteQuantity config.takerFeeBps = .ok fee
  balanced : settleClaims book.kind outcome takerSide plan fee makerClaims takerClaims =
    .ok (makerSettled, takerSettled)

namespace SharedFill

variable {state : State} {config : ProtocolConfig} {taker : Wallet} {market makerKey : Pubkey}
variable {outcome : SharedOutcome} {takerSide : OrderSide} {limit quantity : Nat}
variable (fill : SharedFill state config taker market makerKey outcome takerSide limit quantity)

def reduced (full : Bool) : SharedOrder :=
  fill.order.fill full (fill.order.remainingQuantity - fill.plan.fill.baseQuantity)
    (fill.order.lockedCollateral - fill.plan.makerLockedDebit)

def charging : SharedBook :=
  if fill.plan.makerFullyFilled then fill.headed (fill.book.accruedQuoteFees + fill.fee)
  else { fill.book with accruedQuoteFees := fill.book.accruedQuoteFees + fill.fee }

def result : State :=
  { saveClaims (saveClaims state fill.makerSettled) fill.takerSettled with
    shared := { (saveClaims (saveClaims state fill.makerSettled) fill.takerSettled).shared with
      books := state.shared.books.set (.sharedBook market) fill.charging
      orders := if fill.plan.makerFullyFilled then fill.orders (fill.reduced true)
        else state.shared.orders.set makerKey (fill.reduced false)
      levels := if fill.plan.makerFullyFilled then fill.levels
        else state.shared.levels.set
          (.sharedLevel fill.order.book fill.order.outcome fill.order.side fill.order.price)
          { fill.level with
            totalRemainingQuantity :=
              fill.level.totalRemainingQuantity - fill.plan.fill.baseQuantity } } }

theorem facts : SettlementFacts takerSide limit quantity fill.order.side fill.order.price
    fill.order.remainingQuantity fill.order.lockedCollateral fill.book.baseDecimals fill.plan :=
  calculateSettlement_facts fill.settled

theorem debit_le : fill.plan.makerLockedDebit ≤ fill.order.lockedCollateral := by
  have facts := fill.facts
  cases side : fill.order.side with
  | bid => exact (facts.bid_lock side).2.1
  | ask =>
      have debit := facts.debit
      rw [side] at debit
      have backed := (facts.ask_lock side).1
      have base := facts.base
      simp only [makerDebit] at debit
      omega

theorem debit_full (full : fill.plan.makerFullyFilled = true) :
    fill.plan.makerLockedDebit = fill.order.lockedCollateral := by
  have facts := fill.facts
  have covered : fill.order.remainingQuantity ≤ quantity := by
    have known := facts.full
    rw [full, eq_comm, decide_eq_true_iff] at known
    exact known
  have debit := facts.debit
  cases side : fill.order.side with
  | bid =>
      rw [side, full] at debit
      exact debit
  | ask =>
      rw [side] at debit
      have backed := (facts.ask_lock side).1
      have base := facts.base
      simp only [makerDebit] at debit
      omega

theorem lost : (makerQuote fill.plan fill.order.side).lost =
      quoteShare fill.order.side fill.plan.makerLockedDebit ∧
    (makerBase fill.plan fill.order.side).lost =
      baseShare fill.order.side fill.plan.makerLockedDebit := by
  cases fill.order.side <;> exact ⟨rfl, rfl⟩

theorem gained : (makerQuote fill.plan fill.order.side).gained = 0 ∧
    (makerBase fill.plan fill.order.side).gained = 0 ∧
    (takerQuote fill.plan fill.fee takerSide).lost = 0 ∧
    (takerQuote fill.plan fill.fee takerSide).gained = 0 ∧
    (takerBase fill.plan takerSide).lost = 0 ∧ (takerBase fill.plan takerSide).gained = 0 := by
  cases fill.order.side <;> cases takerSide <;> exact ⟨rfl, rfl, rfl, rfl, rfl, rfl⟩

theorem net : (makerQuote fill.plan fill.order.side).out +
      (takerQuote fill.plan fill.fee takerSide).out =
    (makerQuote fill.plan fill.order.side).into +
      (takerQuote fill.plan fill.fee takerSide).into + fill.fee ∧
    (makerBase fill.plan fill.order.side).out + (takerBase fill.plan takerSide).out =
      (makerBase fill.plan fill.order.side).into + (takerBase fill.plan takerSide).into := by
  have sides := fill.facts.sides
  have paid := (settleClaims_ok fill.facts fill.balanced).2.2
  cases maker : fill.order.side <;> cases takerSide <;>
    simp only [maker, ne_eq, not_true_eq_false, reduceCtorEq, not_false_eq_true] at sides
  · have feePaid := paid rfl
    simp only [makerQuote, makerBase, takerQuote, takerBase]
    omega
  · simp only [makerQuote, makerBase, takerQuote, takerBase]
    omega

theorem trades : Trades fill.book.kind outcome := (slot_eq_ok.mp fill.priced.slotted).1

theorem moves : ClaimsMove outcome fill.makerClaims fill.makerSettled
      (makerQuote fill.plan fill.order.side) (makerBase fill.plan fill.order.side) ∧
    ClaimsMove outcome fill.takerClaims fill.takerSettled
      (takerQuote fill.plan fill.fee takerSide) (takerBase fill.plan takerSide) := by
  obtain ⟨maker, taker, -⟩ := settleClaims_ok fill.facts fill.balanced
  exact ⟨maker, taker⟩

theorem taker_kept :
    ClaimsHeld (saveClaims state fill.makerSettled) fill.book taker.key fill.takerClaims :=
  ClaimsHeld.keep fill.own.symm fill.makerHeld fill.moves.1 fill.takerHeld

theorem assets (holds : SharedInvariant state.shared)
    (filed : assetLedger.Filed state.shared.assets) :
    assetLedger.Edit state.shared.assets
      (saveClaims (saveClaims state fill.makerSettled) fill.takerSettled).shared.assets
      (assetPart fill.book fill.order.owner fill.order.outcome
        (quoteShare fill.order.side fill.plan.makerLockedDebit)
        (baseShare fill.order.side fill.plan.makerLockedDebit)) 0
      (Ledger.single fill.book.quoteMint fun _ => fill.fee) 0 := by
  have terms := holds.terms _ _ fill.stored
  have first := saveClaims_assets terms fill.trades filed fill.makerHeld fill.moves.1
  have second := saveClaims_assets terms fill.trades (first.filed filed) fill.taker_kept
    fill.moves.2
  have both := first.trans second
  obtain ⟨makerGained, baseGained, takerLost, takerGained, baseLost, takerBaseGained⟩ := fill.gained
  obtain ⟨quoteNet, baseNet⟩ := fill.net
  simp only [fill.lost.1, fill.lost.2, makerGained, baseGained, takerLost, takerGained, baseLost,
    takerBaseGained, Shared.assetPart_zero, add_zero, ← Shared.mintPart_add, quoteNet,
    baseNet] at both
  rw [fill.isOutcome]
  refine both.rebalance fun pool bucket => ?_
  have fees := Shared.mintPart_add fill.book outcome
    ((makerQuote fill.plan fill.order.side).into + (takerQuote fill.plan fill.fee takerSide).into)
    ((makerBase fill.plan fill.order.side).into + (takerBase fill.plan takerSide).into) fill.fee 0
  rw [add_zero] at fees
  rw [fees, Shared.mintPart_quote]
  simp only [Pi.add_apply, Pi.zero_apply]
  omega

theorem contracts (filed : positionLedger.Filed state.prediction.positions) :
    positionLedger.Edit state.prediction.positions
      (saveClaims (saveClaims state fill.makerSettled) fill.takerSettled).prediction.positions
      (contractPart market fill.order.owner fill.order.outcome
        (baseShare fill.order.side fill.plan.makerLockedDebit)) 0 0 0 := by
  have first := saveClaims_positions fill.trades filed fill.makerHeld fill.moves.1
  have second := saveClaims_positions fill.trades (first.filed filed) fill.taker_kept
    fill.moves.2
  have both := first.trans second
  obtain ⟨-, baseGained, -, -, baseLost, takerBaseGained⟩ := fill.gained
  obtain ⟨-, baseNet⟩ := fill.net
  simp only [fill.lost.2, baseGained, baseLost, takerBaseGained, Shared.contractPart_zero, add_zero,
    ← Shared.single_add, ← traded_add, baseNet, fill.ofMarket] at both
  rw [fill.isOutcome]
  exact both.rebalance fun _ _ => by simp only [Pi.zero_apply]; omega

/-! ### The books -/

theorem small (partly : fill.plan.makerFullyFilled = false) :
    fill.plan.fill.baseQuantity = quantity ∧ quantity < fill.order.remainingQuantity := by
  have known := fill.facts.full
  rw [partly, eq_comm, decide_eq_false_iff_not] at known
  rw [fill.facts.base]
  omega

/-- What a partial fill leaves of its maker still rests: the floored notional of the remainder
and that of the fill together never exceed that of the whole. -/
theorem rests_partial (holds : SharedInvariant state.shared)
    (partly : fill.plan.makerFullyFilled = false) : Shared.Resting fill.book (fill.reduced false) := by
  have facts := fill.facts
  have rest := fill.rests holds
  obtain ⟨base, less⟩ := fill.small partly
  have split := quote_split fill.order.price quantity (fill.order.remainingQuantity - quantity)
    (10 ^ fill.book.baseDecimals)
  have debit := facts.debit
  have bound := rest.remaining_le
  have fits := rest.quote_fits
  rw [Nat.add_sub_cancel' less.le] at split
  simp only [reduced, SharedOrder.fill, Bool.false_eq_true, if_false]
  rw [base]
  refine ⟨rest.traded, rest.price_pos, rest.price_fits, rest.price_lt, rest.tick, rest.id_pos,
    rest.id_lt, Nat.sub_pos_of_lt less, ?_, rest.quantity_fits,
    Nat.dvd_sub rest.lot fill.priced.lot, rest.scale, ?_, fun isBid => ?_, fun isAsk => ?_, ?_,
    rest.market, rest.level⟩
  · exact le_trans (Nat.sub_le _ _) bound
  · exact le_trans (le_trans (Nat.le_add_left _ _) split) fits
  · have locked := rest.bid_lock isBid
    have quote : fill.plan.makerLockedDebit = fill.plan.fill.quoteQuantity := by
      rw [debit, show fill.order.side = .bid from isBid, partly]
      rfl
    have cost := facts.quote
    rw [min_eq_left less.le] at cost
    simp only
    omega
  · have locked := rest.ask_lock isAsk
    have all : fill.plan.makerLockedDebit = fill.plan.fill.baseQuantity := by
      rw [debit, show fill.order.side = .ask from isAsk]
      rfl
    simp only
    omega
  · exact le_trans (Nat.sub_le _ _) rest.lock_fits

theorem edit_partial (holds : SharedInvariant state.shared)
    (partly : fill.plan.makerFullyFilled = false) :
    SharedEdit state.shared fill.result.shared fill.order.book makerKey fill.book fill.charging
      (fill.reduced false) none none none none where
  stored := fill.stored
  same := by
    simp only [charging, partly, Bool.false_eq_true, if_false]
    exact ⟨rfl, rfl, rfl, le_refl _⟩
  named := holds.orders _ _ fill.orderStored
  home := rfl
  market := (fill.rests holds).market
  rests _ := by
    have same : Shared.SameTerms fill.book fill.charging := by
      simp only [charging, partly, Bool.false_eq_true, if_false]
      exact ⟨rfl, rfl, rfl, le_refl _⟩
    exact (fill.rests_partial holds partly).congr same
  books := by simp only [result, fill.home]
  orders := by
    simp only [result, partly, Bool.false_eq_true, if_false]
    rfl
  levels := by
    simp only [result, partly, Bool.false_eq_true, if_false]
    have keyed := holds.levels _ _ fill.levelStored
    exact holds.levels.set keyed
  levelHome other level present := by
    simp only [result, partly, Bool.false_eq_true, if_false, Store.get_set] at present
    split at present
    · cases present
      have home := holds.levelHome _ _ fill.levelStored
      exact home
    · exact holds.levelHome other level present
  sound := by
    obtain ⟨base, less⟩ := fill.small partly
    have small : fill.plan.fill.baseQuantity < fill.order.remainingQuantity := base.trans_lt less
    have best : headOf fill.charging = headOf fill.book := by
      simp only [charging, partly, Bool.false_eq_true, if_false]
      exact headOf_congr rfl rfl
    have same : sharedHeads (state.shared.books.set (.sharedBook market) fill.charging) =
        sharedHeads state.shared.books := by
      have stored := sharedHeads_stored fill.stored
      rw [fill.home] at stored
      rw [sharedHeads_set, best, ← stored, Function.update_eq_self]
    simp only [result, partly, Bool.false_eq_true, if_false]
    exact holds.sound.reduce fill.order (fill.reduced false) makerKey fill.orderStored
      (sharedShelf_live.mpr fill.live) small fill.levelStored rfl
      (sharedShelf_live.mpr fill.live) rfl rfl same
  counted := by
    rw [fill.orderStored, Option.elim_some]
    simp only [charging, partly, Bool.false_eq_true, if_false]
    rfl

theorem edit_full (holds : SharedInvariant state.shared)
    (full : fill.plan.makerFullyFilled = true) :
    SharedEdit state.shared fill.result.shared fill.order.book makerKey fill.book fill.charging
      (fill.reduced true) fill.order.previousOrder fill.order.nextOrder fill.order.nextOrder
      fill.order.previousOrder := by
  have record : fill.charging = fill.headed (fill.book.accruedQuoteFees + fill.fee) := by
    simp only [charging, full, if_true]
  rw [record]
  refine fill.toSharedDeparture.edit holds (by simp [reduced, SharedOrder.fill]) rfl rfl rfl ?_ ?_ ?_
  · simp only [result, record, fill.home]
  · simp only [result, full, if_true]
  · simp only [result, full, if_true]

end SharedFill

/-! ## The handler -/

theorem checkSharedMaker_ok {book : Account SharedBook} {slot : Fin 4} {outcome : SharedOutcome}
    {taker : Wallet} {maker : Account SharedOrder} {level : Account SharedPriceLevel} {done : Unit}
    (passed : checkSharedMaker book slot outcome taker maker level = .ok done) :
    (maker.val.book = book.key ∧ maker.val.status = .opened ∧
      level.key = .sharedLevel book.key maker.val.outcome maker.val.side maker.val.price) ∧
      maker.val.owner ≠ taker.key ∧ maker.val.outcome = outcome ∧
      (book.val.bestPrices (oppositeSlot slot) = some maker.val.price ∧
        level.val.betterPrice = none) ∧
      level.val.firstOrder = some maker.key ∧ maker.val.previousOrder = none := by
  simp only [checkSharedMaker, bind_eq_ok, require_eq_ok] at passed
  obtain ⟨_, valid, _, -, _, own, _, placed, _, best, front⟩ := passed
  obtain ⟨home, live, -, filed⟩ := checkSharedOrder_ok valid
  exact ⟨⟨home, live, placed.2.1.symm.trans filed⟩, own, placed.1, best, front⟩

theorem handleMatchSharedOrder_ok {state after : State} {accounts : MatchSharedOrder}
    {outcome : SharedOutcome} {takerSide : OrderSide} {limit quantity : Nat}
    (holds : SharedInvariant state.shared)
    (done : handleMatchSharedOrder state accounts outcome takerSide limit quantity = .ok after) :
    ∃ config, state.protocol.loadConfig = .ok config ∧
      ∃ fill : SharedFill state config accounts.taker accounts.market accounts.makerOrder outcome
        takerSide limit quantity, fill.result = after := by
  obtain ⟨taker, market, makerKey, levelKey, makerKeys, takerKeys, nextKey, worseKey, recipient⟩ :=
    accounts
  simp only [handleMatchSharedOrder, bind_eq_ok, load_eq_ok, loadOption_eq_ok, checkedSub_eq_ok,
    checkedAdd_eq_ok, pure_eq_ok, and_assoc, exists_eq_left, exists_and_left] at done
  obtain ⟨⟨key, book⟩, ownBook, config, hasConfig, ⟨makerKey, maker⟩, rfl, makerStored,
    ⟨levelKey, level⟩, rfl, levelStored, makerClaims, makerLoaded, takerClaims, takerLoaded, next, -, hasNext, worse, -,
    hasWorse, _, trading, ⟨slot, amount⟩, priced, _, checked, _, makerTraded, _, takerTraded,
    done⟩ := done
  obtain ⟨plan, settled, fee, charged, -, -, -, -, ⟨makerSettled, takerSettled⟩, balanced, removal,
    removed, rfl⟩ := done
  obtain ⟨filed, stored, ofMarket⟩ := loadSharedBook_ok ownBook
  obtain ⟨⟨home, live, levelFiled⟩, own, isOutcome, ⟨best, top⟩, first, front⟩ :=
    checkSharedMaker_ok checked
  have terms := orderTerms_eq_ok.mp priced
  dsimp only at *
  subst filed
  have opposite : maker.side = takerSide.opposite := by
    have sides := (calculateSettlement_facts settled).sides
    cases takerSide <;> cases makerSide : maker.side <;> simp_all [OrderSide.opposite]
  have headed : headOf book (maker.outcome, maker.side) = some maker.price := by
    rw [isOutcome, opposite, headOf_slot (slot_opposite terms.slotted)]
    exact best
  have makerHeld := claimsHeld makerLoaded makerTraded
  have takerHeld := claimsHeld takerLoaded takerTraded
  have bookStored : state.shared.books.get maker.book = some book := home ▸ stored
  have levelHere : state.shared.levels.get
    (.sharedLevel maker.book maker.outcome maker.side maker.price) = some level := by
    rwa [levelFiled, ← home] at levelStored
  refine ⟨config, hasConfig, ⟨⟨book, maker, level, bookStored, makerStored, live, levelHere⟩, home,
    ofMarket, trading, slot, amount, terms, isOutcome, own, headed, top, first, front, makerClaims,
    takerClaims, makerSettled, takerSettled, makerHeld, takerHeld, plan, fee, settled, charged,
    balanced⟩, ?_⟩
  simp only [SharedFill.result, SharedFill.charging, SharedFill.reduced]
  cases full : plan.makerFullyFilled with
  | false =>
      simp only [full, Bool.false_eq_true, if_false, reduceLevel, bind_eq_ok, require_eq_ok,
        pure_eq_ok] at removed
      obtain ⟨_, -, rfl⟩ := removed
      simp only [Bool.false_eq_true, if_false, saveOption, saveOrClose]
      rw [levelFiled, home]
  | true =>
      simp only [full, if_true] at removed
      obtain ⟨leaving, isBook, effect⟩ := removeOrder_ok holds stored makerStored levelStored
        (by simp) hasNext (by simp) hasWorse removed
      obtain rfl : leaving = ⟨book, maker, level, bookStored, makerStored, live, levelHere⟩ :=
        SharedDeparture.unique isBook effect.order effect.level
      obtain ⟨noPrevious, noBetter⟩ := removeOrder_front removed
      have orders := effect.orders (maker.fill true
        (maker.remainingQuantity - plan.fill.baseQuantity)
        (maker.lockedCollateral - plan.makerLockedDebit))
      have levels := effect.levels
      rw [noPrevious] at orders
      rw [noBetter] at levels
      simp only [if_true]
      rw [effect.book]
      congr 2
      · exact orders.symm
      · exact levels.symm

end Tidebook.Proof
