import Tidebook.Proof.Auditor
import Tidebook.Proof.Lifecycle

/-! # The journal of the spot markets

The events that any run emits replay from nothing, and what they replay to is what the spot markets
hold, but for what its owners migrated to shared wallets, which no event tells.
-/

namespace Tidebook.Proof
open Library Program

/-! ## What a write changes -/

section Writes

variable {journal : Journal} {spot : Spot} {moved : Pubkey × Pubkey → OrderSide → Nat}

theorem holdings_set {holdings : Pubkey × Pubkey → Option Holding}
    {balances : Store Pubkey TraderBalance}
    (same : ∀ holder, holdings holder =
      (balances.get (spotLedger.file holder)).map (heldBefore (moved holder)))
    (market owner : Pubkey) (changed : TraderBalance) (holder : Pubkey × Pubkey) :
    Function.update holdings (market, owner) (some (heldBefore (moved (market, owner)) changed))
        holder =
      ((balances.set (.traderBalance market owner) changed).get (spotLedger.file holder)).map
        (heldBefore (moved holder)) := by
  by_cases home : holder = (market, owner)
  · subst home
    rw [Function.update_self, show spotLedger.file (market, owner) = .traderBalance market owner
      from rfl, Store.get_set_self, Option.map_some]
  · rw [Function.update_of_ne home, same, Store.get_set_ne]
    intro filed
    exact home (spotLedger.file_injective filed)

theorem unmoved_set {balances : Store Pubkey TraderBalance}
    (unmoved : ∀ holder, balances.get (spotLedger.file holder) = none → moved holder = 0)
    (key : Pubkey) (changed : TraderBalance) (holder : Pubkey × Pubkey)
    (absent : (balances.set key changed).get (spotLedger.file holder) = none) : moved holder = 0 := by
  apply unmoved
  rw [Store.get_set] at absent
  split at absent
  · cases absent
  · exact absent

theorem openOrder_blind : spotShelf.Blind openOrder := ⟨fun _ _ => rfl, fun _ _ => rfl⟩

theorem bind_read {A : Type} (read : Order → Option A) (found : Option Order) :
    found.bind read = (found.map read).join := by
  cases found <;> rfl

theorem orders_relink {orders : Store Pubkey Order} (key : Pubkey) (written : Order)
    (previous next after before : Option Pubkey) (other : Pubkey) :
    ((spotShelf.relink (orders.set key written) previous next after before).get other).bind
        openOrder =
      Function.update (fun key => (orders.get key).bind openOrder) key (openOrder written) other := by
  rw [bind_read, Shelf.relink_map openOrder_blind, ← bind_read]
  by_cases home : other = key
  · rw [home, Store.get_set_self, Function.update_self, Option.bind_some]
  · rw [Store.get_set_ne _ _ home, Function.update_of_ne home]

/-- Reads the event of a placed order off the record that the placement wrote. -/
theorem emitOrderPlaced_relink {after : Spot} {orders : Store Pubkey Order} {key : Pubkey}
    {written : Order} {previous next ahead behind : Option Pubkey}
    (same : after.orders = spotShelf.relink (orders.set key written) previous next ahead behind) :
    emitOrderPlaced after key = some
      { market := written.market, order := key, orderId := written.orderId, owner := written.owner
        side := written.side, price := written.price, quantity := written.quantity
        lockedCollateral := written.lockedCollateral, priceLevel := written.priceLevel } := by
  unfold emitOrderPlaced
  rw [same, Shelf.relink_map ⟨fun _ _ => rfl, fun _ _ => rfl⟩, Store.get_set_self]
  rfl

theorem mints_set {mints : Pubkey → Option (Pubkey × Pubkey)} {markets : Store Pubkey Market}
    (same : ∀ key, mints key =
      (markets.get key).map fun market => (market.baseMint, market.quoteMint))
    {key : Pubkey} {market record : Market} (stored : markets.get key = some market)
    (base : record.baseMint = market.baseMint) (quote : record.quoteMint = market.quoteMint)
    (other : Pubkey) : mints other = ((markets.set key record).get other).map fun market =>
      (market.baseMint, market.quoteMint) := by
  rw [same, Store.get_set]
  split
  · next home => rw [home, stored, Option.map_some, Option.map_some, base, quote]
  · rfl

theorem fees_set {fees : Pubkey → Option Nat} {stored : Store Pubkey MarketFees}
    (same : ∀ key, fees key = (stored.get (.marketFees key)).map MarketFees.accruedQuoteFees)
    (key : Pubkey) (record : MarketFees) (other : Pubkey) :
    Function.update fees key (some record.accruedQuoteFees) other =
      ((stored.set (.marketFees key) record).get (.marketFees other)).map
        MarketFees.accruedQuoteFees := by
  by_cases home : other = key
  · rw [home, Function.update_self, Store.get_set_self, Option.map_some]
  · rw [Function.update_of_ne home, same, Store.get_set_ne]
    exact fun filed => home (Pubkey.marketFees.inj filed)

end Writes

/-! ## What each event records -/

section Records

variable {journal : Journal} {spot after : Spot} {moved : Pubkey × Pubkey → OrderSide → Nat}

theorem guard_true {condition : Prop} [Decidable condition] (holds : condition) :
    (guard condition : Option Unit) = some () := if_pos holds

theorem recordPlaced_total {event : OrderPlacedEvent} {holding locked : Holding}
    (fresh : journal.orders event.order = none)
    (held : journal.holdings (event.market, event.owner) = some holding)
    (locks : holding.lock event.side event.lockedCollateral = some locked) :
    journal.recordPlaced event = some ((journal.hold event.market event.owner locked).setOrder
      event.order (some ⟨event.market, event.orderId, event.owner, event.side, event.price,
        event.quantity, event.lockedCollateral⟩)) := by
  simp [Journal.recordPlaced, fresh, held, locks]

theorem Tells.placed (mirrors : Tells journal spot moved) {key orderKey : Pubkey}
    {market record : Market} {written : Order} {previous next ahead behind : Option Pubkey}
    (edit : SpotEdit spot after key orderKey market record written previous next ahead behind)
    (fresh : spot.orders.get orderKey = none) (opened : written.status = .opened)
    (whole : written.remainingQuantity = written.quantity) {balance changed : TraderBalance}
    (stored : spot.balances.get (.traderBalance key written.owner) = some balance)
    (move : spotLedger.Move balance changed 0 (Pi.single written.side written.lockedCollateral) 0 0)
    (balances : after.balances = spot.balances.set (.traderBalance key written.owner) changed)
    (fees : after.fees = spot.fees) :
    ∃ event, emitOrderPlaced after orderKey = some event ∧
      ∃ later, journal.recordPlaced event = some later ∧ Tells later after moved := by
  have absent : journal.orders orderKey = none := by
    rw [mirrors.orders, fresh, Option.bind_none]
  have held : journal.holdings (written.market, written.owner) =
      some (heldBefore (moved (key, written.owner)) balance) := by
    rw [edit.home, mirrors.holdings]
    exact congrArg (Option.map _) stored
  have locks := heldBefore_lock (moved (key, written.owner)) move
  refine ⟨_, emitOrderPlaced_relink edit.orders, _, recordPlaced_total absent held locks, ?_⟩
  simp only [edit.home]
  refine ⟨fun other => ?_, fun holder => ?_, fun other => ?_, fun other => ?_, fun holder => ?_⟩
  · rw [edit.markets]
    exact mints_set mirrors.mints edit.stored edit.terms.baseMint edit.terms.quoteMint other
  · rw [balances]
    exact holdings_set mirrors.holdings key written.owner changed holder
  · rw [edit.orders, orders_relink, openOrder, if_pos opened, disclosed, whole, edit.home]
    rw [← show journal.orders = fun key => (spot.orders.get key).bind openOrder from
      funext mirrors.orders]
    rfl
  · rw [fees]
    exact mirrors.fees other
  · rw [balances]
    exact unmoved_set mirrors.unmoved _ changed holder

theorem recordCanceled_total {event : OrderCanceledEvent} {holding released : Holding}
    (known : journal.orders event.order = some ⟨event.market, event.orderId, event.owner, event.side,
      event.price, event.canceledQuantity, event.releasedCollateral⟩)
    (held : journal.holdings (event.market, event.owner) = some holding)
    (unlocks : holding.unlock event.side event.releasedCollateral = some released) :
    journal.recordCanceled event = some ((journal.hold event.market event.owner released).setOrder
      event.order none) := by
  simp [Journal.recordCanceled, known, held, unlocks]

theorem Tells.canceled (mirrors : Tells journal spot moved) (holds : SpotInvariant spot)
    {owner : Wallet} {key : Pubkey} {orderId : Nat}
    (leaving : Cancellation spot owner key orderId) :
    ∃ event, emitOrderCanceled spot (.order key orderId) = some event ∧
      ∃ later, journal.recordCanceled event = some later ∧ Tells later leaving.result moved := by
  obtain ⟨market, present, rest⟩ := holds.resting _ _ leaving.orderStored leaving.live
  have edit := leaving.edit holds
  have filed : Pubkey.traderBalance key owner.key =
      .traderBalance leaving.order.market leaving.order.owner := by
    rw [leaving.home, leaving.own]
  have emits : emitOrderCanceled spot (.order key orderId) = some
      { market := leaving.order.market, order := .order key orderId
        orderId := leaving.order.orderId, owner := leaving.order.owner, side := leaving.order.side
        price := leaving.order.price, canceledQuantity := leaving.order.remainingQuantity
        releasedCollateral := leaving.order.lockedCollateral
        priceLevel := leaving.order.priceLevel
        priceLevelClosed := leaving.level.orderCount - 1 = 0 } := by
    have levelStored := leaving.levelStored
    rw [← rest.level] at levelStored
    simp [emitOrderCanceled, leaving.orderStored, levelStored]
  have known : journal.orders (.order key orderId) = some ⟨leaving.order.market,
      leaving.order.orderId, leaving.order.owner, leaving.order.side, leaving.order.price,
      leaving.order.remainingQuantity, leaving.order.lockedCollateral⟩ := by
    rw [mirrors.orders, leaving.orderStored, Option.bind_some, openOrder, if_pos leaving.live]
    rfl
  have held : journal.holdings (leaving.order.market, leaving.order.owner) =
      some (heldBefore (moved (leaving.order.market, leaving.order.owner)) leaving.balance) := by
    rw [mirrors.holdings]
    have balanceStored := leaving.balanceStored
    rw [filed] at balanceStored
    exact congrArg (Option.map _) balanceStored
  have unlocks := heldBefore_unlock (moved (leaving.order.market, leaving.order.owner))
    (unlock_ok leaving.unlock)
  refine ⟨_, emits, _, recordCanceled_total known held unlocks, ?_⟩
  refine ⟨fun other => ?_, fun holder => ?_, fun other => ?_, mirrors.fees, fun holder => ?_⟩
  · rw [edit.markets]
    exact mints_set mirrors.mints edit.stored edit.terms.baseMint edit.terms.quoteMint other
  · simp only [Cancellation.result, filed]
    exact holdings_set mirrors.holdings _ _ leaving.released holder
  · rw [edit.orders, orders_relink, openOrder, if_neg (by simp [Proof.canceled])]
    rw [← show journal.orders = fun key => (spot.orders.get key).bind openOrder from
      funext mirrors.orders]
    rfl
  · simp only [Cancellation.result]
    exact unmoved_set mirrors.unmoved _ leaving.released holder

theorem settleMaker_total {holding : Holding} {order : OpenOrder} {event : FillEvent}
    (covers : costOf order.side event.baseQuantity event.quoteQuantity ≤
      Journal.makerDebit order event)
    (enough : Journal.makerDebit order event ≤ holding.locked order.side) :
    Journal.settleMaker holding order event = some
      { free := holding.free +
          Pi.single order.side.opposite
            (costOf order.side.opposite event.baseQuantity event.quoteQuantity) +
          Pi.single order.side (Journal.makerDebit order event -
            costOf order.side event.baseQuantity event.quoteQuantity)
        locked := holding.locked - Pi.single order.side (Journal.makerDebit order event) } := by
  simp [Journal.settleMaker, covers, Holding.spend, enough, Holding.receive]

theorem settleBalances_audit {takerSide makerSide : OrderSide}
    {limit quantity price remaining locked decimals fee : Nat} {plan : SettlementPlan}
    {maker taker makerSettled takerSettled : TraderBalance}
    (facts : SettlementFacts takerSide limit quantity makerSide price remaining locked decimals plan)
    (passed : settleBalances takerSide plan fee maker taker = .ok (makerSettled, takerSettled))
    (order : OpenOrder) (event : FillEvent) (side : order.side = makerSide)
    (base : event.baseQuantity = plan.fill.baseQuantity)
    (quote : event.quoteQuantity = plan.fill.quoteQuantity) (charged : event.takerFeeQuote = fee)
    (debit : Journal.makerDebit order event = plan.makerLockedDebit)
    (makerMoved takerMoved : OrderSide → Nat) :
    Journal.settleMaker (heldBefore makerMoved maker) order event =
        some (heldBefore makerMoved makerSettled) ∧
      Journal.settleTaker (heldBefore takerMoved taker) order.side event =
        some (heldBefore takerMoved takerSettled) := by
  subst side
  cases takerSide with
  | bid =>
      have isAsk : order.side = .ask := by
        cases isSide : order.side
        · exact absurd isSide.symm facts.sides
        · rfl
      have cost := facts.debit
      simp only [isAsk, makerDebit] at cost
      simp only [settleBalances, bind_eq_ok, checkedAdd_eq_ok, checkedSub_eq_ok, pure_eq_ok,
        Prod.mk.injEq] at passed
      obtain ⟨_, ⟨_, rfl⟩, _, ⟨paid, rfl⟩, _, ⟨_, rfl⟩, _, ⟨held, rfl⟩, _, ⟨_, rfl⟩, rfl, rfl⟩ :=
        passed
      constructor
      · rw [settleMaker_total]
        · congr 1
          ext bucket <;> cases bucket <;>
            simp [debit, isAsk, costOf, base, quote, cost, heldBefore, spotLedger,
              OrderSide.opposite, Nat.add_right_comm]
        · rw [debit, isAsk, costOf, base, cost]
        · rw [debit, isAsk]
          exact held
      · simp only [Journal.settleTaker, isAsk, base, quote, charged, Holding.pay, heldBefore,
          spotLedger]
        rw [if_pos (by simp; omega)]
        simp only [Option.bind_eq_bind, Option.bind_some, Option.pure_def, Holding.receive,
          Option.some.injEq]
        ext bucket <;> cases bucket <;> simp <;> omega
  | ask =>
      have isBid : order.side = .bid := by
        cases isSide : order.side
        · rfl
        · exact absurd isSide.symm facts.sides
      obtain ⟨enough, _, refund⟩ := facts.bid_lock isBid
      simp only [settleBalances, bind_eq_ok, checkedAdd_eq_ok, checkedSub_eq_ok, pure_eq_ok,
        Prod.mk.injEq] at passed
      obtain ⟨_, ⟨feePaid, rfl⟩, _, ⟨paid, rfl⟩, _, ⟨_, rfl⟩, _, ⟨held, rfl⟩, _, ⟨_, rfl⟩, _,
        ⟨_, rfl⟩, rfl, rfl⟩ := passed
      constructor
      · rw [settleMaker_total]
        · congr 1
          ext bucket <;> cases bucket <;>
            simp [debit, isBid, costOf, base, quote, heldBefore, spotLedger, OrderSide.opposite] <;>
            omega
        · rw [debit, isBid, costOf, quote]
          exact enough
        · rw [debit, isBid]
          exact held
      · simp only [Journal.settleTaker, isBid, base, quote, charged, Holding.pay, heldBefore,
          spotLedger]
        rw [guard_true feePaid, if_pos (by simp; omega)]
        simp only [Option.bind_eq_bind, Option.bind_some, Option.pure_def, Holding.receive,
          Option.some.injEq]
        ext bucket <;> cases bucket <;> simp <;> omega

theorem recordFill_total {event : FillEvent} {order : OpenOrder}
    {maker taker makerSettled takerSettled : Holding} {fees : Nat}
    (known : journal.orders event.makerOrder = some order)
    (agrees : order.market = event.market ∧ order.orderId = event.makerOrderId ∧
      order.owner = event.maker ∧ order.side = event.makerSide ∧
      order.price = event.executionPrice ∧
      order.remaining = event.baseQuantity + event.makerRemainingQuantity ∧
      event.maker ≠ event.taker)
    (makerHeld : journal.holdings (event.market, event.maker) = some maker)
    (takerHeld : journal.holdings (event.market, event.taker) = some taker)
    (makerSettles : Journal.settleMaker maker order event = some makerSettled)
    (takerSettles : Journal.settleTaker taker order.side event = some takerSettled)
    (collected : journal.fees event.market = some fees) :
    journal.recordFill event = some ((((journal.hold event.market event.maker makerSettled).hold
      event.market event.taker takerSettled).setFees event.market
        (some (fees + event.takerFeeQuote))).setOrder event.makerOrder
      (if event.makerRemainingQuantity = 0 then none else
        some { order with
          remaining := event.makerRemainingQuantity
          locked := order.locked - Journal.makerDebit order event })) := by
  simp only [Journal.recordFill, known, Option.bind_eq_bind, Option.bind_some]
  rw [guard_true agrees]
  simp [makerHeld, takerHeld, makerSettles, takerSettles, collected]

variable {state : State} {config : ProtocolConfig} {accounts : MatchLimitOrder}
variable {takerSide : OrderSide} {limit quantity : Nat}

def Fill.event (fill : Fill spot config accounts.taker accounts.market accounts.makerOrder takerSide
    limit quantity) : FillEvent where
  market := accounts.market
  makerOrder := accounts.makerOrder
  makerOrderId := fill.order.orderId
  maker := fill.order.owner
  taker := accounts.taker.key
  makerSide := fill.order.side
  executionPrice := fill.plan.fill.executionPrice
  baseQuantity := fill.plan.fill.baseQuantity
  quoteQuantity := fill.plan.fill.quoteQuantity
  takerFeeQuote := fill.fee
  makerRemainingQuantity := fill.order.remainingQuantity - fill.plan.fill.baseQuantity
  takerRemainingQuantity := quantity - fill.plan.fill.baseQuantity

theorem Fill.emits (configured : state.protocol.loadConfig = .ok config)
    (fill : Fill state.spot config accounts.taker accounts.market accounts.makerOrder takerSide limit
      quantity) : emitFill state accounts takerSide limit quantity = some fill.event := by
  have stored := fill.stored
  rw [fill.home] at stored
  simp only [emitFill, configured, stored, fill.orderStored, fill.settled, fill.charged,
    Except.toOption, Option.bind_eq_bind, Option.bind_some, Option.pure_def]
  rfl

section Filled

variable (fill : Fill spot config accounts.taker accounts.market accounts.makerOrder takerSide limit
  quantity)

theorem Fill.exhausted :
    fill.event.makerRemainingQuantity = 0 ↔ fill.plan.makerFullyFilled = true := by
  have base := fill.facts.base
  rw [fill.facts.full, decide_eq_true_iff]
  simp only [Fill.event]
  omega

theorem Fill.makerDebit_event :
    Journal.makerDebit (disclosed fill.order) fill.event = fill.plan.makerLockedDebit := by
  have debit := fill.facts.debit
  unfold Journal.makerDebit
  simp only [disclosed]
  cases side : fill.order.side with
  | ask =>
      rw [side] at debit
      exact debit.symm
  | bid =>
      rw [side] at debit
      by_cases full : fill.plan.makerFullyFilled = true
      · rw [makerDebit, if_pos full] at debit
        dsimp only
        rw [if_pos (fill.exhausted.mpr full), debit]
      · rw [makerDebit, if_neg full] at debit
        dsimp only
        rw [if_neg (fill.exhausted.not.mpr full), debit]
        rfl

theorem Fill.openOrder_written : openOrder fill.written =
    if fill.event.makerRemainingQuantity = 0 then none else
      some { disclosed fill.order with
        remaining := fill.event.makerRemainingQuantity
        locked := fill.order.lockedCollateral - fill.plan.makerLockedDebit } := by
  unfold openOrder Fill.written
  by_cases full : fill.plan.makerFullyFilled = true
  · rw [if_pos full, if_pos (fill.exhausted.mpr full), if_neg]
    simp [Order.fill]
  · rw [if_neg full, if_neg (fill.exhausted.not.mpr full), if_pos]
    · rfl
    · exact fill.live

theorem Tells.filled (mirrors : Tells journal spot moved) (holds : SpotInvariant spot) :
    ∃ later, journal.recordFill fill.event = some later ∧ Tells later fill.result moved := by
  obtain ⟨record, previous, next, ahead, behind, edit⟩ := fill.edit holds
  have known : journal.orders accounts.makerOrder = some (disclosed fill.order) := by
    rw [mirrors.orders, fill.orderStored, Option.bind_some, openOrder, if_pos fill.live]
  have makerHeld : journal.holdings (accounts.market, fill.order.owner) =
      some (heldBefore (moved (accounts.market, fill.order.owner)) fill.makerBalance) := by
    rw [mirrors.holdings]
    exact congrArg (Option.map _) fill.makerStored
  have takerHeld : journal.holdings (accounts.market, accounts.taker.key) =
      some (heldBefore (moved (accounts.market, accounts.taker.key)) fill.takerBalance) := by
    rw [mirrors.holdings]
    exact congrArg (Option.map _) fill.takerStored
  have collected : journal.fees accounts.market = some fill.fees.accruedQuoteFees := by
    rw [mirrors.fees, fill.feesStored, Option.map_some]
  have whole : fill.order.remainingQuantity = fill.plan.fill.baseQuantity +
      (fill.order.remainingQuantity - fill.plan.fill.baseQuantity) := by
    have base := fill.facts.base
    omega
  obtain ⟨makerSettles, takerSettles⟩ := settleBalances_audit fill.facts fill.balanced
    (disclosed fill.order) fill.event rfl rfl rfl rfl fill.makerDebit_event
    (moved (accounts.market, fill.order.owner)) (moved (accounts.market, accounts.taker.key))
  refine ⟨_, recordFill_total known ⟨fill.home, rfl, rfl, rfl, fill.facts.executed.symm, whole,
    fill.own⟩ makerHeld takerHeld makerSettles takerSettles collected, ?_⟩
  refine ⟨fun other => ?_, fun holder => ?_, fun other => ?_, fun other => ?_, fun holder => ?_⟩
  · rw [edit.markets]
    exact mints_set mirrors.mints edit.stored edit.terms.baseMint edit.terms.quoteMint other
  · exact holdings_set (holdings_set mirrors.holdings accounts.market fill.order.owner
      fill.makerSettled) accounts.market accounts.taker.key fill.takerSettled holder
  · rw [edit.orders, orders_relink, fill.openOrder_written, fill.makerDebit_event]
    rw [← show journal.orders = fun key => (spot.orders.get key).bind openOrder from
      funext mirrors.orders]
    rfl
  · exact fees_set mirrors.fees accounts.market
      { fill.fees with accruedQuoteFees := fill.fees.accruedQuoteFees + fill.fee } other
  · exact unmoved_set (unmoved_set mirrors.unmoved _ fill.makerSettled) _ fill.takerSettled holder

end Filled

end Records

/-! ## Custody, markets and fees -/

section Custody

variable {journal : Journal} {spot : Spot} {moved : Pubkey × Pubkey → OrderSide → Nat}
variable {key owner mint : Pubkey} {record : Market} {side : OrderSide}

theorem sideOfMint_mintOf (different : record.baseMint ≠ record.quoteMint)
    (isMint : mint = mintOf record side) :
    sideOfMint (record.baseMint, record.quoteMint) mint = some side := by
  subst isMint
  cases side with
  | ask => exact if_pos rfl
  | bid => rw [sideOfMint, mintOf, if_neg different.symm, if_pos rfl]

theorem Tells.rebalance (mirrors : Tells journal spot moved) (market owner : Pubkey)
    (changed : TraderBalance) :
    Tells (journal.hold market owner (heldBefore (moved (market, owner)) changed))
      { spot with balances := spot.balances.set (.traderBalance market owner) changed } moved where
  mints := mirrors.mints
  holdings := holdings_set mirrors.holdings market owner changed
  orders := mirrors.orders
  fees := mirrors.fees
  unmoved := unmoved_set mirrors.unmoved _ changed

theorem Tells.crossing (mirrors : Tells journal spot moved) (canonical : Canonical spot.markets)
    {out into : Nat} (crossing : SpotCrossing spot key owner mint out into) :
    journal.mints key = some (crossing.record.baseMint, crossing.record.quoteMint) ∧
      sideOfMint (crossing.record.baseMint, crossing.record.quoteMint) mint = some crossing.side ∧
      journal.holdings (key, owner) = some (heldBefore (moved (key, owner)) crossing.balance) := by
  refine ⟨?_, ?_, ?_⟩
  · rw [mirrors.mints, crossing.stored, Option.map_some]
  · exact sideOfMint_mintOf (canonical key _ crossing.stored).2 crossing.isMint
  · rw [mirrors.holdings]
    exact congrArg (Option.map _) crossing.balanceStored

theorem Tells.deposited (mirrors : Tells journal spot moved)
    (canonical : Canonical spot.markets) (event : CustodyEvent)
    (crossing : SpotCrossing spot event.market event.owner event.mint 0 event.amount) :
    ∃ later, journal.record (.deposit event) = some later ∧
      Tells later crossing.result moved := by
  obtain ⟨mints, isSide, holding⟩ := mirrors.crossing canonical crossing
  have move := crossing.move
  rw [Pi.single_zero] at move
  refine ⟨_, ?_, mirrors.rebalance event.market event.owner crossing.changed⟩
  rw [heldBefore_receive (moved (event.market, event.owner)) move]
  simp [Journal.record, mints, isSide, holding]

theorem Tells.withdrawn (mirrors : Tells journal spot moved)
    (canonical : Canonical spot.markets) (event : CustodyEvent)
    (crossing : SpotCrossing spot event.market event.owner event.mint event.amount 0) :
    ∃ later, journal.record (.withdrawal event) = some later ∧
      Tells later crossing.result moved := by
  obtain ⟨mints, isSide, holding⟩ := mirrors.crossing canonical crossing
  have move := crossing.move
  rw [Pi.single_zero] at move
  refine ⟨_, ?_, mirrors.rebalance event.market event.owner crossing.changed⟩
  simp [Journal.record, mints, isSide, holding, heldBefore_pay (moved (event.market, event.owner))
    move]

theorem SpotCrossing.emits {owner : Wallet} {out into : Nat}
    (crossing : SpotCrossing spot key owner.key mint out into) (amount : Nat) : ∃ free,
    emitCustody crossing.result owner key mint amount = some
      ⟨key, owner.key, .traderBalance key owner.key, mint, .vault key mint, amount, free⟩ := by
  simp [emitCustody, SpotCrossing.result, crossing.stored, Store.get_set_self]

theorem mintOf_eq_iff (different : record.baseMint ≠ record.quoteMint)
    (isMint : mint = mintOf record side) (other : OrderSide) :
    mintOf record other = mint ↔ other = side := by
  subst isMint
  cases other <;> cases side <;> simp [mintOf, different, different.symm]

theorem migration_crossing {trader : Wallet} {amount : UInt64}
    (canonical : Canonical spot.markets)
    (crossing : SpotCrossing spot key trader.key mint amount.toNat 0) (holder : Pubkey × Pubkey) :
    (fun side => migration spot holder side (.migrateSpotAsset trader key mint amount)) =
      if holder = (key, trader.key) then Pi.single crossing.side amount.toNat else 0 := by
  have isSide := mintOf_eq_iff (canonical key _ crossing.stored).2 crossing.isMint
  funext side
  simp only [migration, crossing.stored, Option.map_some, Option.some.injEq, isSide]
  by_cases home : holder = (key, trader.key)
  · simp only [home, true_and, if_true, Pi.single_apply]
  · simp [home]

/-- No event tells of a migration. -/
theorem Tells.migrated (mirrors : Tells journal spot moved)
    (canonical : Canonical spot.markets) {trader : Wallet} {amount : UInt64}
    (crossing : SpotCrossing spot key trader.key mint amount.toNat 0) :
    Tells journal crossing.result fun holder side => moved holder side +
      migration spot holder side (.migrateSpotAsset trader key mint amount) := by
  have move := crossing.move
  rw [Pi.single_zero] at move
  have more := migration_crossing canonical crossing
  refine ⟨mirrors.mints, fun holder => ?_, mirrors.orders, mirrors.fees, fun holder absent => ?_⟩
  · rw [show (fun side => moved holder side +
        migration spot holder side (.migrateSpotAsset trader key mint amount)) = moved holder +
      if holder = (key, trader.key) then Pi.single crossing.side amount.toNat else 0 from
        congrArg (moved holder + ·) (more holder)]
    rw [mirrors.holdings]
    by_cases home : holder = (key, trader.key)
    · subst home
      rw [if_pos rfl]
      show _ = ((spot.balances.set (.traderBalance key trader.key) crossing.changed).get
        (.traderBalance key trader.key)).map _
      rw [Store.get_set_self, Option.map_some, heldBefore_migrate _ rfl move]
      exact congrArg (Option.map _) crossing.balanceStored
    · rw [if_neg home, add_zero]
      show _ = ((spot.balances.set (spotLedger.file (key, trader.key)) crossing.changed).get
        (spotLedger.file holder)).map _
      rw [Store.get_set_ne _ _ fun filed => home (spotLedger.file_injective filed)]
  · have still : moved holder = 0 := unmoved_set mirrors.unmoved _ crossing.changed holder absent
    have elsewhere : holder ≠ (key, trader.key) := by
      rintro rfl
      have stored : crossing.result.balances.get (spotLedger.file (key, trader.key)) =
        some crossing.changed := Store.get_set_self ..
      rw [stored] at absent
      cases absent
    have nothing := more holder
    rw [if_neg elsewhere] at nothing
    funext side
    have none_moved := congrFun still side
    have none_more := congrFun nothing side
    simp only [Pi.zero_apply] at none_moved none_more ⊢
    omega

end Custody

section Markets

variable {journal : Journal} {spot : Spot} {moved : Pubkey × Pubkey → OrderSide → Nat}
variable {key : Pubkey} {market : Market}

theorem Tells.restatus (mirrors : Tells journal spot moved)
    (stored : spot.markets.get key = some market) (status : MarketStatus) :
    Tells journal { spot with markets := spot.markets.set key { market with status := status } }
      moved where
  mints := mints_set mirrors.mints stored rfl rfl
  holdings := mirrors.holdings
  orders := mirrors.orders
  fees := mirrors.fees
  unmoved := mirrors.unmoved

theorem Tells.opened (mirrors : Tells journal spot moved)
    (absent : spot.markets.get key = none) {event : MarketInitializedEvent}
    (home : event.market = key) (record : Market) (base : record.baseMint = event.baseMint)
    (quote : record.quoteMint = event.quoteMint) (fees : MarketFees)
    (none_yet : fees.accruedQuoteFees = 0) :
    ∃ later, journal.record (.marketInitialized event) = some later ∧
      Tells later { spot with
        markets := spot.markets.set key record
        fees := spot.fees.set (.marketFees key) fees } moved := by
  subst home
  have unknown : journal.mints event.market = none := by
    rw [mirrors.mints, absent, Option.map_none]
  have records : journal.record (.marketInitialized event) =
      some ((journal.setMints event.market (some (event.baseMint, event.quoteMint))).setFees
        event.market (some 0)) := by
    simp [Journal.record, unknown]
  refine ⟨_, records, fun other => ?_, mirrors.holdings, mirrors.orders, fun other => ?_,
    mirrors.unmoved⟩
  · simp only [Journal.setMints, Journal.setFees]
    by_cases same : other = event.market
    · rw [same, Function.update_self, Store.get_set_self, Option.map_some, base, quote]
    · rw [Function.update_of_ne same, Store.get_set_ne _ _ same, mirrors.mints]
  · rw [← none_yet]
    exact fees_set mirrors.fees event.market fees other

theorem Tells.closed (mirrors : Tells journal spot moved) {fees : MarketFees}
    {event : MarketClosedEvent} (stored : spot.fees.get (.marketFees event.market) = some fees)
    (none_left : fees.accruedQuoteFees = 0) :
    ∃ later, journal.record (.marketClosed event) = some later ∧
      Tells later { spot with
        markets := spot.markets.erase event.market
        fees := spot.fees.erase (.marketFees event.market) } moved := by
  have collected : journal.fees event.market = some 0 := by
    rw [mirrors.fees, stored, Option.map_some, none_left]
  have records : journal.record (.marketClosed event) =
      some ((journal.setMints event.market none).setFees event.market none) := by
    simp [Journal.record, collected]
  refine ⟨_, records, fun other => ?_, mirrors.holdings, mirrors.orders, fun other => ?_,
    mirrors.unmoved⟩
  · simp only [Journal.setMints, Journal.setFees, Store.get_erase]
    by_cases same : other = event.market
    · rw [same, Function.update_self, if_pos rfl, Option.map_none]
    · rw [Function.update_of_ne same, if_neg same, mirrors.mints]
  · simp only [Journal.setMints, Journal.setFees, Store.get_erase, Pubkey.marketFees.injEq]
    by_cases same : other = event.market
    · rw [same, Function.update_self, if_pos rfl, Option.map_none]
    · rw [Function.update_of_ne same, if_neg same, mirrors.fees]

theorem Tells.enrolled (mirrors : Tells journal spot moved)
    {event : TraderBalanceInitializedEvent}
    (fresh : spot.balances.get (spotLedger.file (event.market, event.owner)) = none) :
    ∃ later, journal.record (.traderBalanceInitialized event) = some later ∧
      Tells later { spot with
        balances := spot.balances.set (spotLedger.file (event.market, event.owner))
          ⟨event.market, event.owner, 0, 0, 0, 0⟩ } moved := by
  have unknown : journal.holdings (event.market, event.owner) = none := by
    rw [mirrors.holdings, fresh, Option.map_none]
  have nothing : heldBefore (moved (event.market, event.owner))
      ⟨event.market, event.owner, 0, 0, 0, 0⟩ = ⟨0, 0⟩ := by
    rw [mirrors.unmoved _ fresh]
    ext side <;> cases side <;> rfl
  refine ⟨_, ?_, mirrors.rebalance event.market event.owner _⟩
  rw [nothing]
  simp [Journal.record, unknown]

theorem Tells.collected (mirrors : Tells journal spot moved) {fees : MarketFees}
    {event : ProtocolFeesWithdrawnEvent}
    (stored : spot.fees.get (.marketFees event.market) = some fees)
    (enough : event.amount ≤ fees.accruedQuoteFees)
    (rest : event.remainingAccruedQuoteFees = fees.accruedQuoteFees - event.amount) :
    ∃ later, journal.record (.protocolFeesWithdrawn event) = some later ∧
      Tells later { spot with
        fees := spot.fees.set (.marketFees event.market)
          { fees with accruedQuoteFees := fees.accruedQuoteFees - event.amount } } moved := by
  have known : journal.fees event.market = some fees.accruedQuoteFees := by
    rw [mirrors.fees, stored, Option.map_some]
  have whole : fees.accruedQuoteFees = event.amount + event.remainingAccruedQuoteFees := by omega
  have records : journal.record (.protocolFeesWithdrawn event) =
      some (journal.setFees event.market (some event.remainingAccruedQuoteFees)) := by
    simp only [Journal.record, known, Option.bind_eq_bind, Option.bind_some]
    rw [guard_true whole]
    rfl
  refine ⟨_, records, mirrors.mints, mirrors.holdings, mirrors.orders, fun other => ?_,
    mirrors.unmoved⟩
  rw [rest]
  exact fees_set mirrors.fees event.market
    { fees with accruedQuoteFees := fees.accruedQuoteFees - event.amount } other

end Markets

/-! ## Runs -/

/-- The instructions that speak of the spot markets, or move what is theirs. -/
def concernsSpot : Instruction → Bool
  | .initializeMarket .. | .closeMarket .. | .initializeTraderBalance .. | .deposit ..
  | .withdraw .. | .withdrawProtocolFees .. | .insertLimitOrder .. | .appendLimitOrder ..
  | .cancelLimitOrder .. | .matchLimitOrder .. | .migrateSpotAsset .. => true
  | _ => false

section Runs

variable {journal : Journal} {state after : State} {sent : Instruction}
variable {moved : Pubkey × Pubkey → OrderSide → Nat}

theorem Effect.mirrors_elsewhere (effect : Effect state sent after)
    (elsewhere : concernsSpot sent = false) (mirrors : Tells journal state.spot moved) :
    Tells journal after.spot moved := by
  cases effect with
  | restatus status silent stored => exact mirrors.restatus stored status
  | initializeMarket | closeMarket | initializeTraderBalance | deposit | withdraw
  | withdrawProtocolFees | insertLimitOrder | appendLimitOrder | cancelLimitOrder
  | matchLimitOrder | migrateSpotAsset => cases elsewhere
  | _ => exact mirrors

/-- The auditor's next journal, given what the instruction emits. -/
def Audited (journal : Journal) (moved : Pubkey × Pubkey → OrderSide → Nat)
    (state after : State) (sent : Instruction) : Prop :=
  ∃ later, (emitted state after sent).toList.foldlM Journal.record journal = some later ∧
    Tells later after.spot fun holder side =>
      moved holder side + migration state.spot holder side sent

theorem Audited.of_event {event : SpotEvent} (emits : emitted state after sent = some event)
    (recorded : ∃ later, journal.record event = some later ∧
      Tells later after.spot fun holder side =>
        moved holder side + migration state.spot holder side sent) :
    Audited journal moved state after sent := by
  obtain ⟨later, records, mirrors⟩ := recorded
  refine ⟨later, ?_, mirrors⟩
  rw [emits]
  simp [records]

theorem Audited.of_silence (silent : emitted state after sent = none)
    (mirrors : Tells journal after.spot fun holder side =>
      moved holder side + migration state.spot holder side sent) :
    Audited journal moved state after sent := by
  refine ⟨journal, ?_, mirrors⟩
  rw [silent]
  rfl

theorem placedOrder_emits {spot : Spot} {key : Pubkey} {market : Market} {event : OrderPlacedEvent}
    (stored : state.spot.markets.get key = some market)
    (emits : emitOrderPlaced spot (.order key market.nextOrderId) = some event) :
    (placedOrder state.spot key).bind (emitOrderPlaced spot) = some event := by
  rw [placedOrder, stored, Option.map_some, Option.bind_some, emits]

/-- Whatever an accepted instruction emits, the auditor accepts it and stays true to the chain. -/
theorem execute_follows (holds : Invariant state) (done : execute state sent = .ok after)
    (mirrors : Tells journal state.spot moved) : Audited journal moved state after sent := by
  have effect := execute_effect holds.spot holds.prediction holds.shared done
  cases sent with
  | initializeMarket authority baseMint quoteMint tick lot =>
      obtain ⟨opening, rfl⟩ := handleInitializeMarket_ok done
      exact .of_event rfl (mirrors.opened opening.absent rfl opening.market rfl rfl
        ⟨.market baseMint quoteMint, quoteMint, 0⟩ rfl)
  | pauseMarket authority market =>
      exact .of_event rfl ⟨journal, rfl, effect.mirrors_elsewhere rfl mirrors⟩
  | unpauseMarket authority market =>
      exact .of_event rfl ⟨journal, rfl, effect.mirrors_elsewhere rfl mirrors⟩
  | closeMarket authority market faucetEmpty =>
      obtain ⟨closing, rfl⟩ := handleCloseMarket_ok done
      have emits : emitMarketClosed state.spot authority market = some
          { market := market, marketFees := .marketFees market, authority := authority.key
            baseMint := closing.market.baseMint, quoteMint := closing.market.quoteMint
            baseVault := .vault market closing.market.baseMint
            quoteVault := .vault market closing.market.quoteMint } := by
        rw [emitMarketClosed, closing.stored, Option.map_some]
      exact .of_event (congrArg (Option.map _) emits)
        (mirrors.closed closing.feesStored closing.no_fees)
  | initializeTraderBalance owner market =>
      obtain ⟨_, changed, rfl⟩ := onSpot_ok done
      obtain ⟨fresh, rfl⟩ := handleInitializeTraderBalance_ok changed
      exact .of_event rfl (mirrors.enrolled fresh)
  | deposit owner market mint token amount =>
      obtain ⟨crossing, tokens, transferred, rfl⟩ := handleDeposit_ok done
      obtain ⟨free, emits⟩ := crossing.emits amount.toNat
      exact .of_event (congrArg (Option.map _) emits) (mirrors.deposited holds.canonical
        ⟨market, owner.key, _, mint, _, amount.toNat, free⟩ crossing)
  | withdraw owner market mint token amount =>
      obtain ⟨crossing, tokens, account, held, owned, transferred, rfl⟩ := handleWithdraw_ok done
      obtain ⟨free, emits⟩ := crossing.emits amount.toNat
      exact .of_event (congrArg (Option.map _) emits) (mirrors.withdrawn holds.canonical
        ⟨market, owner.key, _, mint, _, amount.toNat, free⟩ crossing)
  | withdrawProtocolFees superAdmin market destination amount =>
      obtain ⟨record, fees, tokens, stored, -, feesStored, enough, transferred, rfl⟩ :=
        handleWithdrawProtocolFees_ok done
      have emits : emitProtocolFeesWithdrawn { state.spot with
          fees := state.spot.fees.set (.marketFees market)
            { fees with accruedQuoteFees := fees.accruedQuoteFees - amount.toNat } }
          superAdmin market destination amount.toNat = some
          { market := market, marketFees := .marketFees market, superAdmin := superAdmin.key
            quoteMint := record.quoteMint, quoteVault := .vault market record.quoteMint
            destinationQuoteAccount := destination, amount := amount.toNat
            remainingAccruedQuoteFees := fees.accruedQuoteFees - amount.toNat } := by
        simp [emitProtocolFeesWithdrawn, stored, Store.get_set_self]
      exact .of_event (congrArg (Option.map _) emits) (mirrors.collected feesStored enough rfl)
  | insertLimitOrder trader market better worse side price quantity =>
      obtain ⟨_, changed, rfl⟩ := onSpot_ok done
      obtain ⟨placed, rfl⟩ := handleInsertLimitOrder_ok changed
      obtain ⟨event, emits, recorded⟩ := mirrors.placed
        (placed.edit holds.spot (uint64_fits price) (uint64_fits quantity)) placed.freshOrder rfl rfl
        placed.balanceStored (lock_ok placed.lock) rfl rfl
      exact .of_event (congrArg (Option.map _) (placedOrder_emits placed.stored emits)) recorded
  | appendLimitOrder trader market previous side price quantity =>
      obtain ⟨_, changed, rfl⟩ := onSpot_ok done
      obtain ⟨placed, rfl⟩ := handleAppendLimitOrder_ok changed
      obtain ⟨event, emits, recorded⟩ := mirrors.placed
        (placed.edit holds.spot (uint64_fits price) (uint64_fits quantity)) placed.freshOrder rfl rfl
        placed.balanceStored (lock_ok placed.lock) rfl rfl
      exact .of_event (congrArg (Option.map _) (placedOrder_emits placed.stored emits)) recorded
  | cancelLimitOrder accounts orderId =>
      obtain ⟨_, changed, rfl⟩ := onSpot_ok done
      obtain ⟨leaving, rfl⟩ := handleCancelLimitOrder_ok holds.spot changed
      obtain ⟨event, emits, recorded⟩ := mirrors.canceled holds.spot leaving
      exact .of_event (congrArg (Option.map _) emits) recorded
  | matchLimitOrder accounts takerSide limit quantity =>
      obtain ⟨config, configured, fill, rfl⟩ := execute_matchLimitOrder holds.spot done
      exact .of_event (congrArg (Option.map _) (fill.emits configured))
        (mirrors.filled fill holds.spot)
  | migrateSpotAsset owner market mint amount =>
      obtain ⟨leaving, crossing, tokens, transferred, rfl⟩ := handleMigrateSpotAsset_ok done
      exact .of_silence rfl (mirrors.migrated holds.canonical leaving)
  | _ => exact .of_silence rfl (effect.mirrors_elsewhere rfl mirrors)

theorem empty_mirrors (genesis : Genesis) :
    Tells .empty genesis.state.spot fun _ _ => 0 :=
  ⟨fun _ => rfl, fun _ => rfl, fun _ => rfl, fun _ => rfl, fun _ _ => rfl⟩

/-- The auditor follows every event of a run. -/
theorem step_follows {world : World} (holds : Invariant world.state) (event : Event)
    (mirrors : Tells journal world.state.spot moved) :
    ∃ later, (heard world.state event).foldlM Journal.record journal = some later ∧
      Tells later (world.step event).state.spot fun holder side =>
        moved holder side + unheard world.state holder side event := by
  cases event with
  | outside happened =>
      have still : (world.step (.outside happened)).state.spot = world.state.spot := by
        simp only [World.step, Event.apply]
        cases done : occur world.state happened with
        | error failure => rfl
        | ok after => exact (occur_around done).spot
      rw [still]
      exact ⟨journal, rfl, mirrors⟩
  | instruction sent =>
      simp only [heard, unheard, World.step, Event.apply]
      cases done : execute world.state sent with
      | error failure => exact ⟨journal, rfl, mirrors⟩
      | ok after => exact execute_follows holds done mirrors

theorem step_invariant {world : World} (holds : Invariant world.state) (event : Event) :
    Invariant (world.step event).state := by
  rcases step_cases world event with still | ⟨after, done, next, -⟩
  · rw [still]
    exact holds
  · rw [next]
    exact apply_preserves holds done

theorem run_follows (events : List Event) {world : World} (holds : Invariant world.state)
    (mirrors : Tells journal world.state.spot moved) :
    ∃ later, (journaled world events).foldlM Journal.record journal = some later ∧
      Tells later (world.run events).state.spot fun holder side =>
        moved holder side + migrated world holder side events := by
  induction events generalizing world journal moved with
  | nil => exact ⟨journal, rfl, mirrors⟩
  | cons event later ih =>
      obtain ⟨middle, records, follows⟩ := step_follows holds event mirrors
      obtain ⟨last, rest, truth⟩ := ih (step_invariant holds event) follows
      refine ⟨last, ?_, ?_⟩
      · rw [journaled, List.foldlM_append, records]
        exact rest
      · simp only [migrated, ← Nat.add_assoc]
        exact truth

/-- The emitted events always replay, and tell the spot markets but for the migrations. -/
theorem journal_complete (genesis : Genesis) (events : List Event) : ∃ journal,
    audit (journaled genesis.world events) = some journal ∧
      Tells journal (genesis.after events).state.spot fun holder side =>
        migrated genesis.world holder side events := by
  have initial : Tells .empty genesis.world.state.spot 0 := empty_mirrors genesis
  obtain ⟨journal, replays, mirrors⟩ := run_follows events (.genesis genesis) initial
  simp only [Pi.zero_apply, Nat.zero_add] at mirrors
  exact ⟨journal, replays, mirrors⟩

end Runs

set_option maxRecDepth 4096 in
/-- The auditor knows Alice's ask. -/
theorem journal_complete_traded : ∃ journal,
    audit (journaled Sample.start.world (Sample.funding ++ Sample.opening ++ Sample.trading)) =
      some journal ∧ (journal.orders (.order Sample.spot 1)).map OpenOrder.remaining = some 10 := by
  have facts : ((Sample.traded.spot.orders.get (.order Sample.spot 1)).bind openOrder).map
      OpenOrder.remaining = some 10 := by decide +kernel
  obtain ⟨journal, replays, tells⟩ := journal_complete Sample.start
    (Sample.funding ++ Sample.opening ++ Sample.trading)
  refine ⟨journal, replays, ?_⟩
  rw [tells.orders]
  exact facts

end Tidebook.Proof
