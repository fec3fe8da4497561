import Tidebook.Proof.EngineExit

/-! # Fills in the two engines

A match at scale one rounds nothing: the generic settlement of the shared engine and the exact one
of the legacy engine move the same amounts.
-/

namespace Tidebook.Proof
open Library Program

/-! ## Sizes -/

structure FillSize where
  quantity : Nat
  notional : Nat
  fee : Nat

def sharedFillSize (state : State) (accounts : MatchSharedOrder) (takerSide : OrderSide)
    (limitPrice quantity : Nat) : Result FillSize := do
  let book ← loadSharedBook state.shared accounts.market
  let config ← state.protocol.loadConfig
  let maker ← load state.shared.orders accounts.makerOrder
  let plan ← calculateSettlement takerSide limitPrice quantity maker.val.side maker.val.price
    maker.val.remainingQuantity maker.val.lockedCollateral book.val.baseDecimals
  let fee ← calculateTakerFee plan.fill.quoteQuantity config.takerFeeBps
  pure ⟨plan.fill.baseQuantity, plan.fill.quoteQuantity, fee⟩

def predictionFillSize (state : State) (accounts : MatchPredictionOrder) (quantity : Nat) :
    Result FillSize := do
  let config ← state.protocol.loadConfig
  let maker ← load state.prediction.orders accounts.makerOrder
  let fill := min quantity maker.val.remainingQuantity
  let notional ← checkedMul maker.val.price fill .predictionAccountingOverflow
  let fee ← calculateTakerFee notional config.takerFeeBps
  pure ⟨fill, notional, fee⟩

/-! ## Fills -/

/-- The backing is only checked: what a settlement leaves does not depend on it. -/
theorem settlePositions_agree {outcome : PredictionOutcome} {takerSide : OrderSide}
    {backing other fill notional fee : Nat} {maker taker : PredictionPosition}
    {settled also : PredictionPosition × PredictionPosition}
    (first : settlePositions outcome takerSide backing fill notional fee maker taker = .ok settled)
    (second : settlePositions outcome takerSide other fill notional fee maker taker = .ok also) :
    settled = also := by
  cases takerSide with
  | bid =>
      obtain ⟨_, -, first⟩ := bind_eq_ok.mp first
      obtain ⟨_, -, second⟩ := bind_eq_ok.mp second
      exact Except.ok.inj (first.symm.trans second)
  | ask =>
      obtain ⟨_, -, first⟩ := bind_eq_ok.mp first
      obtain ⟨_, -, second⟩ := bind_eq_ok.mp second
      exact Except.ok.inj (first.symm.trans second)

section Fill

variable {market : Pubkey} {shared legacy : State} {config : ProtocolConfig} {taker : Wallet}
variable {orderId limit quantity : Nat} {answer : PredictionOutcome} {takerSide : OrderSide}
variable (same : Coincides market shared legacy) (known : SharedInvariant shared.shared)
variable (fill : SharedFill shared config taker market (.sharedOrder (.sharedBook market) orderId)
  (sharedOutcome answer) takerSide limit quantity)

include same known

omit same in
theorem filled_book {source record : PredictionMarket} {book : SharedBook}
    {heads : PredictionOrderBook} {fees : MarketFees}
    (paired : Paired shared legacy market source record book heads fees) :
    fill.book = book ∧ fill.book.kind = .prediction ∧ QuestionTerms shared fill.book source := by
  have isBook := departed_book known fill.toSharedDeparture paired
  have kind : fill.book.kind = .prediction := by rw [isBook, paired.kind]
  exact ⟨isBook, kind, tradingOpen_question kind paired.sourceStored fill.trading⟩

theorem filled_exact :
    fill.plan.fill.baseQuantity = min quantity fill.order.remainingQuantity ∧
      fill.plan.fill.quoteQuantity =
        fill.order.price * min quantity fill.order.remainingQuantity ∧
      fill.order.price * min quantity fill.order.remainingQuantity ≤ u64Max := by
  obtain ⟨source, record, book, heads, fees, paired, -⟩ := same.books
  obtain ⟨-, -, terms⟩ := filled_book known fill paired
  have facts := fill.facts
  have quote := facts.quote
  have fits := facts.quote_fits
  rw [terms.whole, pow_zero, Nat.div_one] at quote fits
  exact ⟨facts.base, quote, fits⟩

omit known in
theorem filled_backed (holds : PredictionInvariant legacy.prediction) :
    fill.order.lockedCollateral =
      Predicted.exactBacking fill.order.side fill.order.price fill.order.remainingQuantity := by
  obtain ⟨_, -, rest⟩ := holds.resting _ _ (same.order fill.orderStored fill.live) fill.live
  exact rest.backed

theorem filled_debit (holds : PredictionInvariant legacy.prediction) :
    fill.plan.makerLockedDebit = fillDebit fill.order.side
      (min quantity fill.order.remainingQuantity)
      (fill.order.price * min quantity fill.order.remainingQuantity) := by
  obtain ⟨base, quote, -⟩ := filled_exact same known fill
  have debit := fill.facts.debit
  have full := fill.facts.full
  have backed := filled_backed same fill holds
  rw [base, quote, full] at debit
  rw [debit, fillDebit]
  cases side : fill.order.side with
  | ask => rfl
  | bid =>
      rw [side] at backed
      by_cases all : fill.order.remainingQuantity ≤ quantity
      · rw [makerDebit, if_pos (decide_eq_true all), backed, if_pos rfl, min_eq_right all]
        rfl
      · rw [makerDebit, if_neg (by simpa using all), if_pos rfl]

theorem filled_refund (holds : PredictionInvariant legacy.prediction) (sells : takerSide = .ask) :
    fill.plan.makerQuoteRefund = 0 := by
  have facts := fill.facts
  have isBid : fill.order.side = .bid := by
    cases side : fill.order.side with
    | bid => rfl
    | ask => exact absurd (sells.trans side.symm) facts.sides
  have debit := filled_debit same known fill holds
  obtain ⟨-, quote, -⟩ := filled_exact same known fill
  obtain ⟨-, -, refund⟩ := facts.bid_lock isBid
  rw [refund, debit, quote, fillDebit, if_pos isBid, Nat.sub_self]

omit same known in
theorem maker_held (holds : Invariant legacy) {key : Pubkey} {order : PredictionOrder}
    (stored : legacy.prediction.orders.get key = some order) (live : order.status = .opened)
    {position : PredictionPosition}
    (held : legacy.prediction.positions.get (.predictionPosition order.market order.owner) =
      some position) (against : takerSide ≠ order.side) :
    order.lockedCollateral ≤ heldBehind position order.outcome takerSide := by
  have locks := holds.positionLocks (order.market, order.owner) (.of order.outcome order.side)
  have own := Store.le_total (f := Predicted.lockedBy (order.market, order.owner)
    (.of order.outcome order.side)) stored
  rw [Predicted.lockedBy_live live, Ledger.single, if_pos rfl, Pi.single_eq_same] at own
  rw [Ledger.lockedOf_stored held] at locks
  have behind : heldBehind position order.outcome takerSide =
      positionLedger.locked position (.of order.outcome order.side) := by
    cases takerSide <;> cases side : order.side <;> cases order.outcome <;>
      first | rfl | exact absurd side.symm against
  omega

theorem filled_settles (holds : Invariant legacy) {quoteMint : Pubkey}
    (mint : fill.book.quoteMint = quoteMint)
    (claims : SameClaims shared.shared.assets shared.prediction.positions
      legacy.prediction.positions market quoteMint) :
    ∃ maker taking makerMoved takerMoved,
      legacy.prediction.positions.get (.predictionPosition market fill.order.owner) =
        some maker ∧
      legacy.prediction.positions.get (.predictionPosition market taker.key) = some taking ∧
      settlePositions answer takerSide fill.order.lockedCollateral
        (min quantity fill.order.remainingQuantity)
        (fill.order.price * min quantity fill.order.remainingQuantity) fill.fee maker taking =
          .ok (legacyPosition fill.makerSettled.quote.val makerMoved,
            legacyPosition fill.takerSettled.quote.val takerMoved) ∧
      SameClaims
        (saveClaims (saveClaims shared fill.makerSettled) fill.takerSettled).shared.assets
        (saveClaims (saveClaims shared fill.makerSettled) fill.takerSettled).prediction.positions
        ((legacy.prediction.positions.set (.predictionPosition market fill.order.owner)
          (legacyPosition fill.makerSettled.quote.val makerMoved)).set
          (.predictionPosition market taker.key)
          (legacyPosition fill.takerSettled.quote.val takerMoved)) market quoteMint := by
  obtain ⟨source, record, book, heads, fees, paired, -⟩ := same.books
  obtain ⟨-, kind, -⟩ := filled_book known fill paired
  obtain ⟨base, quote, -⟩ := filled_exact same known fill
  obtain ⟨-, ofMarket, -⟩ := departed_home known fill.toSharedDeparture
  have against := fill.facts.sides
  subst mint
  obtain ⟨maker, isMaker, makerHeld⟩ := claims.held kind fill.ofMarket fill.makerHeld
  obtain ⟨taking, isTaker, takerHeld⟩ := claims.held kind fill.ofMarket fill.takerHeld
  have debit := filled_debit same known fill holds.prediction
  have passed := fill.balanced
  rw [kind] at passed
  have present := same.order fill.orderStored fill.live
  have backed : fill.order.lockedCollateral ≤
      heldBehind (legacyPosition fill.makerClaims.quote.val maker)
        (legacyOutcome (sharedOutcome answer)) takerSide := by
    have isAnswer : (legacyOrder market fill.order).outcome =
        legacyOutcome (sharedOutcome answer) := congrArg legacyOutcome fill.isOutcome
    rw [← isAnswer]
    refine maker_held holds present fill.live ?_ against
    rw [show (legacyOrder market fill.order).market = market from ofMarket]
    exact makerHeld
  obtain ⟨makerMoved, takerMoved, carriedMaker, carriedTaker, settled⟩ :=
    settle_carries (sharedOutcome_traded answer) isMaker isTaker (by
      rw [debit, base, quote, fillDebit]
      cases takerSide <;> cases side : fill.order.side <;>
        first | rfl | exact absurd side.symm against)
      (filled_refund same known fill holds.prediction) backed passed
  rw [base, quote, legacyOutcome_sharedOutcome] at settled
  have first := claims.save kind fill.ofMarket fill.makerHeld carriedMaker
  exact ⟨_, _, makerMoved, takerMoved, makerHeld, takerHeld, settled,
    first.save kind fill.ofMarket fill.taker_kept carriedTaker⟩

omit same in
theorem filled_terms {source record : PredictionMarket} {book : SharedBook}
    {heads : PredictionOrderBook} {fees : MarketFees}
    (paired : Paired shared legacy market source record book heads fees) :
    fill.charging.kind = .prediction ∧ fill.charging.quoteMint = book.quoteMint := by
  obtain ⟨isBook, kind, -⟩ := filled_book known fill paired
  rw [SharedFill.charging]
  split
  · refine ⟨(fill.headed_same _).kind.trans kind, ?_⟩
    rw [SharedDeparture.headed, ← isBook]
    split <;> rfl
  · exact ⟨kind, isBook ▸ rfl⟩

variable (entered : PredictionFill legacy.prediction legacy.now config taker market
  (.predictionOrder market orderId) answer takerSide limit quantity)

theorem entered_fee : entered.fee = fill.fee := by
  have isOrder := departed_order same fill.toSharedDeparture entered.toPredictionDeparture
  obtain ⟨-, quote, -⟩ := filled_exact same known fill
  have charged := entered.charged
  rw [isOrder, show (legacyOrder market fill.order).price = fill.order.price from rfl,
    show (legacyOrder market fill.order).remainingQuantity = fill.order.remainingQuantity from rfl,
    ← quote] at charged
  exact Except.ok.inj (charged.symm.trans fill.charged)

theorem entered_reduced (holds : PredictionInvariant legacy.prediction) :
    entered.reduced false = legacyOrder market (fill.reduced false) := by
  have isOrder := departed_order same fill.toSharedDeparture entered.toPredictionDeparture
  obtain ⟨base, -, -⟩ := filled_exact same known fill
  have debit := filled_debit same known fill holds
  rw [PredictionFill.reduced, SharedFill.reduced, PredictionFill.debit, PredictionFill.filled,
    isOrder, base, debit]
  rfl

theorem entered_level (partThere : ¬entered.order.remainingQuantity ≤ quantity)
    (partly : fill.plan.makerFullyFilled = false) :
    legacyLevels entered.result.levels market = sharedLevels fill.result.shared.levels market := by
  obtain ⟨isOrder, isLevel⟩ := departed_records same known fill.toSharedDeparture
    entered.toPredictionDeparture
  obtain ⟨base, -, -⟩ := filled_exact same known fill
  obtain ⟨home, ofMarket, -⟩ := departed_home known fill.toSharedDeparture
  have isAnswer := fill.isOutcome
  have reduced := legacyLevels_set market legacy.prediction.levels
    ((answer, fill.order.side), fill.order.price)
    { legacyLevel market fill.level with
      totalRemainingQuantity := fill.level.totalRemainingQuantity -
        min quantity fill.order.remainingQuantity }
  have also := sharedLevels_set market shared.shared.levels
    ((answer, fill.order.side), fill.order.price)
    { fill.level with
      totalRemainingQuantity := fill.level.totalRemainingQuantity -
        min quantity fill.order.remainingQuantity }
  simp only [PredictionFill.result, if_neg partThere, SharedFill.result, partly,
    Bool.false_eq_true, if_false]
  simp only [PredictionFill.filled, isOrder, isLevel, base, legacyOrder, ofMarket, isAnswer,
    legacyOutcome_sharedOutcome, home]
  refine reduced.trans (Eq.trans ?_ also.symm)
  rw [same.levels]
  rfl

theorem same_fill (holds : PredictionInvariant legacy.prediction) {makerMoved takerMoved}
    (isMaker : entered.makerSettled = legacyPosition fill.makerSettled.quote.val makerMoved)
    (isTaker : entered.takerSettled = legacyPosition fill.takerSettled.quote.val takerMoved)
    (moved : ∀ quoteMint, fill.book.quoteMint = quoteMint → SameClaims
      (saveClaims (saveClaims shared fill.makerSettled) fill.takerSettled).shared.assets
      (saveClaims (saveClaims shared fill.makerSettled) fill.takerSettled).prediction.positions
      ((legacy.prediction.positions.set (.predictionPosition market fill.order.owner)
        (legacyPosition fill.makerSettled.quote.val makerMoved)).set
        (.predictionPosition market taker.key)
        (legacyPosition fill.takerSettled.quote.val takerMoved)) market quoteMint) :
    Coincides market fill.result { legacy with prediction := entered.result } := by
  obtain ⟨source, record, book, heads, fees, paired, rules, sameBook, -⟩ := same.books
  obtain ⟨isBook, -, -⟩ := filled_book known fill paired
  obtain ⟨kind, mint⟩ := filled_terms known fill paired
  obtain ⟨isOrder, isLevel⟩ := departed_records same known fill.toSharedDeparture
    entered.toPredictionDeparture
  obtain ⟨base, -, -⟩ := filled_exact same known fill
  have isFee := entered_fee same known fill entered
  have isFees : entered.fees = fees :=
    Option.some.inj (entered.feesStored.symm.trans paired.feesStored)
  have stored := entered.stored
  have bookStored := entered.bookStored
  rw [entered.home] at stored bookStored
  have isRecord : entered.market = record :=
    Option.some.inj (stored.symm.trans paired.recordStored)
  have isHeads : entered.book = heads :=
    Option.some.inj (bookStored.symm.trans paired.headsStored)
  have filled : fill.plan.makerFullyFilled = true ↔ fill.order.remainingQuantity ≤ quantity := by
    rw [fill.facts.full, decide_eq_true_iff]
  have accrued : fees.accruedQuoteFees + fill.fee = fill.book.accruedQuoteFees + fill.fee := by
    rw [sameBook.fees, isBook]
  have owners : entered.order.owner = fill.order.owner := by
    rw [isOrder]
    rfl
  have remains : entered.order.remainingQuantity = fill.order.remainingQuantity := by
    rw [isOrder]
    rfl
  have claims : SameClaims fill.result.shared.assets fill.result.prediction.positions
      entered.result.positions market fill.charging.quoteMint := by
    rw [mint, PredictionFill.result, isMaker, isTaker, owners]
    exact moved book.quoteMint (by rw [isBook])
  by_cases full : fill.order.remainingQuantity ≤ quantity
  · have done := filled.mpr full
    have fullThere : entered.order.remainingQuantity ≤ quantity := remains ▸ full
    have gone : (fill.reduced true).status ≠ .opened := by
      simp [SharedFill.reduced, SharedOrder.fill]
    have left : (entered.reduced true).status ≠ .opened := by
      simp [PredictionFill.reduced, PredictionOrder.fill]
    refine
      { now := same.now
        config := same.config
        books := ⟨source, { record with openOrderCount := record.openOrderCount - 1 },
          fill.charging, entered.headed,
          { fees with accruedQuoteFees := fees.accruedQuoteFees + fill.fee }, ?_,
          ⟨rules.status, rules.closeTs, rules.payout, rules.tick⟩, ?_, claims⟩
        orders := ?_
        levels := ?_ }
    · refine ⟨paired.sourceStored, Store.get_set_self _ _ _, kind, ?_, ?_, ?_⟩
      · simp only [PredictionFill.result, if_pos fullThere, PredictionDeparture.markets,
          entered.home, isRecord, Store.get_set_self]
      · simp only [PredictionFill.result, if_pos fullThere, PredictionDeparture.books,
          entered.home, Store.get_set_self]
      · simp only [PredictionFill.result, isFees, isFee, Store.get_set_self]
    · rw [SharedFill.charging, if_pos done]
      exact departed_heads same known fill.toSharedDeparture entered.toPredictionDeparture paired
        sameBook accrued
    · simp only [PredictionFill.result, if_pos fullThere, SharedFill.result, if_pos done]
      exact departed_orders same known fill.toSharedDeparture entered.toPredictionDeparture gone left
    · simp only [PredictionFill.result, if_pos fullThere, SharedFill.result, if_pos done]
      exact departed_levels same known fill.toSharedDeparture entered.toPredictionDeparture
  · have partly : ¬fill.plan.makerFullyFilled = true := filled.not.mpr full
    have partThere : ¬entered.order.remainingQuantity ≤ quantity := remains ▸ full
    refine
      { now := same.now
        config := same.config
        books := ⟨source, record, fill.charging, heads,
          { fees with accruedQuoteFees := fees.accruedQuoteFees + fill.fee }, ?_, rules, ?_, claims⟩
        orders := ?_
        levels := entered_level same known fill entered partThere (Bool.eq_false_of_not_eq_true partly) }
    · refine ⟨paired.sourceStored, Store.get_set_self _ _ _, kind, ?_, ?_, ?_⟩
      · simp only [PredictionFill.result, if_neg partThere, isRecord, Store.get_set_self]
      · simp only [PredictionFill.result, if_neg partThere, isHeads, Store.get_set_self]
      · simp only [PredictionFill.result, isFees, isFee, Store.get_set_self]
    · rw [SharedFill.charging, if_neg partly, isBook]
      exact .of_heads (sameBook.heads.trans (congrArg (· ∘ sharedList) (headOf_congr rfl rfl).symm))
        sameBook.nextOrderId sameBook.openOrderCount (congrArg (· + fill.fee) sameBook.fees)
    · simp only [PredictionFill.result, if_neg partThere, SharedFill.result, if_neg partly]
      rw [legacyOpen_set, sharedOpen_set, same.orders, entered_reduced same known fill entered holds]
      rfl

omit same known in
theorem filled_cross : takerSide.NoLater limit fill.order.price := by
  have cross := fill.facts.cross
  cases takerSide <;> simpa [pricesCross, OrderSide.NoLater] using cross

/-- The legacy engine accepts the same fill with the stored accounts of the maker. -/
theorem filled_accepted (holds : Invariant legacy)
    (accrues : fill.book.accruedQuoteFees + fill.fee ≤ u64Max)
    {position taking settledMaker settledTaker : PredictionPosition}
    (makerStored : legacy.prediction.positions.get
      (.predictionPosition market fill.order.owner) = some position)
    (takerStored : legacy.prediction.positions.get (.predictionPosition market taker.key) =
      some taking)
    (settles : settlePositions answer takerSide fill.order.lockedCollateral
      (min quantity fill.order.remainingQuantity)
      (fill.order.price * min quantity fill.order.remainingQuantity) fill.fee position taking =
        .ok (settledMaker, settledTaker)) :
    ∃ reached, handleMatchPredictionOrder legacy.prediction legacy.now config
      (predictionTake (legacyOrder market fill.order) (legacyLevel market fill.level) taker
        (.predictionOrder market orderId) quantity) answer takerSide limit quantity =
          .ok reached := by
  obtain ⟨source, record, book, heads, fees, paired, rules, sameBook, -⟩ := same.books
  obtain ⟨isBook, kind, question⟩ := filled_book known fill paired
  obtain ⟨-, quote, fits⟩ := filled_exact same known fill
  obtain ⟨-, ofMarket, -⟩ := departed_home known fill.toSharedDeparture
  have there : (legacyOrder market fill.order).market = market := ofMarket
  have answered : (legacyOrder market fill.order).outcome = answer := by
    rw [legacyOrder, fill.isOutcome, legacyOutcome_sharedOutcome]
  have present := same.order fill.orderStored fill.live
  have placed := departed_level same known fill.toSharedDeparture
  have priced := fill.priced
  have first : (legacyLevel market fill.level).firstOrder = some (.predictionOrder market orderId) :=
    congrArg (Option.map (legacyKey market)) fill.first
  have best : heads.bestPrice answer fill.order.side = some fill.order.price := by
    have best := fill.best
    rw [fill.isOutcome, isBook] at best
    exact (sameBook.best answer fill.order.side).trans best
  have charged : calculateTakerFee (fill.order.price * min quantity fill.order.remainingQuantity)
      config.takerFeeBps = .ok fill.fee := by
    rw [← quote]
    exact fill.charged
  have before : legacy.now < record.closeTs := by
    rw [same.now, rules.closeTs]
    exact question.before
  have recordThere : legacy.prediction.markets.get (legacyOrder market fill.order).market =
      some record := by
    rw [there]
    exact paired.recordStored
  have headsThere : legacy.prediction.books.get
      (.predictionBook (legacyOrder market fill.order).market) = some heads := by
    rw [there]
    exact paired.headsStored
  have feesThere : legacy.prediction.fees.get
      (.marketFees (legacyOrder market fill.order).market) = some fees := by
    rw [there]
    exact paired.feesStored
  have makerThere : legacy.prediction.positions.get
      (.predictionPosition (legacyOrder market fill.order).market fill.order.owner) =
        some position := by
    rw [there]
    exact makerStored
  have takerThere : legacy.prediction.positions.get
      (.predictionPosition (legacyOrder market fill.order).market taker.key) = some taking := by
    rw [there]
    exact takerStored
  have bestThere : heads.bestPrice (legacyOrder market fill.order).outcome fill.order.side =
      some fill.order.price := by
    rw [answered]
    exact best
  have settlesThere : settlePositions (legacyOrder market fill.order).outcome takerSide
      fill.order.lockedCollateral (min quantity fill.order.remainingQuantity)
      (fill.order.price * min quantity fill.order.remainingQuantity) fill.fee position taking =
        .ok (settledMaker, settledTaker) := by
    rw [answered]
    exact settles
  have accepted := handleMatchPredictionOrder_total holds.prediction present fill.live placed
    headsThere bestThere first holds.accounts.filed holds.questions recordThere
    ⟨rules.status.trans question.opened, before⟩ priced.quantity_pos
    ⟨priced.price_pos, by rw [rules.payout, ← question.payout]; exact priced.price_lt kind,
      by rw [rules.tick, ← question.tick]; exact priced.tick_pos,
      by rw [rules.tick, ← question.tick]; exact priced.tick⟩
    fill.own fill.facts.sides.symm (filled_cross fill) makerThere takerThere fits charged feesThere
    (by rw [sameBook.fees, ← isBook]; exact accrues) settlesThere
  rw [answered] at accepted
  exact accepted

/-- Wherever the legacy engine ends with the same fill, the two engines stand at the same point. -/
theorem filled_coincides (holds : Invariant legacy) {accounts : MatchPredictionOrder}
    {reached : Prediction} (byTaker : accounts.taker = taker) (atMarket : accounts.market = market)
    (ofMaker : accounts.makerOrder = .predictionOrder market orderId)
    (accepted : handleMatchPredictionOrder legacy.prediction legacy.now config accounts answer
      takerSide limit quantity = .ok reached)
    {position taking makerMoved takerMoved : PredictionPosition}
    (makerStored : legacy.prediction.positions.get
      (.predictionPosition market fill.order.owner) = some position)
    (takerStored : legacy.prediction.positions.get (.predictionPosition market taker.key) =
      some taking)
    (settles : settlePositions answer takerSide fill.order.lockedCollateral
      (min quantity fill.order.remainingQuantity)
      (fill.order.price * min quantity fill.order.remainingQuantity) fill.fee position taking =
        .ok (legacyPosition fill.makerSettled.quote.val makerMoved,
          legacyPosition fill.takerSettled.quote.val takerMoved))
    (moved : ∀ quoteMint, fill.book.quoteMint = quoteMint → SameClaims
      (saveClaims (saveClaims shared fill.makerSettled) fill.takerSettled).shared.assets
      (saveClaims (saveClaims shared fill.makerSettled) fill.takerSettled).prediction.positions
      ((legacy.prediction.positions.set (.predictionPosition market fill.order.owner)
        (legacyPosition fill.makerSettled.quote.val makerMoved)).set
        (.predictionPosition market taker.key)
        (legacyPosition fill.takerSettled.quote.val takerMoved)) market quoteMint) :
    Coincides market fill.result { legacy with prediction := reached } := by
  obtain ⟨_, _, _, _, _, _⟩ := accounts
  dsimp only at byTaker atMarket ofMaker
  subst byTaker atMarket ofMaker
  obtain ⟨entered, rfl⟩ := handleMatchPredictionOrder_ok holds.prediction accepted
  have present := same.order fill.orderStored fill.live
  have isEntered : entered.order = legacyOrder _ fill.order :=
    Option.some.inj (entered.orderStored.symm.trans present)
  have makerThere := entered.makerStored
  have paid := entered.settled
  rw [isEntered] at makerThere paid
  rw [Option.some.inj (makerThere.symm.trans makerStored),
    Option.some.inj (entered.takerStored.symm.trans takerStored),
    entered_fee same known fill entered] at paid
  obtain ⟨isMaker, isTaker⟩ := Prod.mk.inj (settlePositions_agree paid settles)
  exact same_fill same known fill entered holds.prediction isMaker isTaker moved

end Fill

/-! ## The handlers -/

def legacyTake (accounts : MatchSharedOrder) : MatchPredictionOrder where
  taker := accounts.taker
  market := accounts.market
  makerOrder := legacyKey accounts.market accounts.makerOrder
  nextOrder := accounts.nextOrder.map (legacyKey accounts.market)
  worseLevel := accounts.worseLevel.map (legacyKey accounts.market)
  levelRentRecipient := accounts.levelRentRecipient

theorem legacyTake_take {maker : SharedOrder} {level : SharedPriceLevel}
    {answer : PredictionOutcome} (taker : Wallet) (makerClaims takerClaims : ClaimKeys)
    (quantity : Nat) (home : maker.book = .sharedBook maker.market)
    (isAnswer : maker.outcome = sharedOutcome answer) :
    legacyTake (sharedTake maker level taker makerClaims takerClaims quantity) =
      predictionTake (legacyOrder maker.market maker) (legacyLevel maker.market level) taker
        (.predictionOrder maker.market maker.orderId) quantity := by
  simp only [legacyTake, sharedTake, predictionTake, home, isAnswer, legacyOrder, legacyLevel,
    legacyOutcome_sharedOutcome, apply_ite (Option.map (legacyKey maker.market)), legacyKey_levels,
    Option.map_none]
  rfl

section Match

variable {market : Pubkey} {shared after legacy : State}
variable (same : Coincides market shared legacy) (known : SharedInvariant shared.shared)
variable (holds : Invariant legacy)

include same known holds

theorem match_coincides {accounts : MatchSharedOrder} {outcome : SharedOutcome}
    {takerSide : OrderSide} {limit quantity : UInt64} (home : accounts.market = market)
    (done : execute shared (.matchSharedOrder accounts outcome takerSide limit quantity) =
      .ok after) : ∃ reached size,
    execute legacy (.matchPredictionOrder (legacyTake accounts) (legacyOutcome outcome) takerSide
      limit quantity) = .ok reached ∧ Coincides market after reached ∧
    sharedFillSize shared accounts takerSide limit.toNat quantity.toNat = .ok size ∧
    predictionFillSize legacy (legacyTake accounts) quantity.toNat = .ok size := by
  obtain ⟨source, record, book, heads, fees, paired, rules, sameBook, claims⟩ := same.books
  obtain ⟨maker, level, _, config, plan, fee, makerStored, levelStored, stored, hasConfig, settled,
    charged, accrues, given⟩ := handleMatchSharedOrder_given done
  rw [home, paired.bookStored, Option.some.injEq] at stored
  subst stored
  obtain ⟨_, hasConfig', fill, rfl⟩ := handleMatchSharedOrder_ok known done
  cases hasConfig.symm.trans hasConfig'
  have inBook := known.orderHome _ maker makerStored
  obtain ⟨taker, marketKey, makerKey, levelKey, makerKeys, takerKeys, nextKey, worseKey, recipient⟩ :=
    accounts
  obtain ⟨-, ofMarket, isMaker, -⟩ := (MatchSharedOrder.mk.injEq ..).mp given
  obtain rfl : marketKey = market := home
  rw [inBook, ← ofMarket] at isMaker makerStored levelStored
  subst isMaker ofMarket
  dsimp only at fill
  have sameOrder : fill.order = maker :=
    Option.some.inj (fill.orderStored.symm.trans makerStored)
  have sameLevel : fill.level = level := by
    have stored := fill.levelStored
    rw [sameOrder, inBook] at stored
    exact Option.some.inj (stored.symm.trans levelStored)
  obtain ⟨answer, isAnswer⟩ := departed_outcome same known fill.toSharedDeparture
  obtain rfl : outcome = sharedOutcome answer := fill.isOutcome.symm.trans isAnswer
  obtain ⟨isBook, kind, question⟩ := filled_book known fill paired
  obtain ⟨base, quote, fits⟩ := filled_exact same known fill
  have isPlan : fill.plan = plan := by
    have computed := fill.settled
    rw [sameOrder, isBook] at computed
    exact Except.ok.inj (computed.symm.trans settled)
  have isFee : fill.fee = fee := by
    have taken := fill.charged
    rw [isPlan] at taken
    exact Except.ok.inj (taken.symm.trans charged)
  obtain ⟨position, taking, makerMoved, takerMoved, makerThere, takerThere, settles, moved⟩ :=
    filled_settles same known fill holds rfl (isBook ▸ claims)
  obtain ⟨reached, accepted⟩ := filled_accepted same known fill holds
    (by rw [isBook, isFee]; exact accrues) makerThere takerThere settles
  have ofMaker : (legacyOrder maker.market fill.order).market = maker.market := by
    rw [sameOrder]
    rfl
  have matched : Coincides maker.market fill.result { legacy with prediction := reached } :=
    filled_coincides same known fill holds rfl ofMaker rfl accepted makerThere takerThere settles
      fun quoteMint mint => mint ▸ moved
  rw [sameOrder] at accepted base quote fits isAnswer
  rw [sameLevel] at accepted
  have sent : legacyTake ⟨taker, maker.market, .sharedOrder (.sharedBook maker.market) maker.orderId,
      levelKey, makerKeys, takerKeys, nextKey, worseKey, recipient⟩ =
        predictionTake (legacyOrder maker.market maker) (legacyLevel maker.market level) taker
          (.predictionOrder maker.market maker.orderId) quantity.toNat := by
    rw [given]
    exact legacyTake_take taker makerKeys takerKeys quantity.toNat inBook isAnswer
  have hasBook : loadSharedBook shared.shared maker.market =
      .ok ⟨.sharedBook maker.market, book⟩ := by
    simp only [loadSharedBook, bind_eq_ok, load_eq_ok, require_eq_ok, pure_eq_ok]
    exact ⟨_, ⟨rfl, paired.bookStored⟩, (), isBook ▸ fill.ofMarket, rfl⟩
  have live : maker.status = .opened := sameOrder ▸ fill.live
  have present := same.order makerStored live
  have charge : calculateTakerFee (maker.price * min quantity.toNat maker.remainingQuantity)
      config.takerFeeBps = .ok fee := by
    rw [← quote, isPlan]
    exact charged
  refine ⟨_, ⟨plan.fill.baseQuantity, plan.fill.quoteQuantity, fee⟩, ?_, matched, ?_, ?_⟩
  · rw [execute, same.config, hasConfig, sent, legacyOutcome_sharedOutcome]
    exact congrArg (onPrediction legacy) accepted
  · simp only [sharedFillSize, bind_eq_ok, load_eq_ok, pure_eq_ok]
    exact ⟨_, hasBook, config, hasConfig, ⟨_, maker⟩, ⟨rfl, makerStored⟩, plan, settled, fee, charged,
      rfl⟩
  · simp only [predictionFillSize, bind_eq_ok, load_eq_ok, checkedMul_eq_ok, pure_eq_ok]
    exact ⟨config, same.config.trans hasConfig, ⟨_, legacyOrder maker.market maker⟩, ⟨rfl, present⟩,
      _, ⟨fits, rfl⟩, fee, charge, by rw [← isPlan, base, quote]; rfl⟩

end Match

end Tidebook.Proof
