import Tidebook.Proof.EnginePlace

/-! # Departures in the two engines

An order that leaves the shared book leaves the legacy one with the same neighbours: when its owner
cancels it, and when a taker fills it.
-/

namespace Tidebook.Proof
open Library Program

/-! ## Departures -/

section Departures

variable {market : Pubkey} {shared legacy : State} {orderId : Nat}
variable (same : Coincides market shared legacy) (known : SharedInvariant shared.shared)
variable (leaving : SharedDeparture shared.shared (.sharedOrder (.sharedBook market) orderId))

include same known leaving

omit same in
theorem departed_home : leaving.order.book = .sharedBook market ∧
    leaving.order.market = market ∧ leaving.order.orderId = orderId :=
  shared_home known leaving.orderStored

omit same in
theorem departed_book {source record : PredictionMarket} {book : SharedBook}
    {heads : PredictionOrderBook} {fees : MarketFees}
    (paired : Paired shared legacy market source record book heads fees) : leaving.book = book := by
  have stored := leaving.stored
  rw [(departed_home known leaving).1] at stored
  exact Option.some.inj (stored.symm.trans paired.bookStored)

theorem departed_outcome : ∃ answer, leaving.order.outcome = sharedOutcome answer := by
  obtain ⟨source, record, book, heads, fees, paired, -⟩ := same.books
  have isBook := departed_book known leaving paired
  exact question_outcome ((congrArg SharedBook.kind isBook).trans paired.kind)
    (leaving.rests known).traded

theorem departed_level : legacy.prediction.levels.get
    (.predictionLevel (legacyOrder market leaving.order).market
      (legacyOrder market leaving.order).outcome (legacyOrder market leaving.order).side
      (legacyOrder market leaving.order).price) = some (legacyLevel market leaving.level) := by
  obtain ⟨home, isMarket, -⟩ := departed_home known leaving
  obtain ⟨answer, isAnswer⟩ := departed_outcome same known leaving
  have stored := leaving.levelStored
  have present := same.level ((answer, leaving.order.side), leaving.order.price)
  rw [home, isAnswer] at stored
  rw [show shared.shared.levels.get (sharedPlace (.sharedBook market)
    ((answer, leaving.order.side), leaving.order.price)) = some leaving.level from stored] at present
  simp only [legacyOrder, isMarket, isAnswer, legacyOutcome_sharedOutcome]
  exact present

variable (entered : PredictionDeparture legacy.prediction (.predictionOrder market orderId))

omit known in
theorem departed_order : entered.order = legacyOrder market leaving.order :=
  Option.some.inj (entered.orderStored.symm.trans (same.order leaving.orderStored leaving.live))

theorem departed_records : entered.order = legacyOrder market leaving.order ∧
    entered.level = legacyLevel market leaving.level := by
  have isOrder := departed_order same leaving entered
  have stored := entered.levelStored
  rw [isOrder, departed_level same known leaving, Option.some.injEq] at stored
  exact ⟨isOrder, stored.symm⟩

theorem departed_orders {gone : SharedOrder} {left : PredictionOrder}
    (goneClosed : gone.status ≠ .opened) (leftClosed : left.status ≠ .opened) :
    legacyOpen (entered.orders left) market = sharedOpen (leaving.orders gone) market := by
  obtain ⟨isOrder, -⟩ := departed_records same known leaving entered
  rw [PredictionDeparture.orders, isOrder]
  exact same_unlink known leaving.orderStored leaving.live same.orders goneClosed leftClosed

theorem departed_levels :
    legacyLevels entered.levels market = sharedLevels leaving.levels market := by
  obtain ⟨isOrder, isLevel⟩ := departed_records same known leaving entered
  obtain ⟨answer, isAnswer⟩ := departed_outcome same known leaving
  rw [PredictionDeparture.levels, isOrder, isLevel]
  exact same_vacate known leaving.orderStored (isAnswer ▸ sharedOutcome_traded answer) same.levels

theorem departed_heads {source record : PredictionMarket} {book : SharedBook}
    {heads : PredictionOrderBook} {fees charge : MarketFees} {accrued : Nat}
    (paired : Paired shared legacy market source record book heads fees)
    (sameBook : SameBook book record heads fees) (charged : charge.accruedQuoteFees = accrued) :
    SameBook (leaving.headed accrued)
      { record with openOrderCount := record.openOrderCount - 1 } entered.headed charge := by
  obtain ⟨isOrder, isLevel⟩ := departed_records same known leaving entered
  obtain ⟨answer, isAnswer⟩ := departed_outcome same known leaving
  have isBook := departed_book known leaving paired
  have isHeads : entered.book = heads := by
    have stored := entered.bookStored
    rw [isOrder, show (legacyOrder market leaving.order).market = market from
      (departed_home known leaving).2.1] at stored
    exact Option.some.inj (stored.symm.trans paired.headsStored)
  refine .of_heads ?_ ?_ ?_ charged
  · rw [entered.headed_best, leaving.headed_best known, isOrder, isLevel, isBook, isHeads,
      show (legacyOrder market leaving.order).outcome = answer by
        simp [legacyOrder, isAnswer], isAnswer,
      show (legacyOrder market leaving.order).side = leaving.order.side from rfl,
      same_heads sameBook.heads]
    by_cases emptied : leaving.level.orderCount = 1 ∧ leaving.level.betterPrice = none
    · have also : (legacyLevel market leaving.level).orderCount = 1 ∧
          (legacyLevel market leaving.level).betterPrice = none := emptied
      rw [if_pos emptied, if_pos also]
      rfl
    · have also : ¬((legacyLevel market leaving.level).orderCount = 1 ∧
          (legacyLevel market leaving.level).betterPrice = none) := emptied
      rw [if_neg emptied, if_neg also]
      exact sameBook.heads
  · have issued : (leaving.headed accrued).nextOrderId = leaving.book.nextOrderId := by
      rw [SharedDeparture.headed]
      split <;> rfl
    rw [entered.headed_nextOrderId, issued, isBook, isHeads, sameBook.nextOrderId]
  · have count : (leaving.headed accrued).openOrderCount = leaving.book.openOrderCount - 1 := rfl
    rw [count, isBook, sameBook.openOrderCount]

end Departures

/-! ## Cancellation -/

def orderNumber : Pubkey → Nat
  | .sharedOrder _ orderId => orderId
  | _ => 0

def legacyCancellation (market : Pubkey) (accounts : CancelSharedOrder) : Instruction :=
  .cancelPredictionOrder
    { owner := accounts.owner
      market := market
      previousOrder := accounts.previousOrder.map (legacyKey market)
      nextOrder := accounts.nextOrder.map (legacyKey market)
      betterLevel := accounts.betterLevel.map (legacyKey market)
      worseLevel := accounts.worseLevel.map (legacyKey market)
      levelRentRecipient := accounts.levelRentRecipient }
    (.ofNat (orderNumber accounts.order))

theorem toNat_ofNat_fits {value : Nat} (fits : value ≤ u64Max) :
    (UInt64.ofNat value).toNat = value :=
  UInt64.toNat_ofNat_of_lt' (lt_of_le_of_lt fits (by decide))

theorem legacyCancellation_exit {market : Pubkey} {order : SharedOrder} {level : SharedPriceLevel}
    {answer : PredictionOutcome} (owner : Wallet) (claims : ClaimKeys)
    (home : order.book = .sharedBook market) (ofMarket : order.market = market)
    (isAnswer : order.outcome = sharedOutcome answer) :
    legacyCancellation market (sharedExit order level owner claims) = .cancelPredictionOrder
      (predictionExit (legacyOrder market order) (legacyLevel market level) owner)
      (.ofNat order.orderId) := by
  simp only [legacyCancellation, sharedExit, predictionExit, home, isAnswer, legacyOrder,
    legacyLevel, ofMarket, legacyOutcome_sharedOutcome, orderNumber,
    apply_ite (Option.map (legacyKey market)), legacyKey_levels, Option.map_none]
  rfl

section Cancellation

variable {market : Pubkey} {shared after legacy : State} {owner : Wallet} {orderId : Nat}
variable (same : Coincides market shared legacy) (known : SharedInvariant shared.shared)

include same known

theorem same_cancellation
    (leaving : SharedCancellation shared owner (.sharedOrder (.sharedBook market) orderId))
    (entered : PredictionCancellation legacy.prediction owner market orderId)
    {moved : PredictionPosition}
    (carried : Carried leaving.claims leaving.released (.predictionPosition market owner.key) moved)
    (released : entered.released = legacyPosition leaving.released.quote.val moved) :
    Coincides market leaving.result { legacy with prediction := entered.result } := by
  obtain ⟨source, record, book, heads, fees, paired, rules, sameBook, claims⟩ := same.books
  obtain ⟨home, ofMarket, -⟩ := departed_home known leaving.toSharedDeparture
  have isBook := departed_book known leaving.toSharedDeparture paired
  have isRecord : entered.market = record := by
    have stored := entered.stored
    rw [entered.home] at stored
    exact Option.some.inj (stored.symm.trans paired.recordStored)
  have kinds : (leaving.headed leaving.book.accruedQuoteFees).kind = .prediction := by
    rw [(leaving.headed_same _).kind, isBook, paired.kind]
  have inMarket : leaving.book.market = market := by
    rw [← (leaving.rests known).market, ofMarket]
  refine
    { now := same.now
      config := same.config
      books := ⟨source, { record with openOrderCount := record.openOrderCount - 1 },
        leaving.headed leaving.book.accruedQuoteFees, entered.headed, fees, ?_,
        ⟨rules.status, rules.closeTs, rules.payout, rules.tick⟩,
        departed_heads same known leaving.toSharedDeparture entered.toPredictionDeparture paired
          sameBook (isBook ▸ sameBook.fees), ?_⟩
      orders := departed_orders same known leaving.toSharedDeparture entered.toPredictionDeparture
        (by simp [SharedOrder.canceled]) (by simp [PredictionOrder.canceled])
      levels := departed_levels same known leaving.toSharedDeparture entered.toPredictionDeparture }
  · refine ⟨paired.sourceStored, ?_, kinds, ?_, ?_, paired.feesStored⟩
    · simp only [SharedCancellation.result, home, Store.get_set_self]
    · simp only [PredictionCancellation.result, PredictionDeparture.markets, entered.home,
        Store.get_set_self, isRecord]
    · simp only [PredictionCancellation.result, PredictionDeparture.books, entered.home,
        Store.get_set_self]
  · have mint : (leaving.headed leaving.book.accruedQuoteFees).quoteMint = book.quoteMint := by
      rw [SharedDeparture.headed, ← isBook]
      split <;> rfl
    rw [mint, PredictionCancellation.result, released]
    rw [← isBook] at claims ⊢
    exact claims.save (by rw [isBook, paired.kind]) inMarket leaving.held carried

variable (holds : PredictionInvariant legacy.prediction)
variable (filed : positionLedger.Filed legacy.prediction.positions)

include holds filed

theorem cancel_coincides {accounts : CancelSharedOrder} (home : accounts.book = .sharedBook market)
    (numbered : ∀ key order, legacy.prediction.orders.get key = some order →
      order.orderId ≤ u64Max)
    (done : execute shared (.cancelSharedOrder accounts) = .ok after) :
    ∃ reached, execute legacy (legacyCancellation market accounts) = .ok reached ∧
      Coincides market after reached := by
  obtain ⟨source, record, book, heads, fees, paired, rules, sameBook, claims⟩ := same.books
  obtain ⟨order, level, orderStored, levelStored, given⟩ := handleCancelSharedOrder_given done
  obtain ⟨leaving, rfl⟩ := handleCancelSharedOrder_ok known done
  obtain ⟨owner, bookKey, keys, orderKey, levelKey, previousKey, nextKey, betterKey, worseKey,
    recipient⟩ := accounts
  obtain ⟨-, isBook, -, isOrder, -⟩ := (CancelSharedOrder.mk.injEq ..).mp given
  obtain rfl : bookKey = .sharedBook market := home
  rw [← isBook] at isOrder orderStored levelStored
  subst isOrder
  dsimp only at leaving
  obtain ⟨-, rfl, -⟩ := shared_home known orderStored
  have sameOrder : leaving.order = order :=
    Option.some.inj (leaving.orderStored.symm.trans orderStored)
  have sameLevel : leaving.level = level := by
    have stored := leaving.levelStored
    rw [sameOrder, ← isBook] at stored
    exact Option.some.inj (stored.symm.trans levelStored)
  have inBook := departed_book known leaving.toSharedDeparture paired
  have kind : leaving.book.kind = .prediction := by rw [inBook, paired.kind]
  have inMarket : leaving.book.market = order.market := by
    rw [← (leaving.rests known).market, sameOrder]
  obtain ⟨answer, isAnswer⟩ := departed_outcome same known leaving.toSharedDeparture
  have placed := departed_level same known leaving.toSharedDeparture
  have unlocked := leaving.unlock
  have own := leaving.own
  rw [← inBook] at claims
  rw [kind] at unlocked
  rw [sameOrder] at unlocked isAnswer own
  rw [sameOrder, sameLevel] at placed
  obtain ⟨position, isPosition, held⟩ := claims.held kind inMarket leaving.held
  obtain ⟨moved, carried, releases⟩ := unlock_carries (isAnswer ▸ sharedOutcome_traded answer)
    isPosition unlocked
  have present := same.order orderStored (sameOrder ▸ leaving.live)
  obtain ⟨reached, accepted⟩ := handleCancelPredictionOrder_total holds present
    (sameOrder ▸ leaving.live) placed own filed held releases
  obtain ⟨entered, rfl⟩ := handleCancelPredictionOrder_ok holds accepted
  have fits : order.orderId ≤ u64Max := numbered _ _ present
  have sent : execute legacy (legacyCancellation order.market
      ⟨owner, .sharedBook order.market, keys, .sharedOrder (.sharedBook order.market) order.orderId,
        levelKey, previousKey, nextKey, betterKey, worseKey, recipient⟩) =
        .ok { legacy with prediction := entered.result } := by
    rw [given, legacyCancellation_exit owner keys isBook.symm rfl isAnswer, execute,
      toNat_ofNat_fits fits]
    exact congrArg (onPrediction legacy) accepted
  have unlock := entered.unlock
  have isOrder : entered.order = legacyOrder order.market order :=
    Option.some.inj (entered.orderStored.symm.trans present)
  rw [Option.some.inj (entered.positionStored.symm.trans held), isOrder] at unlock
  refine ⟨_, sent, same_cancellation same known leaving entered carried ?_⟩
  exact Except.ok.inj (unlock.symm.trans releases)

end Cancellation

end Tidebook.Proof
