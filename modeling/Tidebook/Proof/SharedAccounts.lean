import Tidebook.Proof.SharedFill

/-! # Accounts of the shared engine

The shared handlers accept an order's departure only with the stored accounts, and a placement
only with the neighbours of its price and room for one more order.
-/

namespace Tidebook.Proof
open Library Program

/-! ## Departures -/

/-- The accounts an order is canceled with: its stored neighbours and, where it is the last at its
price, those of its level. -/
def sharedExit (order : SharedOrder) (level : SharedPriceLevel) (owner : Wallet)
    (claims : ClaimKeys) : CancelSharedOrder where
  owner := owner
  book := order.book
  claims := claims
  order := .sharedOrder order.book order.orderId
  priceLevel := .sharedLevel order.book order.outcome order.side order.price
  previousOrder := order.previousOrder
  nextOrder := order.nextOrder
  betterLevel := if level.orderCount = 1 then
    level.betterPrice.map (.sharedLevel order.book order.outcome order.side) else none
  worseLevel := if level.orderCount = 1 then
    level.worsePrice.map (.sharedLevel order.book order.outcome order.side) else none
  levelRentRecipient := if level.orderCount = 1 then some level.rentPayer else none

/-- The accounts a maker is matched with: the successor it promotes, or what its emptied level
leaves. -/
def sharedTake (maker : SharedOrder) (level : SharedPriceLevel) (taker : Wallet)
    (makerClaims takerClaims : ClaimKeys) (quantity : Nat) : MatchSharedOrder where
  taker := taker
  market := maker.market
  makerOrder := .sharedOrder maker.book maker.orderId
  priceLevel := .sharedLevel maker.book maker.outcome maker.side maker.price
  makerClaims := makerClaims
  takerClaims := takerClaims
  nextOrder := if maker.remainingQuantity ≤ quantity ∧ level.orderCount ≠ 1 then
    maker.nextOrder else none
  worseLevel := if maker.remainingQuantity ≤ quantity ∧ level.orderCount = 1 then
    level.worsePrice.map (.sharedLevel maker.book maker.outcome maker.side) else none
  levelRentRecipient := if maker.remainingQuantity ≤ quantity ∧ level.orderCount = 1 then
    some level.rentPayer else none

/-- What a removal is given, by whether the level empties. -/
structure RemovalGiven (book : Account SharedBook) (removed : Account SharedOrder)
    (current : Account SharedPriceLevel) (previous next : Option (Account SharedOrder))
    (better worse : Option (Account SharedPriceLevel)) (recipient : Option Pubkey) : Prop where
  home : removed.val.book = book.key
  market : removed.val.market = book.val.market
  orderKey : removed.key = .sharedOrder removed.val.book removed.val.orderId
  levelKey : current.key =
    .sharedLevel removed.val.book removed.val.outcome removed.val.side removed.val.price
  behind : previous.map Account.key = removed.val.previousOrder
  ahead : next.map Account.key = removed.val.nextOrder
  alone : current.val.orderCount = 1 → previous = none ∧ next = none
  better : better.map Account.key = if current.val.orderCount = 1 then current.val.betterPrice.map
    (.sharedLevel removed.val.book removed.val.outcome removed.val.side) else none
  worse : worse.map Account.key = if current.val.orderCount = 1 then current.val.worsePrice.map
    (.sharedLevel removed.val.book removed.val.outcome removed.val.side) else none
  recipient : recipient = if current.val.orderCount = 1 then some current.val.rentPayer else none

theorem removeOrder_given {book : Account SharedBook} {removed : Account SharedOrder}
    {current : Account SharedPriceLevel} {previous next : Option (Account SharedOrder)}
    {better worse : Option (Account SharedPriceLevel)} {recipient : Option Pubkey}
    {removal : Removal}
    (passed : removeOrder book removed current previous next better worse recipient =
      .ok removal) :
    RemovalGiven book removed current previous next better worse recipient := by
  simp only [removeOrder, bind_eq_ok, checkedSub_eq_ok, pure_eq_ok] at passed
  obtain ⟨_, valid, _, -, slot, -, _, linked, _, ⟨some_count, rfl⟩, _, ⟨_, rfl⟩, _, ⟨_, rfl⟩, _,
    emptying, -⟩ := passed
  simp only [checkSharedOrder, bind_eq_ok, require_eq_ok] at valid
  obtain ⟨_, -, _, fields, _, orderKey, _, listed, -⟩ := valid
  obtain ⟨home, market, -⟩ := fields
  obtain ⟨filed, -, outcome, side, isPrevious, isNext⟩ := checkRemoved_ok linked
  have levelKey : current.key = .sharedLevel removed.val.book removed.val.outcome removed.val.side
      removed.val.price := by
    rw [← filed, listed, home]
  have single : current.val.orderCount - 1 = 0 ↔ current.val.orderCount = 1 := by omega
  rw [← home] at orderKey
  by_cases last : current.val.orderCount = 1
  · rw [checkRemovedLevel, if_pos (single.mpr last)] at emptying
    simp only [bind_eq_ok, require_eq_ok, okOr_eq_ok, Option.isNone_iff_eq_none] at emptying
    obtain ⟨_, ⟨none_before, none_after, -⟩, _, ⟨betterKeys, worseKeys⟩, _, -, _, -, payer, rfl,
      rfl⟩ := emptying
    rw [← outcome, ← side, ← home] at betterKeys worseKeys
    exact ⟨home, market, orderKey, levelKey, isPrevious.symm, isNext.symm,
      fun _ => ⟨none_before, none_after⟩, by rw [if_pos last, betterKeys],
      by rw [if_pos last, worseKeys], by rw [if_pos last]⟩
  · rw [checkRemovedLevel, if_neg (single.not.mpr last)] at emptying
    simp only [require_eq_ok, Option.isNone_iff_eq_none] at emptying
    obtain ⟨-, -, rfl, rfl, rfl⟩ := emptying
    exact ⟨home, market, orderKey, levelKey, isPrevious.symm, isNext.symm,
      fun alone => absurd alone last, by rw [if_neg last]; rfl, by rw [if_neg last]; rfl,
      by rw [if_neg last]⟩

/-- A cancellation is accepted only with the stored accounts. -/
theorem handleCancelSharedOrder_given {state after : State} {accounts : CancelSharedOrder}
    (done : handleCancelSharedOrder state accounts = .ok after) : ∃ order level,
    state.shared.orders.get (.sharedOrder order.book order.orderId) = some order ∧
      state.shared.levels.get
        (.sharedLevel order.book order.outcome order.side order.price) = some level ∧
      accounts = sharedExit order level accounts.owner accounts.claims := by
  obtain ⟨owner, bookKey, keys, orderKey, levelKey, previousKey, nextKey, betterKey, worseKey,
    recipient⟩ := accounts
  simp only [handleCancelSharedOrder, bind_eq_ok, load_eq_ok, require_eq_ok, loadOption_eq_ok,
    pure_eq_ok, exists_const, and_assoc] at done
  obtain ⟨book, ownBook, claims, -, order, rfl, orderStored, -, level, rfl, levelStored, previous,
    rfl, -, next, rfl, -, better, rfl, -, worse, rfl, -, _, -, _, -, _, -, removal, removed, -⟩ :=
    done
  obtain ⟨rfl, -⟩ := loadBookAccount_ok ownBook
  have given := removeOrder_given removed
  refine ⟨order.val, level.val, given.orderKey ▸ orderStored, given.levelKey ▸ levelStored, ?_⟩
  rw [sharedExit, CancelSharedOrder.mk.injEq]
  exact ⟨rfl, given.home.symm, rfl, given.orderKey, given.levelKey, given.behind, given.ahead,
    given.better, given.worse, given.recipient⟩

/-- A match is accepted only with the stored accounts, and with room for its fee. -/
theorem handleMatchSharedOrder_given {state after : State} {accounts : MatchSharedOrder}
    {outcome : SharedOutcome} {takerSide : OrderSide} {limit quantity : Nat}
    (done : handleMatchSharedOrder state accounts outcome takerSide limit quantity = .ok after) :
    ∃ maker level book config plan fee,
      state.shared.orders.get (.sharedOrder maker.book maker.orderId) = some maker ∧
      state.shared.levels.get
        (.sharedLevel maker.book maker.outcome maker.side maker.price) = some level ∧
      state.shared.books.get (.sharedBook accounts.market) = some book ∧
      state.protocol.loadConfig = .ok config ∧
      calculateSettlement takerSide limit quantity maker.side maker.price maker.remainingQuantity
        maker.lockedCollateral book.baseDecimals = .ok plan ∧
      calculateTakerFee plan.fill.quoteQuantity config.takerFeeBps = .ok fee ∧
      book.accruedQuoteFees + fee ≤ u64Max ∧
      accounts = sharedTake maker level accounts.taker accounts.makerClaims accounts.takerClaims
        quantity := by
  obtain ⟨taker, market, makerKey, levelKey, makerKeys, takerKeys, nextKey, worseKey, recipient⟩ :=
    accounts
  simp only [handleMatchSharedOrder, bind_eq_ok, load_eq_ok, loadOption_eq_ok, checkedSub_eq_ok,
    checkedAdd_eq_ok, pure_eq_ok, and_assoc, exists_eq_left, exists_and_left] at done
  obtain ⟨book, ownBook, config, hasConfig, maker, rfl, makerStored, level, rfl, levelStored, _, -,
    _, -, next, rfl, -, worse, rfl, -, _, -, ⟨slot, amount⟩, -, _, checked, _, -, _, -, done⟩ := done
  obtain ⟨plan, settled, fee, charged, accrues, -, -, -, ⟨makerSettled, takerSettled⟩, -, removal,
    removed, -⟩ := done
  obtain ⟨filed, stored, ofMarket⟩ := loadSharedBook_ok ownBook
  have facts := calculateSettlement_facts settled
  simp only [checkSharedMaker, bind_eq_ok, require_eq_ok] at checked
  obtain ⟨_, valid, _, ownLevel, _, -, _, placed, -⟩ := checked
  have levelFiled := checkSharedLevel_ok ownLevel
  simp only [checkSharedOrder, bind_eq_ok, require_eq_ok] at valid
  obtain ⟨_, -, _, ⟨home, isMarket, -⟩, _, orderKey, -⟩ := valid
  obtain ⟨named, -, outcome, side, price⟩ := placed
  have orderKey : maker.key = .sharedOrder maker.val.book maker.val.orderId :=
    orderKey.trans (by rw [home])
  have levelKey : level.key = .sharedLevel maker.val.book maker.val.outcome maker.val.side
      maker.val.price := by
    rw [levelFiled, home, side, price, outcome, named]
  refine ⟨maker.val, level.val, book.val, config, plan, fee, orderKey ▸ makerStored,
    levelKey ▸ levelStored, stored, hasConfig, settled, charged, accrues, ?_⟩
  have filled : plan.makerFullyFilled = true ↔ maker.val.remainingQuantity ≤ quantity := by
    rw [facts.full, decide_eq_true_iff]
  rw [sharedTake, MatchSharedOrder.mk.injEq]
  refine ⟨rfl, (isMarket.trans ofMarket).symm, orderKey, levelKey, rfl, rfl, ?_⟩
  by_cases full : maker.val.remainingQuantity ≤ quantity
  · rw [if_pos (filled.mpr full)] at removed
    have given := removeOrder_given removed
    have recipient := given.recipient
    have worseKeys := given.worse
    simp only [full, true_and]
    refine ⟨?_, worseKeys, recipient⟩
    by_cases last : level.val.orderCount = 1
    · rw [if_neg (not_not.mpr last), (given.alone last).2, Option.map_none]
    · rw [if_pos last]
      exact given.ahead
  · rw [if_neg (filled.not.mpr full)] at removed
    simp only [reduceLevel, bind_eq_ok, require_eq_ok, Option.isNone_iff_eq_none] at removed
    obtain ⟨_, ⟨rfl, rfl, rfl⟩, -⟩ := removed
    simp only [full, false_and, if_false]
    exact ⟨rfl, rfl, trivial⟩

/-! ## Placements -/

/-- What a placement is given, by whether its price has a level. -/
structure PlacementGiven (shared : Shared) (accounts : PlaceSharedOrder) (book : SharedBook)
    (outcome : SharedOutcome) (side : OrderSide) (price quantity orderId : Nat) : Prop where
  ids : orderId + 1 ≤ u64Max
  count : book.openOrderCount + 1 ≤ u64Max
  joins : ∀ level, shared.levels.get
    (.sharedLevel (.sharedBook accounts.market) outcome side price) = some level →
      accounts.tail = level.lastOrder ∧ level.orderCount + 1 ≤ u64Max ∧
        level.totalRemainingQuantity + quantity ≤ u64Max
  opens : shared.levels.get
    (.sharedLevel (.sharedBook accounts.market) outcome side price) = none → ∃ better worse,
      accounts.betterLevel =
        better.map (.sharedLevel (.sharedBook accounts.market) outcome side) ∧
      accounts.worseLevel =
        worse.map (.sharedLevel (.sharedBook accounts.market) outcome side) ∧
      Adjacent sharedPrecedes (sharedShelf.book (sharedHeads shared.books) shared.orders
        shared.levels (.sharedBook accounts.market)) ((outcome, side), price) better worse

theorem joinLevel_room {book : Account SharedBook} {slot : Fin 4} {outcome : SharedOutcome}
    {side : OrderSide} {price quantity : Nat} {order : Pubkey} {level : Account SharedPriceLevel}
    {tail : Option (Account SharedOrder)} {better worse : Option (Account SharedPriceLevel)}
    {joined : Account SharedOrder × SharedPriceLevel}
    (passed : joinLevel book slot outcome side price quantity order level tail better worse =
      .ok joined) :
    level.val.orderCount + 1 ≤ u64Max ∧ level.val.totalRemainingQuantity + quantity ≤ u64Max := by
  simp only [joinLevel, bind_eq_ok, require_eq_ok, okOr_eq_ok, checkedAdd_eq_ok, pure_eq_ok,
    exists_const, and_assoc, exists_eq_left, exists_and_left] at passed
  obtain ⟨_, -, -, -, -, -, -, _, -, -, -, _, -, _, -, -, -, -, -, -, -, _, -, count, total, -⟩ :=
    passed
  exact ⟨count, total⟩

theorem handlePlaceSharedOrder_given {state after : State} {accounts : PlaceSharedOrder}
    {outcome : SharedOutcome} {side : OrderSide} {price quantity orderId : Nat} {book : SharedBook}
    (holds : SharedInvariant state.shared)
    (stored : state.shared.books.get (.sharedBook accounts.market) = some book)
    (done : handlePlaceSharedOrder state accounts outcome side price quantity orderId =
      .ok after) :
    PlacementGiven state.shared accounts book outcome side price quantity orderId := by
  obtain ⟨owner, market, keys, tailKey, betterKey, worseKey⟩ := accounts
  simp only [handlePlaceSharedOrder, bind_eq_ok, vacant_eq_ok, require_eq_ok, loadOption_eq_ok,
    checkedAdd_eq_ok, exists_const, and_assoc, exists_eq_left, exists_and_left] at done
  obtain ⟨⟨key, record⟩, ownBook, claims, -, -, tail, isTail, hasTail, better, isBetter, hasBetter,
    worse, isWorse, hasWorse, _, -, _, -, ⟨slot, amount⟩, priced, -, -, -, ids, count, done⟩ := done
  obtain ⟨filed, present, home⟩ := loadSharedBook_ok ownBook
  dsimp only at *
  subst filed
  cases present.symm.trans stored
  rw [existingLevel_sound holds] at done
  refine ⟨ids, count, fun level found => ?_, fun vacant => ?_⟩
  · simp only [found, Option.map_some, bind_eq_ok] at done
    obtain ⟨⟨last, joined⟩, appended, -⟩ := done
    obtain ⟨rfl, isLast, -⟩ := joinLevel_ok appended
    exact ⟨isTail.trans isLast.symm, joinLevel_room appended⟩
  · simp only [vacant, Option.map_none, bind_eq_ok] at done
    obtain ⟨_, spread, -⟩ := done
    have hints := checkSpread_ok spread
    exact ⟨_, _, isBetter.trans hints.keys.1, isWorse.trans hints.keys.2,
      hints.adjacent stored (orderTerms_eq_ok.mp priced).slotted hasBetter⟩

end Tidebook.Proof
