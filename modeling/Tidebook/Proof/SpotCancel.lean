import Tidebook.Proof.SpotPlace

/-! # Spot departures

An order leaves the book when it is canceled or completely filled. Both handlers splice the same
pointers; the difference is only what happens to the lock.
-/

namespace Tidebook.Proof
open Library Program

/-! ## Departures -/

structure Departure (spot : Spot) (orderKey : Pubkey) where
  market : Market
  order : Order
  level : PriceLevel
  stored : spot.markets.get order.market = some market
  orderStored : spot.orders.get orderKey = some order
  live : order.status = .opened
  levelStored : spot.levels.get (.priceLevel order.market order.side order.price) = some level

def vacated (level : PriceLevel) (order : Order) : PriceLevel :=
  level.unlink order.previousOrder order.nextOrder (level.orderCount - 1)
    (level.totalRemainingQuantity - order.remainingQuantity)

namespace Departure

variable {spot : Spot} {orderKey : Pubkey} (leaving : Departure spot orderKey)

def record : Market :=
  if leaving.level.orderCount = 1 ∧ leaving.level.betterPrice = none then
    { leaving.market with openOrderCount := leaving.market.openOrderCount - 1 }.setBest
      leaving.order.side leaving.level.worsePrice
  else { leaving.market with openOrderCount := leaving.market.openOrderCount - 1 }

def markets : Store Pubkey Market := spot.markets.set leaving.order.market leaving.record

def orders (gone : Order) : Store Pubkey Order :=
  spotShelf.unlink spot.orders orderKey leaving.order gone

def levels : Store Pubkey PriceLevel :=
  spotShelf.vacate spot.levels leaving.order leaving.level (vacated leaving.level leaving.order)

theorem terms : SameTerms leaving.market leaving.record := by
  have counted : SameTerms leaving.market
      { leaving.market with openOrderCount := leaving.market.openOrderCount - 1 } :=
    ⟨rfl, rfl, rfl, rfl, rfl, le_refl _⟩
  rw [record]
  split
  · exact counted.setBest _ _
  · exact counted

theorem record_count : leaving.record.openOrderCount = leaving.market.openOrderCount - 1 := by
  rw [record]
  split
  · exact openOrderCount_setBest _ _ _
  · rfl

theorem record_best : leaving.record.best =
    if leaving.level.orderCount = 1 ∧ leaving.level.betterPrice = none then
      Function.update leaving.market.best leaving.order.side leaving.level.worsePrice
    else leaving.market.best := by
  rw [record]
  split
  · rw [best_setBest]
    rfl
  · rfl

theorem books (holds : SpotInvariant spot) {gone : Order} (closed : gone.status ≠ .opened) :
    spotShelf.Sound OrderSide.Precedes (spotHeads leaving.markets) (leaving.orders gone)
      leaving.levels := by
  refine holds.books.remove leaving.order gone orderKey leaving.orderStored
    (spotShelf_live.mpr leaving.live) leaving.levelStored (spotShelf_closed closed) rfl ?_ ?_
  · rw [markets, spotHeads_set]
    change Function.update (spotHeads spot.markets) leaving.order.market leaving.record.best
      leaving.order.market = _
    rw [Function.update_self, record_best, ← spotHeads_stored leaving.stored]
    rfl
  · intro other different
    rw [markets, spotHeads_set]
    exact Function.update_of_ne different _ _

theorem open_count (holds : SpotInvariant spot) : 0 < leaving.market.openOrderCount := by
  rw [holds.counts _ _ leaving.stored]
  refine lt_of_lt_of_le ?_ (Store.le_total leaving.orderStored)
  simp [openIn, leaving.live]

theorem level_keyed (holds : SpotInvariant spot) : leaving.levels.Keyed fun level =>
    .priceLevel level.market level.side level.price := by
  rw [levels, Shelf.vacate]
  split
  · exact relevel_keyed (holds.levels.erase _)
  · refine holds.levels.set ?_
    have keyed := holds.levels _ _ leaving.levelStored
    exact keyed

theorem edit {after : Spot} {gone : Order} (holds : SpotInvariant spot)
    (closed : gone.status ≠ .opened) (home : gone.market = leaving.order.market)
    (named : gone.orderId = leaving.order.orderId) (markets : after.markets = leaving.markets)
    (orders : after.orders = leaving.orders gone) (levels : after.levels = leaving.levels)
    {out into : Pubkey → OrderSide → Nat}
    (ledger : spotLedger.Edit spot.balances after.balances
      (Ledger.single (leaving.order.market, leaving.order.owner)
        (Pi.single leaving.order.side leaving.order.lockedCollateral)) 0 out into) :
    SpotEdit spot after leaving.order.market orderKey leaving.market leaving.record gone
      leaving.order.previousOrder leaving.order.nextOrder leaving.order.nextOrder
      leaving.order.previousOrder where
  stored := leaving.stored
  terms := leaving.terms
  named := by
    rw [named]
    exact holds.orders _ _ leaving.orderStored
  home := home
  rests live := absurd live closed
  markets := markets
  orders := orders
  levels := levels ▸ leaving.level_keyed holds
  balances := ledger.filed holds.balances
  books := by
    rw [markets, orders, levels]
    exact leaving.books holds closed
  counted := by
    have counted := leaving.open_count holds
    have was : openIn leaving.order.market orderKey leaving.order = 1 := by
      simp [openIn, leaving.live]
    have isNow : openIn leaving.order.market orderKey gone = 0 := by simp [openIn, closed]
    rw [leaving.orderStored, leaving.record_count, isNow, Option.elim_some, was]
    omega
  locked holder side := by
    rw [leaving.orderStored, Option.elim_some, lockedBy_live leaving.live,
      lockedBy_closed closed]
    exact ledger.locked holder side

end Departure

/-! ## Cancellation -/

/-- A cancellation that passed every check of its handler. -/
structure Cancellation (spot : Spot) (owner : Wallet) (key : Pubkey) (orderId : Nat) extends
    Departure spot (.order key orderId) where
  home : order.market = key
  own : order.owner = owner.key
  balance : TraderBalance
  released : TraderBalance
  balanceStored : spot.balances.get (.traderBalance key owner.key) = some balance
  unlock : balance.unlock order.side order.lockedCollateral = .ok released

def canceled (order : Order) : Order :=
  { order with
    lockedCollateral := 0, remainingQuantity := 0, previousOrder := none, nextOrder := none
    status := .canceled }

def Cancellation.result {spot : Spot} {owner : Wallet} {key : Pubkey} {orderId : Nat}
    (leaving : Cancellation spot owner key orderId) : Spot :=
  { spot with
    markets := leaving.markets
    orders := leaving.orders (canceled leaving.order)
    levels := leaving.levels
    balances := spot.balances.set (.traderBalance key owner.key) leaving.released }

theorem loadOwnOrder_ok {spot : Spot} {owner : Wallet} {market : Pubkey} {orderId : Nat}
    {order : Account Order} (passed : loadOwnOrder spot owner market orderId = .ok order) :
    order.key = .order market orderId ∧ spot.orders.get (.order market orderId) = some order.val ∧
      order.val.owner = owner.key ∧ order.val.market = market := by
  simp only [loadOwnOrder, bind_eq_ok, load_eq_ok, require_eq_ok, pure_eq_ok] at passed
  obtain ⟨_, ⟨filed, stored⟩, _, own, _, home, rfl⟩ := passed
  exact ⟨filed, stored, own, home⟩

theorem checkQueueNeighbors_ok {order : Account Order} {level : Pubkey}
    {previous next : Option (Account Order)} {done : Unit}
    (passed : checkQueueNeighbors order level previous next = .ok done) :
    order.val.previousOrder = previous.map Account.key ∧
      order.val.nextOrder = next.map Account.key := by
  simp only [checkQueueNeighbors, bind_eq_ok, require_eq_ok] at passed
  obtain ⟨_, isPrevious, _, isNext, _⟩ := passed
  exact ⟨isPrevious, isNext⟩

theorem checkLevelRemoval_ok {market : Account Market} {order : Account Order}
    {level : Account PriceLevel} {total : Nat} {better worse : Option (Account PriceLevel)}
    {recipient : Option Pubkey} {done : Unit}
    (passed : checkLevelRemoval market order level total better worse recipient = .ok done) :
    better.map Account.key =
        level.val.betterPrice.map (Pubkey.priceLevel market.key order.val.side) ∧
      worse.map Account.key =
        level.val.worsePrice.map (Pubkey.priceLevel market.key order.val.side) := by
  simp only [checkLevelRemoval, bind_eq_ok, require_eq_ok] at passed
  obtain ⟨_, _, _, _, _, _, _, _, _, _, _, _, keys⟩ := passed
  exact keys

theorem isNone_keys {better : Option (Account PriceLevel)} {price : Option Nat} {market : Pubkey}
    {side : OrderSide} (keys : better.map Account.key = price.map (.priceLevel market side)) :
    better.isNone ↔ price = none := by
  cases better <;> cases price <;> simp_all

theorem handleCancelLimitOrder_ok {spot after : Spot} {accounts : CancelLimitOrder} {orderId : Nat}
    (holds : SpotInvariant spot)
    (done : handleCancelLimitOrder spot accounts orderId = .ok after) :
    ∃ leaving : Cancellation spot accounts.owner accounts.market orderId,
      leaving.result = after := by
  obtain ⟨owner, market, previousKey, nextKey, betterKey, worseKey, recipient⟩ := accounts
  simp only [handleCancelLimitOrder, bind_eq_ok, load_eq_ok, require_eq_ok, loadOption_eq_ok,
    checkedSub_eq_ok, pure_eq_ok] at done
  obtain ⟨⟨key, record⟩, ⟨rfl, stored⟩, order, ownOrder, level, ownLevel, _, -, previous,
    ⟨_, hasPrevious⟩, next, ⟨_, hasNext⟩, better, ⟨_, hasBetter⟩, worse, ⟨_, hasWorse⟩, balance,
    ownBalance, _, live, _, queue, released, unlock, _, ⟨_, rfl⟩, _, ⟨counted, rfl⟩, _, ⟨_, rfl⟩, _,
    stays, _, removal, _, -, _, -, rfl⟩ := done
  obtain ⟨filed, orderStored, own, home⟩ := loadOwnOrder_ok ownOrder
  obtain ⟨levelFiled, levelStored, _, _, _⟩ := loadPriceLevel_ok ownLevel
  obtain ⟨balanceFiled, balanceStored, _, _⟩ := loadTraderBalance_ok ownBalance
  obtain ⟨isPrevious, isNext⟩ := checkQueueNeighbors_ok queue
  dsimp only at *
  subst home
  have single : level.val.orderCount - 1 = 0 ↔ level.val.orderCount = 1 := by omega
  have keys : level.val.orderCount = 1 → better.map Account.key = level.val.betterPrice.map
        (Pubkey.priceLevel order.val.market order.val.side) ∧
      worse.map Account.key =
        level.val.worsePrice.map (Pubkey.priceLevel order.val.market order.val.side) := by
    intro last
    rw [if_pos (single.mpr last)] at removal
    exact checkLevelRemoval_ok removal
  have orders := save_unlink holds.books orderStored (spotShelf_live.mpr live) isPrevious isNext
    hasPrevious hasNext (canceled order.val)
  have levels : saveOption (saveOption
      (if level.val.orderCount - 1 = 0 then spot.levels.erase level.key
        else spot.levels.set level.key (level.val.unlink (previous.map Account.key)
          (next.map Account.key) (level.val.orderCount - 1)
          (level.val.totalRemainingQuantity - order.val.remainingQuantity)))
      (better.map (Account.map (PriceLevel.setWorse level.val.worsePrice))))
      (worse.map (Account.map (PriceLevel.setBetter level.val.betterPrice))) =
        spotShelf.vacate spot.levels order.val level.val (vacated level.val order.val) := by
    rw [levelFiled]
    by_cases last : level.val.orderCount = 1
    · rw [if_pos (single.mpr last)]
      exact (save_relevel holds.books levelStored (keys last).1 (keys last).2 hasBetter
        hasWorse).trans (spotShelf.vacate_last order.val last).symm
    · obtain ⟨noBetter, noWorse, _⟩ := stays (single.not.mpr last)
      obtain rfl := Option.isNone_iff_eq_none.mp noBetter
      obtain rfl := Option.isNone_iff_eq_none.mp noWorse
      rw [if_neg (single.not.mpr last), ← isPrevious, ← isNext]
      exact (spotShelf.vacate_stays order.val last).symm
  have market : (if level.val.orderCount - 1 = 0 ∧ better.isNone then
      { record with openOrderCount := record.openOrderCount - 1 }.setBest order.val.side
        level.val.worsePrice
      else { record with openOrderCount := record.openOrderCount - 1 }) =
      if level.val.orderCount = 1 ∧ level.val.betterPrice = none then
        { record with openOrderCount := record.openOrderCount - 1 }.setBest order.val.side
          level.val.worsePrice
      else { record with openOrderCount := record.openOrderCount - 1 } := by
    by_cases last : level.val.orderCount = 1
    · simp only [last, true_and, isNone_keys (keys last).1]
    · rw [if_neg fun both => last (single.mp both.1), if_neg fun both => last both.1]
  refine ⟨⟨⟨record, order.val, level.val, stored, orderStored, live, levelStored⟩, rfl, own,
    balance.val, released, balanceStored, unlock⟩, ?_⟩
  simp only [Cancellation.result]
  rw [levels, balanceFiled, filed, market]
  congr 1
  exact orders.symm

theorem Cancellation.ledger {spot : Spot} {owner : Wallet} {key : Pubkey} {orderId : Nat}
    (leaving : Cancellation spot owner key orderId) (holds : SpotInvariant spot) :
    spotLedger.Edit spot.balances leaving.result.balances
      (Ledger.single (leaving.order.market, leaving.order.owner)
        (Pi.single leaving.order.side leaving.order.lockedCollateral)) 0 0 0 := by
  have written := balance_write holds.balances leaving.balanceStored (unlock_ok leaving.unlock)
  rw [leaving.home, leaving.own]
  simp only [Ledger.single_zero] at written
  exact written

theorem Cancellation.edit {spot : Spot} {owner : Wallet} {key : Pubkey} {orderId : Nat}
    (leaving : Cancellation spot owner key orderId) (holds : SpotInvariant spot) :
    SpotEdit spot leaving.result leaving.order.market (.order key orderId) leaving.market
      leaving.record (canceled leaving.order) leaving.order.previousOrder leaving.order.nextOrder
      leaving.order.nextOrder leaving.order.previousOrder :=
  leaving.toDeparture.edit holds (by simp [canceled]) rfl rfl rfl rfl rfl (leaving.ledger holds)

end Tidebook.Proof
