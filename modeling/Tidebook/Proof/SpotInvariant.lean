import Tidebook.Proof.SpotBook

/-! # The invariant of the spot ledger -/

namespace Tidebook.Proof
open Library Program

/-! ## Measures of the order store -/

def lockedBy (holder : Pubkey × Pubkey) (side : OrderSide) (_ : Pubkey) (order : Order) : Nat :=
  if order.status = .opened ∧ (order.market, order.owner) = holder ∧ order.side = side then
    order.lockedCollateral else 0

def openIn (market : Pubkey) (_ : Pubkey) (order : Order) : Nat :=
  if order.market = market ∧ order.status = .opened then 1 else 0

theorem lockedBy_live {order : Order} (live : order.status = .opened) (key : Pubkey)
    (holder : Pubkey × Pubkey) (side : OrderSide) :
    lockedBy holder side key order = Ledger.single (order.market, order.owner)
      (Pi.single order.side order.lockedCollateral) holder side := by
  simp only [lockedBy, live, true_and, Ledger.single, Pi.single_apply, ← ite_and, eq_comm]

theorem lockedBy_closed {order : Order} (closed : order.status ≠ .opened) (key : Pubkey)
    (holder : Pubkey × Pubkey) (side : OrderSide) : lockedBy holder side key order = 0 := by
  simp [lockedBy, closed]

/-! ## Resting orders -/

/-- What placement guarantees of an open order's terms and every fill preserves. -/
structure Resting (market : Market) (order : Order) : Prop where
  price_pos : 0 < order.price
  price_fits : order.price ≤ u64Max
  tick : market.priceTickSize ∣ order.price
  remaining_pos : 0 < order.remainingQuantity
  remaining_le : order.remainingQuantity ≤ order.quantity
  quantity_fits : order.quantity ≤ u64Max
  lot : market.quantityLotSize ∣ order.remainingQuantity
  scale : 10 ^ market.baseDecimals ≤ u128Max
  bid_lock : order.side = .bid →
    order.price * order.remainingQuantity / 10 ^ market.baseDecimals ≤ order.lockedCollateral
  ask_lock : order.side = .ask → order.lockedCollateral = order.remainingQuantity
  level : order.priceLevel = .priceLevel order.market order.side order.price
  earlier : order.orderId < market.nextOrderId

def Rests (markets : Store Pubkey Market) (order : Order) : Prop :=
  order.status = .opened → ∃ market, markets.get order.market = some market ∧ Resting market order

structure SpotInvariant (spot : Spot) : Prop where
  markets : spot.markets.Keyed fun market => .market market.baseMint market.quoteMint
  orders : spot.orders.Keyed fun order => .order order.market order.orderId
  levels : spot.levels.Keyed fun level => .priceLevel level.market level.side level.price
  balances : spotLedger.Filed spot.balances
  books : spotShelf.Sound OrderSide.Precedes (spotHeads spot.markets) spot.orders spot.levels
  resting : ∀ key order, spot.orders.get key = some order → Rests spot.markets order
  counts : ∀ key market, spot.markets.get key = some market →
    market.openOrderCount = spot.orders.total (openIn key)
  locks : ∀ holder side,
    spotLedger.lockedOf spot.balances holder side = spot.orders.total (lockedBy holder side)

/-- An update of a market's record keeps its terms and never takes an identifier back. -/
structure SameTerms (before after : Market) : Prop where
  baseMint : after.baseMint = before.baseMint
  quoteMint : after.quoteMint = before.quoteMint
  tick : after.priceTickSize = before.priceTickSize
  lot : after.quantityLotSize = before.quantityLotSize
  decimals : after.baseDecimals = before.baseDecimals
  nextOrderId : before.nextOrderId ≤ after.nextOrderId

theorem Resting.congr {before after : Market} {order : Order} (rest : Resting before order)
    (same : SameTerms before after) : Resting after order where
  price_pos := rest.price_pos
  price_fits := rest.price_fits
  tick := same.tick ▸ rest.tick
  remaining_pos := rest.remaining_pos
  remaining_le := rest.remaining_le
  quantity_fits := rest.quantity_fits
  lot := same.lot ▸ rest.lot
  scale := by rw [same.decimals]; exact rest.scale
  bid_lock := by rw [same.decimals]; exact rest.bid_lock
  ask_lock := rest.ask_lock
  level := rest.level
  earlier := lt_of_lt_of_le rest.earlier same.nextOrderId

theorem SameTerms.setBest {before after : Market} (same : SameTerms before after)
    (side : OrderSide) (price : Option Nat) : SameTerms before (after.setBest side price) := by
  obtain ⟨h1, h2, h3, h4, h5, h6⟩ := same
  cases side <;> exact ⟨h1, h2, h3, h4, h5, h6⟩

@[simp] theorem openOrderCount_setBest (market : Market) (side : OrderSide) (price : Option Nat) :
    (market.setBest side price).openOrderCount = market.openOrderCount := by
  cases side <;> rfl

theorem keyed_market {markets : Store Pubkey Market} {key : Pubkey} {before after : Market}
    (keyed : markets.Keyed fun market => .market market.baseMint market.quoteMint)
    (stored : markets.get key = some before) (same : SameTerms before after) :
    (markets.set key after).Keyed fun market => .market market.baseMint market.quoteMint := by
  refine keyed.set ?_
  rw [same.baseMint, same.quoteMint]
  exact keyed key before stored

theorem Rests.update {markets : Store Pubkey Market} {key : Pubkey} {before after : Market}
    {order : Order} (stored : markets.get key = some before) (same : SameTerms before after)
    (rests : Rests markets order) : Rests (markets.set key after) order := by
  intro live
  obtain ⟨market, found, rest⟩ := rests live
  rw [Store.get_set]
  split
  · next home =>
      rw [home, stored] at found
      cases found
      exact ⟨after, rfl, rest.congr same⟩
  · exact ⟨market, found, rest⟩

theorem Rests.setNext {markets : Store Pubkey Market} {order : Order} (value : Option Pubkey)
    (rests : Rests markets order) : Rests markets (spotShelf.setNext value order) := by
  intro live
  obtain ⟨market, found, rest⟩ := rests live
  obtain ⟨h1, h2, h3, h4, h5, h6, h7, h8, h9, h10, h11, h12⟩ := rest
  exact ⟨market, found, h1, h2, h3, h4, h5, h6, h7, h8, h9, h10, h11, h12⟩

theorem Rests.setPrevious {markets : Store Pubkey Market} {order : Order} (value : Option Pubkey)
    (rests : Rests markets order) : Rests markets (spotShelf.setPrevious value order) := by
  intro live
  obtain ⟨market, found, rest⟩ := rests live
  obtain ⟨h1, h2, h3, h4, h5, h6, h7, h8, h9, h10, h11, h12⟩ := rest
  exact ⟨market, found, h1, h2, h3, h4, h5, h6, h7, h8, h9, h10, h11, h12⟩

theorem resting_relink {markets : Store Pubkey Market} {orders : Store Pubkey Order} {key : Pubkey}
    {order : Order} {previous next after before : Option Pubkey}
    (rests : ∀ key order, orders.get key = some order → Rests markets order)
    (written : Rests markets order) (found : Pubkey) (record : Order)
    (present : (spotShelf.relink (orders.set key order) previous next after before).get found =
      some record) : Rests markets record := by
  refine Shelf.relink_forall (P := fun _ order => Rests markets order)
    (fun _ value _ => Rests.setNext value) (fun _ value _ => Rests.setPrevious value) ?_ found record
    present
  intro other old stored
  rw [Store.get_set] at stored
  split at stored
  · cases stored
    exact written
  · exact rests other old stored

theorem relink_openIn {orders : Store Pubkey Order} {previous next after before : Option Pubkey}
    (market : Pubkey) : (spotShelf.relink orders previous next after before).total (openIn market) =
      orders.total (openIn market) :=
  Shelf.relink_total (fun _ _ _ => rfl) fun _ _ _ => rfl

theorem relink_lockedBy {orders : Store Pubkey Order} {previous next after before : Option Pubkey}
    (holder : Pubkey × Pubkey) (side : OrderSide) :
    (spotShelf.relink orders previous next after before).total (lockedBy holder side) =
      orders.total (lockedBy holder side) :=
  Shelf.relink_total (fun _ _ _ => rfl) fun _ _ _ => rfl

theorem relink_order_keyed {orders : Store Pubkey Order}
    {previous next after before : Option Pubkey}
    (keyed : orders.Keyed fun order => .order order.market order.orderId) :
    (spotShelf.relink orders previous next after before).Keyed fun order =>
      .order order.market order.orderId :=
  Shelf.relink_keyed (fun _ _ => rfl) (fun _ _ => rfl) keyed

theorem relevel_keyed {levels : Store Pubkey PriceLevel} {market : Pubkey} {side : OrderSide}
    {better worse towards back : Option Nat}
    (keyed : levels.Keyed fun level => .priceLevel level.market level.side level.price) :
    (spotShelf.relevel market side levels better worse towards back).Keyed fun level =>
      .priceLevel level.market level.side level.price :=
  Shelf.relevel_keyed (fun _ _ => rfl) (fun _ _ => rfl) keyed

/-! ## One edit

Every order handler writes one market record, one order, the pointers of its neighbours, some
levels and some balances.
-/

structure SpotEdit (spot after : Spot) (key orderKey : Pubkey) (market record : Market)
    (written : Order) (previous next ahead behind : Option Pubkey) : Prop where
  stored : spot.markets.get key = some market
  terms : SameTerms market record
  named : orderKey = .order key written.orderId
  home : written.market = key
  rests : written.status = .opened → Resting record written
  markets : after.markets = spot.markets.set key record
  orders : after.orders =
    spotShelf.relink (spot.orders.set orderKey written) previous next ahead behind
  levels : after.levels.Keyed fun level => .priceLevel level.market level.side level.price
  balances : spotLedger.Filed after.balances
  books : spotShelf.Sound OrderSide.Precedes (spotHeads after.markets) after.orders after.levels
  counted : record.openOrderCount + (spot.orders.get orderKey).elim 0 (openIn key orderKey) =
    market.openOrderCount + openIn key orderKey written
  locked : ∀ holder side, spotLedger.lockedOf after.balances holder side +
      (spot.orders.get orderKey).elim 0 (lockedBy holder side orderKey) =
    spotLedger.lockedOf spot.balances holder side + lockedBy holder side orderKey written

theorem SpotInvariant.edit {spot after : Spot} {key orderKey : Pubkey} {market record : Market}
    {written : Order} {previous next ahead behind : Option Pubkey} (holds : SpotInvariant spot)
    (edit : SpotEdit spot after key orderKey market record written previous next ahead behind) :
    SpotInvariant after where
  markets := by
    rw [edit.markets]
    exact keyed_market holds.markets edit.stored edit.terms
  orders := by
    rw [edit.orders]
    refine relink_order_keyed (holds.orders.set ?_)
    rw [edit.home, edit.named]
  levels := edit.levels
  balances := edit.balances
  books := edit.books
  resting := by
    rw [edit.orders, edit.markets]
    refine resting_relink (fun found order present => ?_) fun live => ?_
    · exact (holds.resting found order present).update edit.stored edit.terms
    · exact ⟨record, by rw [edit.home, Store.get_set_self], edit.rests live⟩
  counts found other present := by
    have changed := Store.total_set (f := openIn found) spot.orders orderKey written
    rw [edit.orders, relink_openIn]
    rw [edit.markets, Store.get_set] at present
    split at present
    · next same =>
        subst same
        cases present
        have before := holds.counts found market edit.stored
        have after := edit.counted
        omega
    · next different =>
        have before := holds.counts found other present
        have unseen : openIn found orderKey written = 0 := by
          simp [openIn, edit.home, Ne.symm different]
        have gone : (spot.orders.get orderKey).elim 0 (openIn found orderKey) = 0 := by
          cases old : spot.orders.get orderKey with
          | none => rfl
          | some order =>
              have named := holds.orders orderKey order old
              rw [edit.named, Pubkey.order.injEq] at named
              simp [openIn, ← named.1, Ne.symm different]
        omega
  locks holder side := by
    have changed := Store.total_set (f := lockedBy holder side) spot.orders orderKey written
    have moved := edit.locked holder side
    have before := holds.locks holder side
    rw [edit.orders, relink_lockedBy]
    omega

end Tidebook.Proof
