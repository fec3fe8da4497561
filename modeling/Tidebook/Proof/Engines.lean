import Tidebook.Proof.PredictionAccept
import Tidebook.Proof.SharedFill

/-! # The two prediction engines

How a record of a shared prediction book reads in the legacy engine, and when the two engines stand
at the same point: the same open orders and levels, the same heads and counters, and for every
trader the same claims.
-/

namespace Tidebook.Proof
open Library Program

/-! ## Records -/

def legacyOutcome : SharedOutcome → PredictionOutcome
  | .no => .no
  | _ => .yes

def sharedOutcome : PredictionOutcome → SharedOutcome
  | .yes => .yes
  | .no => .no

@[simp] theorem legacyOutcome_sharedOutcome (outcome : PredictionOutcome) :
    legacyOutcome (sharedOutcome outcome) = outcome := by
  cases outcome <;> rfl

theorem sharedOutcome_legacyOutcome {outcome : SharedOutcome} (traded : outcome ≠ .spot) :
    sharedOutcome (legacyOutcome outcome) = outcome := by
  cases outcome <;> first | rfl | exact absurd rfl traded

theorem sharedOutcome_injective : Function.Injective sharedOutcome := fun first second same => by
  rw [← legacyOutcome_sharedOutcome first, same, legacyOutcome_sharedOutcome]

/-- The address that the legacy engine gives to a record of the shared book. -/
def legacyKey (market : Pubkey) : Pubkey → Pubkey
  | .sharedOrder _ orderId => .predictionOrder market orderId
  | .sharedLevel _ outcome side price => .predictionLevel market (legacyOutcome outcome) side price
  | key => key

def legacyOrder (market : Pubkey) (order : SharedOrder) : PredictionOrder where
  owner := order.owner
  market := order.market
  orderId := order.orderId
  outcome := legacyOutcome order.outcome
  side := order.side
  price := order.price
  priceLevel := legacyKey market order.priceLevel
  previousOrder := order.previousOrder.map (legacyKey market)
  nextOrder := order.nextOrder.map (legacyKey market)
  quantity := order.quantity
  remainingQuantity := order.remainingQuantity
  lockedCollateral := order.lockedCollateral
  status := order.status

def legacyLevel (market : Pubkey) (level : SharedPriceLevel) : PredictionPriceLevel where
  market := level.market
  outcome := legacyOutcome level.outcome
  side := level.side
  price := level.price
  betterPrice := level.betterPrice
  worsePrice := level.worsePrice
  firstOrder := level.firstOrder.map (legacyKey market)
  lastOrder := level.lastOrder.map (legacyKey market)
  totalRemainingQuantity := level.totalRemainingQuantity
  orderCount := level.orderCount
  rentPayer := level.rentPayer

/-- A trader's claims in one record: cash in the asset balance, contracts in the position. -/
def legacyPosition (asset : AssetBalance) (position : PredictionPosition) : PredictionPosition :=
  { position with collateralFree := asset.free, collateralLocked := asset.locked }

/-! ## Books -/

/-- The place of the shared book that stands for a legacy one. -/
def sharedPlace (book : Pubkey) (place : (PredictionOutcome × OrderSide) × Nat) : Pubkey :=
  .sharedLevel book (sharedOutcome place.1.1) place.1.2 place.2

theorem sharedPlace_injective (book : Pubkey) : Function.Injective (sharedPlace book) := by
  rintro ⟨⟨outcome, side⟩, price⟩ ⟨⟨answer, other⟩, found⟩ same
  obtain ⟨-, outcomes, rfl, rfl⟩ := Pubkey.sharedLevel.inj same
  obtain rfl := sharedOutcome_injective outcomes
  rfl

/-- An open order of the shared book, as a legacy record. -/
def sharedView (market : Pubkey) (order : SharedOrder) : Option PredictionOrder :=
  if order.status = .opened then some (legacyOrder market order) else none

def legacyView (order : PredictionOrder) : Option PredictionOrder :=
  if order.status = .opened then some order else none

def sharedOpen (orders : Store Pubkey SharedOrder) (market : Pubkey) :
    Nat → Option PredictionOrder :=
  orders.project (sharedView market) ∘ Pubkey.sharedOrder (.sharedBook market)

def legacyOpen (orders : Store Pubkey PredictionOrder) (market : Pubkey) :
    Nat → Option PredictionOrder :=
  orders.project legacyView ∘ Pubkey.predictionOrder market

def sharedLevels (levels : Store Pubkey SharedPriceLevel) (market : Pubkey) :
    (PredictionOutcome × OrderSide) × Nat → Option PredictionPriceLevel :=
  levels.filed (sharedPlace (.sharedBook market)) (legacyLevel market)

def legacyLevels (levels : Store Pubkey PredictionPriceLevel) (market : Pubkey) :
    (PredictionOutcome × OrderSide) × Nat → Option PredictionPriceLevel :=
  levels.filed (predictionShelf.file market) id

structure SameRules (source record : PredictionMarket) : Prop where
  status : record.status = source.status
  closeTs : record.closeTs = source.closeTs
  payout : record.payoutPerContract = source.payoutPerContract
  tick : record.priceTick = source.priceTick

/-- The heads, the counters and the fees of the two books. -/
structure SameBook (book : SharedBook) (record : PredictionMarket) (heads : PredictionOrderBook)
    (fees : MarketFees) : Prop where
  best : ∀ outcome side, heads.bestPrice outcome side = headOf book (sharedOutcome outcome, side)
  nextOrderId : heads.nextOrderId = book.nextOrderId
  openOrderCount : record.openOrderCount = book.openOrderCount
  fees : fees.accruedQuoteFees = book.accruedQuoteFees

/-- Whoever can trade on the shared book has the same claims in the legacy engine. -/
def SameClaims (assets : Store Pubkey AssetBalance) (positions legacy : Store Pubkey
    PredictionPosition) (market quoteMint : Pubkey) : Prop :=
  ∀ owner asset position, assets.get (.assetBalance owner quoteMint) = some asset →
    positions.get (.predictionPosition market owner) = some position →
    legacy.get (.predictionPosition market owner) = some (legacyPosition asset position)

/-- The records that the two engines keep for a market. -/
structure Paired (shared legacy : State) (market : Pubkey) (source record : PredictionMarket)
    (book : SharedBook) (heads : PredictionOrderBook) (fees : MarketFees) : Prop where
  sourceStored : shared.prediction.markets.get market = some source
  bookStored : shared.shared.books.get (.sharedBook market) = some book
  kind : book.kind = .prediction
  recordStored : legacy.prediction.markets.get market = some record
  headsStored : legacy.prediction.books.get (.predictionBook market) = some heads
  feesStored : legacy.prediction.fees.get (.marketFees market) = some fees

/-- The two engines stand at the same point of a market's trading. -/
structure Coincides (market : Pubkey) (shared legacy : State) : Prop where
  now : legacy.now = shared.now
  config : legacy.protocol.loadConfig = shared.protocol.loadConfig
  books : ∃ source record book heads fees,
    Paired shared legacy market source record book heads fees ∧ SameRules source record ∧
      SameBook book record heads fees ∧ SameClaims shared.shared.assets
        shared.prediction.positions legacy.prediction.positions market book.quoteMint
  orders : legacyOpen legacy.prediction.orders market = sharedOpen shared.shared.orders market
  levels : legacyLevels legacy.prediction.levels market = sharedLevels shared.shared.levels market

/-! ## Edits of the two books -/

section Orders

variable {market : Pubkey}

theorem sharedOrder_injective : Function.Injective (Pubkey.sharedOrder (.sharedBook market)) :=
  fun _ _ same => (Pubkey.sharedOrder.inj same).2

theorem predictionOrder_injective : Function.Injective (Pubkey.predictionOrder market) :=
  fun _ _ same => (Pubkey.predictionOrder.inj same).2

theorem sharedOpen_set (orders : Store Pubkey SharedOrder) (orderId : Nat) (order : SharedOrder) :
    sharedOpen (orders.set (.sharedOrder (.sharedBook market) orderId) order) market =
      Function.update (sharedOpen orders market) orderId (sharedView market order) := by
  rw [sharedOpen, Store.project_set, Function.update_comp_eq_of_injective _ sharedOrder_injective]
  rfl

theorem legacyOpen_set (orders : Store Pubkey PredictionOrder) (orderId : Nat)
    (order : PredictionOrder) :
    legacyOpen (orders.set (.predictionOrder market orderId) order) market =
      Function.update (legacyOpen orders market) orderId (legacyView order) := by
  rw [legacyOpen, Store.project_set,
    Function.update_comp_eq_of_injective _ predictionOrder_injective]
  rfl

theorem sharedView_setNext (key : Option Pubkey) (order : SharedOrder) :
    sharedView market (order.setNext key) =
      (sharedView market order).map (PredictionOrder.setNext (key.map (legacyKey market))) := by
  rw [sharedView, sharedView, apply_ite (Option.map _)]
  rfl

theorem sharedView_setPrevious (key : Option Pubkey) (order : SharedOrder) :
    sharedView market (order.setPrevious key) =
      (sharedView market order).map (PredictionOrder.setPrevious (key.map (legacyKey market))) := by
  rw [sharedView, sharedView, apply_ite (Option.map _)]
  rfl

theorem legacyView_setNext (key : Option Pubkey) (order : PredictionOrder) :
    legacyView (order.setNext key) = (legacyView order).map (PredictionOrder.setNext key) := by
  rw [legacyView, legacyView, apply_ite (Option.map _)]
  rfl

theorem legacyView_setPrevious (key : Option Pubkey) (order : PredictionOrder) :
    legacyView (order.setPrevious key) =
      (legacyView order).map (PredictionOrder.setPrevious key) := by
  rw [legacyView, legacyView, apply_ite (Option.map _)]
  rfl

theorem sharedOpen_relink (orders : Store Pubkey SharedOrder) (previous next : Option Nat)
    (after before : Option Pubkey) :
    sharedOpen (sharedShelf.relink orders (previous.map (.sharedOrder (.sharedBook market)))
        (next.map (.sharedOrder (.sharedBook market))) after before) market =
      amend (amend (sharedOpen orders market) previous
        (PredictionOrder.setNext (after.map (legacyKey market)))) next
        (PredictionOrder.setPrevious (before.map (legacyKey market))) := by
  have next_ : ∀ order, sharedView market (sharedShelf.setNext after order) =
      (sharedView market order).map (PredictionOrder.setNext (after.map (legacyKey market))) :=
    sharedView_setNext after
  have previous_ : ∀ order, sharedView market (sharedShelf.setPrevious before order) =
      (sharedView market order).map (PredictionOrder.setPrevious (before.map (legacyKey market))) :=
    sharedView_setPrevious before
  rw [sharedOpen, Shelf.relink, Store.project_modify previous_, Store.project_modify next_,
    amend_comp sharedOrder_injective, amend_comp sharedOrder_injective]
  rfl

theorem legacyOpen_relink (orders : Store Pubkey PredictionOrder) (previous next : Option Nat)
    (after before : Option Pubkey) :
    legacyOpen (predictionShelf.relink orders (previous.map (.predictionOrder market))
        (next.map (.predictionOrder market)) after before) market =
      amend (amend (legacyOpen orders market) previous (PredictionOrder.setNext after)) next
        (PredictionOrder.setPrevious before) := by
  have next_ : ∀ order, legacyView (predictionShelf.setNext after order) =
      (legacyView order).map (PredictionOrder.setNext after) := legacyView_setNext after
  have previous_ : ∀ order, legacyView (predictionShelf.setPrevious before order) =
      (legacyView order).map (PredictionOrder.setPrevious before) := legacyView_setPrevious before
  rw [legacyOpen, Shelf.relink, Store.project_modify previous_, Store.project_modify next_,
    amend_comp predictionOrder_injective, amend_comp predictionOrder_injective]
  rfl

end Orders

section Levels

variable {market : Pubkey}

variable (market) in
theorem sharedLevels_set (levels : Store Pubkey SharedPriceLevel)
    (place : (PredictionOutcome × OrderSide) × Nat) (level : SharedPriceLevel) :
    sharedLevels (levels.set (sharedPlace (.sharedBook market) place) level) market =
      Function.update (sharedLevels levels market) place (some (legacyLevel market level)) :=
  Store.filed_set (sharedPlace_injective _) place level

variable (market) in
theorem legacyLevels_set (levels : Store Pubkey PredictionPriceLevel)
    (place : (PredictionOutcome × OrderSide) × Nat) (level : PredictionPriceLevel) :
    legacyLevels (levels.set (predictionShelf.file market place) level) market =
      Function.update (legacyLevels levels market) place (some level) :=
  Store.filed_set (Shelf.file_place _) place level

theorem sharedLevels_erase (levels : Store Pubkey SharedPriceLevel)
    (place : (PredictionOutcome × OrderSide) × Nat) :
    sharedLevels (levels.erase (sharedPlace (.sharedBook market) place)) market =
      Function.update (sharedLevels levels market) place none :=
  Store.filed_erase (sharedPlace_injective _) place

theorem legacyLevels_erase (levels : Store Pubkey PredictionPriceLevel)
    (place : (PredictionOutcome × OrderSide) × Nat) :
    legacyLevels (levels.erase (predictionShelf.file market place)) market =
      Function.update (legacyLevels levels market) place none :=
  Store.filed_erase (Shelf.file_place _) place

variable (market) in
theorem sharedLevels_relevel (levels : Store Pubkey SharedPriceLevel)
    (list : PredictionOutcome × OrderSide) (better worse towards back : Option Nat) :
    sharedLevels (sharedShelf.relevel (.sharedBook market) (sharedOutcome list.1, list.2) levels
        better worse towards back) market =
      amend (amend (sharedLevels levels market) (better.map (Prod.mk list))
        (PredictionPriceLevel.setWorse towards)) (worse.map (Prod.mk list))
        (PredictionPriceLevel.setBetter back) := by
  have keys : ∀ price : Option Nat, (price.map fun price => sharedShelf.file (.sharedBook market)
      ((sharedOutcome list.1, list.2), price)) =
      (price.map (Prod.mk list)).map (sharedPlace (.sharedBook market)) := fun price => by
    cases price <;> rfl
  have worse_ : ∀ level, legacyLevel market (sharedShelf.setWorse towards level) =
      PredictionPriceLevel.setWorse towards (legacyLevel market level) := fun _ => rfl
  have better_ : ∀ level, legacyLevel market (sharedShelf.setBetter back level) =
      PredictionPriceLevel.setBetter back (legacyLevel market level) := fun _ => rfl
  rw [sharedLevels, Shelf.relevel, keys, keys,
    Store.filed_modify (sharedPlace_injective _) better_,
    Store.filed_modify (sharedPlace_injective _) worse_]
  rfl

variable (market) in
theorem legacyLevels_relevel (levels : Store Pubkey PredictionPriceLevel)
    (list : PredictionOutcome × OrderSide) (better worse towards back : Option Nat) :
    legacyLevels (predictionShelf.relevel market list levels better worse towards back) market =
      amend (amend (legacyLevels levels market) (better.map (Prod.mk list))
        (PredictionPriceLevel.setWorse towards)) (worse.map (Prod.mk list))
        (PredictionPriceLevel.setBetter back) := by
  have keys : ∀ price : Option Nat, (price.map fun price => predictionShelf.file market
      (list, price)) = (price.map (Prod.mk list)).map (predictionShelf.file market) :=
    fun price => by cases price <;> rfl
  have worse_ : ∀ level, id (predictionShelf.setWorse towards level) =
      PredictionPriceLevel.setWorse towards (id level) := fun _ => rfl
  have better_ : ∀ level, id (predictionShelf.setBetter back level) =
      PredictionPriceLevel.setBetter back (id level) := fun _ => rfl
  rw [legacyLevels, Shelf.relevel, keys, keys, Store.filed_modify (Shelf.file_place _) better_,
    Store.filed_modify (Shelf.file_place _) worse_]
  rfl

end Levels

/-! ## Reading across -/

section Reading

variable {market : Pubkey} {shared legacy : State} (same : Coincides market shared legacy)

include same

theorem Coincides.order {orderId : Nat} {order : SharedOrder}
    (stored : shared.shared.orders.get (.sharedOrder (.sharedBook market) orderId) = some order)
    (live : order.status = .opened) :
    legacy.prediction.orders.get (.predictionOrder market orderId) =
      some (legacyOrder market order) := by
  have shown := congrFun same.orders orderId
  simp only [legacyOpen, sharedOpen, Function.comp_apply, Store.project, stored, Option.bind_some,
    sharedView, if_pos live, Option.bind_eq_some_iff, legacyView, Option.ite_none_right_eq_some,
    Option.some.injEq] at shown
  obtain ⟨record, present, -, rfl⟩ := shown
  exact present

theorem Coincides.level (place : (PredictionOutcome × OrderSide) × Nat) :
    legacy.prediction.levels.get (predictionShelf.file market place) =
      (shared.shared.levels.get (sharedPlace (.sharedBook market) place)).map
        (legacyLevel market) := by
  have shown := congrFun same.levels place
  simp only [legacyLevels, sharedLevels, Store.filed, Option.map_id_fun, id_eq] at shown
  exact shown

end Reading

/-! ## Departures -/

section Departures

variable {market : Pubkey} {shared : Shared} (holds : SharedInvariant shared)
variable {orderId : Nat} {order : SharedOrder}
variable (stored : shared.orders.get (.sharedOrder (.sharedBook market) orderId) = some order)
variable (live : order.status = .opened)

include holds stored in
theorem shared_home : order.book = .sharedBook market ∧ order.market = market ∧
    order.orderId = orderId := by
  obtain ⟨home, named⟩ := Pubkey.sharedOrder.inj (holds.orders _ order stored)
  have filed := holds.orderHome _ order stored
  exact ⟨home.symm, (Pubkey.sharedBook.inj (home.trans filed)).symm, named.symm⟩

include holds stored live

theorem shared_links : ∃ previous next : Option Nat,
    order.previousOrder = previous.map (.sharedOrder (.sharedBook market)) ∧
      order.nextOrder = next.map (.sharedOrder (.sharedBook market)) := by
  have opened := sharedShelf_live.mpr live
  obtain ⟨home, -, -⟩ := shared_home holds stored
  have backward : ∃ previous : Option Nat,
      order.previousOrder = previous.map (.sharedOrder (.sharedBook market)) := by
    cases link : order.previousOrder with
    | none => exact ⟨none, rfl⟩
    | some other =>
        obtain ⟨-, -, older, present, there, -⟩ := holds.sound.previous stored opened link
        have there : older.book = order.book := there
        have keyed : other = .sharedOrder older.book older.orderId := holds.orders other older present
        exact ⟨some older.orderId, congrArg some (keyed.trans (by rw [there, home]))⟩
  have forward : ∃ next : Option Nat,
      order.nextOrder = next.map (.sharedOrder (.sharedBook market)) := by
    cases link : order.nextOrder with
    | none => exact ⟨none, rfl⟩
    | some other =>
        obtain ⟨-, newer, present, there, -⟩ := holds.sound.following stored opened link
        have there : newer.book = order.book := there
        have keyed : other = .sharedOrder newer.book newer.orderId := holds.orders other newer present
        exact ⟨some newer.orderId, congrArg some (keyed.trans (by rw [there, home]))⟩
  obtain ⟨previous, isPrevious⟩ := backward
  obtain ⟨next, isNext⟩ := forward
  exact ⟨previous, next, isPrevious, isNext⟩

theorem same_unlink {orders : Store Pubkey PredictionOrder} {gone : SharedOrder}
    {left : PredictionOrder} (same : legacyOpen orders market = sharedOpen shared.orders market)
    (goneClosed : gone.status ≠ .opened) (leftClosed : left.status ≠ .opened) :
    legacyOpen (predictionShelf.unlink orders (.predictionOrder market orderId)
        (legacyOrder market order) left) market =
      sharedOpen (sharedShelf.unlink shared.orders (.sharedOrder (.sharedBook market) orderId)
        order gone) market := by
  obtain ⟨previous, next, isPrevious, isNext⟩ := shared_links holds stored live
  have previousIs : (predictionShelf.node (legacyOrder market order)).link.prev =
      previous.map (.predictionOrder market) := by
    change order.previousOrder.map (legacyKey market) = _
    rw [isPrevious, Option.map_map]
    rfl
  have nextIs : (predictionShelf.node (legacyOrder market order)).link.next =
      next.map (.predictionOrder market) := by
    change order.nextOrder.map (legacyKey market) = _
    rw [isNext, Option.map_map]
    rfl
  have previousThere : (sharedShelf.node order).link.prev =
      previous.map (.sharedOrder (.sharedBook market)) := isPrevious
  have nextThere : (sharedShelf.node order).link.next =
      next.map (.sharedOrder (.sharedBook market)) := isNext
  rw [Shelf.unlink, Shelf.unlink, previousIs, nextIs, previousThere, nextThere, legacyOpen_relink,
    sharedOpen_relink, legacyOpen_set, sharedOpen_set, same, legacyView, if_neg leftClosed,
    sharedView, if_neg goneClosed, Option.map_map, Option.map_map]
  rfl

omit live in
theorem same_vacate {levels : Store Pubkey PredictionPriceLevel} {level : SharedPriceLevel}
    (traded : order.outcome ≠ .spot)
    (same : legacyLevels levels market = sharedLevels shared.levels market) :
    legacyLevels (predictionShelf.vacate levels (legacyOrder market order)
        (legacyLevel market level)
        (PredictionPriceLevel.vacated (legacyLevel market level) (legacyOrder market order)))
        market =
      sharedLevels (sharedShelf.vacate shared.levels order level
        (SharedPriceLevel.vacated level order)) market := by
  obtain ⟨home, marketIs, -⟩ := shared_home holds stored
  have place : sharedShelf.file (sharedShelf.home order) (sharedShelf.node order).place =
      sharedPlace (.sharedBook market) ((legacyOutcome order.outcome, order.side), order.price) := by
    change Pubkey.sharedLevel order.book order.outcome order.side order.price = _
    rw [home, sharedPlace, sharedOutcome_legacyOutcome traded]
  have placed : predictionShelf.file (predictionShelf.home (legacyOrder market order))
      (predictionShelf.node (legacyOrder market order)).place =
      predictionShelf.file market ((legacyOutcome order.outcome, order.side), order.price) := by
    change Pubkey.predictionLevel order.market _ _ _ = _
    rw [marketIs]
    rfl
  have lists : (sharedShelf.node order).list =
      (sharedOutcome (legacyOutcome order.outcome), order.side) := by
    rw [sharedOutcome_legacyOutcome traded]
    rfl
  have atHome : sharedShelf.home order = .sharedBook market := home
  have atMarket : predictionShelf.home (legacyOrder market order) = market := marketIs
  have left : PredictionPriceLevel.vacated (legacyLevel market level) (legacyOrder market order) =
      legacyLevel market (SharedPriceLevel.vacated level order) := by
    simp only [PredictionPriceLevel.vacated, PredictionPriceLevel.unlink, legacyLevel, legacyOrder,
      SharedPriceLevel.vacated, SharedPriceLevel.unlink, Option.map_eq_none_iff,
      apply_ite (Option.map (legacyKey market))]
  by_cases last : (sharedShelf.levelNode level).summary.count = 1
  · have lastThere : (predictionShelf.levelNode (legacyLevel market level)).summary.count = 1 := last
    have relisted := legacyLevels_relevel market (levels.erase
      (predictionShelf.file market ((legacyOutcome order.outcome, order.side), order.price)))
      (legacyOutcome order.outcome, order.side) level.betterPrice level.worsePrice level.worsePrice
      level.betterPrice
    rw [Shelf.vacate_last _ last, Shelf.vacate_last _ lastThere, place, placed, lists, atHome,
      atMarket]
    refine relisted.trans ?_
    rw [legacyLevels_erase, same, ← sharedLevels_erase]
    exact (sharedLevels_relevel market _ _ _ _ _ _).symm
  · have staysThere : (predictionShelf.levelNode (legacyLevel market level)).summary.count ≠ 1 :=
      last
    rw [Shelf.vacate_stays _ last, Shelf.vacate_stays _ staysThere, place, placed,
      legacyLevels_set, sharedLevels_set, same, left]

end Departures

end Tidebook.Proof
