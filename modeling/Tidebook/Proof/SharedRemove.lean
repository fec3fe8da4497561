import Tidebook.Proof.SharedPlace

/-! # Shared departures -/

namespace Tidebook.Proof
open Library Program
open Shared (assetPart contractPart)

/-! ## Departures -/

structure SharedDeparture (shared : Shared) (orderKey : Pubkey) where
  book : SharedBook
  order : SharedOrder
  level : SharedPriceLevel
  stored : shared.books.get order.book = some book
  orderStored : shared.orders.get orderKey = some order
  live : order.status = .opened
  levelStored : shared.levels.get
    (.sharedLevel order.book order.outcome order.side order.price) = some level

def SharedPriceLevel.vacated (level : SharedPriceLevel) (order : SharedOrder) : SharedPriceLevel :=
  level.unlink order.previousOrder order.nextOrder (level.orderCount - 1)
    (level.totalRemainingQuantity - order.remainingQuantity)

namespace SharedDeparture

variable {shared : Shared} {orderKey : Pubkey} (leaving : SharedDeparture shared orderKey)

def headed (fees : Nat) : SharedBook :=
  { (if leaving.level.orderCount = 1 ∧ leaving.level.betterPrice = none then
      leaving.book.setBest (listSlot leaving.order.outcome leaving.order.side)
        leaving.level.worsePrice
      else leaving.book) with
    openOrderCount := leaving.book.openOrderCount - 1, accruedQuoteFees := fees }

def orders (gone : SharedOrder) : Store Pubkey SharedOrder :=
  sharedShelf.unlink shared.orders orderKey leaving.order gone

def levels : Store Pubkey SharedPriceLevel :=
  sharedShelf.vacate shared.levels leaving.order leaving.level
    (SharedPriceLevel.vacated leaving.level leaving.order)

theorem rests (holds : SharedInvariant shared) : Shared.Resting leaving.book leaving.order := by
  obtain ⟨book, stored, rest⟩ := holds.resting _ _ leaving.orderStored leaving.live
  rw [leaving.stored] at stored
  cases stored
  exact rest

theorem slotted (holds : SharedInvariant shared) :
    leaving.book.slot leaving.order.outcome leaving.order.side =
      .ok (listSlot leaving.order.outcome leaving.order.side) :=
  slot_eq_ok.mpr ⟨(leaving.rests holds).traded, rfl⟩

theorem headed_same (fees : Nat) : Shared.SameTerms leaving.book (leaving.headed fees) := by
  rw [headed]
  split <;> exact ⟨rfl, rfl, rfl, le_refl _⟩

theorem headed_best (holds : SharedInvariant shared) (fees : Nat) :
    headOf (leaving.headed fees) =
      if leaving.level.orderCount = 1 ∧ leaving.level.betterPrice = none then
        Function.update (headOf leaving.book) (leaving.order.outcome, leaving.order.side)
          leaving.level.worsePrice
      else headOf leaving.book := by
  rw [headed]
  split
  · rw [← headOf_setBest (leaving.slotted holds)]
    exact headOf_congr rfl rfl
  · exact headOf_congr rfl rfl

theorem sound (holds : SharedInvariant shared) {gone : SharedOrder} (fees : Nat)
    (closed : gone.status ≠ .opened) :
    sharedShelf.Sound sharedPrecedes
      (sharedHeads (shared.books.set leaving.order.book (leaving.headed fees)))
      (leaving.orders gone) leaving.levels := by
  refine holds.sound.remove leaving.order gone orderKey leaving.orderStored
    (sharedShelf_live.mpr leaving.live) leaving.levelStored (sharedShelf_closed closed) rfl ?_ ?_
  · rw [sharedHeads_set]
    change Function.update _ leaving.order.book _ leaving.order.book = _
    rw [Function.update_self, leaving.headed_best holds, ← sharedHeads_stored leaving.stored]
    rfl
  · intro other different
    rw [sharedHeads_set]
    exact Function.update_of_ne different _ _

theorem open_count (holds : SharedInvariant shared) : 0 < leaving.book.openOrderCount := by
  rw [holds.counts _ _ leaving.stored]
  refine lt_of_lt_of_le ?_ (Store.le_total leaving.orderStored)
  simp [Shared.openIn, leaving.live]

theorem level_keyed (holds : SharedInvariant shared) : leaving.levels.Keyed fun level =>
    .sharedLevel level.book level.outcome level.side level.price := by
  rw [levels, Shelf.vacate]
  split
  · exact Shelf.relevel_keyed (fun _ _ => rfl) (fun _ _ => rfl) (holds.levels.erase _)
  · have keyed := holds.levels _ _ leaving.levelStored
    exact holds.levels.set keyed

theorem level_home (holds : SharedInvariant shared) (key : Pubkey) (level : SharedPriceLevel)
    (present : leaving.levels.get key = some level) : level.book = .sharedBook level.market := by
  rw [levels, Shelf.vacate] at present
  split at present
  · refine Shared.relevel_home (fun other record found => ?_) key level present
    rw [Store.get_erase] at found
    split at found
    · cases found
    · exact holds.levelHome other record found
  · rw [Store.get_set] at present
    split at present
    · cases present
      have home := holds.levelHome _ _ leaving.levelStored
      exact home
    · exact holds.levelHome key level present

theorem edit {after : Shared} {gone : SharedOrder} {fees : Nat} (holds : SharedInvariant shared)
    (closed : gone.status ≠ .opened) (home : gone.book = leaving.order.book)
    (market : gone.market = leaving.order.market) (named : gone.orderId = leaving.order.orderId)
    (books : after.books = shared.books.set leaving.order.book (leaving.headed fees))
    (orders : after.orders = leaving.orders gone) (levels : after.levels = leaving.levels) :
    SharedEdit shared after leaving.order.book orderKey leaving.book (leaving.headed fees) gone
      leaving.order.previousOrder leaving.order.nextOrder leaving.order.nextOrder
      leaving.order.previousOrder where
  stored := leaving.stored
  same := leaving.headed_same fees
  named := by
    rw [named]
    exact holds.orders _ _ leaving.orderStored
  home := home
  market := market.trans (leaving.rests holds).market
  rests live := absurd live closed
  books := books
  orders := orders
  levels := levels ▸ leaving.level_keyed holds
  levelHome := levels ▸ leaving.level_home holds
  sound := by
    rw [books, orders, levels]
    exact leaving.sound holds fees closed
  counted := by
    have counted := leaving.open_count holds
    have count : (leaving.headed fees).openOrderCount = leaving.book.openOrderCount - 1 := rfl
    have was : Shared.openIn leaving.order.book orderKey leaving.order = 1 := by
      simp [Shared.openIn, leaving.live]
    have isNow : Shared.openIn leaving.order.book orderKey gone = 0 := by
      simp [Shared.openIn, closed]
    rw [leaving.orderStored, isNow, Option.elim_some, was, count]
    omega

end SharedDeparture

theorem SharedDeparture.unique {shared : Shared} {orderKey : Pubkey}
    {first second : SharedDeparture shared orderKey} (book : first.book = second.book)
    (order : first.order = second.order) (level : first.level = second.level) : first = second := by
  cases first
  cases second
  cases book
  cases order
  cases level
  rfl

/-! ## Removal -/

theorem checkSharedOrder_ok {book : Account SharedBook} {order : Account SharedOrder} {done : Unit}
    (passed : checkSharedOrder book order = .ok done) :
    order.val.book = book.key ∧ order.val.status = .opened ∧
      order.key = .sharedOrder book.key order.val.orderId ∧
      order.val.priceLevel =
        .sharedLevel book.key order.val.outcome order.val.side order.val.price := by
  simp only [checkSharedOrder, bind_eq_ok, require_eq_ok] at passed
  obtain ⟨_, -, _, fields, _, filed, _, level, -⟩ := passed
  exact ⟨fields.1, fields.2.2.2.2.1, filed, level⟩

theorem checkRemoved_ok {book : Account SharedBook} {slot : Fin 4} {removed : Account SharedOrder}
    {current : Account SharedPriceLevel} {previous next : Option (Account SharedOrder)}
    {done : Unit} (passed : checkRemoved book slot removed current previous next = .ok done) :
    removed.val.priceLevel = current.key ∧ removed.val.price = current.val.price ∧
      removed.val.outcome = current.val.outcome ∧ removed.val.side = current.val.side ∧
      removed.val.previousOrder = previous.map Account.key ∧
      removed.val.nextOrder = next.map Account.key := by
  simp only [checkRemoved, bind_eq_ok, require_eq_ok, okOr_eq_ok] at passed
  obtain ⟨_, placed, _, -, _, -, _, linked, -⟩ := passed
  exact ⟨placed.1, placed.2.1, placed.2.2.1, placed.2.2.2, linked.1.symm, linked.2.symm⟩

theorem checkRemovedLevel_ok {book : Account SharedBook} {current : SharedPriceLevel}
    {count total : Nat} {previous next : Option (Account SharedOrder)}
    {better worse : Option (Account SharedPriceLevel)} {recipient : Option Pubkey} {done : Unit}
    (passed : checkRemovedLevel book current count total previous next better worse recipient =
      .ok done) :
    (count = 0 → better.map Account.key =
        current.betterPrice.map (Pubkey.sharedLevel book.key current.outcome current.side) ∧
      worse.map Account.key =
        current.worsePrice.map (Pubkey.sharedLevel book.key current.outcome current.side)) ∧
      (count ≠ 0 → better = none ∧ worse = none) := by
  constructor
  · intro emptied
    rw [checkRemovedLevel, if_pos emptied] at passed
    simp only [bind_eq_ok, require_eq_ok] at passed
    obtain ⟨_, _, _, keys, _⟩ := passed
    exact keys
  · intro stays
    rw [checkRemovedLevel, if_neg stays] at passed
    simp only [require_eq_ok, Option.isNone_iff_eq_none] at passed
    exact ⟨passed.2.2.1, passed.2.2.2.1⟩

/-- What the records a removal returns come to once they are saved. -/
structure Removed (shared : Shared) (removed : Account SharedOrder)
    (current : Account SharedPriceLevel) (removal : Removal)
    (leaving : SharedDeparture shared removed.key) : Prop where
  order : leaving.order = removed.val
  level : leaving.level = current.val
  book : ∀ fees, { removal.book with accruedQuoteFees := fees } = leaving.headed fees
  fees : removal.book.accruedQuoteFees = leaving.book.accruedQuoteFees
  orders : ∀ gone, saveOption (saveOption (shared.orders.set removed.key gone) removal.previous)
    removal.next = leaving.orders gone
  levels : saveOption (saveOption (saveOrClose shared.levels current.key removal.level)
    removal.better) removal.worse = leaving.levels

theorem removeOrder_ok {shared : Shared} (holds : SharedInvariant shared)
    {book : Account SharedBook} {removed : Account SharedOrder}
    {current : Account SharedPriceLevel} {previous next : Option (Account SharedOrder)}
    {better worse : Option (Account SharedPriceLevel)} {recipient : Option Pubkey}
    {removal : Removal} (stored : shared.books.get book.key = some book.val)
    (orderStored : shared.orders.get removed.key = some removed.val)
    (levelStored : shared.levels.get current.key = some current.val)
    (hasPrevious : ∀ value ∈ previous, shared.orders.get value.key = some value.val)
    (hasNext : ∀ value ∈ next, shared.orders.get value.key = some value.val)
    (hasBetter : ∀ value ∈ better, shared.levels.get value.key = some value.val)
    (hasWorse : ∀ value ∈ worse, shared.levels.get value.key = some value.val)
    (passed : removeOrder book removed current previous next better worse recipient =
      .ok removal) :
    ∃ leaving : SharedDeparture shared removed.key, leaving.book = book.val ∧
      Removed shared removed current removal leaving := by
  obtain ⟨key, book⟩ := book
  obtain ⟨orderKey, order⟩ := removed
  obtain ⟨levelKey, level⟩ := current
  simp only [removeOrder, bind_eq_ok, checkedSub_eq_ok, pure_eq_ok] at passed
  obtain ⟨_, valid, _, -, slot, slotted, _, linked, _, ⟨some_count, rfl⟩, _, ⟨_, rfl⟩, _,
    ⟨_, rfl⟩, _, emptying, rfl⟩ := passed
  obtain ⟨home, live, -, placed⟩ := checkSharedOrder_ok valid
  obtain ⟨filed, price, outcome, side, isPrevious, isNext⟩ := checkRemoved_ok linked
  obtain ⟨emptied, stays⟩ := checkRemovedLevel_ok emptying
  dsimp only at *
  subst home
  rw [placed] at filed
  subst filed
  rw [← outcome, ← side] at emptied
  have single : level.orderCount - 1 = 0 ↔ level.orderCount = 1 := by omega
  have slotIs := (slot_eq_ok.mp slotted).2
  refine ⟨⟨book, order, level, stored, orderStored, live, levelStored⟩, rfl, rfl, rfl, ?_, ?_, ?_,
    ?_⟩
  · intro fees
    have conditions : (level.orderCount - 1 = 0 ∧ better.isNone) ↔
        (level.orderCount = 1 ∧ level.betterPrice = none) := by
      rw [single]
      refine and_congr_right fun last => ?_
      exact map_key_none (emptied (single.mpr last)).1
    simp only [conditions, SharedDeparture.headed, slotIs]
  · dsimp only
    split <;> rfl
  · intro gone
    have saved := save_unlink holds.sound orderStored (sharedShelf_live.mpr live) isPrevious
      isNext hasPrevious hasNext gone
    simp only [isPrevious, isNext]
    exact saved
  · have there : shared.levels.get (sharedShelf.file order.book
        ((order.outcome, order.side), order.price)) = some level := levelStored
    by_cases last : level.orderCount = 1
    · obtain ⟨betterKeys, worseKeys⟩ := emptied (single.mpr last)
      rw [if_pos (single.mpr last)]
      exact (save_relevel holds.sound there betterKeys worseKeys hasBetter hasWorse).trans
        (sharedShelf.vacate_last order last).symm
    · obtain ⟨rfl, rfl⟩ := stays (single.not.mpr last)
      rw [if_neg (single.not.mpr last)]
      exact (sharedShelf.vacate_stays order last).symm

/-- Removing a maker from the front of the best level touches nothing before it. -/
theorem removeOrder_front {book : Account SharedBook} {removed : Account SharedOrder}
    {current : Account SharedPriceLevel} {next : Option (Account SharedOrder)}
    {worse : Option (Account SharedPriceLevel)} {recipient : Option Pubkey} {removal : Removal}
    (passed : removeOrder book removed current none next none worse recipient = .ok removal) :
    removal.previous = none ∧ removal.better = none := by
  simp only [removeOrder, bind_eq_ok, checkedSub_eq_ok, pure_eq_ok] at passed
  obtain ⟨_, -, _, -, _, -, _, -, _, -, _, -, _, -, _, -, rfl⟩ := passed
  exact ⟨rfl, rfl⟩

/-! ## Cancellation -/

/-- A cancellation that passed every check of its handler. -/
structure SharedCancellation (state : State) (owner : Wallet) (orderKey : Pubkey) extends
    SharedDeparture state.shared orderKey where
  own : order.owner = owner.key
  claims : Claims
  released : Claims
  held : ClaimsHeld state book owner.key claims
  unlock : unlock book.kind order.outcome order.side claims order.lockedCollateral = .ok released

def SharedOrder.canceled (order : SharedOrder) : SharedOrder :=
  { order with
    status := .canceled, lockedCollateral := 0, previousOrder := none, nextOrder := none }

namespace SharedCancellation

variable {state : State} {owner : Wallet} {orderKey : Pubkey}
variable (leaving : SharedCancellation state owner orderKey)

def result : State :=
  { saveClaims state leaving.released with
    shared := { (saveClaims state leaving.released).shared with
      books := state.shared.books.set leaving.order.book
        (leaving.headed leaving.book.accruedQuoteFees)
      orders := leaving.orders (SharedOrder.canceled leaving.order)
      levels := leaving.levels } }

theorem assets (holds : SharedInvariant state.shared)
    (filed : assetLedger.Filed state.shared.assets) :
    assetLedger.Edit state.shared.assets (saveClaims state leaving.released).shared.assets
      (Shared.assetShare leaving.book leaving.order) 0 0 0 := by
  have rest := leaving.rests holds
  have edit := saveClaims_assets (holds.terms _ _ leaving.stored) rest.traded filed leaving.held
    (unlockClaims_ok leaving.unlock)
  simp only [Flow.unlocking, Shared.assetPart_zero, Shared.mintPart_zero] at edit
  rw [Shared.assetShare, leaving.own]
  exact edit

theorem contracts (holds : SharedInvariant state.shared)
    (filed : positionLedger.Filed state.prediction.positions) :
    positionLedger.Edit state.prediction.positions
      (saveClaims state leaving.released).prediction.positions
      (Shared.contractShare leaving.order) 0 0 0 := by
  have rest := leaving.rests holds
  have edit := saveClaims_positions rest.traded filed leaving.held (unlockClaims_ok leaving.unlock)
  simp only [Flow.unlocking, Shared.contractPart_zero, traded_zero, Ledger.single_zero] at edit
  rw [Shared.contractShare, leaving.own, rest.market]
  exact edit

theorem edit (holds : SharedInvariant state.shared) :
    SharedEdit state.shared leaving.result.shared leaving.order.book orderKey leaving.book
      (leaving.headed leaving.book.accruedQuoteFees) (SharedOrder.canceled leaving.order)
      leaving.order.previousOrder leaving.order.nextOrder leaving.order.nextOrder
      leaving.order.previousOrder :=
  leaving.toSharedDeparture.edit holds (by simp [SharedOrder.canceled]) rfl rfl rfl rfl rfl rfl

end SharedCancellation

theorem loadBookAccount_ok {shared : Shared} {key : Pubkey} {book : Account SharedBook}
    (passed : loadBookAccount shared key = .ok book) :
    book.key = key ∧ shared.books.get key = some book.val := by
  simp only [loadBookAccount, bind_eq_ok, load_eq_ok, require_eq_ok, pure_eq_ok] at passed
  obtain ⟨_, ⟨filed, stored⟩, _, -, rfl⟩ := passed
  exact ⟨filed, stored⟩

theorem handleCancelSharedOrder_ok {state after : State} {accounts : CancelSharedOrder}
    (holds : SharedInvariant state.shared)
    (done : handleCancelSharedOrder state accounts = .ok after) :
    ∃ leaving : SharedCancellation state accounts.owner accounts.order, leaving.result = after := by
  obtain ⟨owner, bookKey, keys, orderKey, levelKey, previousKey, nextKey, betterKey, worseKey,
    recipient⟩ := accounts
  simp only [handleCancelSharedOrder, bind_eq_ok, load_eq_ok, require_eq_ok, loadOption_eq_ok,
    pure_eq_ok, exists_const, and_assoc] at done
  obtain ⟨book, ownBook, claims, loaded, ⟨_, order⟩, rfl, orderStored, own, ⟨_, level⟩, rfl,
    levelStored, previous, -, hasPrevious, next, -, hasNext, better, -, hasBetter, worse, -,
    hasWorse, _, traded, _, valid, released, unlocked, removal, removed, rfl⟩ := done
  obtain ⟨rfl, stored⟩ := loadBookAccount_ok ownBook
  obtain ⟨leaving, isBook, effect⟩ := removeOrder_ok holds stored orderStored levelStored
    hasPrevious hasNext hasBetter hasWorse removed
  have isOrder := effect.order
  have held := claimsHeld loaded traded
  rw [← isBook] at held unlocked
  rw [← isOrder] at unlocked
  obtain ⟨home, -⟩ := checkSharedOrder_ok valid
  refine ⟨⟨leaving, (congrArg SharedOrder.owner isOrder).trans own, claims, released, held,
    unlocked⟩, ?_⟩
  have bookKeyIs : leaving.order.book = book.key := (congrArg SharedOrder.book isOrder).trans home
  have books : removal.book = leaving.headed leaving.book.accruedQuoteFees := by
    rw [← effect.book, ← effect.fees]
  simp only [SharedCancellation.result, bookKeyIs]
  rw [books, effect.orders, effect.levels]
  simp only [SharedOrder.canceled, isOrder]

end Tidebook.Proof
