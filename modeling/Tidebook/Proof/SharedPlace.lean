import Tidebook.Proof.SharedClaims

/-! # Shared placements -/

namespace Tidebook.Proof
open Library Program
open Shared (assetPart contractPart)

/-! ## Terms of an order -/

structure Priced (book : SharedBook) (outcome : SharedOutcome) (side : OrderSide)
    (price quantity : Nat) (slot : Fin 4) (amount : Nat) : Prop where
  slotted : book.slot outcome side = .ok slot
  price_pos : 0 < price
  tick_pos : 0 < book.priceTick
  tick : book.priceTick ∣ price
  quantity_pos : 0 < quantity
  lot_pos : 0 < book.quantityLot
  lot : book.quantityLot ∣ quantity
  price_lt : book.kind = .prediction → price < book.payoutPerContract
  scale : 10 ^ book.baseDecimals ≤ u128Max
  product : price * quantity ≤ u128Max
  quote_fits : price * quantity / 10 ^ book.baseDecimals ≤ u64Max
  quote_pos : 0 < price * quantity / 10 ^ book.baseDecimals
  locked : amount =
    if side = .bid then price * quantity / 10 ^ book.baseDecimals else quantity

section Terms

variable {book : SharedBook} {outcome : SharedOutcome} {side : OrderSide} {price quantity : Nat}
variable {slot : Fin 4} {amount : Nat}

@[simp] theorem quoteAmount_eq_ok {result : Nat} : quoteAmount book price quantity = .ok result ↔
    10 ^ book.baseDecimals ≤ u128Max ∧ price * quantity ≤ u128Max ∧
      price * quantity / 10 ^ book.baseDecimals ≤ u64Max ∧
      result = price * quantity / 10 ^ book.baseDecimals := by
  simp only [quoteAmount, bind_eq_ok, notional_eq_ok, toU64_eq_ok]
  constructor
  · rintro ⟨_, ⟨scale, product, rfl⟩, fits, rfl⟩
    exact ⟨scale, product, fits, rfl⟩
  · rintro ⟨scale, product, fits, rfl⟩
    exact ⟨_, ⟨scale, product, rfl⟩, fits, rfl⟩

theorem orderTerms_eq_ok : orderTerms book outcome side price quantity = .ok (slot, amount) ↔
    Priced book outcome side price quantity slot amount := by
  simp only [orderTerms, bind_eq_ok, require_eq_ok, quoteAmount_eq_ok, pure_eq_ok, Prod.mk.injEq]
  constructor
  · rintro ⟨_, slotted, _, ticked, _, lotted, _, below, _, ⟨scale, product, fits, rfl⟩, _, positive,
      rfl, rfl⟩
    exact ⟨slotted, ticked.1, ticked.2.1, ticked.2.2, lotted.1, lotted.2.1, lotted.2.2, below, scale,
      product, fits, positive, rfl⟩
  · intro priced
    exact ⟨slot, priced.slotted, (), ⟨priced.price_pos, priced.tick_pos, priced.tick⟩, (),
      ⟨priced.quantity_pos, priced.lot_pos, priced.lot⟩, (), priced.price_lt, _,
      ⟨priced.scale, priced.product, priced.quote_fits, rfl⟩, (), priced.quote_pos, rfl,
      priced.locked.symm⟩

end Terms

theorem loadSharedBook_ok {shared : Shared} {market : Pubkey} {book : Account SharedBook}
    (passed : loadSharedBook shared market = .ok book) : book.key = .sharedBook market ∧
      shared.books.get (.sharedBook market) = some book.val ∧ book.val.market = market := by
  simp only [loadSharedBook, bind_eq_ok, load_eq_ok, require_eq_ok, pure_eq_ok] at passed
  obtain ⟨_, ⟨filed, stored⟩, _, ofMarket, rfl⟩ := passed
  exact ⟨filed, stored, ofMarket⟩

theorem existingLevel_sound {shared : Shared} (holds : SharedInvariant shared) (market : Pubkey)
    (outcome : SharedOutcome) (side : OrderSide) (price : Nat) :
    existingLevel shared.levels (.sharedLevel (.sharedBook market) outcome side price) =
      (shared.levels.get (.sharedLevel (.sharedBook market) outcome side price)).map fun level =>
        ⟨.sharedLevel (.sharedBook market) outcome side price, level⟩ := by
  rw [existingLevel]
  cases found : shared.levels.get (.sharedLevel (.sharedBook market) outcome side price) with
  | none => rfl
  | some level =>
      have there : shared.levels.get (sharedShelf.file (.sharedBook market)
        ((outcome, side), price)) = some level := found
      have some_count : 0 < level.orderCount := holds.sound.occupied there
      simp only [Option.map_some, ite_eq_right_iff]
      omega

/-! ## Placement -/

/-- What a placement shares whether or not its price has a level. -/
structure SharedPlacement (state : State) (owner : Wallet) (market : Pubkey) (orderId : Nat)
    (outcome : SharedOutcome) (side : OrderSide) (price quantity : Nat) where
  book : SharedBook
  claims : Claims
  locked : Claims
  slot : Fin 4
  amount : Nat
  stored : state.shared.books.get (.sharedBook market) = some book
  home : book.market = market
  trading : tradingOpen state book market = .ok ()
  held : ClaimsHeld state book owner.key claims
  freshOrder : state.shared.orders.get (.sharedOrder (.sharedBook market) orderId) = none
  priced : Priced book outcome side price quantity slot amount
  id_pos : 0 < orderId
  id_next : orderId = book.nextOrderId
  apart : ∀ opposite ∈ book.bestPrices (oppositeSlot slot), side.Precedes opposite price
  lock : lock book.kind outcome side claims amount = .ok locked

namespace SharedPlacement

variable {state : State} {owner : Wallet} {market : Pubkey} {orderId : Nat}
variable {outcome : SharedOutcome} {side : OrderSide} {price quantity : Nat}
variable (placed : SharedPlacement state owner market orderId outcome side price quantity)

def order (previous : Option Pubkey) : SharedOrder :=
  newSharedOrder owner.key ⟨.sharedBook market, placed.book⟩ orderId outcome side price quantity
    placed.amount previous

def counted : SharedBook :=
  { placed.book with
    nextOrderId := orderId + 1, openOrderCount := placed.book.openOrderCount + 1 }

theorem trades : Trades placed.book.kind outcome := (slot_eq_ok.mp placed.priced.slotted).1

theorem assets (holds : SharedInvariant state.shared)
    (filed : assetLedger.Filed state.shared.assets) :
    assetLedger.Edit state.shared.assets (saveClaims state placed.locked).shared.assets 0
      (assetPart placed.book owner.key outcome (Shared.quoteShare side placed.amount)
        (Shared.baseShare side placed.amount)) 0 0 := by
  have edit := saveClaims_assets (holds.terms _ _ placed.stored) placed.trades filed placed.held
    (lockClaims_ok placed.lock)
  simp only [Flow.locking, Shared.assetPart_zero, Shared.mintPart_zero] at edit
  exact edit

theorem contracts (filed : positionLedger.Filed state.prediction.positions) :
    positionLedger.Edit state.prediction.positions
      (saveClaims state placed.locked).prediction.positions 0
      (contractPart market owner.key outcome (Shared.baseShare side placed.amount)) 0 0 := by
  have edit := saveClaims_positions placed.trades filed placed.held (lockClaims_ok placed.lock)
  simp only [Flow.locking, Shared.contractPart_zero, traded_zero, Ledger.single_zero,
    placed.home] at edit
  exact edit

theorem same_counted : Shared.SameTerms placed.book placed.counted where
  market := rfl
  kind := rfl
  terms := rfl
  nextOrderId := Nat.le_succ_of_le placed.id_next.ge

theorem rests (priceFits : price ≤ u64Max) (quantityFits : quantity ≤ u64Max)
    (previous : Option Pubkey) {record : SharedBook}
    (same : Shared.SameTerms placed.counted record) :
    Shared.Resting record (placed.order previous) := by
  have priced := placed.priced
  have rest : Shared.Resting placed.counted (placed.order previous) := by
    refine ⟨placed.trades, priced.price_pos, priceFits, priced.price_lt, priced.tick, placed.id_pos,
      Nat.lt_succ_self _, priced.quantity_pos, le_refl _, quantityFits, priced.lot, priced.scale,
      priced.quote_fits, fun isBid => ?_, fun isAsk => ?_, ?_, rfl, rfl⟩
    · exact (priced.locked.trans (if_pos isBid)).ge
    · exact priced.locked.trans (if_neg fun isBid => by cases isBid.symm.trans isAsk)
    · have locked := priced.locked
      have fits := priced.quote_fits
      have amount : (placed.order previous).lockedCollateral = placed.amount := rfl
      rw [amount, locked]
      split <;> assumption
  exact rest.congr same

include placed in
theorem earlier (holds : SharedInvariant state.shared) (other : Pubkey) (found : SharedOrder)
    (present : state.shared.orders.get other = some found)
    (home : found.book = .sharedBook market) (live : found.status = .opened) :
    found.orderId < orderId := by
  obtain ⟨book, stored, rest⟩ := holds.resting other found present live
  rw [home, placed.stored] at stored
  cases stored
  rw [placed.id_next]
  exact rest.id_lt

end SharedPlacement

/-! ## A new price -/

structure SharedInsertion (state : State) (owner : Wallet) (market : Pubkey) (orderId : Nat)
    (outcome : SharedOutcome) (side : OrderSide) (price quantity : Nat) extends
    SharedPlacement state owner market orderId outcome side price quantity where
  better : Option Nat
  worse : Option Nat
  freshLevel : state.shared.levels.get
    (.sharedLevel (.sharedBook market) outcome side price) = none
  adjacent : Adjacent sharedPrecedes (sharedShelf.book (sharedHeads state.shared.books)
    state.shared.orders state.shared.levels (.sharedBook market)) ((outcome, side), price) better
    worse

namespace SharedInsertion

variable {state : State} {owner : Wallet} {market : Pubkey} {orderId : Nat}
variable {outcome : SharedOutcome} {side : OrderSide} {price quantity : Nat}
variable (placed : SharedInsertion state owner market orderId outcome side price quantity)

def headed : SharedBook :=
  if placed.better = none then placed.counted.setBest placed.slot (some price) else placed.counted

def result : State :=
  { saveClaims state placed.locked with
    shared := { (saveClaims state placed.locked).shared with
      books := state.shared.books.set (.sharedBook market) placed.headed
      orders := state.shared.orders.set (.sharedOrder (.sharedBook market) orderId)
        (placed.order none)
      levels := sharedShelf.relevel (.sharedBook market) (outcome, side)
        (state.shared.levels.set (.sharedLevel (.sharedBook market) outcome side price)
          (newSharedLevel owner.key ⟨.sharedBook market, placed.book⟩ outcome side price quantity
            (.sharedOrder (.sharedBook market) orderId) placed.better placed.worse))
        placed.better placed.worse (some price) (some price) } }

theorem headed_same : Shared.SameTerms placed.counted placed.headed := by
  rw [headed]
  split <;> exact ⟨rfl, rfl, rfl, le_refl _⟩

theorem headed_best : headOf placed.headed = if placed.better = none then
    Function.update (headOf placed.book) (outcome, side) (some price)
    else headOf placed.book := by
  have counted : headOf placed.counted = headOf placed.book := headOf_congr rfl rfl
  rw [headed]
  split
  · rw [headOf_setBest ((slot_kind (placed.same_counted).kind _ _).trans placed.priced.slotted),
      counted]
  · exact counted

theorem edit (holds : SharedInvariant state.shared) (priceFits : price ≤ u64Max)
    (quantityFits : quantity ≤ u64Max) :
    SharedEdit state.shared placed.result.shared (.sharedBook market)
      (.sharedOrder (.sharedBook market) orderId) placed.book placed.headed (placed.order none)
      none none none none where
  stored := placed.stored
  same := by
    obtain ⟨h1, h2, h3, h4⟩ := placed.same_counted
    obtain ⟨g1, g2, g3, g4⟩ := placed.headed_same
    exact ⟨g1.trans h1, g2.trans h2, g3.trans h3, h4.trans g4⟩
  named := rfl
  home := rfl
  market := rfl
  rests _ := placed.rests priceFits quantityFits none placed.headed_same
  books := rfl
  orders := rfl
  levels := Shelf.relevel_keyed (fun _ _ => rfl) (fun _ _ => rfl) (holds.levels.set rfl)
  levelHome := by
    refine Shared.relevel_home fun other level present => ?_
    rw [Store.get_set] at present
    split at present
    · cases present
      exact congrArg Pubkey.sharedBook placed.home.symm
    · exact holds.levelHome other level present
  sound := by
    refine holds.sound.insert (placed.order none) _ _ placed.freshOrder placed.freshLevel
      (sharedShelf_live.mpr rfl) rfl rfl placed.adjacent ?_ placed.priced.quantity_pos ?_ ?_
    · intro other found present home live
      exact placed.earlier holds other found present home (sharedShelf_live.mp live)
    · simp only [result, sharedHeads_set]
      change Function.update _ (Pubkey.sharedBook market) _ (Pubkey.sharedBook market) = _
      rw [Function.update_self, headed_best, ← sharedHeads_stored placed.stored]
      rfl
    · intro other different
      simp only [result, sharedHeads_set]
      exact Function.update_of_ne different _ _
  counted := by
    have count : placed.headed.openOrderCount = placed.book.openOrderCount + 1 := by
      rw [headed]
      split <;> rfl
    rw [placed.freshOrder, count]
    simp [Shared.openIn, SharedPlacement.order, newSharedOrder]

end SharedInsertion

/-! ## Hints for a new price -/

theorem checkSharedLevel_ok {book : Account SharedBook} {level : Account SharedPriceLevel}
    {done : Unit} (passed : checkSharedLevel book level = .ok done) :
    level.key = .sharedLevel book.key level.val.outcome level.val.side level.val.price := by
  simp only [checkSharedLevel, bind_eq_ok, require_eq_ok] at passed
  obtain ⟨_, -, _, -, filed⟩ := passed
  exact filed

theorem checkListLevel_ok {book : Account SharedBook} {outcome : SharedOutcome} {side : OrderSide}
    {level : Account SharedPriceLevel} {done : Unit}
    (passed : checkListLevel book outcome side level = .ok done) :
    level.key = .sharedLevel book.key outcome side level.val.price := by
  simp only [checkListLevel, bind_eq_ok, require_eq_ok] at passed
  obtain ⟨_, checked, rfl, rfl⟩ := passed
  exact checkSharedLevel_ok checked

/-- What the spread check leaves of the two supplied levels. -/
structure SharedHints (book : Pubkey) (outcome : SharedOutcome) (side : OrderSide) (price : Nat)
    (best : Option Nat) (better worse : Option (Account SharedPriceLevel)) : Prop where
  betterKey : ∀ level ∈ better, level.key = .sharedLevel book outcome side level.val.price
  worseKey : ∀ level ∈ worse, level.key = .sharedLevel book outcome side level.val.price
  above : ∀ level ∈ better, side.Precedes level.val.price price ∧
    level.val.worsePrice = worse.map fun value => value.val.price
  below : ∀ level ∈ worse, side.Precedes price level.val.price
  first : better = none → (worse.map fun value => value.val.price) = best

theorem checkSpread_ok {book : Account SharedBook} {slot : Fin 4} {outcome : SharedOutcome}
    {side : OrderSide} {price : Nat} {tail : Option (Account SharedOrder)}
    {better worse : Option (Account SharedPriceLevel)} {done : Unit}
    (passed : checkSpread book slot outcome side price tail better worse = .ok done) :
    SharedHints book.key outcome side price (book.val.bestPrices slot) better worse := by
  simp only [checkSpread, bind_eq_ok, require_eq_ok, forSupplied_eq_ok] at passed
  obtain ⟨_, -, _, betterChecked, _, worseChecked, rest⟩ := passed
  have keys : ∀ level, checkListLevel book outcome side level = .ok () →
      level.key = .sharedLevel book.key outcome side level.val.price :=
    fun _ checked => checkListLevel_ok checked
  cases best : book.val.bestPrices slot with
  | none =>
      rw [best] at rest
      simp only [require_eq_ok, Option.isNone_iff_eq_none] at rest
      obtain ⟨rfl, rfl⟩ := rest
      exact ⟨by simp, by simp, by simp, by simp, fun _ => rfl⟩
  | some price =>
      rw [best] at rest
      simp only [bind_eq_ok, forSupplied_eq_ok, require_eq_ok] at rest
      obtain ⟨_, led, follows⟩ := rest
      refine ⟨fun level member => keys level (betterChecked level member),
        fun level member => keys level (worseChecked level member), ?_,
        fun level member => (follows level member).2, ?_⟩
      · rintro level rfl
        simp only [bind_eq_ok, require_eq_ok] at led
        obtain ⟨_, ordered, _, next, -⟩ := led
        exact ⟨ordered.1, next⟩
      · rintro rfl
        simp only [bind_eq_ok, okOr_eq_ok, require_eq_ok] at led
        obtain ⟨value, rfl, isBest, -⟩ := led
        exact congrArg some isBest

theorem SharedHints.adjacent {shared : Shared} {key : Pubkey} {book : SharedBook}
    {outcome : SharedOutcome} {side : OrderSide} {slot : Fin 4} {price : Nat}
    {better worse : Option (Account SharedPriceLevel)}
    (stored : shared.books.get key = some book) (slotted : book.slot outcome side = .ok slot)
    (hasBetter : ∀ level ∈ better, shared.levels.get level.key = some level.val)
    (hints : SharedHints key outcome side price (book.bestPrices slot) better worse) :
    Adjacent sharedPrecedes (sharedShelf.book (sharedHeads shared.books) shared.orders
      shared.levels key) ((outcome, side), price) (better.map fun level => level.val.price)
      (worse.map fun level => level.val.price) where
  above found named := by
    obtain ⟨level, member, rfl⟩ := Option.map_eq_some_iff.mp named
    obtain ⟨ordered, next⟩ := hints.above level member
    refine ⟨ordered, _, Shelf.book_level.mpr ⟨level.val, ?_, rfl⟩, next⟩
    have loaded := hasBetter level member
    rwa [hints.betterKey level member] at loaded
  below found named := by
    obtain ⟨level, member, rfl⟩ := Option.map_eq_some_iff.mp named
    exact hints.below level member
  first none := by
    have here : (sharedShelf.book (sharedHeads shared.books) shared.orders shared.levels key).best
        (outcome, side) = book.bestPrices slot :=
      (congrFun (sharedHeads_stored stored) _).trans (headOf_slot slotted)
    exact (hints.first (Option.map_eq_none_iff.mp none)).trans here.symm

theorem SharedHints.keys {key : Pubkey} {outcome : SharedOutcome} {side : OrderSide} {price : Nat}
    {best : Option Nat} {better worse : Option (Account SharedPriceLevel)}
    (hints : SharedHints key outcome side price best better worse) :
    (better.map Account.key = (better.map fun level => level.val.price).map
        fun price => sharedShelf.file key ((outcome, side), price)) ∧
      worse.map Account.key = (worse.map fun level => level.val.price).map
        fun price => sharedShelf.file key ((outcome, side), price) := by
  constructor
  · cases better with
    | none => rfl
    | some better => exact congrArg some (hints.betterKey better rfl)
  · cases worse with
    | none => rfl
    | some worse => exact congrArg some (hints.worseKey worse rfl)

/-! ## Append -/

def SharedPriceLevel.pushed (level : SharedPriceLevel) (order : Pubkey) (quantity : Nat) :
    SharedPriceLevel :=
  { level with
    lastOrder := some order
    orderCount := level.orderCount + 1
    totalRemainingQuantity := level.totalRemainingQuantity + quantity }

structure SharedAppending (state : State) (owner : Wallet) (market : Pubkey) (orderId : Nat)
    (outcome : SharedOutcome) (side : OrderSide) (price quantity : Nat) extends
    SharedPlacement state owner market orderId outcome side price quantity where
  level : SharedPriceLevel
  tail : Pubkey
  levelStored : state.shared.levels.get
    (.sharedLevel (.sharedBook market) outcome side price) = some level
  last : level.lastOrder = some tail

namespace SharedAppending

variable {state : State} {owner : Wallet} {market : Pubkey} {orderId : Nat}
variable {outcome : SharedOutcome} {side : OrderSide} {price quantity : Nat}
variable (placed : SharedAppending state owner market orderId outcome side price quantity)

def result : State :=
  { saveClaims state placed.locked with
    shared := { (saveClaims state placed.locked).shared with
      books := state.shared.books.set (.sharedBook market) placed.counted
      orders := sharedShelf.relink
        (state.shared.orders.set (.sharedOrder (.sharedBook market) orderId)
          (placed.order (some placed.tail)))
        (some placed.tail) none (some (.sharedOrder (.sharedBook market) orderId)) none
      levels := state.shared.levels.set (.sharedLevel (.sharedBook market) outcome side price)
        (SharedPriceLevel.pushed placed.level (.sharedOrder (.sharedBook market) orderId)
          quantity) } }

theorem edit (holds : SharedInvariant state.shared) (priceFits : price ≤ u64Max)
    (quantityFits : quantity ≤ u64Max) :
    SharedEdit state.shared placed.result.shared (.sharedBook market)
      (.sharedOrder (.sharedBook market) orderId) placed.book placed.counted
      (placed.order (some placed.tail)) (some placed.tail) none
      (some (.sharedOrder (.sharedBook market) orderId)) none where
  stored := placed.stored
  same := placed.same_counted
  named := rfl
  home := rfl
  market := rfl
  rests _ := placed.rests priceFits quantityFits _ ⟨rfl, rfl, rfl, le_refl _⟩
  books := rfl
  orders := rfl
  levels := by
    have keyed := holds.levels _ _ placed.levelStored
    exact holds.levels.set keyed
  levelHome other level present := by
    simp only [result, Store.get_set] at present
    split at present
    · cases present
      have home := holds.levelHome _ _ placed.levelStored
      exact home
    · exact holds.levelHome other level present
  sound := by
    refine holds.sound.append (placed.order (some placed.tail)) _ placed.freshOrder
      placed.levelStored placed.last (sharedShelf_live.mpr rfl) rfl rfl ?_
      placed.priced.quantity_pos ?_
    · intro other found present home live
      exact placed.earlier holds other found present home (sharedShelf_live.mp live)
    · have same : headOf placed.counted = sharedHeads state.shared.books (.sharedBook market) := by
        rw [sharedHeads_stored placed.stored]
        exact headOf_congr rfl rfl
      simp only [result, sharedHeads_set, same, Function.update_eq_self]
  counted := by
    rw [placed.freshOrder]
    simp [Shared.openIn, SharedPlacement.order, newSharedOrder, SharedPlacement.counted]

end SharedAppending

theorem joinLevel_ok {book : Account SharedBook} {slot : Fin 4} {outcome : SharedOutcome}
    {side : OrderSide} {price quantity : Nat} {order : Pubkey} {level : Account SharedPriceLevel}
    {tail : Option (Account SharedOrder)} {better worse : Option (Account SharedPriceLevel)}
    {last : Account SharedOrder} {joined : SharedPriceLevel}
    (passed : joinLevel book slot outcome side price quantity order level tail better worse =
      .ok (last, joined)) :
    tail = some last ∧ level.val.lastOrder = some last.key ∧
      joined = SharedPriceLevel.pushed level.val order quantity := by
  simp only [joinLevel, bind_eq_ok, require_eq_ok, okOr_eq_ok, checkedAdd_eq_ok, pure_eq_ok,
    Prod.mk.injEq, exists_const, and_assoc, exists_eq_left, exists_and_left] at passed
  obtain ⟨_, -, -, -, -, -, -, _, -, -, -, _, tail, _, -, isLast, -, -, -, -, -, _, _, -, -, rfl,
    rfl⟩ := passed
  exact ⟨tail, isLast, rfl⟩

theorem handlePlaceSharedOrder_ok {state after : State} {accounts : PlaceSharedOrder}
    {outcome : SharedOutcome} {side : OrderSide} {price quantity orderId : Nat}
    (holds : SharedInvariant state.shared)
    (done : handlePlaceSharedOrder state accounts outcome side price quantity orderId = .ok after) :
    (∃ placed : SharedInsertion state accounts.owner accounts.market orderId outcome side price
      quantity, placed.result = after) ∨
    ∃ placed : SharedAppending state accounts.owner accounts.market orderId outcome side price
      quantity, placed.result = after := by
  obtain ⟨owner, market, keys, tailKey, betterKey, worseKey⟩ := accounts
  simp only [handlePlaceSharedOrder, bind_eq_ok, vacant_eq_ok, require_eq_ok, loadOption_eq_ok,
    checkedAdd_eq_ok, exists_const, and_assoc, exists_eq_left, exists_and_left] at done
  obtain ⟨⟨key, book⟩, ownBook, claims, loaded, freshOrder, tail, -, hasTail, better, -, hasBetter,
    worse, -, hasWorse, _, trading, _, traded, ⟨slot, amount⟩, priced, id_pos, id_next, done⟩ := done
  obtain ⟨apart, -, -, done⟩ := done
  obtain ⟨filed, stored, home⟩ := loadSharedBook_ok ownBook
  dsimp only at *
  subst filed
  have held := claimsHeld loaded traded
  have terms := orderTerms_eq_ok.mp priced
  rw [existingLevel_sound holds] at done
  cases found : state.shared.levels.get
      (.sharedLevel (.sharedBook market) outcome side price) with
  | some level =>
      simp only [found, Option.map_some, bind_eq_ok, pure_eq_ok] at done
      obtain ⟨⟨last, joined⟩, appended, locked, locks, rfl⟩ := done
      obtain ⟨rfl, isLast, rfl⟩ := joinLevel_ok appended
      refine .inr ⟨⟨⟨book, claims, locked, slot, amount, stored, home, trading, held, freshOrder,
        terms, id_pos, id_next, apart, locks⟩, level, last.key, found, isLast⟩, ?_⟩
      have saved := save_appended sharedShelf freshOrder (hasTail last rfl)
        (newSharedOrder owner.key ⟨.sharedBook market, book⟩ orderId outcome side price quantity
          amount (some last.key))
      simp only [SharedAppending.result]
      congr 2
      exact saved.symm
  | none =>
      simp only [found, Option.map_none, bind_eq_ok, pure_eq_ok] at done
      obtain ⟨_, spread, locked, locks, rfl⟩ := done
      have hints := checkSpread_ok spread
      have adjacent := hints.adjacent stored terms.slotted hasBetter
      have vacant : state.shared.levels.get
        (sharedShelf.file (.sharedBook market) ((outcome, side), price)) = none := found
      have saved := save_opened vacant hints.keys.1 hints.keys.2 hasBetter hasWorse adjacent
      refine .inl ⟨⟨⟨book, claims, locked, slot, amount, stored, home, trading, held, freshOrder,
        terms, id_pos, id_next, apart, locks⟩, better.map fun level => level.val.price,
        worse.map fun level => level.val.price, found, adjacent⟩, ?_⟩
      simp only [SharedInsertion.result, SharedInsertion.headed, Option.map_eq_none_iff,
        Option.isNone_iff_eq_none]
      congr 2
      exact (saved _).symm

end Tidebook.Proof
