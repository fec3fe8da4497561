import Tidebook.Proof.EngineClaims
import Tidebook.Proof.SharedAccounts

/-! # Placements in the two engines

A placement that the shared engine accepts opens a price or joins one; the legacy engine accepts the
same order with the same neighbours and the two books stay the same.
-/

namespace Tidebook.Proof
open Library Program

/-! ## Terms -/

/-- What an open prediction market asks of its shared book. -/
structure QuestionTerms (state : State) (book : SharedBook) (source : PredictionMarket) :
    Prop where
  opened : source.status = .opened
  before : state.now < source.closeTs
  whole : book.baseDecimals = 0
  tick : book.priceTick = source.priceTick
  payout : book.payoutPerContract = source.payoutPerContract

theorem tradingOpen_question {state : State} {book : SharedBook} {market : Pubkey}
    {source : PredictionMarket} (kind : book.kind = .prediction)
    (stored : state.prediction.markets.get market = some source)
    (passed : tradingOpen state book market = .ok ()) : QuestionTerms state book source := by
  simp only [tradingOpen, terms, kind, bind_eq_ok, load_eq_ok, require_eq_ok, pure_eq_ok] at passed
  obtain ⟨_, -, _, ⟨record, ⟨_, present⟩, _, -, _, trading, _, -, _, -, rfl⟩, same⟩ := passed
  cases present.symm.trans stored
  simp only [SharedBook.terms, SharedTerms.mk.injEq] at same
  obtain ⟨-, -, -, whole, -, tick, -, payout⟩ := same
  obtain ⟨opened, before⟩ := trading trivial
  exact ⟨opened, before, whole, tick, payout⟩

theorem question_outcome {kind : MarketKind} {outcome : SharedOutcome} (isKind : kind = .prediction)
    (trades : Trades kind outcome) : ∃ answer, outcome = sharedOutcome answer := by
  subst isKind
  exact ⟨legacyOutcome outcome, (sharedOutcome_legacyOutcome trades).symm⟩

theorem sharedOutcome_traded (answer : PredictionOutcome) : sharedOutcome answer ≠ .spot := by
  cases answer <;> nofun

/-- The list of the shared book that stands for a legacy one. -/
def sharedList (list : PredictionOutcome × OrderSide) : SharedList := (sharedOutcome list.1, list.2)

theorem sharedList_injective : Function.Injective sharedList := by
  rintro ⟨outcome, side⟩ ⟨answer, other⟩ same
  obtain ⟨outcomes, rfl⟩ := Prod.mk.inj same
  obtain rfl := sharedOutcome_injective outcomes
  rfl

theorem SameBook.heads {book : SharedBook} {record : PredictionMarket} {heads : PredictionOrderBook}
    {fees : MarketFees} (same : SameBook book record heads fees) :
    bestOf heads = headOf book ∘ sharedList :=
  funext fun list => same.best list.1 list.2

theorem SameBook.of_heads {book : SharedBook} {record : PredictionMarket}
    {heads : PredictionOrderBook} {fees : MarketFees}
    (best : bestOf heads = headOf book ∘ sharedList)
    (ids : heads.nextOrderId = book.nextOrderId)
    (count : record.openOrderCount = book.openOrderCount)
    (accrued : fees.accruedQuoteFees = book.accruedQuoteFees) : SameBook book record heads fees :=
  ⟨fun outcome side => congrFun best (outcome, side), ids, count, accrued⟩

theorem same_heads {book : SharedBook} {heads : PredictionOrderBook}
    (same : bestOf heads = headOf book ∘ sharedList) (answer : PredictionOutcome) (side : OrderSide)
    (price : Option Nat) :
    Function.update (bestOf heads) (answer, side) price =
      Function.update (headOf book) (sharedOutcome answer, side) price ∘ sharedList := by
  rw [same]
  exact (Function.update_comp_eq_of_injective _ sharedList_injective (answer, side) price).symm

/-! ## Admission -/

section Place

variable {market : Pubkey} {shared legacy : State} {source record : PredictionMarket}
variable {book : SharedBook} {heads : PredictionOrderBook} {fees : MarketFees}
variable {owner : Wallet} {orderId price quantity : Nat} {answer : PredictionOutcome}
variable {side : OrderSide}

theorem placed_book {outcome : SharedOutcome}
    (placed : SharedPlacement shared owner market orderId outcome side price quantity)
    (paired : Paired shared legacy market source record book heads fees) : placed.book = book :=
  Option.some.inj (placed.stored.symm.trans paired.bookStored)

section Admission

variable (placed : SharedPlacement shared owner market orderId (sharedOutcome answer) side price
  quantity)
variable (paired : Paired shared legacy market source record book heads fees)
variable (rules : SameRules source record) (same : SameBook book record heads fees)

include placed paired

theorem placed_terms : QuestionTerms shared placed.book source := by
  have trading := placed.trading
  refine tradingOpen_question ?_ paired.sourceStored trading
  rw [placed_book placed paired]
  exact paired.kind

include rules same

theorem placed_admitted (now : legacy.now = shared.now) :
    Admitted record heads legacy.now orderId answer side price quantity where
  opened := rules.status.trans (placed_terms placed paired).opened
  before := by
    rw [now, rules.closeTs]
    exact (placed_terms placed paired).before
  quantity_pos := placed.priced.quantity_pos
  price_pos := placed.priced.price_pos
  price_lt := by
    rw [rules.payout, ← (placed_terms placed paired).payout]
    exact placed.priced.price_lt (by rw [placed_book placed paired, paired.kind])
  tick := by
    rw [rules.tick, ← (placed_terms placed paired).tick]
    exact placed.priced.tick
  id_pos := placed.id_pos
  id_next := by
    rw [same.nextOrderId, ← placed_book placed paired]
    exact placed.id_next
  apart := by
    intro other leads
    refine placed.apart other ?_
    rw [same.best, ← placed_book placed paired] at leads
    rwa [headOf_slot (slot_opposite placed.priced.slotted)] at leads

theorem placed_roomy (ids : orderId + 1 ≤ u64Max) (count : book.openOrderCount + 1 ≤ u64Max) :
    Roomy record heads where
  gridded := by
    rw [rules.tick, ← (placed_terms placed paired).tick]
    exact placed.priced.tick_pos
  ids := by
    rw [same.nextOrderId, ← placed_book placed paired, ← placed.id_next]
    exact ids
  count := by
    rw [same.openOrderCount]
    exact count

omit rules same in
theorem placed_backing :
    backing side price quantity .predictionAccountingOverflow = .ok placed.amount := by
  have whole := (placed_terms placed paired).whole
  have locked := placed.priced.locked
  have fits := placed.priced.quote_fits
  rw [whole, pow_zero, Nat.div_one] at locked fits
  refine backing_eq_ok.mpr ⟨fun _ => fits, locked.trans ?_⟩
  cases side <;> rfl

omit rules same in
theorem placed_claims {moved : PredictionPosition}
    (claims : SameClaims shared.shared.assets shared.prediction.positions
      legacy.prediction.positions market book.quoteMint)
    (carried : Carried placed.claims placed.locked (.predictionPosition market owner.key) moved) :
    SameClaims (saveClaims shared placed.locked).shared.assets
      (saveClaims shared placed.locked).prediction.positions
      (legacy.prediction.positions.set (.predictionPosition market owner.key)
        (legacyPosition placed.locked.quote.val moved)) market book.quoteMint := by
  have isBook := placed_book placed paired
  have kind : placed.book.kind = .prediction := by rw [isBook, paired.kind]
  rw [← isBook] at claims ⊢
  exact claims.save kind placed.home placed.held carried

omit rules same in
theorem placed_locks
    (claims : SameClaims shared.shared.assets shared.prediction.positions
      legacy.prediction.positions market book.quoteMint) : ∃ position moved,
    legacy.prediction.positions.get (.predictionPosition market owner.key) = some position ∧
      Carried placed.claims placed.locked (.predictionPosition market owner.key) moved ∧
      lockRestingFunds position answer side price quantity =
        .ok (legacyPosition placed.locked.quote.val moved, placed.amount) := by
  have isBook := placed_book placed paired
  have kind : placed.book.kind = .prediction := by rw [isBook, paired.kind]
  have passed := placed.lock
  rw [← isBook] at claims
  rw [kind] at passed
  obtain ⟨position, isPosition, held⟩ := claims.held kind placed.home placed.held
  obtain ⟨moved, carried, locks⟩ := lock_carries (sharedOutcome_traded answer) isPosition
    (placed_backing placed paired) passed
  rw [legacyOutcome_sharedOutcome] at locks
  exact ⟨_, moved, held, carried, locks⟩

end Admission

/-! ## A new price -/

theorem newPrediction_order {ledger : SharedBook} (home : ledger.market = market) {amount : Nat}
    {owner : Pubkey} (previous : Option Pubkey) :
    newPredictionOrder owner market orderId answer side price quantity amount
        (previous.map (legacyKey market)) =
      legacyOrder market (newSharedOrder owner ⟨.sharedBook market, ledger⟩ orderId
        (sharedOutcome answer) side price quantity amount previous) := by
  simp only [newPredictionOrder, legacyOrder, newSharedOrder, home, legacyOutcome_sharedOutcome,
    legacyKey, Option.map_none]

theorem newPrediction_level {ledger : SharedBook} (home : ledger.market = market)
    {owner : Pubkey} (better worse : Option Nat) :
    newPredictionLevel owner market answer side price quantity (.predictionOrder market orderId)
        better worse =
      legacyLevel market (newSharedLevel owner ⟨.sharedBook market, ledger⟩ (sharedOutcome answer)
        side price quantity (.sharedOrder (.sharedBook market) orderId) better worse) := by
  simp only [newPredictionLevel, legacyLevel, newSharedLevel, home, legacyOutcome_sharedOutcome,
    legacyKey, Option.map_some]

theorem Coincides.adjacent (same : Coincides market shared legacy)
    (paired : Paired shared legacy market source record book heads fees)
    (sameBook : SameBook book record heads fees) {better worse : Option Nat}
    (adjacent : Adjacent sharedPrecedes (sharedShelf.book (sharedHeads shared.shared.books)
      shared.shared.orders shared.shared.levels (.sharedBook market))
      ((sharedOutcome answer, side), price) better worse) :
    Adjacent listPrecedes (predictionShelf.book (predictionHeads legacy.prediction.books)
      legacy.prediction.orders legacy.prediction.levels market) ((answer, side), price) better
      worse where
  above found named := by
    obtain ⟨ordered, _, shown, next⟩ := adjacent.above found named
    obtain ⟨level, stored, rfl⟩ := Shelf.book_level.mp shown
    refine ⟨ordered, _, Shelf.book_level.mpr ⟨legacyLevel market level, ?_, rfl⟩, next⟩
    have present := same.level ((answer, side), found)
    rw [present]
    exact congrArg (Option.map (legacyLevel market)) stored
  below := adjacent.below
  first none := by
    have leads : worse = sharedHeads shared.shared.books (.sharedBook market)
        (sharedOutcome answer, side) := adjacent.first none
    rw [sharedHeads_stored paired.bookStored] at leads
    have here : predictionHeads legacy.prediction.books market (answer, side) =
        headOf book (sharedOutcome answer, side) := by
      rw [predictionHeads_stored paired.headsStored, sameBook.heads]
      rfl
    exact leads.trans here.symm

section Insertion

variable (holds : PredictionInvariant legacy.prediction) (same : Coincides market shared legacy)
variable (placed : SharedInsertion shared owner market orderId (sharedOutcome answer) side price
  quantity)
variable (entered : PredictionInsertion legacy.prediction legacy.now owner market orderId answer side
  price quantity)

include holds same

theorem inserted_neighbors : placed.better = entered.better ∧ placed.worse = entered.worse := by
  obtain ⟨source, record, book, heads, fees, paired, -, sameBook, -⟩ := same.books
  exact holds.sound.adjacent_unique (same.adjacent paired sameBook placed.adjacent)
    entered.adjacent

theorem inserted_levels : legacyLevels entered.result.levels market =
    sharedLevels placed.result.shared.levels market := by
  obtain ⟨isBetter, isWorse⟩ := inserted_neighbors holds same placed entered
  have opened := legacyLevels_set market legacy.prediction.levels
    ((answer, side), price) (newPredictionLevel owner.key market answer side price quantity
      (.predictionOrder market orderId) entered.better entered.worse)
  have also := sharedLevels_set market shared.shared.levels ((answer, side), price)
    (newSharedLevel owner.key ⟨.sharedBook market, placed.book⟩ (sharedOutcome answer) side price
      quantity (.sharedOrder (.sharedBook market) orderId) placed.better placed.worse)
  rw [PredictionInsertion.result, SharedInsertion.result]
  refine (legacyLevels_relevel market _ (answer, side) _ _ _ _).trans
    (Eq.trans ?_ (sharedLevels_relevel market _ (answer, side) _ _ _ _).symm)
  rw [isBetter, isWorse] at also ⊢
  rw [← newPrediction_level placed.home, ← same.levels] at also
  exact congrArg (fun levels => amend (amend levels _ _) _ _) (opened.trans also.symm)

omit holds in
theorem inserted_orders (amount : entered.amount = placed.amount) :
    legacyOpen entered.result.orders market = sharedOpen placed.result.shared.orders market := by
  have fresh : entered.order = legacyOrder market (placed.order none) := by
    rw [PredictionInsertion.order, amount]
    exact newPrediction_order placed.home none
  rw [PredictionInsertion.result, SharedInsertion.result]
  refine (legacyOpen_set _ _ _).trans (Eq.trans ?_ (sharedOpen_set _ _ _).symm)
  rw [same.orders, fresh]
  rfl

theorem same_insertion {moved : PredictionPosition}
    (carried : Carried placed.claims placed.locked (.predictionPosition market owner.key) moved)
    (locked : entered.locked = legacyPosition placed.locked.quote.val moved)
    (amount : entered.amount = placed.amount) :
    Coincides market placed.result { legacy with prediction := entered.result } := by
  obtain ⟨source, record, book, heads, fees, paired, rules, sameBook, claims⟩ := same.books
  obtain ⟨isBetter, -⟩ := inserted_neighbors holds same placed entered
  have isBook := placed_book placed.toSharedPlacement paired
  have isRecord : entered.market = record :=
    Option.some.inj (entered.stored.symm.trans paired.recordStored)
  have isHeads : entered.book = heads :=
    Option.some.inj (entered.bookStored.symm.trans paired.headsStored)
  have kinds : placed.headed.kind = .prediction := by
    rw [placed.headed_same.kind, placed.same_counted.kind, isBook, paired.kind]
  refine
    { now := same.now
      config := same.config
      books := ⟨source, { record with openOrderCount := record.openOrderCount + 1 }, placed.headed,
        entered.headed, fees, ?_, ⟨rules.status, rules.closeTs, rules.payout, rules.tick⟩,
        .of_heads ?_ ?_ ?_ ?_, ?_⟩
      orders := inserted_orders same placed entered amount
      levels := inserted_levels holds same placed entered }
  · exact ⟨paired.sourceStored, Store.get_set_self _ _ _, kinds,
      isRecord ▸ Store.get_set_self _ _ _, Store.get_set_self _ _ _, paired.feesStored⟩
  · rw [entered.headed_best, placed.headed_best, isBetter, isBook, isHeads,
      same_heads sameBook.heads]
    split
    · rfl
    · exact sameBook.heads
  · have issued : placed.headed.nextOrderId = orderId + 1 := by
      rw [SharedInsertion.headed]
      split <;> rfl
    have id := entered.admitted.id_next
    exact (congrArg Nat.succ id.symm).trans issued.symm
  · have count : placed.headed.openOrderCount = book.openOrderCount + 1 := by
      rw [SharedInsertion.headed, ← isBook]
      split <;> rfl
    rw [count, sameBook.openOrderCount]
  · have accrued : placed.headed.accruedQuoteFees = book.accruedQuoteFees := by
      rw [SharedInsertion.headed, ← isBook]
      split <;> rfl
    rw [accrued, sameBook.fees]
  · have mint : placed.headed.quoteMint = book.quoteMint := by
      rw [SharedInsertion.headed, ← isBook]
      split <;> rfl
    rw [mint, PredictionInsertion.result, locked]
    exact placed_claims placed.toSharedPlacement paired claims carried

end Insertion

/-! ## Append -/

section Appending

variable (same : Coincides market shared legacy)
variable (placed : SharedAppending shared owner market orderId (sharedOutcome answer) side price
  quantity)
variable (entered : PredictionAppending legacy.prediction legacy.now owner market orderId answer side
  price quantity)

include placed in
theorem appended_tail (known : SharedInvariant shared.shared) :
    ∃ number, placed.tail = .sharedOrder (.sharedBook market) number := by
  have there : shared.shared.levels.get (sharedShelf.file (.sharedBook market)
      ((sharedOutcome answer, side), price)) = some placed.level := placed.levelStored
  obtain ⟨order, stored, home, -⟩ := known.sound.tail there placed.last
  have keyed : placed.tail = .sharedOrder order.book order.orderId :=
    known.orders placed.tail order stored
  exact ⟨order.orderId, keyed.trans (congrArg (Pubkey.sharedOrder · _) home)⟩

include same

theorem appended_level : entered.level = legacyLevel market placed.level := by
  have stored : shared.shared.levels.get
      (sharedPlace (.sharedBook market) ((answer, side), price)) = some placed.level :=
    placed.levelStored
  have present := same.level ((answer, side), price)
  rw [stored] at present
  exact Option.some.inj (entered.levelStored.symm.trans present)

theorem appended_last : entered.tail = legacyKey market placed.tail := by
  have last := entered.last
  rw [appended_level same placed entered] at last
  have also : some (legacyKey market placed.tail) = some entered.tail :=
    (congrArg (Option.map (legacyKey market)) placed.last).symm.trans last
  exact (Option.some.inj also).symm

theorem appended_levels : legacyLevels entered.result.levels market =
    sharedLevels placed.result.shared.levels market := by
  rw [PredictionAppending.result, SharedAppending.result, appended_level same placed entered]
  refine (legacyLevels_set market _ ((answer, side), price) _).trans
    (Eq.trans ?_ (sharedLevels_set market _ ((answer, side), price) _).symm)
  rw [same.levels]
  rfl

theorem appended_orders (known : SharedInvariant shared.shared)
    (amount : entered.amount = placed.amount) :
    legacyOpen entered.result.orders market = sharedOpen placed.result.shared.orders market := by
  obtain ⟨number, isTail⟩ := appended_tail placed known
  have isLast := appended_last same placed entered
  have fresh : entered.order = legacyOrder market (placed.order (some placed.tail)) := by
    rw [PredictionAppending.order, amount, isLast]
    exact newPrediction_order placed.home (some placed.tail)
  rw [isTail] at isLast
  rw [PredictionAppending.result, SharedAppending.result, fresh, isLast, isTail]
  refine (legacyOpen_relink _ (some number) none _ none).trans
    (Eq.trans ?_ (sharedOpen_relink _ (some number) none _ none).symm)
  rw [legacyOpen_set, sharedOpen_set, same.orders]
  rfl

theorem same_appending (known : SharedInvariant shared.shared) {moved : PredictionPosition}
    (carried : Carried placed.claims placed.locked (.predictionPosition market owner.key) moved)
    (locked : entered.locked = legacyPosition placed.locked.quote.val moved)
    (amount : entered.amount = placed.amount) :
    Coincides market placed.result { legacy with prediction := entered.result } := by
  obtain ⟨source, record, book, heads, fees, paired, rules, sameBook, claims⟩ := same.books
  have isBook := placed_book placed.toSharedPlacement paired
  have isRecord : entered.market = record :=
    Option.some.inj (entered.stored.symm.trans paired.recordStored)
  have isHeads : entered.book = heads :=
    Option.some.inj (entered.bookStored.symm.trans paired.headsStored)
  refine
    { now := same.now
      config := same.config
      books := ⟨source, { record with openOrderCount := record.openOrderCount + 1 }, placed.counted,
        entered.headed, fees, ?_, ⟨rules.status, rules.closeTs, rules.payout, rules.tick⟩,
        .of_heads ?_ ?_ ?_ ?_, ?_⟩
      orders := appended_orders same placed entered known amount
      levels := appended_levels same placed entered }
  · exact ⟨paired.sourceStored, Store.get_set_self _ _ _,
      placed.same_counted.kind.trans (isBook ▸ paired.kind), isRecord ▸ Store.get_set_self _ _ _,
      Store.get_set_self _ _ _, paired.feesStored⟩
  · have counted : headOf placed.counted = headOf book := isBook ▸ headOf_congr rfl rfl
    rw [PredictionAppending.headed, bestOf_nextOrderId, counted, isHeads]
    exact sameBook.heads
  · have id := entered.admitted.id_next
    exact congrArg Nat.succ id.symm
  · rw [SharedPlacement.counted, sameBook.openOrderCount, ← isBook]
  · rw [SharedPlacement.counted, sameBook.fees, ← isBook]
  · have mint : placed.counted.quoteMint = book.quoteMint := by rw [← isBook]; rfl
    rw [mint, PredictionAppending.result, locked]
    exact placed_claims placed.toSharedPlacement paired claims carried

end Appending

end Place

/-! ## The handlers -/

/-- The legacy instruction for a shared placement: the first order of an empty side, a join where
the price has a level, an insertion elsewhere; the neighbours are the same. -/
def legacyPlacement (legacy : Prediction) (accounts : PlaceSharedOrder) (outcome : SharedOutcome)
    (side : OrderSide) (price quantity orderId : UInt64) : Instruction :=
  match predictionHeads legacy.books accounts.market (legacyOutcome outcome, side) with
  | none => .placePredictionOrder accounts.owner accounts.market orderId (legacyOutcome outcome) side
      price quantity
  | some _ =>
      match legacy.levels.get
        (.predictionLevel accounts.market (legacyOutcome outcome) side price.toNat) with
      | some _ => .appendPredictionOrder accounts.owner accounts.market
          ((accounts.tail.map (legacyKey accounts.market)).getD .default) orderId
          (legacyOutcome outcome) side price quantity
      | none => .insertPredictionOrder accounts.owner accounts.market
          (accounts.betterLevel.map (legacyKey accounts.market))
          (accounts.worseLevel.map (legacyKey accounts.market)) orderId (legacyOutcome outcome) side
          price quantity

theorem legacyKey_levels {market : Pubkey} {answer : PredictionOutcome} {side : OrderSide}
    (prices : Option Nat) :
    (prices.map (.sharedLevel (.sharedBook market) (sharedOutcome answer) side)).map
      (legacyKey market) = prices.map (.predictionLevel market answer side) := by
  cases prices with
  | none => rfl
  | some price => simp [legacyKey]

section Handlers

variable {market : Pubkey} {shared after legacy : State}
variable (same : Coincides market shared legacy) (known : SharedInvariant shared.shared)
variable (holds : PredictionInvariant legacy.prediction)
variable (filed : positionLedger.Filed legacy.prediction.positions)

include same known holds filed

theorem place_coincides {accounts : PlaceSharedOrder} {outcome : SharedOutcome} {side : OrderSide}
    {price quantity orderId : UInt64} (home : accounts.market = market)
    (done : execute shared (.placeSharedOrder accounts outcome side price quantity orderId) =
      .ok after) :
    ∃ reached, execute legacy (legacyPlacement legacy.prediction accounts outcome side price
        quantity orderId) = .ok reached ∧ Coincides market after reached := by
  subst home
  obtain ⟨source, record, book, heads, fees, paired, rules, sameBook, claims⟩ := same.books
  have given := handlePlaceSharedOrder_given known paired.bookStored done
  have leads : predictionHeads legacy.prediction.books accounts.market = bestOf heads :=
    predictionHeads_stored paired.headsStored
  rcases handlePlaceSharedOrder_ok known done with ⟨placed, rfl⟩ | ⟨placed, rfl⟩
  · obtain ⟨answer, rfl⟩ := question_outcome
      ((congrArg SharedBook.kind (placed_book placed.toSharedPlacement paired)).trans paired.kind)
      placed.trades
    have admitted := placed_admitted placed.toSharedPlacement paired rules sameBook same.now
    have room := placed_roomy placed.toSharedPlacement paired rules sameBook given.ids given.count
    obtain ⟨position, moved, held, carried, locks⟩ :=
      placed_locks placed.toSharedPlacement paired claims
    have vacant : legacy.prediction.levels.get
        (.predictionLevel accounts.market answer side price.toNat) = none := by
      have present := same.level ((answer, side), price.toNat)
      have freshLevel := placed.freshLevel
      rw [show shared.shared.levels.get (sharedPlace (.sharedBook accounts.market)
        ((answer, side), price.toNat)) = none from freshLevel] at present
      exact present
    have matched : ∀ entered : PredictionInsertion legacy.prediction legacy.now accounts.owner
        accounts.market orderId.toNat answer side price.toNat quantity.toNat,
        Coincides accounts.market placed.result
          { legacy with prediction := entered.result } := by
      intro entered
      have lock := entered.lock
      rw [Option.some.inj (entered.positionStored.symm.trans held), locks, Except.ok.injEq,
        Prod.mk.injEq] at lock
      exact same_insertion holds same placed entered carried lock.1.symm lock.2.symm
    rw [legacyPlacement, legacyOutcome_sharedOutcome, leads]
    cases top : bestOf heads (answer, side) with
    | none =>
        obtain ⟨reached, accepted⟩ := handlePlacePredictionOrder_total holds filed
          paired.recordStored paired.headsStored held admitted room locks top
        obtain ⟨entered, rfl⟩ := handlePlacePredictionOrder_ok accepted
        exact ⟨_, by rw [execute, accepted]; rfl, matched entered⟩
    | some best =>
        obtain ⟨better, worse, isBetter, isWorse, adjacent⟩ := given.opens placed.freshLevel
        obtain ⟨reached, accepted⟩ := handleInsertPredictionOrder_total holds filed
          paired.recordStored paired.headsStored held admitted room locks top vacant
          (same.adjacent paired sameBook adjacent)
        obtain ⟨entered, rfl⟩ := handleInsertPredictionOrder_ok accepted
        rw [vacant, isBetter, isWorse, legacyKey_levels, legacyKey_levels]
        exact ⟨_, by rw [execute, accepted]; rfl, matched entered⟩
  · obtain ⟨answer, rfl⟩ := question_outcome
      ((congrArg SharedBook.kind (placed_book placed.toSharedPlacement paired)).trans paired.kind)
      placed.trades
    have admitted := placed_admitted placed.toSharedPlacement paired rules sameBook same.now
    have room := placed_roomy placed.toSharedPlacement paired rules sameBook given.ids given.count
    obtain ⟨position, moved, held, carried, locks⟩ :=
      placed_locks placed.toSharedPlacement paired claims
    obtain ⟨isTail, count, total⟩ := given.joins _ placed.levelStored
    have present : legacy.prediction.levels.get
        (.predictionLevel accounts.market answer side price.toNat) =
          some (legacyLevel accounts.market placed.level) := by
      have known := same.level ((answer, side), price.toNat)
      have stored := placed.levelStored
      rw [show shared.shared.levels.get (sharedPlace (.sharedBook accounts.market)
        ((answer, side), price.toNat)) = some placed.level from stored] at known
      exact known
    have last : (legacyLevel accounts.market placed.level).lastOrder =
        some (legacyKey accounts.market placed.tail) :=
      congrArg (Option.map (legacyKey accounts.market)) placed.last
    have here : legacy.prediction.levels.get (predictionShelf.file accounts.market
        ((answer, side), price.toNat)) = some (legacyLevel accounts.market placed.level) := present
    obtain ⟨best, top, -⟩ := holds.sound.best_level here
    obtain ⟨reached, accepted⟩ := handleAppendPredictionOrder_total holds filed
      paired.recordStored paired.headsStored held admitted room locks present last total count
    obtain ⟨entered, rfl⟩ := handleAppendPredictionOrder_ok accepted
    have lock := entered.lock
    rw [Option.some.inj (entered.positionStored.symm.trans held), locks, Except.ok.injEq,
      Prod.mk.injEq] at lock
    rw [legacyPlacement, legacyOutcome_sharedOutcome, top, present, isTail, placed.last]
    exact ⟨_, by rw [execute]; exact congrArg (onPrediction legacy) accepted,
      same_appending same placed entered known carried lock.1.symm lock.2.symm⟩

end Handlers

end Tidebook.Proof
