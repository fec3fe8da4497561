import Tidebook.Proof.Conservation

/-! # Price-time priority

In every state that a run reaches, the links stored with the levels and orders of every book spell
out its price-time ladder, and every match fills the first order of that ladder.
-/

namespace Tidebook.Proof
open Library Program

/-! ## Orders are never reused -/

section Kept

variable {world : World} (holds : Invariant world.state) (events : List Event)

include holds

theorem sharedOrder_kept {key : Pubkey} {order : SharedOrder}
    (stored : world.state.shared.orders.get key = some order) :
    ∃ version, (world.run events).state.shared.orders.get key = some version ∧
      sharedIdentity version = sharedIdentity order ∧
      (order.status ≠ .opened → version.status ≠ .opened) := by
  refine (reach_of_steps (P := fun world => ∃ version,
    world.state.shared.orders.get key = some version ∧
      sharedIdentity version = sharedIdentity order ∧
      (order.status ≠ .opened → version.status ≠ .opened)) ?_ holds ⟨order, stored, rfl, id⟩).2
  rintro world event after - holds ⟨version, present, same, ended⟩ applied reached -
  rw [reached]
  cases event with
  | instruction sent =>
      have effect := execute_effect holds.spot holds.prediction holds.shared applied
      have step := effect.sharedOrders holds.shared
      obtain ⟨next, found, alike⟩ := step.kept sharedIdentity_blind present
      refine ⟨next, found, alike.trans same, fun closed => ?_⟩
      have gone := step.closed present (sharedShelf_closed (ended closed)) found
      exact of_decide_eq_false gone
  | outside happened =>
      rw [(occur_around applied).shared]
      exact ⟨version, present, same, ended⟩

theorem predictionOrder_kept {key : Pubkey} {order : PredictionOrder}
    (stored : world.state.prediction.orders.get key = some order) :
    ∃ version, (world.run events).state.prediction.orders.get key = some version ∧
      predictionIdentity version = predictionIdentity order ∧
      (order.status ≠ .opened → version.status ≠ .opened) := by
  refine (reach_of_steps (P := fun world => ∃ version,
    world.state.prediction.orders.get key = some version ∧
      predictionIdentity version = predictionIdentity order ∧
      (order.status ≠ .opened → version.status ≠ .opened)) ?_ holds ⟨order, stored, rfl, id⟩).2
  rintro world event after - holds ⟨version, present, same, ended⟩ applied reached -
  rw [reached]
  cases event with
  | instruction sent =>
      have effect := execute_effect holds.spot holds.prediction holds.shared applied
      have step := effect.predictionOrders holds.prediction
      obtain ⟨next, found, alike⟩ := step.kept predictionIdentity_blind present
      refine ⟨next, found, alike.trans same, fun closed => ?_⟩
      have gone := step.closed present (predictionShelf_closed (ended closed)) found
      exact of_decide_eq_false gone
  | outside happened =>
      rw [(occur_around applied).prediction]
      exact ⟨version, present, same, ended⟩

end Kept

/-! ## Spot markets -/

/-- A market's book as its levels and its open orders spell it out. -/
def spotBook (spot : Spot) (key : Pubkey) (market : Market) : Book OrderSide Nat Pubkey where
  best := market.best
  level place := (spot.levels.get (.priceLevel key place.1 place.2)).map fun level =>
    ⟨⟨level.betterPrice, level.worsePrice⟩,
      ⟨level.firstOrder, level.lastOrder, level.totalRemainingQuantity, level.orderCount⟩⟩
  order found := (spot.orders.get found).bind fun order =>
    if order.market = key ∧ order.status = .opened then
      some ⟨order.side, order.price, order.orderId, order.remainingQuantity,
        ⟨order.previousOrder, order.nextOrder⟩⟩ else none

theorem spotBook_eq {spot : Spot} {key : Pubkey} {market : Market}
    (stored : spot.markets.get key = some market) : spotBook spot key market =
      spotShelf.book (spotHeads spot.markets) spot.orders spot.levels key := by
  refine Book.ext (spotHeads_stored stored).symm rfl (funext fun found => ?_)
  simp only [spotBook, Shelf.book, Store.project]
  refine Option.bind_congr fun order _ => ?_
  simp [Shelf.shown, spotShelf]

/-- The order that a match names is the open one of the opposing side that comes first by price and
then by age. -/
def SpotFirst (orders : Store Pubkey Order) (market makerKey : Pubkey) (takerSide : OrderSide) :
    Prop :=
  ∃ maker, orders.get makerKey = some maker ∧ maker.status = .opened ∧ maker.market = market ∧
    maker.side ≠ takerSide ∧ ∀ other order, orders.get other = some order →
      order.market = market → order.status = .opened → order.side = maker.side →
      other ≠ makerKey → maker.side.Precedes maker.price order.price ∨
        order.price = maker.price ∧ maker.orderId < order.orderId

theorem Fill.spot_first {spot : Spot} {config : ProtocolConfig} {taker : Wallet}
    {key makerKey : Pubkey} {takerSide : OrderSide} {limit quantity : Nat}
    (fill : Fill spot config taker key makerKey takerSide limit quantity)
    (holds : SpotInvariant spot) : SpotFirst spot.orders key makerKey takerSide := by
  have heads := spotHeads_stored fill.stored
  have foremost := holds.books.foremost fill.orderStored (spotShelf_live.mpr fill.live)
    fill.levelStored fill.first ((congrFun heads fill.order.side).trans fill.best)
  refine ⟨fill.order, fill.orderStored, fill.live, fill.home, fill.facts.sides.symm, ?_⟩
  intro other order present home live side different
  exact foremost other order present (home.trans fill.home.symm) (spotShelf_live.mpr live) side
    different

/-- The records of every market are a price-time ladder of its open orders, which are as many as it
counts, and every match fills the first of them on the opposing side. -/
theorem spot_book_priority (genesis : Genesis) (events : List Event) {state : State}
    (reached : (genesis.after events).state = state) {key : Pubkey} {market : Market}
    (stored : state.spot.markets.get key = some market) :
    (∃ ladder, Represents OrderSide.Precedes (spotBook state.spot key market) ladder) ∧
    market.openOrderCount = state.spot.orders.total (openIn key) ∧
    ∀ accounts takerSide limit quantity after, accounts.market = key →
      execute state (.matchLimitOrder accounts takerSide limit quantity) = .ok after →
      SpotFirst state.spot.orders key accounts.makerOrder takerSide := by
  have holds : Invariant state := reached ▸ run_invariant genesis events
  refine ⟨?_, holds.spot.counts key market stored, ?_⟩
  · rw [spotBook_eq stored]
    exact holds.spot.books key
  · rintro accounts takerSide limit quantity after rfl done
    obtain ⟨config, -, fill, -⟩ := execute_matchLimitOrder holds.spot done
    exact fill.spot_first holds.spot

set_option maxRecDepth 4096 in
/-- The sample market counts its open orders. -/
theorem spot_book_priority_traded : ∃ market,
    Sample.traded.spot.markets.get Sample.spot = some market ∧
      market.openOrderCount = Sample.traded.spot.orders.total (openIn Sample.spot) := by
  obtain ⟨market, stored⟩ := Option.isSome_iff_exists.mp
    (show (Sample.traded.spot.markets.get Sample.spot).isSome by decide +kernel)
  exact ⟨market, stored, (spot_book_priority Sample.start
    (Sample.funding ++ Sample.opening ++ Sample.trading) rfl stored).2.1⟩

/-! ## Questions -/

/-- A question's book as its levels and its open orders spell it out. -/
def predictionBook (prediction : Prediction) (key : Pubkey) (book : PredictionOrderBook) :
    Book (PredictionOutcome × OrderSide) Nat Pubkey where
  best list := book.bestPrice list.1 list.2
  level place :=
    (prediction.levels.get (.predictionLevel key place.1.1 place.1.2 place.2)).map fun level =>
      ⟨⟨level.betterPrice, level.worsePrice⟩,
        ⟨level.firstOrder, level.lastOrder, level.totalRemainingQuantity, level.orderCount⟩⟩
  order found := (prediction.orders.get found).bind fun order =>
    if order.market = key ∧ order.status = .opened then
      some ⟨(order.outcome, order.side), order.price, order.orderId, order.remainingQuantity,
        ⟨order.previousOrder, order.nextOrder⟩⟩ else none

theorem predictionBook_eq {prediction : Prediction} {key : Pubkey} {book : PredictionOrderBook}
    (stored : prediction.books.get (.predictionBook key) = some book) :
    predictionBook prediction key book = predictionShelf.book (predictionHeads prediction.books)
      prediction.orders prediction.levels key := by
  refine Book.ext (predictionHeads_stored stored).symm rfl (funext fun found => ?_)
  simp only [predictionBook, Shelf.book, Store.project]
  refine Option.bind_congr fun order _ => ?_
  simp [Shelf.shown, predictionShelf]

def PredictionFirst (orders : Store Pubkey PredictionOrder) (market makerKey : Pubkey)
    (outcome : PredictionOutcome) (takerSide : OrderSide) : Prop :=
  ∃ maker, orders.get makerKey = some maker ∧ maker.status = .opened ∧ maker.market = market ∧
    maker.outcome = outcome ∧ maker.side ≠ takerSide ∧
    ∀ other order, orders.get other = some order → order.market = market →
      order.status = .opened → order.outcome = outcome → order.side = maker.side →
      other ≠ makerKey → maker.side.Precedes maker.price order.price ∨
        order.price = maker.price ∧ maker.orderId < order.orderId

theorem PredictionFill.prediction_first {prediction : Prediction} {now : Int}
    {config : ProtocolConfig} {taker : Wallet} {key makerKey : Pubkey}
    {outcome : PredictionOutcome} {takerSide : OrderSide} {limit quantity : Nat}
    (fill : PredictionFill prediction now config taker key makerKey outcome takerSide limit
      quantity) (holds : PredictionInvariant prediction) :
    PredictionFirst prediction.orders key makerKey outcome takerSide := by
  have heads := predictionHeads_stored fill.bookStored
  have foremost := holds.sound.foremost fill.orderStored (predictionShelf_live.mpr fill.live)
    fill.levelStored fill.first
    ((congrFun heads (fill.order.outcome, fill.order.side)).trans fill.best)
  refine ⟨fill.order, fill.orderStored, fill.live, fill.home, fill.isOutcome, fill.sides, ?_⟩
  intro other order present home live answer side different
  exact foremost other order present (home.trans fill.home.symm) (predictionShelf_live.mpr live)
    (Prod.ext (answer.trans fill.isOutcome.symm) side) different

/-- The records of a question's book are a price-time ladder of its open orders, which are as many
as the question counts; identifiers are given once, and every match fills the first order of the
opposing list. -/
theorem prediction_book_priority (genesis : Genesis) (events : List Event) {state : State}
    (reached : (genesis.after events).state = state) {key : Pubkey} {market : PredictionMarket}
    {book : PredictionOrderBook} (stored : state.prediction.markets.get key = some market)
    (bookStored : state.prediction.books.get (.predictionBook key) = some book) :
    (∃ ladder, Represents listPrecedes (predictionBook state.prediction key book) ladder) ∧
    market.openOrderCount = state.prediction.orders.total (Predicted.openIn key) ∧
    (∀ found order, state.prediction.orders.get found = some order → order.market = key →
      order.orderId < book.nextOrderId ∧ found = .predictionOrder key order.orderId ∧
      ∀ later, ∃ version,
        (genesis.after (events ++ later)).state.prediction.orders.get found = some version ∧
        predictionIdentity version = predictionIdentity order ∧
        (order.status ≠ .opened → version.status ≠ .opened)) ∧
    ∀ accounts outcome takerSide limit quantity after, accounts.market = key →
      execute state (.matchPredictionOrder accounts outcome takerSide limit quantity) = .ok after →
      PredictionFirst state.prediction.orders key accounts.makerOrder outcome takerSide := by
  subst reached
  have holds := run_invariant genesis events
  refine ⟨?_, holds.prediction.counts key market stored, ?_, ?_⟩
  · rw [predictionBook_eq bookStored]
    exact holds.prediction.sound key
  · rintro found order present rfl
    obtain ⟨issuer, known, earlier⟩ := holds.prediction.issued found order present
    rw [bookStored, Option.some.injEq] at known
    refine ⟨known ▸ earlier, holds.prediction.orders found order present, fun later => ?_⟩
    have kept := predictionOrder_kept holds later present
    rwa [Genesis.after, World.run, List.foldl_append]
  · rintro accounts outcome takerSide limit quantity after rfl done
    obtain ⟨config, -, fill, -⟩ := execute_matchPredictionOrder holds.prediction done
    exact fill.prediction_first holds.prediction

set_option maxRecDepth 4096 in
/-- The sample question counts its open orders. -/
theorem prediction_book_priority_traded : ∃ market,
    Sample.traded.prediction.markets.get Sample.question = some market ∧
      market.openOrderCount =
        Sample.traded.prediction.orders.total (Predicted.openIn Sample.question) := by
  obtain ⟨market, stored⟩ := Option.isSome_iff_exists.mp
    (show (Sample.traded.prediction.markets.get Sample.question).isSome by decide +kernel)
  obtain ⟨book, bookStored⟩ := Option.isSome_iff_exists.mp
    (show (Sample.traded.prediction.books.get (.predictionBook Sample.question)).isSome by
      decide +kernel)
  exact ⟨market, stored, (prediction_book_priority Sample.start
    (Sample.funding ++ Sample.opening ++ Sample.trading) rfl stored bookStored).2.1⟩

/-! ## Shared books -/

/-- A shared book as its levels and its open orders spell it out. -/
def sharedLists (shared : Shared) (key : Pubkey) (book : SharedBook) :
    Book (SharedOutcome × OrderSide) Nat Pubkey where
  best := headOf book
  level place :=
    (shared.levels.get (.sharedLevel key place.1.1 place.1.2 place.2)).map fun level =>
      ⟨⟨level.betterPrice, level.worsePrice⟩,
        ⟨level.firstOrder, level.lastOrder, level.totalRemainingQuantity, level.orderCount⟩⟩
  order found := (shared.orders.get found).bind fun order =>
    if order.book = key ∧ order.status = .opened then
      some ⟨(order.outcome, order.side), order.price, order.orderId, order.remainingQuantity,
        ⟨order.previousOrder, order.nextOrder⟩⟩ else none

theorem sharedLists_eq {shared : Shared} {key : Pubkey} {book : SharedBook}
    (stored : shared.books.get key = some book) : sharedLists shared key book =
      sharedShelf.book (sharedHeads shared.books) shared.orders shared.levels key := by
  refine Book.ext (sharedHeads_stored stored).symm rfl (funext fun found => ?_)
  simp only [sharedLists, Shelf.book, Store.project]
  refine Option.bind_congr fun order _ => ?_
  simp [Shelf.shown, sharedShelf]

def SharedFirst (orders : Store Pubkey SharedOrder) (book makerKey : Pubkey)
    (outcome : SharedOutcome) (takerSide : OrderSide) : Prop :=
  ∃ maker, orders.get makerKey = some maker ∧ maker.status = .opened ∧ maker.book = book ∧
    maker.outcome = outcome ∧ maker.side ≠ takerSide ∧
    ∀ other order, orders.get other = some order → order.book = book →
      order.status = .opened → order.outcome = outcome → order.side = maker.side →
      other ≠ makerKey → maker.side.Precedes maker.price order.price ∨
        order.price = maker.price ∧ maker.orderId < order.orderId

theorem SharedFill.shared_first {state : State} {config : ProtocolConfig} {taker : Wallet}
    {market makerKey : Pubkey} {outcome : SharedOutcome} {takerSide : OrderSide}
    {limit quantity : Nat}
    (fill : SharedFill state config taker market makerKey outcome takerSide limit quantity)
    (holds : SharedInvariant state.shared) :
    SharedFirst state.shared.orders (.sharedBook market) makerKey outcome takerSide := by
  have heads := sharedHeads_stored fill.stored
  have foremost := holds.sound.foremost fill.orderStored (sharedShelf_live.mpr fill.live)
    fill.levelStored fill.first
    ((congrFun heads (fill.order.outcome, fill.order.side)).trans fill.best)
  refine ⟨fill.order, fill.orderStored, fill.live, fill.home, fill.isOutcome,
    fill.facts.sides.symm, ?_⟩
  intro other order present home live answer side different
  exact foremost other order present (home.trans fill.home.symm) (sharedShelf_live.mpr live)
    (Prod.ext (answer.trans fill.isOutcome.symm) side) different

/-- While its book is not closed, no book gives an identifier twice. -/
theorem Effect.sharedBook_kept {state after : State} {instruction : Instruction}
    (effect : Effect state instruction after) (holds : SharedInvariant state.shared)
    {market : Pubkey} (lasting : ∀ authority, instruction ≠ .closeSharedBook authority market)
    {book : SharedBook} (stored : state.shared.books.get (.sharedBook market) = some book) :
    ∃ later, after.shared.books.get (.sharedBook market) = some later ∧
      book.nextOrderId ≤ later.nextOrderId := by
  have edited : ∀ {key orderKey edited record written previous next ahead behind},
      SharedEdit state.shared after.shared key orderKey edited record written previous next ahead
        behind → ∃ later, after.shared.books.get (.sharedBook market) = some later ∧
          book.nextOrderId ≤ later.nextOrderId := by
    intro key orderKey edited record written previous next ahead behind edit
    rw [edit.books, Store.get_set]
    split
    · next home =>
        rw [home, edit.stored, Option.some.injEq] at stored
        exact ⟨record, rfl, stored ▸ edit.same.nextOrderId⟩
    · exact ⟨book, stored, le_rfl⟩
  cases effect with
  | @initializeSharedBook authority other kind opening =>
      have away : Pubkey.sharedBook market ≠ .sharedBook other := by
        intro same
        rw [same, opening.absent] at stored
        cases stored
      exact ⟨book, (Store.get_set_ne _ _ away).trans stored, le_rfl⟩
  | @withdrawSharedFees _ key _ _ charged _ _ chargedStored =>
      rw [Store.get_set]
      split
      · next home =>
          rw [home, chargedStored, Option.some.injEq] at stored
          exact ⟨_, rfl, stored ▸ le_rfl⟩
      · exact ⟨book, stored, le_rfl⟩
  | @closeSharedBook authority other =>
      have away : Pubkey.sharedBook market ≠ .sharedBook other := by
        intro same
        exact lasting authority (by rw [Pubkey.sharedBook.inj same])
      exact ⟨book, (Store.get_erase _ _ _).trans ((if_neg away).trans stored), le_rfl⟩
  | insertSharedOrder placed =>
      exact edited (placed.edit holds (uint64_fits _) (uint64_fits _))
  | appendSharedOrder placed =>
      exact edited (placed.edit holds (uint64_fits _) (uint64_fits _))
  | cancelSharedOrder leaving => exact edited (leaving.edit holds)
  | matchSharedOrder configured fill =>
      cases full : fill.plan.makerFullyFilled with
      | true => exact edited (fill.edit_full holds full)
      | false => exact edited (fill.edit_partial holds full)
  | _ => exact ⟨book, stored, le_rfl⟩

/-- Every order of a market's shared book carries an identifier that the book has given. -/
def SharedIssued (shared : Shared) (market : Pubkey) : Prop :=
  ∀ key order, shared.orders.get key = some order → order.book = .sharedBook market →
    ∃ book, shared.books.get (.sharedBook market) = some book ∧ order.orderId < book.nextOrderId

theorem run_sharedIssued (genesis : Genesis) {events : List Event} {market : Pubkey}
    (lasting : ∀ authority, .instruction (.closeSharedBook authority market) ∉ events) :
    SharedIssued (genesis.after events).state.shared market := by
  have initial : SharedIssued genesis.world.state.shared market := fun _ _ stored => nomatch stored
  refine (reach_of_steps (P := fun world => SharedIssued world.state.shared market) ?_
    (.genesis genesis) initial).2
  rintro world event after sent holds issued applied reached arrived
  rw [reached]
  cases event with
  | instruction instruction =>
      have effect := execute_effect holds.spot holds.prediction holds.shared applied
      have unclosed : ∀ authority, instruction ≠ .closeSharedBook authority market := by
        rintro authority rfl
        exact lasting authority sent
      intro key order stored home
      obtain ⟨old, present, same⟩ | live :=
        (effect.sharedOrders holds.shared).known sharedIdentity_blind stored
      · simp only [sharedIdentity, Prod.mk.injEq] at same
        obtain ⟨book, known, earlier⟩ := issued key old present (same.1.symm.trans home)
        obtain ⟨later, found, onward⟩ := effect.sharedBook_kept holds.shared unclosed known
        exact ⟨later, found, same.2.2.1 ▸ lt_of_lt_of_le earlier onward⟩
      · have kept := (apply_preserves holds applied).shared
        obtain ⟨book, found, rest⟩ := kept.resting key order stored (sharedShelf_live.mp live)
        exact ⟨book, home ▸ found, rest.id_lt⟩
  | outside happened =>
      rw [(occur_around applied).shared]
      exact issued

/-- The records of a shared book are a price-time ladder of its open orders, which are as many as it
counts; identifiers are given once, and every match fills the first order of the opposing list. -/
theorem shared_book_priority (genesis : Genesis) (events : List Event) {state : State}
    (reached : (genesis.after events).state = state) {market : Pubkey} {book : SharedBook}
    (stored : state.shared.books.get (.sharedBook market) = some book) :
    (∃ ladder, Represents sharedPrecedes (sharedLists state.shared (.sharedBook market) book)
      ladder) ∧
    book.openOrderCount = state.shared.orders.total (Shared.openIn (.sharedBook market)) ∧
    (∀ found order, state.shared.orders.get found = some order →
      order.book = .sharedBook market →
      found = .sharedOrder (.sharedBook market) order.orderId ∧
      (order.status = .opened ∨
        (∀ authority, .instruction (.closeSharedBook authority market) ∉ events) →
        order.orderId < book.nextOrderId) ∧
      ∀ later, ∃ version,
        (genesis.after (events ++ later)).state.shared.orders.get found = some version ∧
        sharedIdentity version = sharedIdentity order ∧
        (order.status ≠ .opened → version.status ≠ .opened)) ∧
    ∀ accounts outcome takerSide limit quantity after, accounts.market = market →
      execute state (.matchSharedOrder accounts outcome takerSide limit quantity) = .ok after →
      SharedFirst state.shared.orders (.sharedBook market) accounts.makerOrder outcome
        takerSide := by
  subst reached
  have holds := run_invariant genesis events
  refine ⟨?_, holds.shared.counts _ book stored, ?_, ?_⟩
  · rw [sharedLists_eq stored]
    exact holds.shared.sound _
  · intro found order present home
    refine ⟨home ▸ holds.shared.orders found order present, ?_, fun later => ?_⟩
    · rintro (live | lasting)
      · obtain ⟨owner, known, rest⟩ := holds.shared.resting found order present live
        rw [home, stored, Option.some.injEq] at known
        exact known ▸ rest.id_lt
      · obtain ⟨issuer, known, earlier⟩ := run_sharedIssued genesis lasting found order present home
        rw [stored, Option.some.injEq] at known
        exact known ▸ earlier
    · have kept := sharedOrder_kept holds later present
      rwa [Genesis.after, World.run, List.foldl_append]
  · rintro accounts outcome takerSide limit quantity after rfl done
    obtain ⟨config, -, fill, -⟩ := handleMatchSharedOrder_ok holds.shared done
    exact fill.shared_first holds.shared

set_option maxRecDepth 4096 in
/-- The shared book of the sample question counts its open orders. -/
theorem shared_book_priority_traded : ∃ book,
    Sample.traded.shared.books.get (.sharedBook Sample.question) = some book ∧
      book.openOrderCount =
        Sample.traded.shared.orders.total (Shared.openIn (.sharedBook Sample.question)) := by
  obtain ⟨book, stored⟩ := Option.isSome_iff_exists.mp
    (show (Sample.traded.shared.books.get (.sharedBook Sample.question)).isSome by decide +kernel)
  exact ⟨book, stored, (shared_book_priority Sample.start
    (Sample.funding ++ Sample.opening ++ Sample.trading) rfl stored).2.1⟩

end Tidebook.Proof
