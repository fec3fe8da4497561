import Tidebook.Proof.Conservation
import Tidebook.Proof.Orders

/-! # No crossed book

A new order of a shared book or of a question's own book stays clear of the best opposing price,
so no open bid of an outcome ever reaches an open ask of it.
-/

namespace Tidebook.Proof
open Library Program

/-! ## Offers -/

/-- What an open order offers: a side of one outcome of one book, at a price. -/
structure Offer (ι : Type) where
  book : Pubkey
  outcome : ι
  side : OrderSide
  price : Nat

/-- A bid and an ask of the same outcome do not meet. -/
def Offer.Apart {ι : Type} (bid ask : Offer ι) : Prop :=
  bid.book = ask.book → bid.outcome = ask.outcome → bid.side = .bid → ask.side = .ask →
    bid.price < ask.price

def predictionOffer (order : PredictionOrder) : Offer PredictionOutcome :=
  ⟨order.market, order.outcome, order.side, order.price⟩

def sharedOffer (order : SharedOrder) : Offer SharedOutcome :=
  ⟨order.book, order.outcome, order.side, order.price⟩

def PredictionUncrossed (orders : Store Pubkey PredictionOrder) : Prop :=
  ∀ first second one two, orders.get first = some one → orders.get second = some two →
    predictionShelf.live one → predictionShelf.live two →
      (predictionOffer one).Apart (predictionOffer two)

def SharedUncrossed (orders : Store Pubkey SharedOrder) : Prop :=
  ∀ first second one two, orders.get first = some one → orders.get second = some two →
    sharedShelf.live one → sharedShelf.live two → (sharedOffer one).Apart (sharedOffer two)

/-- An offer that stays clear of the best opposing price stays clear of every opposing offer. -/
theorem ClearOf.apart {ι : Type} {heads : Pubkey → ι × OrderSide → Option Nat}
    (offer resting : Offer ι) {best : Nat}
    (clear : ClearOf heads offer.book offer.outcome offer.side offer.price)
    (top : heads resting.book (resting.outcome, resting.side) = some best)
    (reaches : resting.price = best ∨ resting.side.Precedes best resting.price) :
    offer.Apart resting ∧ resting.Apart offer := by
  constructor
  · intro book outcome bid ask
    have met := clear best (by rw [book, outcome, bid]; rw [ask] at top; exact top)
    rw [bid] at met
    rw [ask] at reaches
    simp only [OrderSide.Precedes] at met reaches
    omega
  · intro book outcome bid ask
    have met := clear best (by rw [← book, ← outcome, ask]; rw [bid] at top; exact top)
    rw [ask] at met
    rw [bid] at reaches
    simp only [OrderSide.Precedes] at met reaches
    omega

theorem Offer.apart_self {ι : Type} (offer : Offer ι) : offer.Apart offer :=
  fun _ _ bid ask => nomatch bid.symm.trans ask

/-! ## One step -/

section Steps

variable {state after : State} {instruction : Instruction}

theorem Effect.prediction_uncrossed (effect : Effect state instruction after)
    (holds : PredictionInvariant state.prediction)
    (clear : PredictionUncrossed state.prediction.orders) :
    PredictionUncrossed after.prediction.orders := by
  have step := (effect.predictionOrders holds).coarsen predictionOffer
    (fun (market, _, _, outcome, side, price, _) => ⟨market, outcome, side, price⟩) fun _ => rfl
  refine step.pairwise ⟨fun _ _ => rfl, fun _ _ => rfl⟩ clear (fun _ _ => Offer.apart_self _) ?_
  rintro written key order ⟨arrival, -⟩ stored live
  obtain ⟨best, top, reaches⟩ := holds.sound.best_reaches stored live
  exact ClearOf.apart (predictionOffer written) (predictionOffer order) arrival top reaches

theorem Effect.shared_uncrossed (effect : Effect state instruction after)
    (holds : SharedInvariant state.shared) (clear : SharedUncrossed state.shared.orders) :
    SharedUncrossed after.shared.orders := by
  have step := (effect.sharedOrders holds).coarsen sharedOffer
    (fun (book, _, _, _, outcome, side, price, _) => ⟨book, outcome, side, price⟩) fun _ => rfl
  refine step.pairwise ⟨fun _ _ => rfl, fun _ _ => rfl⟩ clear (fun _ _ => Offer.apart_self _) ?_
  rintro written key order ⟨arrival, -⟩ stored live
  obtain ⟨best, top, reaches⟩ := holds.sound.best_reaches stored live
  exact ClearOf.apart (sharedOffer written) (sharedOffer order) arrival top reaches

end Steps

/-! ## Heads -/

theorem PredictionInvariant.best_offer {prediction : Prediction}
    (holds : PredictionInvariant prediction) {market : Pubkey} {book : PredictionOrderBook}
    {outcome : PredictionOutcome} {side : OrderSide} {price : Nat}
    (stored : prediction.books.get (.predictionBook market) = some book)
    (best : book.bestPrice outcome side = some price) :
    ∃ key order, prediction.orders.get key = some order ∧ predictionShelf.live order ∧
      predictionOffer order = ⟨market, outcome, side, price⟩ := by
  have head : predictionHeads prediction.books market (outcome, side) = some price := by
    rw [predictionHeads_stored stored]
    exact best
  obtain ⟨_, key, order, -, -, -, found, rfl, live, place, -⟩ := holds.sound.head head
  refine ⟨key, order, found, live, ?_⟩
  simp only [predictionShelf, OrderNode.place, Prod.mk.injEq] at place
  obtain ⟨⟨rfl, rfl⟩, rfl⟩ := place
  rfl

theorem SharedInvariant.best_offer {shared : Shared} (holds : SharedInvariant shared)
    {key : Pubkey} {book : SharedBook} {outcome : SharedOutcome} {side : OrderSide} {slot : Fin 4}
    {price : Nat} (stored : shared.books.get key = some book)
    (slotted : book.slot outcome side = .ok slot) (best : book.bestPrices slot = some price) :
    ∃ found order, shared.orders.get found = some order ∧ sharedShelf.live order ∧
      sharedOffer order = ⟨key, outcome, side, price⟩ := by
  have head : sharedHeads shared.books key (outcome, side) = some price := by
    rw [sharedHeads_stored stored, headOf_slot slotted]
    exact best
  obtain ⟨_, found, order, -, -, -, present, rfl, live, place, -⟩ := holds.sound.head head
  refine ⟨found, order, present, live, ?_⟩
  simp only [sharedShelf, OrderNode.place, Prod.mk.injEq] at place
  obtain ⟨⟨rfl, rfl⟩, rfl⟩ := place
  rfl

/-! ## Every run -/

theorem run_uncrossed (genesis : Genesis) (events : List Event) :
    PredictionUncrossed (genesis.after events).state.prediction.orders ∧
      SharedUncrossed (genesis.after events).state.shared.orders := by
  refine (reach_of_steps (P := fun world => PredictionUncrossed world.state.prediction.orders ∧
    SharedUncrossed world.state.shared.orders) ?_ (.genesis genesis) ?_).2
  · rintro world event after - holds ⟨prediction, shared⟩ applied reached -
    rw [reached]
    cases event with
    | instruction sent =>
        have effect := execute_effect holds.spot holds.prediction holds.shared applied
        exact ⟨effect.prediction_uncrossed holds.prediction prediction,
          effect.shared_uncrossed holds.shared shared⟩
    | outside happened =>
        have around := occur_around applied
        rw [around.prediction, around.shared]
        exact ⟨prediction, shared⟩
  · exact ⟨fun _ _ _ _ stored => (nomatch stored), fun _ _ _ _ stored => (nomatch stored)⟩

/-- The best bid of every outcome is below its best ask, and so is every open bid below every open
ask of the outcome in the same book. -/
theorem books_never_cross (genesis : Genesis) (events : List Event) {state : State}
    (reached : (genesis.after events).state = state) :
    (∀ market book outcome bid ask,
      state.prediction.books.get (.predictionBook market) = some book →
      book.bestPrice outcome .bid = some bid → book.bestPrice outcome .ask = some ask →
      bid < ask) ∧
    (∀ key book outcome low high bid ask, state.shared.books.get key = some book →
      book.slot outcome .bid = .ok low → book.slot outcome .ask = .ok high →
      book.bestPrices low = some bid → book.bestPrices high = some ask → bid < ask) ∧
    (∀ first second bid ask, state.prediction.orders.get first = some bid →
      state.prediction.orders.get second = some ask → bid.status = .opened →
      ask.status = .opened → bid.market = ask.market → bid.outcome = ask.outcome →
      bid.side = .bid → ask.side = .ask → bid.price < ask.price) ∧
    ∀ first second bid ask, state.shared.orders.get first = some bid →
      state.shared.orders.get second = some ask → bid.status = .opened → ask.status = .opened →
      bid.book = ask.book → bid.outcome = ask.outcome → bid.side = .bid → ask.side = .ask →
      bid.price < ask.price := by
  have holds : Invariant state := reached ▸ run_invariant genesis events
  obtain ⟨prediction, shared⟩ : PredictionUncrossed state.prediction.orders ∧
    SharedUncrossed state.shared.orders := reached ▸ run_uncrossed genesis events
  refine ⟨fun market book outcome bid ask stored low high => ?_,
    fun key book outcome low high bid ask stored isLow isHigh lowest highest => ?_,
    fun first second bid ask storedBid storedAsk openBid openAsk => ?_,
    fun first second bid ask storedBid storedAsk openBid openAsk => ?_⟩
  · obtain ⟨first, one, storedOne, liveOne, offerOne⟩ := holds.prediction.best_offer stored low
    obtain ⟨second, two, storedTwo, liveTwo, offerTwo⟩ := holds.prediction.best_offer stored high
    have apart := prediction first second one two storedOne storedTwo liveOne liveTwo
    rw [offerOne, offerTwo] at apart
    exact apart rfl rfl rfl rfl
  · obtain ⟨first, one, storedOne, liveOne, offerOne⟩ :=
      holds.shared.best_offer stored isLow lowest
    obtain ⟨second, two, storedTwo, liveTwo, offerTwo⟩ :=
      holds.shared.best_offer stored isHigh highest
    have apart := shared first second one two storedOne storedTwo liveOne liveTwo
    rw [offerOne, offerTwo] at apart
    exact apart rfl rfl rfl rfl
  · exact prediction first second bid ask storedBid storedAsk (predictionShelf_live.mpr openBid)
      (predictionShelf_live.mpr openAsk)
  · exact shared first second bid ask storedBid storedAsk (sharedShelf_live.mpr openBid)
      (sharedShelf_live.mpr openAsk)

set_option maxRecDepth 4096 in
/-- The shared book of the sample question bids and asks for NO. -/
theorem books_never_cross_traded : ∃ book bid ask,
    Sample.traded.shared.books.get (.sharedBook Sample.question) = some book ∧
      book.bestPrices 2 = some bid ∧ book.bestPrices 3 = some ask ∧ bid < ask := by
  obtain ⟨book, stored, known⟩ := (Option.any_eq_true (fun book : SharedBook =>
    book.kind = .prediction ∧ book.bestPrices 2 = some 4 ∧ book.bestPrices 3 = some 6)
    (Sample.traded.shared.books.get (.sharedBook Sample.question))).mp (by decide +kernel)
  obtain ⟨kind, low, high⟩ := of_decide_eq_true known
  have slots : ∀ side, book.slot .no side = .ok (listSlot .no side) := fun side =>
    slot_eq_ok.mpr ⟨by simp [kind, Trades], rfl⟩
  exact ⟨book, 4, 6, stored, low, high, (books_never_cross Sample.start
    (Sample.funding ++ Sample.opening ++ Sample.trading) rfl).2.1 _ book .no 2 3 4 6 stored
      (slots .bid) (slots .ask) low high⟩

end Tidebook.Proof
