import Tidebook.Library.ShelfSteps
import Tidebook.Proof.Effect

/-! # Orders across an instruction

An instruction leaves the orders of each family alone, files one new order, or writes a new version
of the one open order that it names.
-/

namespace Tidebook.Proof
open Library Program

/-! ## Identities -/

def orderIdentity (order : Order) :=
  (order.market, order.orderId, order.owner, order.side, order.price, order.quantity)

def predictionIdentity (order : PredictionOrder) :=
  (order.market, order.orderId, order.owner, order.outcome, order.side, order.price,
    order.quantity)

def sharedIdentity (order : SharedOrder) :=
  (order.book, order.market, order.orderId, order.owner, order.outcome, order.side, order.price,
    order.quantity)

theorem orderIdentity_blind : spotShelf.Blind orderIdentity := ⟨fun _ _ => rfl, fun _ _ => rfl⟩

theorem predictionIdentity_blind : predictionShelf.Blind predictionIdentity :=
  ⟨fun _ _ => rfl, fun _ _ => rfl⟩

theorem sharedIdentity_blind : sharedShelf.Blind sharedIdentity := ⟨fun _ _ => rfl, fun _ _ => rfl⟩

/-- The resting order that an instruction fills or cancels. -/
def targetOf : Instruction → Option Pubkey
  | .cancelLimitOrder accounts orderId => some (.order accounts.market orderId.toNat)
  | .matchLimitOrder accounts _ _ _ => some accounts.makerOrder
  | .cancelPredictionOrder accounts orderId =>
      some (.predictionOrder accounts.market orderId.toNat)
  | .matchPredictionOrder accounts _ _ _ _ => some accounts.makerOrder
  | .cancelSharedOrder accounts => some accounts.order
  | .matchSharedOrder accounts _ _ _ _ => some accounts.makerOrder
  | _ => none

/-! ## Arrivals -/

/-- A new order that does not reach the best opposing price of its book. -/
def ClearOf {ι : Type} (heads : Pubkey → ι × OrderSide → Option Nat) (book : Pubkey) (list : ι)
    (side : OrderSide) (price : Nat) : Prop :=
  ∀ opposite ∈ heads book (list, side.opposite), side.Precedes opposite price

def SpotArrival (spot : Spot) (order : Order) : Prop :=
  spot.balances.get (.traderBalance order.market order.owner) ≠ none

def PredictionArrival (prediction : Prediction) (order : PredictionOrder) : Prop :=
  ClearOf (predictionHeads prediction.books) order.market order.outcome order.side order.price

def SharedArrival (shared : Shared) (order : SharedOrder) : Prop :=
  ClearOf (sharedHeads shared.books) order.book order.outcome order.side order.price

/-- The trader of an order has the accounts that its book asks for. -/
def Seat (state : State) (order : SharedOrder) : Prop :=
  ∃ book claims, state.shared.books.get order.book = some book ∧
    ClaimsHeld state book order.owner claims

theorem Admitted.arrival {prediction : Prediction} {market : PredictionMarket}
    {book : PredictionOrderBook} {now : Int} {order : PredictionOrder} {orderId quantity : Nat}
    (admitted : Admitted market book now orderId order.outcome order.side order.price quantity)
    (stored : prediction.books.get (.predictionBook order.market) = some book) :
    PredictionArrival prediction order := by
  intro opposite best
  rw [predictionHeads_stored stored] at best
  exact admitted.apart opposite best

theorem SharedPlacement.arrival {state : State} {owner : Wallet} {market : Pubkey}
    {orderId price quantity : Nat} {outcome : SharedOutcome} {side : OrderSide}
    (placed : SharedPlacement state owner market orderId outcome side price quantity)
    {previous : Option Pubkey} : SharedArrival state.shared (placed.order previous) := by
  have head : sharedHeads state.shared.books (.sharedBook market) (outcome, side.opposite) =
      placed.book.bestPrices (oppositeSlot placed.slot) := by
    rw [sharedHeads_stored placed.stored]
    exact headOf_slot (slot_opposite placed.priced.slotted)
  intro opposite best
  exact placed.apart opposite (head ▸ best)

theorem SharedPlacement.seat {state : State} {owner : Wallet} {market : Pubkey}
    {orderId price quantity : Nat} {outcome : SharedOutcome} {side : OrderSide}
    (placed : SharedPlacement state owner market orderId outcome side price quantity)
    {previous : Option Pubkey} : Seat state (placed.order previous) :=
  ⟨placed.book, placed.claims, placed.stored, placed.held⟩

section Steps

variable {state after : State} {instruction : Instruction}

theorem Effect.spotOrders (effect : Effect state instruction after)
    (holds : SpotInvariant state.spot) :
    spotShelf.OrderStep orderIdentity (SpotArrival state.spot) (targetOf instruction)
      state.spot.orders after.spot.orders := by
  cases effect with
  | insertLimitOrder placed =>
      exact (placed.edit holds (uint64_fits _) (uint64_fits _)).orders ▸
        .arrival placed.freshOrder rfl (Option.ne_none_iff_exists'.mpr ⟨_, placed.balanceStored⟩)
  | appendLimitOrder placed =>
      exact (placed.edit holds (uint64_fits _) (uint64_fits _)).orders ▸
        .arrival placed.freshOrder rfl (Option.ne_none_iff_exists'.mpr ⟨_, placed.balanceStored⟩)
  | cancelLimitOrder leaving =>
      exact (leaving.edit holds).orders ▸
        .change leaving.orderStored (spotShelf_live.mpr leaving.live) rfl rfl
  | matchLimitOrder configured fill =>
      obtain ⟨_, _, _, _, _, edit⟩ := fill.edit holds
      refine edit.orders ▸ .change fill.orderStored (spotShelf_live.mpr fill.live) ?_ rfl
      unfold Fill.written
      split <;> rfl
  | _ => exact .still

theorem Effect.predictionOrders (effect : Effect state instruction after)
    (holds : PredictionInvariant state.prediction) :
    predictionShelf.OrderStep predictionIdentity
      (fun order => PredictionArrival state.prediction order ∧ order.orderId ≤ u64Max)
      (targetOf instruction) state.prediction.orders after.prediction.orders := by
  cases effect with
  | insertPredictionOrder placed =>
      exact (placed.edit holds).orders ▸ .arrival placed.freshOrder rfl
        ⟨placed.admitted.arrival placed.bookStored, uint64_fits _⟩
  | placePredictionOrder placed =>
      exact (placed.edit holds).orders ▸ .arrival placed.freshOrder rfl
        ⟨placed.admitted.arrival placed.bookStored, uint64_fits _⟩
  | appendPredictionOrder placed =>
      exact (placed.edit holds).orders ▸ .arrival placed.freshOrder rfl
        ⟨placed.admitted.arrival placed.bookStored, uint64_fits _⟩
  | cancelPredictionOrder leaving =>
      exact (leaving.edit holds).orders ▸
        .change leaving.orderStored (predictionShelf_live.mpr leaving.live) rfl rfl
  | matchPredictionOrder configured fill =>
      obtain ⟨_, _, _, _, _, _, edit⟩ := fill.edit holds
      refine edit.orders ▸ .change fill.orderStored (predictionShelf_live.mpr fill.live) ?_ rfl
      simp only [predictionIdentity, PredictionFill.reduced, PredictionOrder.fill]
      split <;> rfl
  | restate silent named restates done =>
      obtain ⟨_, _, _, _, rfl⟩ := restates
      exact .still
  | _ => exact .still

theorem Effect.sharedOrders (effect : Effect state instruction after)
    (holds : SharedInvariant state.shared) :
    sharedShelf.OrderStep sharedIdentity
      (fun order => SharedArrival state.shared order ∧ Seat state order) (targetOf instruction)
      state.shared.orders after.shared.orders := by
  cases effect with
  | insertSharedOrder placed =>
      exact (placed.edit holds (uint64_fits _) (uint64_fits _)).orders ▸
        .arrival placed.freshOrder rfl
          ⟨placed.toSharedPlacement.arrival, placed.toSharedPlacement.seat⟩
  | appendSharedOrder placed =>
      exact (placed.edit holds (uint64_fits _) (uint64_fits _)).orders ▸
        .arrival placed.freshOrder rfl
          ⟨placed.toSharedPlacement.arrival, placed.toSharedPlacement.seat⟩
  | cancelSharedOrder leaving =>
      exact (leaving.edit holds).orders ▸
        .change leaving.orderStored (sharedShelf_live.mpr leaving.live) rfl rfl
  | matchSharedOrder configured fill =>
      cases full : fill.plan.makerFullyFilled with
      | true =>
          exact (fill.edit_full holds full).orders ▸
            .change fill.orderStored (sharedShelf_live.mpr fill.live) rfl rfl
      | false =>
          exact (fill.edit_partial holds full).orders ▸
            .change fill.orderStored (sharedShelf_live.mpr fill.live) rfl rfl
  | _ => exact .still

end Steps
end Tidebook.Proof
