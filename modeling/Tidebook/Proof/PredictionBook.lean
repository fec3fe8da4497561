import Tidebook.Program.PredictionOrders
import Tidebook.Proof.SpotBook

/-! # The shelf and the ledger of the prediction markets -/

namespace Tidebook.Proof
open Library Program

def predictionShelf : Shelf Pubkey (PredictionOutcome × OrderSide) Nat Pubkey PredictionOrder
    PredictionPriceLevel where
  file market place := .predictionLevel market place.1.1 place.1.2 place.2
  home order := order.market
  live order := order.status = .opened
  node order := ⟨(order.outcome, order.side), order.price, order.orderId, order.remainingQuantity,
    ⟨order.previousOrder, order.nextOrder⟩⟩
  levelNode level := ⟨⟨level.betterPrice, level.worsePrice⟩,
    ⟨level.firstOrder, level.lastOrder, level.totalRemainingQuantity, level.orderCount⟩⟩
  setNext := PredictionOrder.setNext
  setPrevious := PredictionOrder.setPrevious
  setWorse := PredictionPriceLevel.setWorse
  setBetter := PredictionPriceLevel.setBetter
  file_injective := by
    rintro book ⟨⟨outcome, side⟩, price⟩ other ⟨⟨answer, found⟩, cost⟩ same
    obtain ⟨rfl, rfl, rfl, rfl⟩ := Pubkey.predictionLevel.inj same
    exact ⟨rfl, rfl⟩
  home_setNext _ _ := rfl
  home_setPrevious _ _ := rfl
  live_setNext _ _ := rfl
  live_setPrevious _ _ := rfl
  node_setNext _ _ := rfl
  node_setPrevious _ _ := rfl
  levelNode_setWorse _ _ := rfl
  levelNode_setBetter _ _ := rfl

@[simp] theorem predictionShelf_live {order : PredictionOrder} :
    predictionShelf.live order ↔ order.status = .opened := decide_eq_true_iff

theorem predictionShelf_closed {order : PredictionOrder} (closed : order.status ≠ .opened) :
    predictionShelf.live order = false := decide_eq_false closed

def listPrecedes (list : PredictionOutcome × OrderSide) : Nat → Nat → Prop := list.2.Precedes

instance (list : PredictionOutcome × OrderSide) : DecidableRel (listPrecedes list) :=
  inferInstanceAs (DecidableRel list.2.Precedes)

instance (list : PredictionOutcome × OrderSide) : IsStrictOrder Nat (listPrecedes list) :=
  inferInstanceAs (IsStrictOrder Nat list.2.Precedes)

/-! ## Heads -/

def bestOf (book : PredictionOrderBook) (list : PredictionOutcome × OrderSide) : Option Nat :=
  book.bestPrice list.1 list.2

def predictionHeads (books : Store Pubkey PredictionOrderBook) (market : Pubkey)
    (list : PredictionOutcome × OrderSide) : Option Nat :=
  (books.get (.predictionBook market)).bind fun book => bestOf book list

theorem predictionHeads_stored {books : Store Pubkey PredictionOrderBook} {market : Pubkey}
    {book : PredictionOrderBook} (stored : books.get (.predictionBook market) = some book) :
    predictionHeads books market = bestOf book := by
  funext list
  simp [predictionHeads, stored]

@[simp] theorem predictionHeads_set (books : Store Pubkey PredictionOrderBook) (market : Pubkey)
    (book : PredictionOrderBook) : predictionHeads (books.set (.predictionBook market) book) =
      Function.update (predictionHeads books) market (bestOf book) := by
  funext other list
  by_cases same : other = market
  · subst same
    simp [predictionHeads]
  · have apart : Pubkey.predictionBook other ≠ .predictionBook market :=
      fun found => same (Pubkey.predictionBook.inj found)
    simp [predictionHeads, Store.get_set_ne _ _ apart, Function.update_of_ne same]

theorem bestOf_setBestPrice (book : PredictionOrderBook) (outcome : PredictionOutcome)
    (side : OrderSide) (price : Option Nat) :
    bestOf (book.setBestPrice outcome side price) =
      Function.update (bestOf book) (outcome, side) price := by
  funext ⟨answer, other⟩
  cases outcome <;> cases side <;> cases answer <;> cases other <;> rfl

theorem bestOf_nextOrderId (book : PredictionOrderBook) (nextOrderId : Nat) :
    bestOf { book with nextOrderId := nextOrderId } = bestOf book := by
  funext ⟨outcome, side⟩
  cases outcome <;> cases side <;> rfl

theorem setBestPrice_market (book : PredictionOrderBook) (outcome : PredictionOutcome)
    (side : OrderSide) (price : Option Nat) :
    (book.setBestPrice outcome side price).market = book.market := by
  cases outcome <;> cases side <;> rfl

theorem setBestPrice_nextOrderId (book : PredictionOrderBook) (outcome : PredictionOutcome)
    (side : OrderSide) (price : Option Nat) :
    (book.setBestPrice outcome side price).nextOrderId = book.nextOrderId := by
  cases outcome <;> cases side <;> rfl

/-! ## Positions -/

inductive Bucket where
  | collateral
  | contracts (outcome : PredictionOutcome)
  deriving DecidableEq

def Bucket.of (outcome : PredictionOutcome) : OrderSide → Bucket
  | .bid => .collateral
  | .ask => .contracts outcome

def positionLedger : Ledger Pubkey PredictionPosition (Pubkey × Pubkey) Pubkey Bucket where
  file holder := .predictionPosition holder.1 holder.2
  holder position := (position.market, position.owner)
  pool := Prod.fst
  free position
    | .collateral => position.collateralFree
    | .contracts .yes => position.yesFree
    | .contracts .no => position.noFree
  locked position
    | .collateral => position.collateralLocked
    | .contracts .yes => position.yesLocked
    | .contracts .no => position.noLocked
  file_injective := by
    rintro ⟨market, owner⟩ ⟨other, found⟩ same
    obtain ⟨rfl, rfl⟩ := Pubkey.predictionPosition.inj same
    rfl

theorem buckets_eq (position : PredictionPosition) (outcome : PredictionOutcome)
    (side : OrderSide) : position.buckets outcome side =
      (positionLedger.free position (.of outcome side),
        positionLedger.locked position (.of outcome side)) := by
  cases outcome <;> cases side <;> rfl

theorem setBuckets_move {position : PredictionPosition} {outcome : PredictionOutcome}
    {side : OrderSide} {free locked lost gained out into : Nat}
    (moved : locked + lost = positionLedger.locked position (.of outcome side) + gained)
    (net : free + locked + out = positionLedger.free position (.of outcome side) +
      positionLedger.locked position (.of outcome side) + into) :
    positionLedger.Move position (position.setBuckets outcome side free locked)
      (Pi.single (.of outcome side) lost) (Pi.single (.of outcome side) gained)
      (Pi.single (.of outcome side) out) (Pi.single (.of outcome side) into) := by
  refine ⟨?_, fun bucket => ?_, fun bucket => ?_⟩
  · cases outcome <;> cases side <;> rfl
  all_goals
    cases outcome <;> cases side <;> rcases bucket with _ | (_ | _) <;>
      simp_all [positionLedger, PredictionPosition.setBuckets, Bucket.of]

theorem position_write {positions : Store Pubkey PredictionPosition} {market owner : Pubkey}
    {position changed : PredictionPosition} {lost gained out into : Bucket → Nat}
    (filed : positionLedger.Filed positions)
    (stored : positions.get (.predictionPosition market owner) = some position)
    (move : positionLedger.Move position changed lost gained out into) :
    positionLedger.Edit positions (positions.set (.predictionPosition market owner) changed)
      (Ledger.single (market, owner) lost) (Ledger.single (market, owner) gained)
      (Ledger.single market out) (Ledger.single market into) := by
  have there : positions.get (positionLedger.file (market, owner)) = some position := stored
  exact Ledger.Edit.write filed there move

theorem loadPosition_ok {prediction : Prediction} {market owner : Pubkey}
    {account : Account PredictionPosition}
    (passed : loadPosition prediction market owner = .ok account) :
    account.key = .predictionPosition market owner ∧
      prediction.positions.get (.predictionPosition market owner) = some account.val := by
  simp only [loadPosition, bind_eq_ok, load_eq_ok, require_eq_ok, pure_eq_ok] at passed
  obtain ⟨_, ⟨filed, stored⟩, _, -, _, -, rfl⟩ := passed
  exact ⟨filed, stored⟩

theorem loadPredictionMarket_ok {prediction : Prediction} {key : Pubkey}
    {account : Account PredictionMarket}
    (passed : loadPredictionMarket prediction key = .ok account) :
    account.key = key ∧ prediction.markets.get key = some account.val ∧
      key = .predictionMarket account.val.marketId := by
  simp only [loadPredictionMarket, bind_eq_ok, load_eq_ok, require_eq_ok, pure_eq_ok] at passed
  obtain ⟨_, ⟨rfl, stored⟩, _, canonical, rfl⟩ := passed
  exact ⟨rfl, stored, canonical⟩

theorem loadPredictionBook_ok {prediction : Prediction} {market : Pubkey}
    {account : Account PredictionOrderBook}
    (passed : loadPredictionBook prediction market = .ok account) :
    account.key = .predictionBook market ∧
      prediction.books.get (.predictionBook market) = some account.val ∧
      account.val.market = market := by
  simp only [loadPredictionBook, bind_eq_ok, load_eq_ok, require_eq_ok, pure_eq_ok] at passed
  obtain ⟨_, ⟨filed, stored⟩, _, ofMarket, rfl⟩ := passed
  exact ⟨filed, stored, ofMarket⟩

end Tidebook.Proof
