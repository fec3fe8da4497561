import Tidebook.Library.Ledger
import Tidebook.Proof.Saving
import Tidebook.Program.SpotMatch

/-! # The shelf and the ledger of the spot markets -/

namespace Tidebook.Proof
open Library Program

instance (side : OrderSide) : IsStrictOrder Nat side.Precedes where
  irrefl price := by cases side <;> exact Nat.lt_irrefl price
  trans first second third := by
    cases side
    · exact fun before after => Nat.lt_trans after before
    · exact Nat.lt_trans

def spotShelf : Shelf Pubkey OrderSide Nat Pubkey Order PriceLevel where
  file market place := .priceLevel market place.1 place.2
  home order := order.market
  live order := order.status = .opened
  node order := ⟨order.side, order.price, order.orderId, order.remainingQuantity,
    ⟨order.previousOrder, order.nextOrder⟩⟩
  levelNode level := ⟨⟨level.betterPrice, level.worsePrice⟩,
    ⟨level.firstOrder, level.lastOrder, level.totalRemainingQuantity, level.orderCount⟩⟩
  setNext := Order.setNext
  setPrevious := Order.setPrevious
  setWorse := PriceLevel.setWorse
  setBetter := PriceLevel.setBetter
  file_injective := by
    rintro book ⟨side, price⟩ other ⟨found, cost⟩ same
    obtain ⟨rfl, rfl, rfl⟩ := Pubkey.priceLevel.inj same
    exact ⟨rfl, rfl⟩
  home_setNext _ _ := rfl
  home_setPrevious _ _ := rfl
  live_setNext _ _ := rfl
  live_setPrevious _ _ := rfl
  node_setNext _ _ := rfl
  node_setPrevious _ _ := rfl
  levelNode_setWorse _ _ := rfl
  levelNode_setBetter _ _ := rfl

def spotLedger : Ledger Pubkey TraderBalance (Pubkey × Pubkey) Pubkey OrderSide where
  file holder := .traderBalance holder.1 holder.2
  holder balance := (balance.market, balance.owner)
  pool := Prod.fst
  free balance
    | .bid => balance.quoteFree
    | .ask => balance.baseFree
  locked balance
    | .bid => balance.quoteLocked
    | .ask => balance.baseLocked
  file_injective := by
    rintro ⟨market, owner⟩ ⟨other, found⟩ same
    obtain ⟨rfl, rfl⟩ := Pubkey.traderBalance.inj same
    rfl

def spotHeads (markets : Store Pubkey Market) (market : Pubkey) (side : OrderSide) : Option Nat :=
  (markets.get market).bind fun record => record.best side

theorem spotHeads_stored {markets : Store Pubkey Market} {market : Pubkey} {record : Market}
    (stored : markets.get market = some record) : spotHeads markets market = record.best := by
  funext side
  simp [spotHeads, stored]

@[simp] theorem spotHeads_set (markets : Store Pubkey Market) (market : Pubkey) (record : Market) :
    spotHeads (markets.set market record) =
      Function.update (spotHeads markets) market record.best := by
  funext other side
  by_cases same : other = market
  · subst same
    simp [spotHeads]
  · simp [spotHeads, Store.get_set_ne _ _ same, Function.update_of_ne same]

@[simp] theorem best_setBest (market : Market) (side : OrderSide) (price : Option Nat) :
    (market.setBest side price).best = Function.update market.best side price := by
  funext other
  cases side <;> cases other <;> rfl

@[simp] theorem spotShelf_live {order : Order} : spotShelf.live order ↔ order.status = .opened :=
  decide_eq_true_iff

theorem spotShelf_closed {order : Order} (closed : order.status ≠ .opened) :
    spotShelf.live order = false := decide_eq_false closed

end Tidebook.Proof
