import Tidebook.Proof.SharedBook

/-! # The invariant of the shared books -/

namespace Tidebook.Proof
open Library Program

namespace Shared

def openIn (book : Pubkey) (_ : Pubkey) (order : SharedOrder) : Nat :=
  if order.book = book ∧ order.status = .opened then 1 else 0

/-! ## What orders lock -/

/-- An amount of the quote mint and one of the traded asset, on the asset ledger: contracts are
not kept there. -/
def assetPart (book : SharedBook) (owner : Pubkey) (outcome : SharedOutcome) (quote base : Nat) :
    Pubkey × Pubkey → Unit → Nat :=
  Ledger.single (owner, book.quoteMint) (fun _ => quote) +
    match outcome with
    | .spot => Ledger.single (owner, book.baseMint) fun _ => base
    | .yes | .no => 0

def traded (outcome : SharedOutcome) (amount : Nat) : Bucket → Nat :=
  match outcome with
  | .spot => 0
  | .yes => Pi.single (.contracts .yes) amount
  | .no => Pi.single (.contracts .no) amount

def contractPart (market owner : Pubkey) (outcome : SharedOutcome) (base : Nat) :
    Pubkey × Pubkey → Bucket → Nat :=
  Ledger.single (market, owner) (traded outcome base)

/-- Bids lock the quote mint, asks the traded asset. -/
def quoteShare (side : OrderSide) (amount : Nat) : Nat := if side = .bid then amount else 0

def baseShare (side : OrderSide) (amount : Nat) : Nat := if side = .ask then amount else 0

def assetShare (book : SharedBook) (order : SharedOrder) : Pubkey × Pubkey → Unit → Nat :=
  assetPart book order.owner order.outcome (quoteShare order.side order.lockedCollateral)
    (baseShare order.side order.lockedCollateral)

def contractShare (order : SharedOrder) : Pubkey × Pubkey → Bucket → Nat :=
  contractPart order.market order.owner order.outcome
    (baseShare order.side order.lockedCollateral)

def assetLocked (books : Store Pubkey SharedBook) (holder : Pubkey × Pubkey) (_ : Pubkey)
    (order : SharedOrder) : Nat :=
  if order.status = .opened then
    (books.get order.book).elim 0 fun book => assetShare book order holder () else 0

def contractLocked (holder : Pubkey × Pubkey) (bucket : Bucket) (_ : Pubkey)
    (order : SharedOrder) : Nat :=
  if order.status = .opened then contractShare order holder bucket else 0

/-! ## Resting orders -/

structure Resting (book : SharedBook) (order : SharedOrder) : Prop where
  traded : Trades book.kind order.outcome
  price_pos : 0 < order.price
  price_fits : order.price ≤ u64Max
  price_lt : book.kind = .prediction → order.price < book.payoutPerContract
  tick : book.priceTick ∣ order.price
  id_pos : 0 < order.orderId
  id_lt : order.orderId < book.nextOrderId
  remaining_pos : 0 < order.remainingQuantity
  remaining_le : order.remainingQuantity ≤ order.quantity
  quantity_fits : order.quantity ≤ u64Max
  lot : book.quantityLot ∣ order.remainingQuantity
  scale : 10 ^ book.baseDecimals ≤ u128Max
  quote_fits : order.price * order.remainingQuantity / 10 ^ book.baseDecimals ≤ u64Max
  bid_lock : order.side = .bid →
    order.price * order.remainingQuantity / 10 ^ book.baseDecimals ≤ order.lockedCollateral
  ask_lock : order.side = .ask → order.lockedCollateral = order.remainingQuantity
  lock_fits : order.lockedCollateral ≤ u64Max
  market : order.market = book.market
  level : order.priceLevel = .sharedLevel order.book order.outcome order.side order.price

def Rests (books : Store Pubkey SharedBook) (order : SharedOrder) : Prop :=
  order.status = .opened → ∃ book, books.get order.book = some book ∧ Resting book order

/-! ## Terms -/

structure Terms (book : SharedBook) : Prop where
  kind : book.kind = .spot ∨ book.kind = .prediction
  tick_pos : 0 < book.priceTick
  lot_pos : 0 < book.quantityLot
  mints : book.kind = .spot → book.baseMint ≠ book.quoteMint
  prediction : book.kind = .prediction → book.baseDecimals = 0 ∧ book.quantityLot = 1

structure SameTerms (before after : SharedBook) : Prop where
  market : after.market = before.market
  kind : after.kind = before.kind
  terms : after.terms = before.terms
  nextOrderId : before.nextOrderId ≤ after.nextOrderId

section SameTerms

variable {before after : SharedBook} (same : SameTerms before after)

include same

theorem SameTerms.quoteMint : after.quoteMint = before.quoteMint :=
  congrArg SharedTerms.quoteMint same.terms

theorem SameTerms.baseMint : after.baseMint = before.baseMint :=
  congrArg SharedTerms.baseMint same.terms

theorem SameTerms.baseDecimals : after.baseDecimals = before.baseDecimals :=
  congrArg SharedTerms.baseDecimals same.terms

theorem SameTerms.tick : after.priceTick = before.priceTick := congrArg SharedTerms.tick same.terms

theorem SameTerms.lot : after.quantityLot = before.quantityLot := congrArg SharedTerms.lot same.terms

theorem SameTerms.payout : after.payoutPerContract = before.payoutPerContract :=
  congrArg SharedTerms.payout same.terms

theorem Terms.congr (terms : Terms before) : Terms after where
  kind := same.kind.symm ▸ terms.kind
  tick_pos := same.tick.symm ▸ terms.tick_pos
  lot_pos := same.lot.symm ▸ terms.lot_pos
  mints := by
    rw [same.kind, same.baseMint, same.quoteMint]
    exact terms.mints
  prediction := by
    rw [same.kind, same.baseDecimals, same.lot]
    exact terms.prediction

theorem Resting.congr {order : SharedOrder} (rest : Resting before order) : Resting after order :=
  { rest with
    traded := same.kind.symm ▸ rest.traded
    price_lt := by
      rw [same.kind, same.payout]
      exact rest.price_lt
    tick := same.tick.symm ▸ rest.tick
    id_lt := lt_of_lt_of_le rest.id_lt same.nextOrderId
    lot := same.lot.symm ▸ rest.lot
    scale := same.baseDecimals.symm ▸ rest.scale
    quote_fits := by
      rw [same.baseDecimals]
      exact rest.quote_fits
    bid_lock := by
      rw [same.baseDecimals]
      exact rest.bid_lock
    market := rest.market.trans same.market.symm }

theorem assetShare_congr (order : SharedOrder) : assetShare after order = assetShare before order := by
  simp only [assetShare, assetPart, same.quoteMint, same.baseMint]

end SameTerms

theorem Rests.update {books : Store Pubkey SharedBook} {key : Pubkey} {before after : SharedBook}
    {order : SharedOrder} (stored : books.get key = some before) (same : SameTerms before after)
    (rests : Rests books order) : Rests (books.set key after) order := by
  intro live
  obtain ⟨book, found, rest⟩ := rests live
  rw [Store.get_set]
  split
  · next home =>
      rw [home, stored] at found
      cases found
      exact ⟨after, rfl, rest.congr same⟩
  · exact ⟨book, found, rest⟩

theorem Resting.relinked {book : SharedBook} {order : SharedOrder}
    {previous next : Option Pubkey} (rest : Resting book order) :
    Resting book { order with previousOrder := previous, nextOrder := next } := by
  obtain ⟨h1, h2, h3, h4, h5, h6, h7, h8, h9, h10, h11, h12, h13, h14, h15, h16, h17, h18⟩ := rest
  exact ⟨h1, h2, h3, h4, h5, h6, h7, h8, h9, h10, h11, h12, h13, h14, h15, h16, h17, h18⟩

theorem Rests.setNext {books : Store Pubkey SharedBook} {order : SharedOrder}
    (value : Option Pubkey) (rests : Rests books order) :
    Rests books (sharedShelf.setNext value order) := by
  intro live
  obtain ⟨book, found, rest⟩ := rests live
  exact ⟨book, found, rest.relinked⟩

theorem Rests.setPrevious {books : Store Pubkey SharedBook} {order : SharedOrder}
    (value : Option Pubkey) (rests : Rests books order) :
    Rests books (sharedShelf.setPrevious value order) := by
  intro live
  obtain ⟨book, found, rest⟩ := rests live
  exact ⟨book, found, rest.relinked⟩

theorem relinked {P : SharedOrder → Prop} {orders : Store Pubkey SharedOrder} {key : Pubkey}
    {order : SharedOrder} {previous next after before : Option Pubkey}
    (blindNext : ∀ value order, P order → P (sharedShelf.setNext value order))
    (blindPrevious : ∀ value order, P order → P (sharedShelf.setPrevious value order))
    (holds : ∀ key order, orders.get key = some order → P order) (written : P order)
    (found : Pubkey) (record : SharedOrder)
    (present : (sharedShelf.relink (orders.set key order) previous next after before).get found =
      some record) : P record := by
  refine Shelf.relink_forall (P := fun _ order => P order) (fun _ => blindNext)
    (fun _ => blindPrevious) (fun other old stored => ?_) found record present
  rw [Store.get_set] at stored
  split at stored
  · cases stored
    exact written
  · exact holds other old stored

theorem relevel_home {levels : Store Pubkey SharedPriceLevel} {book : Pubkey} {list : SharedList}
    {better worse towards back : Option Nat}
    (home : ∀ key level, levels.get key = some level → level.book = .sharedBook level.market)
    (key : Pubkey) (level : SharedPriceLevel)
    (present : (sharedShelf.relevel book list levels better worse towards back).get key =
      some level) : level.book = .sharedBook level.market :=
  Shelf.relevel_forall (P := fun _ level => level.book = .sharedBook level.market)
    (fun _ _ _ home => home) (fun _ _ _ home => home) home key level present

section Totals

variable {orders : Store Pubkey SharedOrder} {previous next after before : Option Pubkey}

theorem relink_openIn (book : Pubkey) :
    (sharedShelf.relink orders previous next after before).total (openIn book) =
      orders.total (openIn book) :=
  Shelf.relink_total (fun _ _ _ => rfl) fun _ _ _ => rfl

theorem relink_assetLocked (books : Store Pubkey SharedBook) (holder : Pubkey × Pubkey) :
    (sharedShelf.relink orders previous next after before).total (assetLocked books holder) =
      orders.total (assetLocked books holder) :=
  Shelf.relink_total (fun _ _ _ => rfl) fun _ _ _ => rfl

theorem relink_contractLocked (holder : Pubkey × Pubkey) (bucket : Bucket) :
    (sharedShelf.relink orders previous next after before).total (contractLocked holder bucket) =
      orders.total (contractLocked holder bucket) :=
  Shelf.relink_total (fun _ _ _ => rfl) fun _ _ _ => rfl

end Totals
end Shared

open Shared (Rests Resting)

structure SharedInvariant (shared : Shared) : Prop where
  books : shared.books.Keyed fun book => .sharedBook book.market
  orders : shared.orders.Keyed fun order => .sharedOrder order.book order.orderId
  levels : shared.levels.Keyed fun level =>
    .sharedLevel level.book level.outcome level.side level.price
  orderHome : ∀ key order, shared.orders.get key = some order →
    order.book = .sharedBook order.market
  levelHome : ∀ key level, shared.levels.get key = some level →
    level.book = .sharedBook level.market
  terms : ∀ key book, shared.books.get key = some book → Shared.Terms book
  sound : sharedShelf.Sound sharedPrecedes (sharedHeads shared.books) shared.orders shared.levels
  resting : ∀ key order, shared.orders.get key = some order → Rests shared.books order
  counts : ∀ key book, shared.books.get key = some book →
    book.openOrderCount = shared.orders.total (Shared.openIn key)

/-! ## One edit -/

/-- What an order handler does to the books: one book record, one order with the pointers of its
neighbours, and some levels. -/
structure SharedEdit (shared after : Shared) (key orderKey : Pubkey) (book record : SharedBook)
    (written : SharedOrder) (previous next ahead behind : Option Pubkey) : Prop where
  stored : shared.books.get key = some book
  same : Shared.SameTerms book record
  named : orderKey = .sharedOrder key written.orderId
  home : written.book = key
  market : written.market = book.market
  rests : written.status = .opened → Resting record written
  books : after.books = shared.books.set key record
  orders : after.orders =
    sharedShelf.relink (shared.orders.set orderKey written) previous next ahead behind
  levels : after.levels.Keyed fun level =>
    .sharedLevel level.book level.outcome level.side level.price
  levelHome : ∀ key level, after.levels.get key = some level →
    level.book = .sharedBook level.market
  sound : sharedShelf.Sound sharedPrecedes (sharedHeads after.books) after.orders after.levels
  counted : record.openOrderCount +
      (shared.orders.get orderKey).elim 0 (Shared.openIn key orderKey) =
    book.openOrderCount + Shared.openIn key orderKey written

section Edit

variable {shared after : Shared} {key orderKey : Pubkey} {book record : SharedBook}
variable {written : SharedOrder} {previous next ahead behind : Option Pubkey}

theorem SharedInvariant.edit (holds : SharedInvariant shared)
    (edit : SharedEdit shared after key orderKey book record written previous next ahead behind) :
    SharedInvariant after where
  books := by
    rw [edit.books]
    refine holds.books.set ?_
    rw [edit.same.market]
    exact holds.books key book edit.stored
  orders := by
    rw [edit.orders]
    refine Shelf.relink_keyed (fun _ _ => rfl) (fun _ _ => rfl) (holds.orders.set ?_)
    rw [edit.home, edit.named]
  levels := edit.levels
  orderHome := by
    rw [edit.orders]
    refine Shared.relinked (fun _ _ home => home) (fun _ _ home => home) holds.orderHome ?_
    rw [edit.home, edit.market]
    exact holds.books key book edit.stored
  levelHome := edit.levelHome
  terms found other present := by
    rw [edit.books, Store.get_set] at present
    split at present
    · cases present
      exact (holds.terms key book edit.stored).congr edit.same
    · exact holds.terms found other present
  sound := edit.sound
  resting := by
    rw [edit.orders, edit.books]
    refine Shared.relinked (fun value _ => Rests.setNext value)
      (fun value _ => Rests.setPrevious value)
      (fun found order present => (holds.resting found order present).update edit.stored edit.same)
      fun live => ⟨record, ?_, edit.rests live⟩
    rw [edit.home, Store.get_set_self]
  counts found other present := by
    have changed := Store.total_set (f := Shared.openIn found) shared.orders orderKey written
    rw [edit.orders, Shared.relink_openIn]
    rw [edit.books, Store.get_set] at present
    split at present
    · next same =>
        subst same
        cases present
        have before := holds.counts found book edit.stored
        have after := edit.counted
        omega
    · next different =>
        have before := holds.counts found other present
        have unseen : Shared.openIn found orderKey written = 0 := by
          simp [Shared.openIn, edit.home, Ne.symm different]
        have gone : (shared.orders.get orderKey).elim 0 (Shared.openIn found orderKey) = 0 := by
          cases old : shared.orders.get orderKey with
          | none => rfl
          | some order =>
              have named := holds.orders orderKey order old
              rw [edit.named, Pubkey.sharedOrder.injEq] at named
              simp [Shared.openIn, ← named.1, Ne.symm different]
        omega

theorem assetLocked_set {books : Store Pubkey SharedBook} (stored : books.get key = some book)
    (same : Shared.SameTerms book record) (holder : Pubkey × Pubkey) :
    Shared.assetLocked (books.set key record) holder = Shared.assetLocked books holder := by
  funext found order
  simp only [Shared.assetLocked, Store.get_set]
  by_cases home : order.book = key
  · rw [if_pos home, home, stored]
    simp only [Option.elim_some, Shared.assetShare_congr same]
  · rw [if_neg home]

theorem SharedEdit.assets
    (edit : SharedEdit shared after key orderKey book record written previous next ahead behind)
    (holder : Pubkey × Pubkey) :
    after.orders.total (Shared.assetLocked after.books holder) +
        (shared.orders.get orderKey).elim 0 (Shared.assetLocked shared.books holder orderKey) =
      shared.orders.total (Shared.assetLocked shared.books holder) +
        Shared.assetLocked shared.books holder orderKey written := by
  rw [edit.orders, edit.books, Shared.relink_assetLocked, assetLocked_set edit.stored edit.same]
  exact Store.total_set _ _ _

theorem SharedEdit.contracts
    (edit : SharedEdit shared after key orderKey book record written previous next ahead behind)
    (holder : Pubkey × Pubkey) (bucket : Bucket) :
    after.orders.total (Shared.contractLocked holder bucket) +
        (shared.orders.get orderKey).elim 0 (Shared.contractLocked holder bucket orderKey) =
      shared.orders.total (Shared.contractLocked holder bucket) +
        Shared.contractLocked holder bucket orderKey written := by
  rw [edit.orders, Shared.relink_contractLocked]
  exact Store.total_set _ _ _

end Edit

end Tidebook.Proof
