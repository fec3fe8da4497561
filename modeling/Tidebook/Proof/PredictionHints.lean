import Tidebook.Proof.PredictionAccept
import Tidebook.Proof.SpotHints

/-! # Targets of a prediction placement

The placement that the client chooses for a price, and the checks with which the program accepts no
other one.
-/

namespace Tidebook.Proof
open Library Program Client

/-! ## Well-formed lists -/

def predictionLinks (levels : Store Pubkey PredictionPriceLevel) (market : Pubkey)
    (outcome : PredictionOutcome) (side : OrderSide) (price : Nat) : Option (Link Nat) :=
  (levels.get (.predictionLevel market outcome side price)).map fun level =>
    ⟨level.betterPrice, level.worsePrice⟩

theorem predictionLinks_stored {levels : Store Pubkey PredictionPriceLevel} {market : Pubkey}
    {outcome : PredictionOutcome} {side : OrderSide} {price : Nat}
    {field : Link Nat → Option Nat} {value : Option Nat}
    (shown : (predictionLinks levels market outcome side price).map field = some value) :
    levels.get (.predictionLevel market outcome side price) ≠ none := by
  obtain ⟨link, known, -⟩ := Option.map_eq_some_iff.mp shown
  obtain ⟨level, present, -⟩ := Option.map_eq_some_iff.mp known
  exact Option.ne_none_iff_exists'.mpr ⟨level, present⟩

/-- An order that waits at its price, submitted before the next one. -/
structure InLine (market : Pubkey) (outcome : PredictionOutcome) (side : OrderSide)
    (price nextOrderId : Nat) (key : Pubkey) (order : PredictionOrder) : Prop where
  keyed : key = .predictionOrder market order.orderId
  home : order.market = market
  answered : order.outcome = outcome
  sided : order.side = side
  priced : order.price = price
  level : order.priceLevel = .predictionLevel market outcome side price
  live : order.status = .opened
  remaining : 0 < order.remainingQuantity ∧ order.remainingQuantity ≤ order.quantity
  earlier : 0 < order.orderId ∧ order.orderId < nextOrderId

/-- The orders of a level, in the order of their arrival. -/
structure PredictionQueue (orders : Store Pubkey PredictionOrder) (market : Pubkey)
    (outcome : PredictionOutcome) (side : OrderSide) (price nextOrderId : Nat)
    (level : PredictionPriceLevel) (queue : List Pubkey) : Prop where
  filled : queue ≠ []
  distinct : queue.Nodup
  first : level.firstOrder = queue.head?
  last : level.lastOrder = queue.getLast?
  count : level.orderCount = queue.length
  total : level.totalRemainingQuantity =
    (queue.map fun key => ((orders.get key).map PredictionOrder.remainingQuantity).getD 0).sum
  chain : Linked (fun key => (orders.get key).map fun order =>
    ⟨order.previousOrder, order.nextOrder⟩) none queue none
  waiting : ∀ key ∈ queue, ∃ order, orders.get key = some order ∧
    InLine market outcome side price nextOrderId key order

/-- The stored levels of one outcome and side are a sorted list that the book's head leads into. -/
structure PredictionList (prediction : Prediction) (market : Pubkey) (book : PredictionOrderBook)
    (outcome : PredictionOutcome) (side : OrderSide) (prices : List Nat) : Prop where
  named : ∀ price level,
    prediction.levels.get (.predictionLevel market outcome side price) = some level →
      level.market = market ∧ level.outcome = outcome ∧ level.side = side ∧ level.price = price
  queued : ∀ price level,
    prediction.levels.get (.predictionLevel market outcome side price) = some level → ∃ queue,
      PredictionQueue prediction.orders market outcome side price book.nextOrderId level queue
  linked : SortedLinks side.Precedes (predictionLinks prediction.levels market outcome side)
    (book.bestPrice outcome side) prices

theorem predictionBestPrice_eq (book : PredictionOrderBook) (outcome : PredictionOutcome)
    (side : OrderSide) : predictionBestPrice book outcome side = book.bestPrice outcome side := by
  cases outcome <;> cases side <;> rfl

theorem PredictionQueue.live {orders : Store Pubkey PredictionOrder} {market : Pubkey}
    {outcome : PredictionOutcome} {side : OrderSide} {price nextOrderId : Nat}
    {level : PredictionPriceLevel} {queue : List Pubkey}
    (queued : PredictionQueue orders market outcome side price nextOrderId level queue) :
    0 < level.totalRemainingQuantity := by
  obtain ⟨first, rest, rfl⟩ := List.exists_cons_of_ne_nil queued.filled
  obtain ⟨order, stored, waiting⟩ := queued.waiting first (by simp)
  have positive := waiting.remaining.1
  rw [queued.total, List.map_cons, List.sum_cons, stored, Option.map_some, Option.getD_some]
  omega

section Lists

variable {prediction : Prediction} {market : Pubkey} {book : PredictionOrderBook}
variable {outcome : PredictionOutcome} {side : OrderSide} {prices : List Nat}
variable (list : PredictionList prediction market book outcome side prices)
include list

theorem PredictionList.level {price : Nat} {before after : List Nat}
    (split : prices = before ++ price :: after) : ∃ level,
      prediction.levels.get (.predictionLevel market outcome side price) = some level ∧
        level.betterPrice = before.getLast? ∧ level.worsePrice = after.head? := by
  have chain := list.linked.chain
  rw [split] at chain
  obtain ⟨level, stored, links⟩ := Option.map_eq_some_iff.mp chain.at_split
  obtain ⟨better, worse⟩ := Link.mk.inj links
  exact ⟨level, stored, by simpa using better, by simpa using worse⟩

theorem PredictionList.absent {price : Nat} (fresh : price ∉ prices) :
    prediction.levels.get (.predictionLevel market outcome side price) = none := by
  cases stored : prediction.levels.get (.predictionLevel market outcome side price) with
  | none => rfl
  | some level =>
      exact absurd (list.linked.closed price _ (by rw [predictionLinks, stored]; rfl)) fresh

theorem PredictionList.top {price : Nat} {level : PredictionPriceLevel}
    (stored : prediction.levels.get (.predictionLevel market outcome side price) = some level) :
    ∃ best, book.bestPrice outcome side = some best ∧
      (best = price ↔ level.betterPrice = none) ∧ side.NoLater best price := by
  have links : predictionLinks prediction.levels market outcome side price =
      some ⟨level.betterPrice, level.worsePrice⟩ := by
    rw [predictionLinks, stored]
    rfl
  obtain ⟨best, isBest, leads⟩ := list.linked.leads links
  refine ⟨best, isBest, ?_⟩
  rcases leads with ⟨rfl, first⟩ | ⟨before, behind⟩
  · refine ⟨⟨fun _ => first, fun _ => rfl⟩, ?_⟩
    cases side <;> exact Nat.le_refl best
  · refine ⟨⟨fun same => absurd (same ▸ before) (irrefl price), fun first => absurd first behind⟩, ?_⟩
    cases side <;> exact Nat.le_of_lt before

theorem PredictionList.neighbor {best : Nat} (isBest : book.bestPrice outcome side = some best)
    {level : Account PredictionPriceLevel}
    (stored : prediction.levels.get level.key = some level.val) {price : Nat}
    (keyed : level.key = .predictionLevel market outcome side price) :
    level.val.price = price ∧ validateNeighbor market outcome side best level = .ok () ∧
      predictionLinks prediction.levels market outcome side price =
        some ⟨level.val.betterPrice, level.val.worsePrice⟩ ∧
      (price = best ↔ level.val.betterPrice = none) := by
  rw [keyed] at stored
  obtain ⟨home, answered, sided, priced⟩ := list.named price level.val stored
  obtain ⟨queue, queued⟩ := list.queued price level.val stored
  obtain ⟨top, isTop, leads, latest⟩ := list.top stored
  cases isTop.symm.trans isBest
  rw [eq_comm] at leads
  have links : predictionLinks prediction.levels market outcome side price =
      some ⟨level.val.betterPrice, level.val.worsePrice⟩ := by
    rw [predictionLinks, stored]
    rfl
  have some_first : level.val.firstOrder ≠ none := by
    rw [queued.first, Ne, List.head?_eq_none_iff]
    exact queued.filled
  have some_last : level.val.lastOrder ≠ none := by
    rw [queued.last, Ne, List.getLast?_eq_none_iff]
    exact queued.filled
  refine ⟨priced, require_eq_ok.mpr ⟨by rw [keyed, priced], home, answered, sided, ?_, queued.live,
    Option.isSome_iff_ne_none.mpr some_first, Option.isSome_iff_ne_none.mpr some_last, ?_, ?_⟩, links,
    leads⟩
  · rw [queued.count]
    exact List.length_pos_of_ne_nil queued.filled
  · rw [priced]
    exact leads
  · rw [priced]
    exact latest

end Lists

/-! ## Acceptance -/

section Accept

variable {prediction : Prediction} {market : Pubkey} {book : PredictionOrderBook}
variable {outcome : PredictionOutcome} {side : OrderSide} {prices : List Nat} {price best : Nat}
variable {better worse : Option (Account PredictionPriceLevel)}
variable (list : PredictionList prediction market book outcome side prices)
variable (isBest : book.bestPrice outcome side = some best)
include list isBest

theorem predictionNeighbors_total {above below : Option Nat}
    (hasBetter : ∀ level ∈ better, prediction.levels.get level.key = some level.val)
    (hasWorse : ∀ level ∈ worse, prediction.levels.get level.key = some level.val)
    (isBetter : above.map (Pubkey.predictionLevel market outcome side) = better.map Account.key)
    (isWorse : below.map (Pubkey.predictionLevel market outcome side) = worse.map Account.key)
    (gap : InGap side.Precedes prices price above below) :
    (∀ level ∈ better, validateNeighbor market outcome side best level = .ok ()) ∧
      (∀ level ∈ worse, validateNeighbor market outcome side best level = .ok ()) ∧
      predictionAdjacent side price best (better.map Account.val) (worse.map Account.val) := by
  have enclosed := list.linked.enclosed_of_gap gap
  have betterIs : ∀ level ∈ better, above = some level.val.price ∧
      validateNeighbor market outcome side best level = .ok () ∧ level.val.worsePrice = below ∧
        side.Precedes level.val.price price := by
    intro level member
    rw [member, Option.map_some, Option.map_eq_some_iff] at isBetter
    obtain ⟨found, rfl, keyed⟩ := isBetter
    obtain ⟨rfl, valid, links, -⟩ := list.neighbor isBest (hasBetter level member) keyed.symm
    obtain ⟨ordered, next⟩ := enclosed.above _ rfl
    rw [links, Option.map_some, Option.some.injEq] at next
    exact ⟨rfl, valid, next, ordered⟩
  have worseIs : ∀ level ∈ worse, below = some level.val.price ∧
      validateNeighbor market outcome side best level = .ok () ∧ level.val.betterPrice = above ∧
        side.Precedes price level.val.price ∧
        (level.val.price = best ↔ level.val.betterPrice = none) := by
    intro level member
    rw [member, Option.map_some, Option.map_eq_some_iff] at isWorse
    obtain ⟨found, rfl, keyed⟩ := isWorse
    obtain ⟨rfl, valid, links, leads⟩ := list.neighbor isBest (hasWorse level member) keyed.symm
    obtain ⟨ordered, prev⟩ := enclosed.below _ rfl
    rw [links, Option.map_some, Option.some.injEq] at prev
    exact ⟨rfl, valid, prev, ordered, leads⟩
  have some_hint : above = none → below ≠ none := by
    intro alone absent
    cases (absent.symm.trans (enclosed.first alone)).trans isBest
  exact ⟨fun level member => (betterIs level member).2.1,
    fun level member => (worseIs level member).2.1,
    predictionAdjacent_total isBetter isWorse some_hint
      (fun level member => (betterIs level member).imp_right And.right)
      fun level member => (worseIs level member).imp_right And.right⟩

theorem PredictionHints.gap
    (hasBetter : ∀ level ∈ better, prediction.levels.get level.key = some level.val)
    (hints : PredictionHints market outcome side price best better worse) :
    InGap side.Precedes prices price (better.map fun level => level.val.price)
      (worse.map fun level => level.val.price) := by
  refine list.linked.gap_of_links (fun other named => ?_) (fun other named => ?_)
    fun alone => (hints.first (Option.map_eq_none_iff.mp alone)).trans isBest.symm
  · obtain ⟨level, member, rfl⟩ := Option.map_eq_some_iff.mp named
    obtain ⟨ordered, next⟩ := hints.above level member
    obtain ⟨-, -, links, -⟩ :=
      list.neighbor isBest (hasBetter level member) (hints.betterKey level member)
    exact ⟨ordered, by rw [links, Option.map_some, next]⟩
  · obtain ⟨level, member, rfl⟩ := Option.map_eq_some_iff.mp named
    exact hints.below level member

end Accept

def predictionTerms (prediction : Prediction) (now : Int) (owner : Wallet) (market : Pubkey)
    (orderId : Nat) (outcome : PredictionOutcome) (side : OrderSide) (price quantity : Nat) :
    Result Unit := do
  let market ← loadPredictionMarket prediction market
  let position ← loadPosition prediction market.key owner.key
  let book ← loadPredictionBook prediction market.key
  vacant prediction.orders (.predictionOrder market.key orderId)
  let _ ← validateRestingOrder market.val book.val now orderId outcome side price quantity
  let _ ← lockRestingFunds position.val outcome side price quantity
  pure ()

section Handlers

variable {prediction : Prediction} {now : Int} {owner : Wallet} {market : Pubkey} {orderId : Nat}
variable {book : PredictionOrderBook} {outcome : PredictionOutcome} {side : OrderSide}
variable {prices : List Nat} {price quantity : Nat}
variable (stored : prediction.books.get (.predictionBook market) = some book)
variable (list : PredictionList prediction market book outcome side prices)
include stored list

theorem handlePlacePredictionOrder_iff (fresh : price ∉ prices) :
    (∃ after, handlePlacePredictionOrder prediction now owner market orderId outcome side price
        quantity = .ok after) ↔
      prices = [] ∧ predictionTerms prediction now owner market orderId outcome side price
        quantity = .ok () := by
  have empty : book.bestPrice outcome side = none ↔ prices = [] := by
    rw [list.linked.head, List.head?_eq_none_iff]
  simp only [handlePlacePredictionOrder, predictionTerms, bind_eq_ok, vacant_eq_ok, require_eq_ok,
    pure_eq_ok]
  constructor
  · rintro ⟨after, record, ownMarket, position, ownPosition, found, ownBook, _, -, _, freshOrder,
      counters, valid, _, side_empty, locked, lock, -⟩
    obtain ⟨marketFiled, -, -⟩ := loadPredictionMarket_ok ownMarket
    obtain ⟨-, bookStored, -⟩ := loadPredictionBook_ok ownBook
    rw [marketFiled] at bookStored
    cases bookStored.symm.trans stored
    exact ⟨empty.mp side_empty, record, ownMarket, position, ownPosition, found, ownBook, (),
      freshOrder, counters, valid, locked, lock, trivial⟩
  · rintro ⟨none_listed, record, ownMarket, position, ownPosition, found, ownBook, _, freshOrder,
      counters, valid, locked, lock, -⟩
    obtain ⟨marketFiled, -, -⟩ := loadPredictionMarket_ok ownMarket
    obtain ⟨-, bookStored, -⟩ := loadPredictionBook_ok ownBook
    rw [marketFiled] at bookStored
    cases bookStored.symm.trans stored
    exact ⟨_, record, ownMarket, position, ownPosition, found, ownBook, (),
      marketFiled ▸ list.absent fresh, (), freshOrder, counters, valid, (), empty.mpr none_listed,
      locked, lock, rfl⟩

/-- A first order on a side, or the two levels around the price: no other pair is accepted. -/
theorem handleInsertPredictionOrder_iff (fresh : price ∉ prices) {above below : Option Nat}
    (gap : InGap side.Precedes prices price above below) (betterLevel worseLevel : Option Pubkey) :
    (∃ after, handleInsertPredictionOrder prediction now owner market betterLevel worseLevel orderId
        outcome side price quantity = .ok after) ↔
      prices ≠ [] ∧ betterLevel = above.map (.predictionLevel market outcome side) ∧
      worseLevel = below.map (.predictionLevel market outcome side) ∧
      predictionTerms prediction now owner market orderId outcome side price quantity = .ok () := by
  simp only [handleInsertPredictionOrder, predictionTerms, bind_eq_ok, vacant_eq_ok, require_eq_ok,
    okOr_eq_ok, forSupplied_eq_ok, pure_eq_ok]
  constructor
  · rintro ⟨after, record, ownMarket, position, ownPosition, found, ownBook, _, -, _, freshOrder,
      better, loadedBetter, worse, loadedWorse, counters, valid, best, isBest, _, betterChecked, _,
      worseChecked, _, enclosed, locked, lock, -⟩
    obtain ⟨rfl, hasBetter⟩ := loadOption_eq_ok.mp loadedBetter
    obtain ⟨rfl, hasWorse⟩ := loadOption_eq_ok.mp loadedWorse
    obtain ⟨marketFiled, -, -⟩ := loadPredictionMarket_ok ownMarket
    obtain ⟨-, bookStored, -⟩ := loadPredictionBook_ok ownBook
    rw [marketFiled] at bookStored betterChecked worseChecked
    cases bookStored.symm.trans stored
    have betterDone : forSupplied better (validateNeighbor market outcome side best) = .ok () :=
      forSupplied_eq_ok.mpr betterChecked
    have worseDone : forSupplied worse (validateNeighbor market outcome side best) = .ok () :=
      forSupplied_eq_ok.mpr worseChecked
    have hints := predictionHints betterDone worseDone enclosed
    obtain ⟨betterIs, worseIs⟩ := gap.unique (hints.gap list isBest hasBetter)
    refine ⟨fun empty => ?_, ?_, ?_, record, ownMarket, position, ownPosition, found, ownBook, (),
      freshOrder, counters, valid, locked, lock, trivial⟩
    · have head := list.linked.head
      rw [empty] at head
      cases isBest.symm.trans head
    · rw [betterIs]
      exact hints.keys.1
    · rw [worseIs]
      exact hints.keys.2
  · rintro ⟨some_listed, rfl, rfl, record, ownMarket, position, ownPosition, found, ownBook, _,
      freshOrder, counters, valid, locked, lock, -⟩
    obtain ⟨marketFiled, -, -⟩ := loadPredictionMarket_ok ownMarket
    obtain ⟨-, bookStored, -⟩ := loadPredictionBook_ok ownBook
    rw [marketFiled] at bookStored
    cases bookStored.symm.trans stored
    obtain ⟨best, isBest⟩ : ∃ best, found.val.bestPrice outcome side = some best := by
      refine Option.ne_none_iff_exists'.mp fun empty => some_listed ?_
      exact List.head?_eq_none_iff.mp (list.linked.head.symm.trans empty)
    have enclosed := list.linked.enclosed_of_gap gap
    obtain ⟨better, loadedBetter, isBetter, hasBetter⟩ := loadOption_total prediction.levels
      (above.map (.predictionLevel market outcome side)) fun other named => by
        obtain ⟨price, member, rfl⟩ := Option.map_eq_some_iff.mp named
        exact predictionLinks_stored (enclosed.above price member).2
    obtain ⟨worse, loadedWorse, isWorse, hasWorse⟩ := loadOption_total prediction.levels
      (below.map (.predictionLevel market outcome side)) fun other named => by
        obtain ⟨price, member, rfl⟩ := Option.map_eq_some_iff.mp named
        exact predictionLinks_stored (enclosed.below price member).2
    obtain ⟨betterOk, worseOk, adjacent⟩ :=
      predictionNeighbors_total list isBest hasBetter hasWorse isBetter isWorse gap
    exact ⟨_, record, ownMarket, position, ownPosition, found, ownBook, (),
      marketFiled ▸ list.absent fresh, (), freshOrder, better, loadedBetter, worse, loadedWorse,
      counters, valid, best, isBest, (), marketFiled ▸ betterOk, (), marketFiled ▸ worseOk, (),
      adjacent, locked, lock, rfl⟩

omit stored in
theorem checkTail_total {level : PredictionPriceLevel} {tail : PredictionOrder} {key : Pubkey}
    (found : prediction.levels.get (.predictionLevel market outcome side price) = some level)
    (last : level.lastOrder = some key) (present : prediction.orders.get key = some tail)
    (next : orderId = book.nextOrderId) :
    key = .predictionOrder market tail.orderId ∧
      checkTail market outcome side price orderId ⟨.predictionLevel market outcome side price, level⟩
        ⟨key, tail⟩ = .ok () := by
  obtain ⟨queue, queued⟩ := list.queued price level found
  have ending := queued.last.symm.trans last
  obtain ⟨init, rfl⟩ := List.getLast?_eq_some_iff.mp ending
  obtain ⟨_, also, waiting⟩ := queued.waiting key (by simp)
  cases also.symm.trans present
  have links := queued.chain.at_split
  rw [present, Option.map_some, Option.some.injEq, Link.mk.injEq, Option.or_none] at links
  obtain ⟨previous, no_next⟩ := links
  have some_first : level.firstOrder ≠ none := by
    rw [queued.first, Ne, List.head?_eq_none_iff]
    exact queued.filled
  have sum := queued.total
  simp only [List.map_append, List.map_cons, List.map_nil, List.sum_append, List.sum_cons,
    List.sum_nil, present, Option.map_some, Option.getD_some] at sum
  refine ⟨waiting.keyed, ?_⟩
  simp only [checkTail, bind_eq_ok, require_eq_ok]
  refine ⟨(), ⟨?_, Option.isSome_iff_ne_none.mpr some_first, last⟩, (), ⟨waiting.home, waiting.level,
    waiting.answered, waiting.sided, waiting.priced, waiting.live, waiting.remaining.1,
    waiting.remaining.2, no_next, waiting.earlier.1, next ▸ waiting.earlier.2⟩, ?_⟩
  · rw [queued.count, List.length_append]
    exact Nat.succ_pos _
  · cases init with
    | nil =>
        rw [if_pos (by simp [queued.count]), require_eq_ok]
        exact ⟨queued.first, previous, by simpa using sum⟩
    | cons first rest =>
        obtain ⟨-, -, apart⟩ := List.nodup_append.mp queued.distinct
        have different : ∀ earlier ∈ first :: rest, earlier ≠ key :=
          fun earlier inside => apart earlier inside key (by simp)
        obtain ⟨behind, isBehind⟩ : ∃ behind, (first :: rest).getLast? = some behind :=
          ⟨_, List.getLast?_eq_some_getLast (by simp)⟩
        have count : level.orderCount ≠ 1 := by simp [queued.count]
        rw [if_neg count, require_eq_ok, previous, isBehind]
        refine ⟨?_, rfl, ?_, ?_⟩
        · rw [queued.first]
          exact fun same => different first (by simp) (Option.some.inj same)
        · exact fun same => different behind (List.mem_of_getLast? isBehind) (Option.some.inj same)
        · rw [sum]
          exact Nat.le_add_left _ _

/-- An order at a price that exists goes behind the last one there: no other tail is accepted. -/
theorem handleAppendPredictionOrder_iff {level : PredictionPriceLevel} {key : Pubkey}
    {tail : PredictionOrder}
    (found : prediction.levels.get (.predictionLevel market outcome side price) = some level)
    (last : level.lastOrder = some key) (present : prediction.orders.get key = some tail)
    (tailOrder : Pubkey) :
    (∃ after, handleAppendPredictionOrder prediction now owner market tailOrder orderId outcome side
        price quantity = .ok after) ↔
      tailOrder = key ∧
      predictionTerms prediction now owner market orderId outcome side price quantity = .ok () ∧
      ∃ appended, level.append (.predictionOrder market orderId) quantity = .ok appended := by
  simp only [handleAppendPredictionOrder, predictionTerms, bind_eq_ok, load_eq_ok, vacant_eq_ok,
    require_eq_ok, okOr_eq_ok, pure_eq_ok]
  have loaded : loadPredictionLevel prediction market outcome side price =
      .ok ⟨.predictionLevel market outcome side price, level⟩ := by
    obtain ⟨home, answered, sided, priced⟩ := list.named price level found
    simp only [loadPredictionLevel, bind_eq_ok, load_eq_ok, require_eq_ok, pure_eq_ok]
    exact ⟨_, ⟨rfl, found⟩, (), home, (), ⟨answered, sided, priced⟩, rfl⟩
  constructor
  · rintro ⟨after, record, ownMarket, position, ownPosition, book, ownBook, filed, ownLevel, tail,
      ⟨rfl, -⟩, _, -, _, freshOrder, counters, valid, best, isBest, _, -, _, tailed, appended, appends,
      locked, lock, -⟩
    obtain ⟨marketFiled, -, -⟩ := loadPredictionMarket_ok ownMarket
    rw [marketFiled] at ownLevel appends
    cases ownLevel.symm.trans loaded
    simp only [checkTail, bind_eq_ok, require_eq_ok] at tailed
    obtain ⟨_, ⟨-, -, ending⟩, -⟩ := tailed
    exact ⟨Option.some.inj (ending.symm.trans last), ⟨record, ownMarket, position, ownPosition, book,
      ownBook, (), freshOrder, counters, valid, locked, lock, trivial⟩, appended, appends⟩
  · rintro ⟨rfl, ⟨record, ownMarket, position, ownPosition, shown, ownBook, _, freshOrder, counters,
      valid, locked, lock, -⟩, appended, appends⟩
    obtain ⟨marketFiled, -, -⟩ := loadPredictionMarket_ok ownMarket
    obtain ⟨-, bookStored, -⟩ := loadPredictionBook_ok ownBook
    rw [marketFiled] at bookStored
    cases bookStored.symm.trans stored
    have next := (validateRestingOrder_ok valid).1.id_next
    obtain ⟨keyed, tailed⟩ := checkTail_total list found last present next
    obtain ⟨best, isBest, leads⟩ := list.top found
    refine ⟨_, record, ownMarket, position, ownPosition, shown, ownBook,
      ⟨.predictionLevel market outcome side price, level⟩, marketFiled ▸ loaded,
      ⟨_, tail⟩, ⟨rfl, present⟩, (), ?_, (), freshOrder, counters, valid, best, isBest, (), leads, (),
      marketFiled ▸ tailed, appended, marketFiled ▸ appends, locked, lock, rfl⟩
    rw [marketFiled]
    exact keyed

end Handlers

/-! ## The search -/

theorem validatePredictionNeighbors_total {market : Pubkey} {book : PredictionOrderBook}
    {outcome : PredictionOutcome} {side : OrderSide} {price best : Nat}
    {better worse : Option (Account PredictionPriceLevel)} (home : book.market = market)
    (isBest : book.bestPrice outcome side = some best)
    (betterOk : ∀ level ∈ better, validateNeighbor market outcome side best level = .ok ())
    (worseOk : ∀ level ∈ worse, validateNeighbor market outcome side best level = .ok ())
    (adjacent : predictionAdjacent side price best (better.map Account.val)
      (worse.map Account.val)) :
    validatePredictionNeighbors book outcome side price
      ⟨better.map Account.val, worse.map Account.val⟩ = .ok () := by
  have valid : ∀ level, validateNeighbor market outcome side best level = .ok () →
      ¬invalidNeighbor book outcome side best level.val := by
    intro level passed
    rw [validateNeighbor, require_eq_ok] at passed
    obtain ⟨-, named, answered, sided, counted, left, first, last, leads, latest⟩ := passed
    rw [eq_comm] at leads
    simp only [invalidNeighbor, home, not_or, not_not]
    refine ⟨named, answered, sided, Nat.pos_iff_ne_zero.mp counted, Nat.pos_iff_ne_zero.mp left,
      Option.isSome_iff_ne_none.mp first, Option.isSome_iff_ne_none.mp last, leads, ?_⟩
    cases side <;> exact Nat.not_lt_of_le latest
  have same : validNeighbors side price best (better.map Account.val) (worse.map Account.val) =
      predictionAdjacent side price best (better.map Account.val) (worse.map Account.val) := by
    cases better <;> cases worse <;> rfl
  simp only [validatePredictionNeighbors, bind_eq_ok, okOr_eq_ok, require_eq_ok]
  refine ⟨best, (predictionBestPrice_eq book outcome side).trans isBest, (), ?_, (), ?_, same ▸ adjacent⟩
  · intro level member
    obtain ⟨account, inside, rfl⟩ := Option.map_eq_some_iff.mp member
    exact valid account (betterOk account inside)
  · intro level member
    obtain ⟨account, inside, rfl⟩ := Option.map_eq_some_iff.mp member
    exact valid account (worseOk account inside)

def levelAt (prediction : Prediction) (market : Pubkey) (outcome : PredictionOutcome)
    (side : OrderSide) (price : Nat) : Option PredictionPriceLevel :=
  prediction.levels.get (.predictionLevel market outcome side price)

def predictionCursor (prediction : Prediction) (market : Pubkey) (outcome : PredictionOutcome)
    (side : OrderSide) (seen : List Nat) (price : Nat) : PredictionCursor where
  visited := seen.length
  seen := seen.reverse
  better := seen.getLast?.bind (levelAt prediction market outcome side)
  cursor := price

def predictionTarget (prediction : Prediction) (market : Pubkey) (outcome : PredictionOutcome)
    (side : OrderSide) (better worse : Option Nat) : PredictionInsertTarget :=
  ⟨better.bind (levelAt prediction market outcome side),
    worse.bind (levelAt prediction market outcome side)⟩

section Search

variable {prediction : Prediction} {market : Pubkey} {book : PredictionOrderBook}
variable {outcome : PredictionOutcome} {side : OrderSide} {prices : List Nat} {price : Nat}
variable (list : PredictionList prediction market book outcome side prices)
include list

theorem predictionTarget_valid (home : book.market = market) (some_listed : prices ≠ [])
    {above below : Option Nat} (gap : InGap side.Precedes prices price above below) :
    validatePredictionNeighbors book outcome side price
      (predictionTarget prediction market outcome side above below) = .ok () := by
  obtain ⟨best, isBest⟩ : ∃ best, book.bestPrice outcome side = some best := by
    refine Option.ne_none_iff_exists'.mp fun empty => some_listed ?_
    exact List.head?_eq_none_iff.mp (list.linked.head.symm.trans empty)
  have enclosed := list.linked.enclosed_of_gap gap
  obtain ⟨better, -, isBetter, hasBetter⟩ := loadOption_total prediction.levels
    (above.map (.predictionLevel market outcome side)) fun other named => by
      obtain ⟨price, member, rfl⟩ := Option.map_eq_some_iff.mp named
      exact predictionLinks_stored (enclosed.above price member).2
  obtain ⟨worse, -, isWorse, hasWorse⟩ := loadOption_total prediction.levels
    (below.map (.predictionLevel market outcome side)) fun other named => by
      obtain ⟨price, member, rfl⟩ := Option.map_eq_some_iff.mp named
      exact predictionLinks_stored (enclosed.below price member).2
  obtain ⟨betterOk, worseOk, adjacent⟩ :=
    predictionNeighbors_total list isBest hasBetter hasWorse isBetter isWorse gap
  have passed := validatePredictionNeighbors_total home isBest betterOk worseOk adjacent
  have records : ∀ {prices : Option Nat} {accounts : Option (Account PredictionPriceLevel)},
      prices.map (.predictionLevel market outcome side) = accounts.map Account.key →
      (∀ level ∈ accounts, prediction.levels.get level.key = some level.val) →
      prices.bind (levelAt prediction market outcome side) = accounts.map Account.val := by
    intro prices accounts keyed has
    cases accounts with
    | none => rw [Option.map_eq_none_iff.mp keyed]; rfl
    | some account =>
        obtain ⟨found, rfl, same⟩ := Option.map_eq_some_iff.mp keyed
        rw [Option.bind_some, levelAt, same]
        exact has account rfl
  rw [predictionTarget, records isBetter hasBetter, records isWorse hasWorse]
  exact passed

theorem predictionTarget_levels {above below : Option Nat}
    (gap : InGap side.Precedes prices price above below) :
    (predictionTarget prediction market outcome side above below).betterLevel market outcome side =
        above.map (.predictionLevel market outcome side) ∧
      (predictionTarget prediction market outcome side above below).worseLevel market outcome side =
        below.map (.predictionLevel market outcome side) := by
  have enclosed := list.linked.enclosed_of_gap gap
  have filed : ∀ {field : Link Nat → Option Nat} {value : Option Nat} {price : Nat},
      (predictionLinks prediction.levels market outcome side price).map field = some value →
        ((levelAt prediction market outcome side price).map fun level =>
          Pubkey.predictionLevel market outcome side level.price) =
            some (.predictionLevel market outcome side price) := by
    intro field value price shown
    obtain ⟨level, present⟩ := Option.ne_none_iff_exists'.mp (predictionLinks_stored shown)
    rw [levelAt, present, Option.map_some, (list.named price level present).2.2.2]
  constructor
  · cases above with
    | none => rfl
    | some better => exact filed (enclosed.above better rfl).2
  · cases below with
    | none => rfl
    | some worse => exact filed (enclosed.below worse rfl).2

theorem visitPredictionLevel_listed (short : prices.length ≤ 128) {seen rest : List Nat} {here : Nat}
    (split : prices = seen ++ here :: rest) (other : here ≠ price)
    {turn : Turn PredictionCursor PredictionInsertTarget}
    (turns : (if side.Precedes price here then do
        let target := predictionTarget prediction market outcome side seen.getLast? (some here)
        validatePredictionNeighbors book outcome side price target
        pure (.stop target)
      else match rest.head? with
        | none => do
            let target := predictionTarget prediction market outcome side (some here) none
            validatePredictionNeighbors book outcome side price target
            pure (.stop target)
        | some next =>
            pure (.again (predictionCursor prediction market outcome side (seen ++ [here]) next))) =
      Except.ok turn) :
    visitPredictionLevel (faithful prediction.levels) market book outcome side price
      (predictionCursor prediction market outcome side seen here) = .ok turn := by
  obtain ⟨level, stored, better, worse⟩ := list.level split
  obtain ⟨named, answered, sided, priced⟩ := list.named here level stored
  have sorted := list.linked.sorted
  rw [split] at sorted
  obtain ⟨-, behind, ahead⟩ := List.pairwise_append.mp sorted
  have fewer : seen.length < 128 := by
    rw [split, List.length_append, List.length_cons] at short
    omega
  have unseen : here ∉ seen.reverse := by
    rw [List.mem_reverse]
    exact fun inside => irrefl _ (ahead here inside here (by simp))
  have linked : level.betterPrice =
      (predictionCursor prediction market outcome side seen here).better.map
        PredictionPriceLevel.price := by
    rw [better, predictionCursor]
    cases last : seen.getLast? with
    | none => rfl
    | some earlier =>
        obtain ⟨init, rfl⟩ := List.getLast?_eq_some_iff.mp last
        obtain ⟨above, present, -, -⟩ := list.level
          (split.trans (List.append_assoc init [earlier] (here :: rest)))
        obtain ⟨-, -, -, priced⟩ := list.named earlier above present
        simp [levelAt, present, priced]
  have isLevel : levelAt prediction market outcome side here = some level := stored
  simp only [visitPredictionLevel, bind_eq_ok, require_eq_ok, okOr_eq_ok]
  refine ⟨(), fewer, (), unseen, some level, congrArg _ stored, level, rfl, (),
    ⟨priced, named, answered, sided, linked⟩, (), priced.symm ▸ other, ?_⟩
  simp only [predictionTarget, Option.bind_some, Option.bind_none, isLevel] at turns
  rw [← turns, priced, worse]
  split
  · rfl
  · cases rest with
    | nil => rfl
    | cons next rest =>
        have ordered : side.Precedes here next := List.rel_of_pairwise_cons behind (by simp)
        simp only [List.head?_cons, require, if_pos ordered, predictionCursor, List.length_append,
          List.getLast?_concat, List.reverse_append, Option.bind_some, isLevel]
        rfl

theorem prediction_walks (home : book.market = market) (short : prices.length ≤ 128) :
    Walks side.Precedes prices price
      (visitPredictionLevel (faithful prediction.levels) market book outcome side price)
      (predictionCursor prediction market outcome side)
      (predictionTarget prediction market outcome side) where
  passes split below :=
    visitPredictionLevel_listed list short split (ne_of_irrefl below)
      (by rw [if_neg (asymm below)]; rfl)
  reaches split above gap :=
    visitPredictionLevel_listed list short split (ne_of_irrefl' above) (by
      rw [if_pos above]
      exact bind_eq_ok.mpr ⟨(), predictionTarget_valid list home (by simp [split]) gap, rfl⟩)
  ends split below gap :=
    visitPredictionLevel_listed list short split (ne_of_irrefl below) (by
      rw [if_neg (asymm below)]
      exact bind_eq_ok.mpr ⟨(), predictionTarget_valid list home (by simp [split]) gap, rfl⟩)

theorem readPredictionPlacementTarget_fresh {orders : Reader PredictionOrder}
    (home : book.market = market) (short : prices.length ≤ 128) (fresh : price ∉ prices)
    {above below : Option Nat} (gap : InGap side.Precedes prices price above below) :
    readPredictionPlacementTarget ⟨faithful prediction.levels, orders⟩ market book outcome side price
        prices.length =
      some (.ok (if prices = [] then .place
        else .insert (predictionTarget prediction market outcome side above below))) := by
  have head := list.linked.head
  simp only [readPredictionPlacementTarget, ne_eq, home, not_true_eq_false, if_false, faithful,
    list.absent fresh, predictionBestPrice_eq]
  cases isBest : book.bestPrice outcome side with
  | none =>
      rw [isBest] at head
      rw [if_pos (List.head?_eq_none_iff.mp head.symm)]
  | some best =>
      rw [isBest] at head
      have some_listed : prices ≠ [] := fun empty => by
        rw [empty] at head
        cases head
      obtain ⟨left, right, split, rfl, rfl, before, after⟩ := gap
      have found := (prediction_walks list home short).finds split before after head.symm
      rw [if_neg some_listed]
      exact congrArg (Option.map (Except.map PredictionPlacementTarget.insert)) found

theorem readPredictionPlacementTarget_listed (home : book.market = market) (listed : price ∈ prices) :
    ∃ level key tail,
      prediction.levels.get (.predictionLevel market outcome side price) = some level ∧
      level.lastOrder = some key ∧ prediction.orders.get key = some tail ∧ ∀ rounds,
      readPredictionPlacementTarget ⟨faithful prediction.levels, faithful prediction.orders⟩ market book
          outcome side price rounds =
        some (.ok (.append (.predictionLevel market outcome side price) key level tail)) := by
  obtain ⟨before, after, split⟩ := List.append_of_mem listed
  obtain ⟨level, stored, -, -⟩ := list.level split
  obtain ⟨queue, queued⟩ := list.queued price level stored
  obtain ⟨key, isLast⟩ : ∃ key, queue.getLast? = some key :=
    ⟨_, List.getLast?_eq_some_getLast queued.filled⟩
  obtain ⟨tail, present, -⟩ := queued.waiting key (List.mem_of_getLast? isLast)
  have last : level.lastOrder = some key := queued.last.trans isLast
  refine ⟨level, key, tail, stored, last, present, fun rounds => ?_⟩
  simp only [readPredictionPlacementTarget, ne_eq, home, not_true_eq_false, if_false, faithful,
    stored]
  refine congrArg some ?_
  simp only [readTail, bind_eq_ok, okOr_eq_ok, pure_eq_ok]
  exact ⟨key, last, some tail, congrArg _ present, tail, rfl, rfl⟩

end Search

/-- No answers of the node keep the search going: it reads 128 levels of a list at most. -/
theorem readPredictionPlacementTarget_ends (accounts : PredictionPlacementReader) (market : Pubkey)
    (book : PredictionOrderBook) (outcome : PredictionOutcome) (side : OrderSide) (price : Nat) :
    (readPredictionPlacementTarget accounts market book outcome side price 129).isSome := by
  have bounded : ∀ best, (loop (visitPredictionLevel accounts.predictionPriceLevel market book outcome
      side price) 129 ⟨0, [], none, best⟩).isSome := by
    intro best
    refine loop_ends (fun _ => True) (fun walk => 128 - walk.visited) ?_ _ _ trivial (by simp)
    rintro walk next - goes
    simp only [visitPredictionLevel, bind_eq_ok, require_eq_ok, okOr_eq_ok, ite_eq_ok] at goes
    obtain ⟨_, early, _, _, _, _, level, _, _, _, _, _, goes⟩ := goes
    rcases goes with ⟨-, _, -, stops⟩ | ⟨-, goes⟩
    · cases stops
    cases worse : level.worsePrice with
    | none =>
        rw [worse] at goes
        obtain ⟨_, -, stops⟩ := bind_eq_ok.mp goes
        cases stops
    | some price =>
        rw [worse] at goes
        obtain ⟨_, -, goes⟩ := bind_eq_ok.mp goes
        cases goes
        exact ⟨trivial, by dsimp only; omega⟩
  simp only [readPredictionPlacementTarget]
  split
  · rfl
  · split
    · rfl
    · rfl
    · split
      · rfl
      · simp [bounded]

/-! ## Reachable books -/

theorem PredictionInvariant.list {prediction : Prediction} (holds : PredictionInvariant prediction)
    {market : Pubkey} {book : PredictionOrderBook}
    (stored : prediction.books.get (.predictionBook market) = some book)
    (outcome : PredictionOutcome) (side : OrderSide) :
    ∃ prices, PredictionList prediction market book outcome side prices := by
  obtain ⟨ladder, represents⟩ := holds.sound market
  refine ⟨ladder.prices (outcome, side), fun price level present => ?_, fun price level present => ?_,
    ?_⟩
  · obtain ⟨home, answered, sided, priced⟩ :=
      Pubkey.predictionLevel.inj (holds.levels _ level present)
    exact ⟨home.symm, answered.symm, sided.symm, priced.symm⟩
  · have shown : (predictionShelf.book (predictionHeads prediction.books) prediction.orders
        prediction.levels market).level ((outcome, side), price) =
        some (predictionShelf.levelNode level) := Shelf.book_level.mpr ⟨level, present, rfl⟩
    obtain ⟨filled, summary⟩ := represents.level_summary shown
    have resting : ∀ key ∈ ladder.queue ((outcome, side), price), ∃ order,
        prediction.orders.get key = some order ∧
          (predictionShelf.book (predictionHeads prediction.books) prediction.orders
            prediction.levels market).order key = some (predictionShelf.node order) ∧
          InLine market outcome side price book.nextOrderId key order := by
      intro key inside
      obtain ⟨node, known, place⟩ := represents.mem_order inside
      obtain ⟨order, found, rfl, live, rfl⟩ := Shelf.book_order.mp known
      have rests := predictionShelf_live.mp live
      obtain ⟨_, -, rest⟩ := holds.resting key order found rests
      obtain ⟨listed, priced⟩ := Prod.mk.inj place
      obtain ⟨answered, sided⟩ := Prod.mk.inj listed
      exact ⟨order, found, known,
        { keyed := holds.orders key order found
          home := rfl
          answered, sided, priced
          level := by
            rw [rest.level, show order.outcome = outcome from answered,
              show order.side = side from sided, show order.price = price from priced]
            rfl
          live := rests
          remaining := ⟨rest.remaining_pos, rest.remaining_le⟩
          earlier := ⟨rest.id_pos, holds.earlier stored key order found rfl⟩ }⟩
    refine ⟨ladder.queue ((outcome, side), price),
      { filled
        distinct := represents.queue_nodup _
        first := congrArg Summary.first summary
        last := congrArg Summary.last summary
        count := congrArg Summary.count summary
        total := (congrArg Summary.total summary).trans (congrArg List.sum
          (List.map_congr_left fun key inside => ?_))
        chain := (represents.orderChain _).congr fun key inside => ?_
        waiting := fun key inside => ?_ }⟩
    · obtain ⟨order, found, known, -⟩ := resting key inside
      rw [Book.remaining, known, found]
      rfl
    · obtain ⟨order, found, known, -⟩ := resting key inside
      rw [orderLinks, known, found]
      rfl
    · obtain ⟨order, found, -, waiting⟩ := resting key inside
      exact ⟨order, found, waiting⟩
  · have linked := represents.sorted_links (outcome, side)
    have head : (predictionShelf.book (predictionHeads prediction.books) prediction.orders
        prediction.levels market).best (outcome, side) = book.bestPrice outcome side :=
      congrFun (predictionHeads_stored stored) (outcome, side)
    have links : predictionLinks prediction.levels market outcome side =
        priceLinks (predictionShelf.book (predictionHeads prediction.books) prediction.orders
          prediction.levels market).level (outcome, side) := by
      funext price
      simp only [predictionLinks, priceLinks, Shelf.book, Store.filed, Option.map_map]
      rfl
    rw [head, ← links] at linked
    exact linked

end Tidebook.Proof
