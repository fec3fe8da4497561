import Tidebook.Client.Depth
import Tidebook.Proof.Conservation

/-! # The depth that the client shows -/

namespace Tidebook.Proof
open Library Program Client

/-! ## What a side of a book shows -/

structure Displays (prec : Nat → Nat → Prop) (resting count : Nat → Nat) (room : Nat)
    (shown : List (Nat × Nat × Nat)) : Prop where
  bounded : shown.length ≤ room
  sorted : shown.Pairwise fun above below => prec above.1 below.1
  exact : ∀ level ∈ shown, level.2 = (resting level.1, count level.1) ∧ 0 < count level.1
  deeper : ∀ price, 0 < count price → (∃ level ∈ shown, level.1 = price) ∨
    shown.length = room ∧ ∀ level ∈ shown, prec level.1 price

section Showing

variable {prec : Nat → Nat → Prop} {resting count : Nat → Nat} {prices : List Nat} {room : Nat}

def shownAt (resting count : Nat → Nat) (price : Nat) : Nat × Nat × Nat :=
  (price, resting price, count price)

theorem displays_take (sorted : prices.Pairwise prec)
    (rests : ∀ price, price ∈ prices ↔ 0 < count price) :
    Displays prec resting count room ((prices.take room).map (shownAt resting count)) where
  bounded := by simp
  sorted := List.pairwise_map.mpr (sorted.sublist (List.take_sublist room prices))
  exact := by
    intro level inside
    obtain ⟨price, listed, rfl⟩ := List.mem_map.mp inside
    exact ⟨rfl, (rests price).mp (List.mem_of_mem_take listed)⟩
  deeper := by
    intro price some_count
    have listed := (rests price).mpr some_count
    have parts := List.take_append_drop room prices
    rw [← parts] at sorted listed
    rcases List.mem_append.mp listed with shown | below
    · exact .inl ⟨shownAt resting count price, List.mem_map_of_mem shown, rfl⟩
    · right
      constructor
      · have long := List.length_pos_of_mem below
        rw [List.length_drop] at long
        rw [List.length_map, List.length_take]
        omega
      · intro level inside
        obtain ⟨above, shown, rfl⟩ := List.mem_map.mp inside
        exact (List.pairwise_append.mp sorted).2.2 above shown price below

theorem more_iff [IsStrictOrder Nat prec] (sorted : prices.Pairwise prec)
    (rests : ∀ price, price ∈ prices ↔ 0 < count price) :
    (prices.drop room).head?.isSome = true ↔
      ∃ price, 0 < count price ∧ price ∉ prices.take room := by
  have parts := List.take_append_drop room prices
  constructor
  · intro more
    obtain ⟨price, head⟩ := Option.isSome_iff_exists.mp more
    have below := List.mem_of_mem_head? head
    refine ⟨price, (rests price).mp (List.mem_of_mem_drop below), fun shown => ?_⟩
    rw [← parts] at sorted
    exact irrefl price ((List.pairwise_append.mp sorted).2.2 price shown price below)
  · rintro ⟨price, some_count, hidden⟩
    have listed := (rests price).mpr some_count
    rw [← parts] at listed
    rcases List.mem_append.mp listed with shown | below
    · exact absurd shown hidden
    · cases rest : prices.drop room with
      | nil =>
          rw [rest] at below
          cases below
      | cons head tail => rfl

theorem map_of_forall {L : Type} {levels : List L} {entry : L → Nat × Nat × Nat}
    (each : List.Forall₂ (fun price level => entry level = shownAt resting count price) prices
      levels) : levels.map entry = prices.map (shownAt resting count) := by
  induction each with
  | nil => rfl
  | cons same _ ih => rw [List.map_cons, List.map_cons, same, ih]

end Showing

/-! ## Spot books -/

/-- What the open orders of a market at a price add up to. -/
def restingAt (spot : Spot) (market : Pubkey) (side : OrderSide) (weight : Order → Nat)
    (price : Nat) : Nat :=
  spot.orders.total fun _ order =>
    if order.market = market ∧ order.status = .opened ∧ order.side = side ∧ order.price = price then
      weight order else 0

def spotLevel (level : Account PriceLevel) : Nat × Nat × Nat :=
  (level.val.price, level.val.totalRemainingQuantity, level.val.orderCount)

theorem tally_restingAt (spot : Spot) (market : Pubkey) (side : OrderSide) (weight : Order → Nat)
    (price : Nat) : spotShelf.tally spot.orders market (side, price) weight =
      restingAt spot market side weight price := by
  unfold Shelf.tally restingAt
  congr 1
  funext key order
  congr 1
  simp [spotShelf, OrderNode.place]

theorem fetchPriceLevelSide_shows {spot : Spot} (holds : SpotInvariant spot) {market : Pubkey}
    {record : Market} (stored : spot.markets.get market = some record) (side : OrderSide)
    (toBase58 : Pubkey → String) (limit : Nat) : ∃ levels,
    fetchPriceLevelSide (faithful spot.levels) toBase58 market side (record.best side) limit =
        .ok levels ∧
      Displays side.Precedes (restingAt spot market side Order.remainingQuantity)
        (restingAt spot market side fun _ => 1) limit (levels.map spotLevel) := by
  obtain ⟨prices, sorted, head, rests, levels⟩ := holds.books.ranked market side
  rw [spotHeads_stored stored] at head
  simp only [tally_restingAt] at rests levels
  have distinct : prices.Nodup := sorted.imp fun before => ne_of_irrefl before
  have reads : ∀ seen price rest, prices = seen ++ price :: rest → ∃ level,
      fetchPriceLevel (faithful spot.levels) toBase58 market side seen price = .ok level ∧
        level.val.worsePrice = rest.head? ∧
        spotLevel level = shownAt (restingAt spot market side Order.remainingQuantity)
          (restingAt spot market side fun _ => 1) price := by
    intro seen price rest split
    obtain ⟨level, found, link, -, -, count, total⟩ := levels seen price rest split
    have keyed := Pubkey.priceLevel.inj (holds.levels _ _ found)
    have fresh : price ∉ seen := by
      rw [split] at distinct
      exact fun again => (List.nodup_append.mp distinct).2.2 price again price (by simp) rfl
    have unread : Pubkey.priceLevel market side price ∉
        seen.map (Pubkey.priceLevel market side) := by
      intro again
      obtain ⟨other, inside, same⟩ := List.mem_map.mp again
      exact fresh ((Pubkey.priceLevel.inj same).2.2 ▸ inside)
    refine ⟨⟨.priceLevel market side price, level⟩, ?_, congrArg Link.next link, ?_⟩
    · simp only [fetchPriceLevel, bind_eq_ok, require_eq_ok, okOr_eq_ok, pure_eq_ok]
      exact ⟨(), unread, _, congrArg Except.ok found, level, rfl, (),
        ⟨keyed.1.symm, keyed.2.1.symm, keyed.2.2.symm⟩, rfl⟩
    · exact Prod.ext keyed.2.2.symm (Prod.ext total count)
  obtain ⟨records, walked, each⟩ := gather_keys reads limit
  refine ⟨records, ?_, ?_⟩
  · rw [fetchPriceLevelSide, head, walked]
    rfl
  · rw [map_of_forall each]
    exact displays_take sorted rests

/-! ## Prediction books -/

namespace Predicted

/-- What the open orders of a list at a price add up to. -/
def restingAt (prediction : Prediction) (market : Pubkey) (list : PredictionOutcome × OrderSide)
    (weight : PredictionOrder → Nat) (price : Nat) : Nat :=
  prediction.orders.total fun _ order =>
    if order.market = market ∧ order.status = .opened ∧ (order.outcome, order.side) = list ∧
      order.price = price then weight order else 0

theorem tally_restingAt (prediction : Prediction) (market : Pubkey)
    (list : PredictionOutcome × OrderSide) (weight : PredictionOrder → Nat) (price : Nat) :
    predictionShelf.tally prediction.orders market (list, price) weight =
      restingAt prediction market list weight price := by
  unfold Shelf.tally restingAt
  congr 1
  funext key order
  congr 1
  simp [predictionShelf, OrderNode.place]

theorem restingAt_positive {prediction : Prediction} (holds : PredictionInvariant prediction)
    {market : Pubkey} {list : PredictionOutcome × OrderSide} {price : Nat}
    (occupied : 0 < restingAt prediction market list (fun _ => 1) price) :
    0 < price ∧ 0 < restingAt prediction market list PredictionOrder.remainingQuantity price := by
  have some_order : ∃ key order, prediction.orders.get key = some order ∧
      (order.market = market ∧ order.status = .opened ∧ (order.outcome, order.side) = list ∧
        order.price = price) := by
    by_contra none_there
    apply occupied.ne'
    apply Store.total_eq_zero.mpr
    intro key order stored
    exact if_neg fun there => none_there ⟨key, order, stored, there⟩
  obtain ⟨key, order, stored, there⟩ := some_order
  obtain ⟨record, -, rest⟩ := holds.resting key order stored there.2.1
  constructor
  · rw [← there.2.2.2]
    exact rest.price_pos
  · apply lt_of_lt_of_le rest.remaining_pos
    have part := Store.le_total (f := fun _ order =>
      if order.market = market ∧ order.status = .opened ∧ (order.outcome, order.side) = list ∧
        order.price = price then order.remainingQuantity else 0) stored
    rw [if_pos there] at part
    exact part

end Predicted

def predictionLevel (level : PredictionPriceLevel) : Nat × Nat × Nat :=
  (level.price, level.totalRemainingQuantity, level.orderCount)

/-- What the client's checks leave of a level behind the previous price. -/
structure Presentable (market : Pubkey) (outcome : PredictionOutcome) (side : OrderSide)
    (previous : Option Nat) (price : Nat) (level : PredictionPriceLevel) : Prop where
  home : level.market = market ∧ level.outcome = outcome ∧ level.side = side
  named : level.price = price
  positive : 0 < price ∧ 0 < level.orderCount ∧ 0 < level.totalRemainingQuantity
  better : level.betterPrice = previous
  worse : ∀ worse ∈ level.worsePrice, side.Precedes price worse

theorem readDepthLevel_ok {reads : Reader PredictionPriceLevel} {market : Pubkey}
    {outcome : PredictionOutcome} {side : OrderSide} {visited : List Nat} {price : Nat}
    {level : PredictionPriceLevel}
    (passed : readDepthLevel reads market outcome side visited price = .ok level) :
    Presentable market outcome side visited.getLast? price level := by
  simp only [readDepthLevel, bind_eq_ok, okOr_eq_ok, require_eq_ok, pure_eq_ok] at passed
  obtain ⟨_, -, _, -, _, checked, rfl⟩ := passed
  obtain ⟨home, ofOutcome, ofSide, same, some_price, count, total, -, -, better, worse⟩ := checked
  exact ⟨⟨home, ofOutcome, ofSide⟩, same, ⟨Nat.pos_of_ne_zero some_price,
    Nat.pos_of_ne_zero count, Nat.pos_of_ne_zero total⟩, better, worse⟩

theorem readPredictionDepth_shows {prediction : Prediction} (holds : PredictionInvariant prediction)
    {market : Pubkey} {book : PredictionOrderBook}
    (stored : prediction.books.get (.predictionBook market) = some book)
    (outcome : PredictionOutcome) (side : OrderSide) : ∃ depth,
    readPredictionDepth (faithful prediction.levels) market book outcome side = .ok depth ∧
      Displays side.Precedes
        (Predicted.restingAt prediction market (outcome, side) PredictionOrder.remainingQuantity)
        (Predicted.restingAt prediction market (outcome, side) fun _ => 1) predictionDepthLimit
        (depth.levels.map predictionLevel) ∧
      (depth.hasMore = true ↔ ∃ price,
        0 < Predicted.restingAt prediction market (outcome, side) (fun _ => 1) price ∧
          ∀ level ∈ depth.levels, level.price ≠ price) := by
  obtain ⟨prices, sorted, head, rests, levels⟩ := holds.sound.ranked market (outcome, side)
  rw [predictionHeads_stored stored] at head
  simp only [Predicted.tally_restingAt] at rests levels
  have reads : ∀ seen price rest, prices = seen ++ price :: rest → ∃ level,
      readDepthLevel (faithful prediction.levels) market outcome side seen price = .ok level ∧
        level.worsePrice = rest.head? ∧ predictionLevel level = shownAt
          (Predicted.restingAt prediction market (outcome, side) PredictionOrder.remainingQuantity)
          (Predicted.restingAt prediction market (outcome, side) fun _ => 1) price := by
    intro seen price rest split
    obtain ⟨level, found, link, first, last, count, total⟩ := levels seen price rest split
    have keyed := Pubkey.predictionLevel.inj (holds.levels _ _ found)
    have some_count : 0 < Predicted.restingAt prediction market (outcome, side) (fun _ => 1) price :=
      (rests price).mp (by simp [split])
    have positive := Predicted.restingAt_positive holds some_count
    have below : ∀ worse ∈ rest.head?, side.Precedes price worse := by
      intro worse leads
      rw [split] at sorted
      exact List.rel_of_pairwise_cons (List.pairwise_append.mp sorted).2.1
        (List.mem_of_mem_head? leads)
    refine ⟨level, ?_, congrArg Link.next link, Prod.ext keyed.2.2.2.symm (Prod.ext total count)⟩
    simp only [readDepthLevel, bind_eq_ok, require_eq_ok, okOr_eq_ok, pure_eq_ok]
    refine ⟨_, congrArg Except.ok found, level, rfl, (), ⟨keyed.1.symm, keyed.2.1.symm,
      keyed.2.2.1.symm, keyed.2.2.2.symm, ?_, ?_, ?_, first, last, congrArg Link.prev link, ?_⟩, rfl⟩
    · exact positive.1.ne'
    · exact (some_count.trans_eq count.symm).ne'
    · exact (positive.2.trans_eq total.symm).ne'
    · rw [show level.worsePrice = rest.head? from congrArg Link.next link]
      exact below
  obtain ⟨records, walked, each⟩ := gather_keys reads predictionDepthLimit
  have shown := map_of_forall each
  refine ⟨⟨records, ((prices.drop predictionDepthLimit).head?).isSome⟩, ?_, ?_, ?_⟩
  · have home : book.market = market := Pubkey.predictionBook.inj (holds.books _ _ stored).symm
    have best : predictionBestPrice book outcome side = prices.head? := by
      rw [← head]
      cases outcome <;> cases side <;> rfl
    simp only [readPredictionDepth, bind_eq_ok, require_eq_ok, pure_eq_ok]
    exact ⟨(), home, _, best ▸ walked, rfl⟩
  · rw [shown]
    exact displays_take sorted rests
  · rw [more_iff sorted rests]
    have names : records.map PredictionPriceLevel.price = prices.take predictionDepthLimit := by
      have firsts := congrArg (List.map Prod.fst) shown
      rw [List.map_map, List.map_map] at firsts
      exact firsts.trans (List.map_id _)
    simp only [← names, List.mem_map, not_exists, not_and, ne_eq]

/-- Levels that a client may show whatever the node answered: each one leads to the next. -/
structure Coherent (market : Pubkey) (outcome : PredictionOutcome) (side : OrderSide)
    (depth : PredictionDepth) : Prop where
  chain : depth.levels.IsChain fun above below => side.Precedes above.price below.price ∧
    above.worsePrice = some below.price ∧ below.betterPrice = some above.price
  sound : ∀ level ∈ depth.levels, (level.market = market ∧ level.outcome = outcome ∧
    level.side = side) ∧ 0 < level.price ∧ 0 < level.orderCount ∧ 0 < level.totalRemainingQuantity
  top : ∀ level ∈ depth.levels.head?, level.betterPrice = none
  more : depth.hasMore = true → depth.levels.length = predictionDepthLimit
  whole : depth.hasMore = false → ∀ level ∈ depth.levels.getLast?, level.worsePrice = none

section Torn

variable {market : Pubkey} {outcome : PredictionOutcome} {side : OrderSide}
variable {previous cursor rest : Option Nat} {levels : List PredictionPriceLevel}

theorem threaded_chain (threaded : Threaded (Presentable market outcome side)
    PredictionPriceLevel.worsePrice previous cursor levels rest) :
    levels.IsChain fun above below => side.Precedes above.price below.price ∧
      above.worsePrice = some below.price ∧ below.betterPrice = some above.price := by
  induction levels generalizing previous cursor with
  | nil => exact .nil
  | cons level deeper ih =>
      obtain ⟨here, -, fits, below⟩ := threaded
      cases deeper with
      | nil => exact .singleton level
      | cons next deeper =>
          apply List.IsChain.cons_cons _ (ih below)
          obtain ⟨there, leads, also, -⟩ := below
          rw [also.named, also.better, fits.named, leads]
          exact ⟨fits.worse there leads, rfl, rfl⟩

theorem threaded_sound (threaded : Threaded (Presentable market outcome side)
    PredictionPriceLevel.worsePrice previous cursor levels rest) :
    ∀ level ∈ levels, (level.market = market ∧ level.outcome = outcome ∧ level.side = side) ∧
      0 < level.price ∧ 0 < level.orderCount ∧ 0 < level.totalRemainingQuantity := by
  induction levels generalizing previous cursor with
  | nil => exact fun level inside => absurd inside List.not_mem_nil
  | cons first deeper ih =>
      obtain ⟨here, -, fits, below⟩ := threaded
      intro level inside
      rcases List.mem_cons.mp inside with rfl | later
      · rw [fits.named]
        exact ⟨fits.home, fits.positive⟩
      · exact ih below level later

theorem threaded_ends (threaded : Threaded (Presentable market outcome side)
    PredictionPriceLevel.worsePrice previous cursor levels rest) :
    ∀ level ∈ levels.getLast?, level.worsePrice = rest := by
  induction levels generalizing previous cursor with
  | nil => simp
  | cons first deeper ih =>
      obtain ⟨here, -, -, below⟩ := threaded
      cases deeper with
      | nil =>
          intro level same
          cases same
          exact below
      | cons next deeper =>
          rw [List.getLast?_cons_cons]
          exact ih below

theorem readPredictionDepth_coherent {reads : Reader PredictionPriceLevel}
    {book : PredictionOrderBook} {depth : PredictionDepth}
    (accepted : readPredictionDepth reads market book outcome side = .ok depth) :
    Coherent market outcome side depth := by
  simp only [readPredictionDepth, bind_eq_ok, require_eq_ok, pure_eq_ok, Prod.exists] at accepted
  obtain ⟨_, -, levels, rest, walked, rfl⟩ := accepted
  obtain ⟨threaded, -, full⟩ := gather_threaded (fun _ _ _ => readDepthLevel_ok) walked
  refine ⟨threaded_chain threaded, threaded_sound threaded, ?_, fun more => ?_, fun whole => ?_⟩
  · cases levels with
    | nil => simp
    | cons level deeper =>
        obtain ⟨here, -, fits, -⟩ := threaded
        intro first same
        cases same
        exact fits.better
  · exact full (Option.isSome_iff_ne_none.mp more)
  · cases rest with
    | none => exact threaded_ends threaded
    | some price => cases whole

end Torn

/-! ## Depth in every run -/

/-- Read from one reachable state, either client shows exactly the open orders, level by level; and
a prediction book read while it changes is refused or shown as one coherent list. -/
theorem depth_shows_book (genesis : Genesis) (events : List Event) {state : State}
    (reached : (genesis.after events).state = state) (market : Pubkey) (side : OrderSide) :
    (∀ record toBase58 limit, state.spot.markets.get market = some record → ∃ levels,
      fetchPriceLevelSide (faithful state.spot.levels) toBase58 market side (record.best side)
        limit = .ok levels ∧
      Displays side.Precedes (restingAt state.spot market side Order.remainingQuantity)
        (restingAt state.spot market side fun _ => 1) limit (levels.map spotLevel)) ∧
    ∀ outcome book, (state.prediction.books.get (.predictionBook market) = some book → ∃ depth,
      readPredictionDepth (faithful state.prediction.levels) market book outcome side =
        .ok depth ∧
      Displays side.Precedes
        (Predicted.restingAt state.prediction market (outcome, side)
          PredictionOrder.remainingQuantity)
        (Predicted.restingAt state.prediction market (outcome, side) fun _ => 1)
        predictionDepthLimit (depth.levels.map predictionLevel) ∧
      (depth.hasMore = true ↔ ∃ price,
        0 < Predicted.restingAt state.prediction market (outcome, side) (fun _ => 1) price ∧
          ∀ level ∈ depth.levels, level.price ≠ price)) ∧
    ∀ reads depth, readPredictionDepth reads market book outcome side = .ok depth →
      Coherent market outcome side depth := by
  have holds : Invariant state := reached ▸ run_invariant genesis events
  constructor
  · intro record toBase58 limit stored
    exact fetchPriceLevelSide_shows holds.spot stored side toBase58 limit
  · intro outcome book
    constructor
    · intro stored
      exact readPredictionDepth_shows holds.prediction stored outcome side
    · intro reads depth accepted
      exact readPredictionDepth_coherent accepted

set_option maxRecDepth 4096 in
theorem depth_shows_book_traded :
    (∃ record levels, Sample.traded.spot.markets.get Sample.spot = some record ∧
      fetchPriceLevelSide (faithful Sample.traded.spot.levels) (fun _ => "") Sample.spot .ask
        (record.best .ask) 50 = .ok levels ∧
      Displays OrderSide.ask.Precedes
        (restingAt Sample.traded.spot Sample.spot .ask Order.remainingQuantity)
        (restingAt Sample.traded.spot Sample.spot .ask fun _ => 1) 50 (levels.map spotLevel)) ∧
    ∃ book depth,
      Sample.traded.prediction.books.get (.predictionBook Sample.question) = some book ∧
      readPredictionDepth (faithful Sample.traded.prediction.levels) Sample.question book .yes .ask =
        .ok depth ∧ Coherent Sample.question .yes .ask depth := by
  have facts : (Sample.traded.spot.markets.get Sample.spot).isSome ∧
      (Sample.traded.prediction.books.get (.predictionBook Sample.question)).isSome := by
    decide +kernel
  obtain ⟨record, stored⟩ := Option.isSome_iff_exists.mp facts.1
  obtain ⟨book, known⟩ := Option.isSome_iff_exists.mp facts.2
  have shows := depth_shows_book Sample.start (Sample.funding ++ Sample.opening ++ Sample.trading)
    (rfl : _ = Sample.traded)
  obtain ⟨levels, read, shown⟩ := (shows Sample.spot .ask).1 record (fun _ => "") 50 stored
  obtain ⟨shown_all, coherent⟩ := (shows Sample.question .ask).2 .yes book
  obtain ⟨depth, accepted, -⟩ := shown_all known
  exact ⟨⟨record, levels, stored, read, shown⟩, book, depth, known, accepted,
    coherent _ depth accepted⟩

end Tidebook.Proof
