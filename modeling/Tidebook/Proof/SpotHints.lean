import Tidebook.Client.Placement
import Tidebook.Library.Gap
import Tidebook.Proof.SpotExit

/-! # Hints for a spot insertion

The two levels that the client finds around a new price, and the checks with which the program
accepts no other pair.
-/

namespace Tidebook.Proof
open Library Program Client

theorem precedes_total (side : OrderSide) (first second : Nat) :
    side.Precedes first second ∨ first = second ∨ side.Precedes second first := by
  cases side <;> simp only [OrderSide.Precedes] <;> omega

/-! ## Well-formed sides -/

def spotLinks (levels : Store Pubkey PriceLevel) (market : Pubkey) (side : OrderSide) (price : Nat) :
    Option (Link Nat) :=
  (levels.get (.priceLevel market side price)).map fun level =>
    ⟨level.betterPrice, level.worsePrice⟩

theorem spotLinks_stored {levels : Store Pubkey PriceLevel} {market : Pubkey} {side : OrderSide}
    {price : Nat} {field : Link Nat → Option Nat} {value : Option Nat}
    (shown : (spotLinks levels market side price).map field = some value) :
    levels.get (.priceLevel market side price) ≠ none := by
  obtain ⟨link, known, -⟩ := Option.map_eq_some_iff.mp shown
  obtain ⟨level, present, -⟩ := Option.map_eq_some_iff.mp known
  exact Option.ne_none_iff_exists'.mpr ⟨level, present⟩

/-- The stored levels of one side are a sorted list that the market's head leads into. -/
structure SpotList (levels : Store Pubkey PriceLevel) (market : Pubkey) (side : OrderSide)
    (best : Option Nat) (prices : List Nat) : Prop where
  named : ∀ price level, levels.get (.priceLevel market side price) = some level →
    level.market = market ∧ level.side = side ∧ level.price = price
  linked : SortedLinks side.Precedes (spotLinks levels market side) best prices

theorem SpotInvariant.list {spot : Spot} (holds : SpotInvariant spot) {market : Pubkey}
    {record : Market} (stored : spot.markets.get market = some record) (side : OrderSide) :
    ∃ prices, SpotList spot.levels market side (record.best side) prices := by
  obtain ⟨ladder, represents⟩ := holds.books market
  refine ⟨ladder.prices side, fun price level present => ?_, ?_⟩
  · obtain ⟨home, sided, priced⟩ := Pubkey.priceLevel.inj (holds.levels _ level present)
    exact ⟨home.symm, sided.symm, priced.symm⟩
  · have linked := represents.sorted_links side
    have head : (spotShelf.book (spotHeads spot.markets) spot.orders spot.levels market).best side =
        record.best side := congrFun (spotHeads_stored stored) side
    rw [head] at linked
    convert linked using 1
    funext price
    simp only [spotLinks, priceLinks, Shelf.book, Store.filed, spotShelf, Option.map_map]
    rfl

section Lists

variable {levels : Store Pubkey PriceLevel} {market : Pubkey} {side : OrderSide}
variable {best : Option Nat} {prices : List Nat} (list : SpotList levels market side best prices)
include list

theorem SpotList.level {price : Nat} {before after : List Nat}
    (split : prices = before ++ price :: after) : ∃ level,
      levels.get (.priceLevel market side price) = some level ∧ level.market = market ∧
        level.side = side ∧ level.price = price ∧ level.betterPrice = before.getLast? ∧
        level.worsePrice = after.head? := by
  have chain := list.linked.chain
  rw [split] at chain
  obtain ⟨level, stored, links⟩ := Option.map_eq_some_iff.mp chain.at_split
  obtain ⟨home, sided, priced⟩ := list.named price level stored
  obtain ⟨better, worse⟩ := Link.mk.inj links
  exact ⟨level, stored, home, sided, priced, by simpa using better, by simpa using worse⟩

theorem SpotList.absent {price : Nat} (fresh : price ∉ prices) :
    levels.get (.priceLevel market side price) = none := by
  cases stored : levels.get (.priceLevel market side price) with
  | none => rfl
  | some level =>
      exact absurd (list.linked.closed price _ (by rw [spotLinks, stored]; rfl)) fresh

end Lists

/-! ## The search -/

def spotCursor (market : Pubkey) (side : OrderSide) (seen : List Nat) (price : Nat) :
    PriceLevelCursor where
  visited := (seen.map (Pubkey.priceLevel market side)).reverse
  expectedBetterPrice := seen.getLast?
  betterLevel := seen.getLast?.map (.priceLevel market side)
  currentPrice := price

def spotNeighbors (market : Pubkey) (side : OrderSide) (better worse : Option Nat) :
    PriceLevelNeighbors :=
  ⟨better.map (.priceLevel market side), worse.map (.priceLevel market side)⟩

section Search

variable {levels : Store Pubkey PriceLevel} {toBase58 : Pubkey → String} {market : Pubkey}
variable {side : OrderSide} {best : Option Nat} {prices : List Nat} {price : Nat}
variable (list : SpotList levels market side best prices)
include list

theorem visitPriceLevel_listed {seen rest : List Nat} {here : Nat}
    (split : prices = seen ++ here :: rest) (other : price ≠ here)
    {turn : Turn PriceLevelCursor PriceLevelNeighbors}
    (turns : (if side.Precedes price here then
        .stop (spotNeighbors market side seen.getLast? (some here))
      else match rest.head? with
        | none => .stop (spotNeighbors market side (some here) none)
        | some next => .again (spotCursor market side (seen ++ [here]) next)) = turn) :
    visitPriceLevel (faithful levels) toBase58 market side price (spotCursor market side seen here) =
      .ok turn := by
  obtain ⟨level, stored, home, sided, priced, better, worse⟩ := list.level split
  have sorted := list.linked.sorted
  rw [split] at sorted
  have ahead := (List.pairwise_append.mp sorted).2.2
  have unseen : Pubkey.priceLevel market side here ∉ (spotCursor market side seen here).visited := by
    rw [spotCursor, List.mem_reverse, List.mem_map]
    rintro ⟨earlier, inside, same⟩
    obtain ⟨-, -, rfl⟩ := Pubkey.priceLevel.inj same
    exact irrefl _ (ahead earlier inside earlier (by simp))
  have ordered : ∀ expected ∈ seen.getLast?, side.Precedes expected level.price :=
    fun expected last => priced ▸ ahead expected (List.mem_of_getLast? last) here (by simp)
  simp only [visitPriceLevel, bind_eq_ok, require_eq_ok, okOr_eq_ok]
  refine ⟨(), unseen, some level, congrArg _ stored, level, rfl, (), ⟨home, sided⟩, (), priced, (),
    better, (), ordered, (), priced.symm ▸ other, ?_⟩
  rw [priced, worse, ← turns]
  split
  · rfl
  · cases rest with
    | nil => rfl
    | cons next rest => simp [spotCursor, pure, Except.pure]

theorem spot_walks :
    Walks side.Precedes prices price (visitPriceLevel (faithful levels) toBase58 market side price)
      (spotCursor market side) (spotNeighbors market side) where
  passes split below :=
    visitPriceLevel_listed list split (ne_of_irrefl' below) (by rw [if_neg (asymm below)]; rfl)
  reaches split above _ :=
    visitPriceLevel_listed list split (ne_of_irrefl above) (by rw [if_pos above])
  ends split below _ :=
    visitPriceLevel_listed list split (ne_of_irrefl' below) (by rw [if_neg (asymm below)]; rfl)

theorem findPriceLevelNeighbors_finds {better worse : Option Nat}
    (gap : InGap side.Precedes prices price better worse) :
    findPriceLevelNeighbors (faithful levels) toBase58 market side price best prices.length =
      some (.ok (spotNeighbors market side better worse)) := by
  obtain ⟨left, right, split, rfl, rfl, before, after⟩ := gap
  have head := list.linked.head
  cases best with
  | none =>
      obtain rfl := List.head?_eq_none_iff.mp head.symm
      obtain ⟨rfl, rfl⟩ := List.append_eq_nil_iff.mp split.symm
      rfl
  | some top => exact (spot_walks list).finds split before after head.symm

end Search

/-! ## Acceptance -/

theorem validateLevel_total {level : Account PriceLevel} {market : Pubkey} {side : OrderSide}
    (home : level.val.market = market) (sided : level.val.side = side)
    (keyed : level.key = .priceLevel market side level.val.price) :
    validateLevel level market side = .ok () := by
  simp only [validateLevel, bind_eq_ok, require_eq_ok]
  exact ⟨(), home, (), sided, keyed⟩

section Accept

variable {levels : Store Pubkey PriceLevel} {market : Pubkey} {side : OrderSide}
variable {best : Option Nat} {prices : List Nat} {price : Nat}
variable {better worse : Option (Account PriceLevel)}
variable (list : SpotList levels market side best prices)

theorem SpotList.filed (list : SpotList levels market side best prices) {level : Account PriceLevel}
    (stored : levels.get level.key = some level.val) {price : Nat}
    (keyed : level.key = .priceLevel market side price) :
    level.val.price = price ∧ validateLevel level market side = .ok () ∧
      spotLinks levels market side price = some ⟨level.val.betterPrice, level.val.worsePrice⟩ := by
  rw [keyed] at stored
  obtain ⟨home, sided, priced⟩ := list.named price level.val stored
  refine ⟨priced, validateLevel_total home sided (by rw [keyed, priced]), ?_⟩
  rw [spotLinks, stored]
  rfl

include list

theorem checkAdjacency_total {above below : Option Nat}
    (hasBetter : ∀ level ∈ better, levels.get level.key = some level.val)
    (hasWorse : ∀ level ∈ worse, levels.get level.key = some level.val)
    (isBetter : above.map (Pubkey.priceLevel market side) = better.map Account.key)
    (isWorse : below.map (Pubkey.priceLevel market side) = worse.map Account.key)
    (gap : InGap side.Precedes prices price above below) :
    checkAdjacency market side price best better worse = .ok () := by
  have enclosed := list.linked.enclosed_of_gap gap
  cases better with
  | none =>
      obtain rfl := Option.map_eq_none_iff.mp isBetter
      have top := enclosed.first rfl
      cases worse with
      | none =>
          obtain rfl := Option.map_eq_none_iff.mp isWorse
          rw [← top]
          rfl
      | some worse =>
          obtain ⟨found, rfl, keyed⟩ := Option.map_eq_some_iff.mp isWorse
          obtain ⟨rfl, valid, links⟩ := list.filed (hasWorse worse rfl) keyed.symm
          obtain ⟨ordered, first⟩ := enclosed.below _ rfl
          rw [links, Option.map_some, Option.some.injEq] at first
          subst top
          simp only [checkAdjacency, bind_eq_ok, require_eq_ok]
          exact ⟨(), valid, (), trivial, (), first, ordered⟩
  | some better =>
      obtain ⟨found, rfl, keyed⟩ := Option.map_eq_some_iff.mp isBetter
      obtain ⟨rfl, valid, links⟩ := list.filed (hasBetter better rfl) keyed.symm
      obtain ⟨ordered, next⟩ := enclosed.above _ rfl
      rw [links, Option.map_some, Option.some.injEq] at next
      obtain ⟨top, rfl⟩ : ∃ top, best = some top := by
        refine Option.ne_none_iff_exists'.mp fun empty => ?_
        have listed := list.linked.closed _ _ links
        rw [List.head?_eq_none_iff.mp (list.linked.head.symm.trans empty)] at listed
        cases listed
      cases worse with
      | none =>
          obtain rfl := Option.map_eq_none_iff.mp isWorse
          simp only [checkAdjacency, bind_eq_ok, require_eq_ok]
          exact ⟨(), valid, (), next, ordered⟩
      | some worse =>
          obtain ⟨found, rfl, keyed⟩ := Option.map_eq_some_iff.mp isWorse
          obtain ⟨rfl, also, back⟩ := list.filed (hasWorse worse rfl) keyed.symm
          obtain ⟨after, prev⟩ := enclosed.below _ rfl
          rw [back, Option.map_some, Option.some.injEq] at prev
          simp only [checkAdjacency, bind_eq_ok, require_eq_ok]
          exact ⟨(), valid, (), also, (), next, (), prev, ordered, after⟩

theorem Hints.gap (hasBetter : ∀ level ∈ better, levels.get level.key = some level.val)
    (hints : Hints market side price best better worse) :
    InGap side.Precedes prices price (better.map fun level => level.val.price)
      (worse.map fun level => level.val.price) := by
  refine list.linked.gap_of_links (fun other named => ?_) (fun other named => ?_)
    fun alone => hints.first (Option.map_eq_none_iff.mp alone)
  · obtain ⟨level, member, rfl⟩ := Option.map_eq_some_iff.mp named
    obtain ⟨ordered, next⟩ := hints.above level member
    obtain ⟨-, -, links⟩ := list.filed (hasBetter level member) (hints.betterKey level member)
    exact ⟨ordered, by rw [links, Option.map_some, next]⟩
  · obtain ⟨level, member, rfl⟩ := Option.map_eq_some_iff.mp named
    exact hints.below level member

end Accept

/-- What the program demands of an insertion whatever its price neighbours are. -/
def spotTerms (spot : Spot) (trader : Wallet) (market : Pubkey) (side : OrderSide)
    (price quantity : Nat) : Result Unit := do
  let market ← load spot.markets market
  require (market.val.status = .active) .marketNotActive
  vacant spot.orders (.order market.key market.val.nextOrderId)
  let balance ← loadTraderBalance spot market.key trader.key
  market.val.checkGrid price quantity
  let lockedCollateral ← market.val.collateral side price quantity
  let _ ← balance.val.lock side lockedCollateral
  let _ ← market.val.submit
  pure ()

/-- An insertion at a price that is not on the list names the two levels around it, or is rejected;
and with them it is rejected on no account of its neighbours. -/
theorem handleInsertLimitOrder_iff {spot : Spot} {trader : Wallet} {market : Pubkey}
    {record : Market} {side : OrderSide} {prices : List Nat} {price quantity : Nat}
    {above below : Option Nat} (stored : spot.markets.get market = some record)
    (list : SpotList spot.levels market side (record.best side) prices) (fresh : price ∉ prices)
    (gap : InGap side.Precedes prices price above below) (betterLevel worseLevel : Option Pubkey) :
    (∃ after, handleInsertLimitOrder spot trader market betterLevel worseLevel side price quantity =
        .ok after) ↔
      betterLevel = above.map (.priceLevel market side) ∧
      worseLevel = below.map (.priceLevel market side) ∧
      spotTerms spot trader market side price quantity = .ok () := by
  constructor
  · rintro ⟨after, done⟩
    simp only [handleInsertLimitOrder, bind_eq_ok, load_eq_ok, require_eq_ok, vacant_eq_ok,
      loadOption_eq_ok, pure_eq_ok] at done
    obtain ⟨⟨key, found⟩, ⟨rfl, known⟩, _, active, _, freshOrder, _, freshLevel, balance, ownBalance,
      better, ⟨rfl, hasBetter⟩, worse, ⟨rfl, hasWorse⟩, _, gridded, _, adjacency, amount, backed,
      locked, lock, _, submit, -⟩ := done
    cases known.symm.trans stored
    have hints := checkAdjacency_ok adjacency
    obtain ⟨betterIs, worseIs⟩ := gap.unique (hints.gap list hasBetter)
    refine ⟨?_, ?_, ?_⟩
    · rw [betterIs]
      exact hints.keys.1
    · rw [worseIs]
      exact hints.keys.2
    · simp only [spotTerms, bind_eq_ok, load_eq_ok, require_eq_ok, vacant_eq_ok, pure_eq_ok]
      exact ⟨_, ⟨rfl, known⟩, (), active, (), freshOrder, balance, ownBalance, (), gridded, amount,
        backed, locked, lock, _, submit, trivial⟩
  · rintro ⟨rfl, rfl, terms⟩
    simp only [spotTerms, bind_eq_ok, load_eq_ok, require_eq_ok, vacant_eq_ok, pure_eq_ok] at terms
    obtain ⟨⟨key, found⟩, ⟨rfl, known⟩, _, active, _, freshOrder, balance, ownBalance, _, gridded,
      amount, backed, locked, lock, _, submit, -⟩ := terms
    cases known.symm.trans stored
    have enclosed := list.linked.enclosed_of_gap gap
    obtain ⟨better, loadedBetter, isBetter, hasBetter⟩ := loadOption_total spot.levels
      (above.map (.priceLevel key side)) fun other named => by
        obtain ⟨price, member, rfl⟩ := Option.map_eq_some_iff.mp named
        exact spotLinks_stored (enclosed.above price member).2
    obtain ⟨worse, loadedWorse, isWorse, hasWorse⟩ := loadOption_total spot.levels
      (below.map (.priceLevel key side)) fun other named => by
        obtain ⟨price, member, rfl⟩ := Option.map_eq_some_iff.mp named
        exact spotLinks_stored (enclosed.below price member).2
    simp only [handleInsertLimitOrder, bind_eq_ok, load_eq_ok, require_eq_ok, vacant_eq_ok]
    exact ⟨_, _, ⟨rfl, stored⟩, (), active, (), freshOrder, (), list.absent fresh, balance, ownBalance,
      better, loadedBetter, worse, loadedWorse, (), gridded, (),
      checkAdjacency_total list hasBetter hasWorse isBetter isWorse gap, amount, backed, locked,
      lock, _, submit, rfl⟩

/-! ## Termination -/

/-- The fields of an account are 64 bits wide. -/
def Decoded (reads : Reader PriceLevel) : Prop :=
  ∀ n address level, reads n address = .ok (some level) → ∀ price ∈ level.worsePrice, price ≤ u64Max

/-- No answers of the node keep the search going: it never visits an address twice. -/
theorem findPriceLevelNeighbors_ends {reads : Reader PriceLevel} (decoded : Decoded reads)
    (toBase58 : Pubkey → String) (market : Pubkey) (side : OrderSide) (price : Nat)
    {best : Option Nat} (fits : ∀ top ∈ best, top ≤ u64Max) :
    (findPriceLevelNeighbors reads toBase58 market side price best (u64Max + 2)).isSome := by
  cases best with
  | none => rfl
  | some top =>
      let inv (cursor : PriceLevelCursor) : Prop := cursor.currentPrice ≤ u64Max ∧
        ∃ seen : List Nat, cursor.visited = seen.map (Pubkey.priceLevel market side) ∧ seen.Nodup ∧
          ∀ earlier ∈ seen, earlier < u64Max + 1
      refine loop_ends inv (fun cursor => u64Max + 1 - cursor.visited.length) ?_ _ _ ?_ ?_
      · rintro cursor next ⟨here, seen, visited, distinct, below⟩ goes
        simp only [visitPriceLevel, bind_eq_ok, require_eq_ok, okOr_eq_ok] at goes
        obtain ⟨_, unseen, found, answered, level, rfl, _, _, _, priced, _, _, _, _, _, _, goes⟩ := goes
        rw [ite_eq_ok] at goes
        rcases goes with ⟨-, stops⟩ | ⟨-, goes⟩
        · cases stops
        cases worse : level.worsePrice with
        | none =>
            rw [worse] at goes
            cases goes
        | some price =>
            rw [worse] at goes
            cases goes
            have longer : (cursor.currentPrice :: seen).Nodup := by
              rw [visited, List.mem_map] at unseen
              exact List.nodup_cons.mpr ⟨fun inside => unseen ⟨_, inside, rfl⟩, distinct⟩
            have within : ∀ earlier ∈ cursor.currentPrice :: seen, earlier < u64Max + 1 := by
              intro earlier inside
              rcases List.mem_cons.mp inside with rfl | member
              · exact Nat.lt_succ_of_le here
              · exact below earlier member
            have few := length_le_of_nodup longer within
            refine ⟨⟨decoded _ _ level answered price worse, cursor.currentPrice :: seen,
              by rw [visited, List.map_cons], longer, within⟩, ?_⟩
            rw [List.length_cons] at few
            simp only [visited, List.length_cons, List.length_map]
            omega
      · exact ⟨fits top rfl, [], rfl, List.nodup_nil, by simp⟩
      · simp only [List.length_nil]
        omega

end Tidebook.Proof
