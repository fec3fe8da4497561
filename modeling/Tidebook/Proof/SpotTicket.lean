import Tidebook.Proof.Amounts
import Tidebook.Proof.Conservation
import Tidebook.Proof.SpotHints
import Tidebook.Proof.SpotPlan

/-! # A trade ticket does what it shows

The transaction of a ticket read from one state: its matches, and the remainder that it rests behind
them. The fills leave the taker's own side of the book alone, so the place that the client found for
the remainder is still its place.
-/

namespace Tidebook.Proof
open Library Program Client

/-! ## The remainder after the fills -/

/-- Room for one more order: in the counters of the market and of the level that the order would
join, and at the order's address. The last is not a matter of counting, since a market that was
closed and initialized again numbers its orders from the start. -/
structure RoomFor (spot : Spot) (key : Pubkey) (market : Market) (side : OrderSide)
    (price quantity : Nat) : Prop where
  number : market.nextOrderId + 1 ≤ u64Max
  count : market.openOrderCount + 1 ≤ u64Max
  fresh : spot.orders.get (.order key market.nextOrderId) = none
  level : ∀ level, spot.levels.get (.priceLevel key side price) = some level →
    level.totalRemainingQuantity + quantity ≤ u64Max ∧ level.orderCount + 1 ≤ u64Max

section Remainder

variable {base : Spot} {request : MatchRequest} {taker : Wallet} {market : Market}
variable {config : ProtocolConfig} {walk : Traversal} {best : Option Nat} {state : State}
variable {balance : TraderBalance} {remainder : Nat}

theorem collateral_total {record : Market} {side : OrderSide} {price quantity : Nat}
    (priceFits : price ≤ u64Max) (fits : quantity ≤ u64Max)
    (worth : 0 < price * quantity / 10 ^ record.baseDecimals)
    (small : ticketCollateral record side price quantity ≤ u64Max) :
    record.collateral side price quantity = .ok (ticketCollateral record side price quantity) := by
  have product : price * quantity ≤ u128Max := (Nat.mul_le_mul priceFits fits).trans (by decide)
  have scale : 10 ^ record.baseDecimals ≤ u128Max := (Nat.div_pos_iff.mp worth).2.trans product
  cases side with
  | bid =>
      simp only [Market.collateral, bind_eq_ok, notional_eq_ok, require_eq_ok, toU64_eq_ok]
      exact ⟨_, ⟨scale, product, rfl⟩, (), worth, small, rfl⟩
  | ask =>
      simp only [Market.collateral, bind_eq_ok, notional_eq_ok, require_eq_ok, pure_eq_ok]
      exact ⟨_, ⟨scale, product, rfl⟩, (), worth, rfl⟩

theorem lock_total {side : OrderSide} {amount : Nat}
    (enough : amount ≤ spotLedger.free balance side)
    (fits : spotLedger.free balance side + spotLedger.locked balance side ≤ u64Max) :
    ∃ locked, balance.lock side amount = .ok locked := by
  cases side <;>
  · simp only [spotLedger] at enough fits
    simp only [TraderBalance.lock, bind_eq_ok, checkedAdd_eq_ok, checkedSub_eq_ok, pure_eq_ok]
    exact ⟨_, _, ⟨enough, rfl⟩, _, ⟨by omega, rfl⟩, rfl⟩

/-- What the handlers of a placement compute, whatever the place. -/
structure Placeable (spot : Spot) (taker : Wallet) (key : Pubkey) (record : Market)
    (side : OrderSide) (price quantity : Nat) : Prop where
  stored : spot.markets.get key = some record
  active : record.status = .active
  fresh : spot.orders.get (.order key record.nextOrderId) = none
  gridded : record.checkGrid price quantity = .ok ()
  submits : ∃ submitted, record.submit = .ok submitted
  locks : ∃ balance amount locked, loadTraderBalance spot key taker.key =
      .ok ⟨.traderBalance key taker.key, balance⟩ ∧
    record.collateral side price quantity = .ok amount ∧ balance.lock side amount = .ok locked

theorem Reached.bests (reached : Reached base request taker market config walk best state) :
    ∃ record, state.spot.markets.get request.marketAddress = some record ∧
      Retained market record ∧ record.best request.takerSide = market.best request.takerSide ∧
      record.best request.makerSide = best := by
  obtain ⟨record, stored, retained, bests⟩ := reached.stored
  refine ⟨record, stored, retained, ?_, ?_⟩
  · rw [bests]
    exact Function.update_of_ne (side_ne_opposite request.takerSide) _ _
  · rw [bests, Function.update_self]

theorem Reached.placeable
    (reached : Reached base request taker market config walk best state)
    (planning : Planning request taker market)
    (room : RoomFor base request.marketAddress market request.takerSide request.limitPrice remainder)
    (some_left : 0 < remainder) (lot : market.quantityLotSize ∣ remainder)
    (fits : remainder ≤ u64Max)
    (seated : state.spot.balances.get (.traderBalance request.marketAddress taker.key) =
      some balance)
    (funded : ticketCollateral market request.takerSide request.limitPrice remainder ≤
      spotLedger.free balance request.takerSide)
    (worth : 0 < request.limitPrice * remainder / 10 ^ market.baseDecimals) :
    ∃ record, Placeable state.spot taker request.marketAddress record request.takerSide
      request.limitPrice remainder := by
  obtain ⟨record, stored, retained, -, -⟩ := reached.bests
  have holds := reached.reachable.invariant
  have bound := balance_fits holds reached.reachable.solvent stored seated request.takerSide
  have decimals := retained.terms.decimals
  have small : ticketCollateral market request.takerSide request.limitPrice remainder ≤ u64Max :=
    funded.trans ((Nat.le_add_right _ _).trans bound)
  have same : ticketCollateral record request.takerSide request.limitPrice remainder =
      ticketCollateral market request.takerSide request.limitPrice remainder := by
    unfold ticketCollateral
    rw [decimals]
  obtain ⟨locked, locks⟩ := lock_total funded bound
  have count := retained.count
  have unseen : Pubkey.order request.marketAddress market.nextOrderId ∉ walk.visitedOrders :=
    fun seen => reached.known _ seen room.fresh
  have fresh := reached.orders _ unseen
  rw [room.fresh, Option.map_none, Option.map_eq_none_iff] at fresh
  obtain ⟨home, owner⟩ := Pubkey.traderBalance.inj (holds.spot.balances _ balance seated)
  refine ⟨record, ⟨stored, retained.status.trans planning.active, ?_, ?_, ?_, balance, _, locked, ?_,
    ?_, locks⟩⟩
  · rw [retained.number]
    exact fresh
  · simp only [Market.checkGrid, bind_eq_ok, require_eq_ok]
    exact ⟨(), planning.price_pos, (), some_left, (), retained.terms.tick ▸ planning.tick,
      retained.terms.lot ▸ lot⟩
  · simp only [Market.submit, bind_eq_ok, checkedAdd_eq_ok, pure_eq_ok]
    exact ⟨_, _, ⟨retained.number ▸ room.number, rfl⟩, _, ⟨by have := room.count; omega, rfl⟩, rfl⟩
  · simp only [loadTraderBalance, bind_eq_ok, load_eq_ok, require_eq_ok, pure_eq_ok]
    exact ⟨_, ⟨rfl, seated⟩, (), home.symm, (), owner.symm, rfl⟩
  · rw [← same]
    exact collateral_total planning.limitFits fits (decimals ▸ worth)
      (same ▸ small)

theorem Reached.list (reached : Reached base request taker market config walk best state) :
    ∃ prices, SpotList base.levels request.marketAddress request.takerSide
        (market.best request.takerSide) prices ∧
      SpotList state.spot.levels request.marketAddress request.takerSide
        (market.best request.takerSide) prices := by
  obtain ⟨record, stored, -, own, -⟩ := reached.bests
  obtain ⟨prices, list⟩ := reached.reachable.invariant.spot.list stored request.takerSide
  rw [own] at list
  refine ⟨prices, ⟨fun price level present => ?_, ?_⟩, list⟩
  · rw [← reached.own] at present
    exact list.named price level present
  · have same : spotLinks base.levels request.marketAddress request.takerSide =
        spotLinks state.spot.levels request.marketAddress request.takerSide := by
      funext price
      rw [spotLinks, spotLinks, reached.own]
    rw [same]
    exact list.linked

end Remainder

/-! ## The placement -/

section Placement

variable {spot after : Spot} {taker : Wallet} {key : Pubkey} {record : Market} {side : OrderSide}
variable {price quantity : Nat}

theorem Placeable.terms (placeable : Placeable spot taker key record side price quantity) :
    spotTerms spot taker key side price quantity = .ok () := by
  obtain ⟨submitted, submits⟩ := placeable.submits
  obtain ⟨balance, amount, locked, loaded, backed, locks⟩ := placeable.locks
  simp only [spotTerms, bind_eq_ok, load_eq_ok, require_eq_ok, vacant_eq_ok, pure_eq_ok]
  exact ⟨⟨key, record⟩, ⟨rfl, placeable.stored⟩, (), placeable.active, (), placeable.fresh, _,
    loaded, (), placeable.gridded, amount, backed, locked, locks, submitted, submits, trivial⟩

theorem Placeable.inserts (placeable : Placeable spot taker key record side price quantity)
    {prices : List Nat} {above below : Option Nat}
    (list : SpotList spot.levels key side (record.best side) prices) (fresh : price ∉ prices)
    (gap : InGap side.Precedes prices price above below) :
    ∃ after, handleInsertLimitOrder spot taker key (above.map (.priceLevel key side))
      (below.map (.priceLevel key side)) side price quantity = .ok after :=
  (handleInsertLimitOrder_iff placeable.stored list fresh gap _ _).mpr
    ⟨rfl, rfl, placeable.terms⟩

theorem Placeable.appends (placeable : Placeable spot taker key record side price quantity)
    (holds : SpotInvariant spot) {level : PriceLevel} {tail : Pubkey}
    (found : spot.levels.get (.priceLevel key side price) = some level)
    (last : level.lastOrder = some tail) (total : level.totalRemainingQuantity + quantity ≤ u64Max)
    (count : level.orderCount + 1 ≤ u64Max) :
    ∃ after, handleAppendLimitOrder spot taker key tail side price quantity = .ok after := by
  have filed : spot.levels.get (spotShelf.file key (side, price)) = some level := found
  obtain ⟨order, stored, rfl, live, place⟩ := holds.books.tail filed last
  obtain ⟨sided, priced⟩ := Prod.mk.inj place
  have here : spot.levels.get (spotShelf.file (spotShelf.home order) (spotShelf.node order).place) =
      some level := by
    rw [place]
    exact filed
  have behind : order.nextOrder = none := (holds.books.ends stored live here).2.mp last
  obtain ⟨market, -, rest⟩ := holds.resting tail order stored (spotShelf_live.mp live)
  have queued : order.priceLevel = .priceLevel order.market side price := by
    rw [rest.level]
    exact congrArg₂ _ sided priced
  obtain ⟨home, ofSide, ofPrice⟩ := Pubkey.priceLevel.inj (holds.levels _ level found)
  obtain ⟨submitted, submits⟩ := placeable.submits
  obtain ⟨balance, amount, locked, loaded, backed, locks⟩ := placeable.locks
  simp only [handleAppendLimitOrder, loadPriceLevel, PriceLevel.append, bind_eq_ok, load_eq_ok,
    require_eq_ok, vacant_eq_ok, checkedAdd_eq_ok, pure_eq_ok]
  exact ⟨_, ⟨_, record⟩, ⟨rfl, placeable.stored⟩, (), placeable.active, (), placeable.fresh, _,
    ⟨⟨_, level⟩, ⟨rfl, found⟩, (), home.symm, (), ofSide.symm, (), ofPrice.symm, rfl⟩,
    ⟨tail, order⟩, ⟨rfl, stored⟩, (), last, (), queued, (), spotShelf_live.mp live, (), behind, _,
    loaded, (), placeable.gridded, amount, backed, locked, locks, submitted, submits, _,
    ⟨_, ⟨total, rfl⟩, _, ⟨count, rfl⟩, rfl⟩, rfl⟩

structure Posted (spot after : Spot) (taker : Wallet) (key : Pubkey) (record : Market)
    (side : OrderSide) (price quantity : Nat) : Prop where
  worth : 0 < price * quantity / 10 ^ record.baseDecimals
  order : ∃ order, after.orders.get (.order key record.nextOrderId) = some order ∧
    order.owner = taker.key ∧ order.side = side ∧ order.price = price ∧
    order.remainingQuantity = quantity ∧ order.status = .opened
  opposite : ∃ later, after.markets.get key = some later ∧
    later.best side.opposite = record.best side.opposite
  paid : ∀ balance, spot.balances.get (.traderBalance key taker.key) = some balance →
    ∃ later, after.balances.get (.traderBalance key taker.key) = some later ∧
      spotLedger.free later side + ticketCollateral record side price quantity =
        spotLedger.free balance side

theorem lock_pays {balance locked : TraderBalance} {amount : Nat}
    (backed : record.collateral side price quantity = .ok amount)
    (locks : balance.lock side amount = .ok locked) :
    spotLedger.free locked side + ticketCollateral record side price quantity =
      spotLedger.free balance side := by
  obtain ⟨-, -, bid, ask⟩ := collateral_ok backed
  have same : amount = ticketCollateral record side price quantity := by
    cases side with
    | bid => exact bid rfl
    | ask => exact ask rfl
  have move := lock_ok locks
  have held := move.held side
  have gained := move.locked side
  simp only [Pi.zero_apply, Pi.single_eq_same] at held gained
  omega

theorem Insertion.posted (placed : Insertion spot taker key side price quantity) :
    Posted spot placed.result taker key placed.market side price quantity where
  worth := (collateral_ok placed.backed).2.1
  order := ⟨_, Store.get_set_self _ _ _, rfl, rfl, rfl, rfl, rfl⟩
  opposite := by
    refine ⟨_, Store.get_set_self _ _ _, ?_⟩
    split
    · rw [best_setBest, Function.update_of_ne (side_ne_opposite side).symm]
      cases side <;> rfl
    · cases side <;> rfl
  paid balance held := by
    cases placed.balanceStored.symm.trans held
    exact ⟨placed.locked, Store.get_set_self _ _ _, lock_pays placed.backed placed.lock⟩

theorem Appending.posted (placed : Appending spot taker key side price quantity) :
    Posted spot placed.result taker key placed.market side price quantity where
  worth := (collateral_ok placed.backed).2.1
  order := by
    simp only [Appending.result, Shelf.relink, Store.modify_none, Store.get_modify, amend,
      Store.get_set_self]
    split
    · exact ⟨_, rfl, rfl, rfl, rfl, rfl, rfl⟩
    · exact ⟨_, rfl, rfl, rfl, rfl, rfl, rfl⟩
  opposite := ⟨_, Store.get_set_self _ _ _, by cases side <;> rfl⟩
  paid balance held := by
    cases placed.balanceStored.symm.trans held
    exact ⟨placed.locked, Store.get_set_self _ _ _, lock_pays placed.backed placed.lock⟩

end Placement

/-! ## The client's placement -/

section Client

variable {levels : Store Pubkey PriceLevel} {toBase58 : Pubkey → String} {taker : Wallet}
variable {key : Pubkey} {market : Market} {side : OrderSide} {price quantity rounds : Nat}
variable {placement : Instruction} {prices : List Nat}

/-- What the client builds for a remainder: an order behind the last of its level, or a new level in
its gap. -/
inductive Seats (levels : Store Pubkey PriceLevel) (taker : Wallet) (key : Pubkey)
    (side : OrderSide) (prices : List Nat) (price quantity : Nat) : Instruction → Prop
  | behind {level : PriceLevel} {tail : Pubkey}
      (found : levels.get (.priceLevel key side price) = some level)
      (last : level.lastOrder = some tail) : Seats levels taker key side prices price quantity
        (.appendLimitOrder taker key tail side (UInt64.ofNat price) (UInt64.ofNat quantity))
  | between {above below : Option Nat} (fresh : price ∉ prices)
      (gap : InGap side.Precedes prices price above below) :
      Seats levels taker key side prices price quantity
        (.insertLimitOrder taker key (above.map (.priceLevel key side))
          (below.map (.priceLevel key side)) side (UInt64.ofNat price) (UInt64.ofNat quantity))

theorem buildRestingOrderInstruction_seats
    (list : SpotList levels key side (market.best side) prices)
    (built : buildRestingOrderInstruction (faithful levels) toBase58 taker key market side price
      quantity rounds = some (.ok placement)) :
    Seats levels taker key side prices price quantity placement := by
  cases found : levels.get (.priceLevel key side price) with
  | some level =>
      simp only [buildRestingOrderInstruction, faithful, found] at built
      split at built
      · cases built
      · next tail last =>
          cases built
          exact .behind found last
  | none =>
      have fresh : price ∉ prices := by
        intro listed
        obtain ⟨before, after, split⟩ := List.append_of_mem listed
        obtain ⟨level, stored, -⟩ := list.level split
        cases found.symm.trans stored
      obtain ⟨left, right, split, before, after⟩ :=
        exists_gap (precedes_total side) list.linked.sorted fresh
      have gap : InGap side.Precedes prices price left.getLast? right.head? :=
        ⟨left, right, split, rfl, rfl, before, after⟩
      have finds : findPriceLevelNeighbors (faithful levels) toBase58 key side price
          (market.best side) prices.length = _ := findPriceLevelNeighbors_finds list gap
      simp only [buildRestingOrderInstruction, faithful, found, Option.map_eq_some_iff] at built
      obtain ⟨neighbors, searched, built⟩ := built
      rw [bind_eq_ok] at built
      obtain ⟨pair, rfl, built⟩ := built
      have same : pair = spotNeighbors key side left.getLast? right.head? := by
        cases best : market.best side with
        | none =>
            rw [best] at searched finds
            exact Except.ok.inj (Option.some.inj (searched.symm.trans finds))
        | some top =>
            rw [best] at searched finds
            exact Except.ok.inj (loop_unique searched finds)
      subst same
      rw [pure_eq_ok] at built
      subst built
      exact .between fresh gap

end Client

section Remainder

variable {base : Spot} {request : MatchRequest} {taker : Wallet} {market : Market}
variable {config : ProtocolConfig} {walk : Traversal} {best : Option Nat} {state after : State}
variable {record : Market} {remainder : Nat} {prices : List Nat} {placement : Instruction}

theorem Seats.execute {levels : Store Pubkey PriceLevel} {key : Pubkey} {side : OrderSide}
    {price quantity : Nat} (seats : Seats levels taker key side prices price quantity placement)
    (priceFits : price ≤ u64Max) (quantityFits : quantity ≤ u64Max) (state : State) :
    (∃ level tail, levels.get (.priceLevel key side price) = some level ∧
      level.lastOrder = some tail ∧ execute state placement =
        onSpot state (handleAppendLimitOrder state.spot taker key tail side price quantity)) ∨
    ∃ above below, price ∉ prices ∧ InGap side.Precedes prices price above below ∧
      execute state placement = onSpot state (handleInsertLimitOrder state.spot taker key
        (above.map (.priceLevel key side)) (below.map (.priceLevel key side)) side price
        quantity) := by
  have priceWord : (UInt64.ofNat price).toNat = price :=
    UInt64.toNat_ofNat_of_lt' (Nat.lt_succ_of_le priceFits)
  have quantityWord : (UInt64.ofNat quantity).toNat = quantity :=
    UInt64.toNat_ofNat_of_lt' (Nat.lt_succ_of_le quantityFits)
  cases seats with
  | @behind level tail found last =>
      refine .inl ⟨level, tail, found, last, ?_⟩
      simp only [Program.execute, priceWord, quantityWord]
  | @between above below fresh gap =>
      refine .inr ⟨above, below, fresh, gap, ?_⟩
      simp only [Program.execute, priceWord, quantityWord]

theorem Seats.posted {levels : Store Pubkey PriceLevel} {key : Pubkey} {side : OrderSide}
    {price quantity : Nat} (seats : Seats levels taker key side prices price quantity placement)
    (priceFits : price ≤ u64Max) (quantityFits : quantity ≤ u64Max)
    (stored : state.spot.markets.get key = some record)
    (done : Program.execute state placement = .ok after) :
    Posted state.spot after.spot taker key record side price quantity := by
  obtain ⟨level, tail, -, -, runs⟩ | ⟨above, below, -, -, runs⟩ :=
    seats.execute priceFits quantityFits state
  · rw [runs] at done
    obtain ⟨spot, changed, rfl⟩ := onSpot_ok done
    obtain ⟨placed, rfl⟩ := handleAppendLimitOrder_ok changed
    cases placed.stored.symm.trans stored
    exact placed.posted
  · rw [runs] at done
    obtain ⟨spot, changed, rfl⟩ := onSpot_ok done
    obtain ⟨placed, rfl⟩ := handleInsertLimitOrder_ok changed
    cases placed.stored.symm.trans stored
    exact placed.posted

theorem Reached.accepts
    (reached : Reached base request taker market config walk best state)
    (placeable : Placeable state.spot taker request.marketAddress record request.takerSide
      request.limitPrice remainder)
    (room : RoomFor base request.marketAddress market request.takerSide request.limitPrice remainder)
    (priceFits : request.limitPrice ≤ u64Max) (fits : remainder ≤ u64Max)
    (list : SpotList state.spot.levels request.marketAddress request.takerSide
      (market.best request.takerSide) prices)
    (seats : Seats base.levels taker request.marketAddress request.takerSide prices
      request.limitPrice remainder placement) :
    ∃ after, Program.execute state placement = .ok after := by
  obtain ⟨level, tail, found, last, runs⟩ | ⟨above, below, fresh, gap, runs⟩ :=
    seats.execute priceFits fits state
  · obtain ⟨total, count⟩ := room.level level found
    rw [← reached.own] at found
    obtain ⟨spot, done⟩ :=
      placeable.appends reached.reachable.invariant.spot found last total count
    rw [runs, done]
    exact ⟨{ state with spot := spot }, rfl⟩
  · obtain ⟨later, stored, -, own, -⟩ := reached.bests
    cases placeable.stored.symm.trans stored
    rw [← own] at list
    obtain ⟨spot, done⟩ := placeable.inserts list fresh gap
    rw [runs, done]
    exact ⟨{ state with spot := spot }, rfl⟩

end Remainder

/-! ## What the client counts -/

theorem ticketFee_eq (takerFeeBps gross : Nat) :
    ticketFee takerFeeBps gross = takerFee gross takerFeeBps := by
  rw [ticketFee, takerFee]
  split
  · next free => rw [free, Nat.mul_zero]; rfl
  · rfl

/-- The collateral that the client counts for its matches is what they cost. -/
theorem matchedCollateral_eq (market : Market) (config : ProtocolConfig) (side : OrderSide)
    {plan : BoundedMatchPlan} {quantity : Nat}
    (sum : (plan.steps.map MatchStep.fillQuantity).sum + plan.remainingQuantity = quantity) :
    matchedCollateral market side config.takerFeeBps plan (quantity - plan.remainingQuantity) =
      (plan.steps.map (stepCost market config side)).sum := by
  cases side with
  | ask =>
      have same : plan.steps.map (stepCost market config .ask) =
          plan.steps.map MatchStep.fillQuantity := rfl
      rw [same, ← sum]
      exact Nat.add_sub_cancel _ _
  | bid =>
      suffices grows : ∀ (steps : List MatchStep) (total : Nat), steps.foldl (fun total step =>
          total + stepGross market step + ticketFee config.takerFeeBps (stepGross market step))
            total = total + (steps.map (stepCost market config .bid)).sum from
        (grows plan.steps 0).trans (Nat.zero_add _)
      intro steps
      induction steps with
      | nil => exact fun total => rfl
      | cons step rest ih =>
          intro total
          rw [List.foldl_cons, ih, List.map_cons, List.sum_cons, ticketFee_eq, stepCost, takerCost]
          omega

theorem readAmounts_ok {page : TicketPage} {price quantity : List Char} {amounts : TicketAmounts}
    (read : readAmounts page price quantity = .ok amounts) :
    0 < amounts.rawPrice ∧ amounts.rawPrice ≤ u64Max ∧
      page.market.priceTickSize ∣ amounts.rawPrice ∧ 0 < amounts.rawQuantity ∧
      amounts.rawQuantity ≤ u64Max ∧ page.market.quantityLotSize ∣ amounts.rawQuantity := by
  simp only [readAmounts, bind_eq_ok, require_eq_ok, pure_eq_ok] at read
  obtain ⟨rawPrice, priced, _, tick, rawQuantity, counted, _, lot, rfl⟩ := read
  obtain ⟨-, -, -, -, -, price_pos, priceFits⟩ := parseTokenAmount_ok.mp priced
  obtain ⟨-, -, -, -, -, quantity_pos, quantityFits⟩ := parseTokenAmount_ok.mp counted
  exact ⟨price_pos, Nat.le_of_lt_succ priceFits, tick, quantity_pos, Nat.le_of_lt_succ quantityFits,
    lot⟩

/-! ## The ticket -/

def ticketCost (market : Market) (config : ProtocolConfig) (side : OrderSide) (price : Nat)
    (plan : TicketPlan) : Nat :=
  (plan.steps.map (stepCost market config side)).sum +
    (plan.posted.map (ticketCollateral market side price)).getD 0

section Ticket

variable {state : State} {config : ProtocolConfig} {trader : Wallet} {page : TicketPage}
variable {toBase58 : Pubkey → String} {side : OrderSide} {amounts : TicketAmounts}
variable {plan : TicketPlan} {balance : TraderBalance}

/-- What a planned ticket has checked. -/
structure Planned (state : State) (config : ProtocolConfig) (trader : Wallet) (page : TicketPage)
    (side : OrderSide) (balance : TraderBalance) (amounts : TicketAmounts) (plan : TicketPlan)
    (remaining : Nat) (reason : MatchPlanStopReason) : Prop where
  planning : Planning (.ofTicket trader page side amounts) trader page.market
  executes : CarriesOut state.spot (.ofTicket trader page side amounts) trader page.market config state
    plan.steps remaining reason
  short : plan.steps.length ≤ maxMatchesPerTransaction
  sum : (plan.steps.map MatchStep.fillQuantity).sum + remaining = amounts.rawQuantity
  posted : ∀ rested ∈ plan.posted, rested = remaining ∧
    (reason = .bookExhausted ∨ reason = .nonCrossing)
  kept : plan.posted = none → reason = .filled ∨
    (reason = .matchCap ∧ plan.steps.length = maxMatchesPerTransaction) ∨
    ticketCollateral page.market side amounts.rawPrice remaining = 0
  funded : ticketCost page.market config side amounts.rawPrice plan ≤ spotLedger.free balance side
  fits : amounts.rawQuantity ≤ u64Max

theorem planTicket_planned {price quantity : List Char} (reachable : Reachable state)
    (configured : state.protocol.config = some config)
    (stored : state.spot.markets.get page.marketAddress = some page.market)
    (held : page.traderBalance = some balance)
    (seated : state.spot.balances.get (.traderBalance page.marketAddress trader.key) = some balance)
    (planned : planTicket ⟨spotSnapshot state.spot, .ok state.protocol.config⟩ toBase58 trader page
      side price quantity = .ok (amounts, plan)) :
    ∃ remaining reason,
      Planned state config trader page side balance amounts plan remaining reason := by
  have free : availableBalance balance side = spotLedger.free balance side := by
    cases side <;> rfl
  simp only [planTicket, held, configured, bind_eq_ok, require_eq_ok, okOr_eq_ok] at planned
  obtain ⟨_, active, _, ⟨⟩, typed, read, planned⟩ := planned
  obtain ⟨price_pos, priceFits, tick, quantity_pos, quantityFits, lot⟩ := readAmounts_ok read
  have planning : Planning (.ofTicket trader page side typed) trader page.market :=
    ⟨rfl, active, price_pos, tick, priceFits⟩
  split at planned
  · simp only [planCrossing, bind_eq_ok, require_eq_ok, okOr_eq_ok, pure_eq_ok] at planned
    obtain ⟨_, ⟨_, ⟨⟩, _, ⟨⟩, bounded, matched, _, -, _, enough, rfl⟩, same⟩ := planned
    obtain ⟨rfl, rfl⟩ := Prod.mk.inj same
    obtain ⟨short, capped, sum, executes⟩ := planBoundedMatches_carriesOut reachable configured stored
      seated planning lot quantityFits matched
    have sum : (bounded.steps.map MatchStep.fillQuantity).sum + bounded.remainingQuantity =
        typed.rawQuantity := sum
    have cost := matchedCollateral_eq page.market config side sum
    rw [free, cost] at enough
    refine ⟨bounded.remainingQuantity, bounded.stopReason, ?_⟩
    by_cases posts : (bounded.remainingQuantity ≠ 0 ∧
      (bounded.stopReason = .bookExhausted ∨ bounded.stopReason = .nonCrossing)) ∧
      ticketCollateral page.market side typed.rawPrice bounded.remainingQuantity ≠ 0
    · rw [if_pos posts] at enough ⊢
      refine ⟨planning, executes, short, sum, ?_, fun other => (by cases other), enough, quantityFits⟩
      rintro _ ⟨⟩
      exact ⟨rfl, posts.1.2⟩
    · rw [if_neg posts] at enough ⊢
      refine ⟨planning, executes, short, sum, fun _ none => (by cases none), fun _ => ?_, enough,
        quantityFits⟩
      by_cases dust : ticketCollateral page.market side typed.rawPrice bounded.remainingQuantity = 0
      · exact .inr (.inr dust)
      · have left : bounded.remainingQuantity ≠ 0 := by
          intro none_left
          refine dust ?_
          rw [none_left]
          cases side with
          | bid => rw [ticketCollateral, Nat.mul_zero, Nat.zero_div]
          | ask => rfl
        cases reason : bounded.stopReason with
        | filled => exact .inl rfl
        | matchCap => exact .inr (.inl ⟨rfl, capped reason⟩)
        | bookExhausted => exact absurd ⟨⟨left, .inl reason⟩, dust⟩ posts
        | nonCrossing => exact absurd ⟨⟨left, .inr reason⟩, dust⟩ posts
  · next apart =>
      simp only [bind_eq_ok, require_eq_ok, pure_eq_ok] at planned
      obtain ⟨_, enough, same⟩ := planned
      obtain ⟨rfl, rfl⟩ := Prod.mk.inj same
      rw [free] at enough
      have start : Reached state.spot (.ofTicket trader page side typed) trader page.market config
          ⟨[], [], [], typed.rawQuantity⟩ (page.market.best side.opposite) state :=
        .start reachable configured stored lot quantityFits
      have funded : ticketCost page.market config side typed.rawPrice ⟨[], some typed.rawQuantity⟩ ≤
          spotLedger.free balance side := (Nat.zero_add _).trans_le enough
      cases best : page.market.best side.opposite with
      | none =>
          rw [best] at start
          refine ⟨typed.rawQuantity, .bookExhausted, planning,
            .nil start rfl ⟨quantity_pos.ne', rfl⟩, Nat.zero_le _, Nat.zero_add _, ?_,
            fun other => (by cases other), funded, quantityFits⟩
          rintro _ ⟨⟩
          exact ⟨rfl, .inl rfl⟩
      | some top =>
          rw [best] at start apart
          refine ⟨typed.rawQuantity, .nonCrossing, planning,
            .nil start rfl ⟨quantity_pos.ne', top, rfl, apart⟩, Nat.zero_le _, Nat.zero_add _, ?_,
            fun other => (by cases other), funded, quantityFits⟩
          rintro _ ⟨⟩
          exact ⟨rfl, .inr rfl⟩

/-- What the transaction of a ticket leaves. -/
structure Honored (after : State) (config : ProtocolConfig) (trader : Wallet) (page : TicketPage)
    (side : OrderSide) (balance : TraderBalance) (amounts : TicketAmounts) (plan : TicketPlan)
    (remaining : Nat) : Prop where
  paid : ∃ later, after.spot.balances.get (.traderBalance page.marketAddress trader.key) =
      some later ∧
    spotLedger.free later side + ticketCost page.market config side amounts.rawPrice plan =
      spotLedger.free balance side
  rested : ∀ rested ∈ plan.posted, ∃ order,
    after.spot.orders.get (.order page.marketAddress page.market.nextOrderId) = some order ∧
      order.owner = trader.key ∧ order.side = side ∧ order.price = amounts.rawPrice ∧
      order.remainingQuantity = rested ∧ order.status = .opened
  book : ∃ record, after.spot.markets.get page.marketAddress = some record ∧
    (plan.posted ≠ none → ∀ price, record.best side.opposite = some price →
      ¬pricesCross side amounts.rawPrice price) ∧
    (plan.posted = none → remaining = 0 ∨
      (plan.steps.length = maxMatchesPerTransaction ∧ ∃ price,
        record.best side.opposite = some price ∧ pricesCross side amounts.rawPrice price) ∨
      ticketCollateral page.market side amounts.rawPrice remaining = 0)

section Planned

variable {remaining rested rounds : Nat} {reason : MatchPlanStopReason} {after : State}
variable {placement : Instruction}
variable (ready : Planned state config trader page side balance amounts plan remaining reason)
variable (seated : state.spot.balances.get (.traderBalance page.marketAddress trader.key) =
  some balance)
include ready seated

theorem Planned.pays {middle : State} (fills : (plan.steps.map (MatchStep.instruction
      (.ofTicket trader page side amounts) trader)).foldlM execute state = .ok middle) :
    ∃ later, middle.spot.balances.get (.traderBalance page.marketAddress trader.key) =
      some later ∧ spotLedger.free later side +
        (plan.steps.map (stepCost page.market config side)).sum = spotLedger.free balance side :=
  ready.executes.paid middle balance fills seated

theorem Planned.matched (none_posted : plan.posted = none) :
    ((∃ after, (plan.steps.map (MatchStep.instruction (.ofTicket trader page side amounts)
        trader)).foldlM execute state = .ok after) ↔
      ∀ step ∈ plan.steps, 0 < stepGross page.market step) ∧
    ∀ after, (plan.steps.map (MatchStep.instruction (.ofTicket trader page side amounts)
        trader)).foldlM execute state = .ok after →
      Honored after config trader page side balance amounts plan remaining := by
  have funded := ready.funded
  simp only [ticketCost, none_posted, Option.map_none, Option.getD_none, Nat.add_zero] at funded
  refine ⟨ready.executes.accepted balance seated funded, fun after ran => ?_⟩
  obtain ⟨later, stored, pays⟩ := ready.pays seated ran
  obtain ⟨walk, best, reached, -, stopped⟩ := ready.executes.reached after ran
  obtain ⟨record, marketStored, -, -, bests⟩ := reached.bests
  refine ⟨⟨later, stored, ?_⟩, fun _ other => (by rw [none_posted] at other; cases other), record,
    marketStored, fun other => absurd none_posted other, fun _ => ?_⟩
  · simp only [ticketCost, none_posted, Option.map_none, Option.getD_none, Nat.add_zero]
    exact pays
  · obtain rfl | ⟨rfl, capped⟩ | dust := ready.kept none_posted
    · exact .inl stopped
    · obtain ⟨-, price, top, cross⟩ := stopped
      exact .inr (.inl ⟨capped, price, bests.trans top, cross⟩)
    · exact .inr (.inr dust)

theorem Planned.posts (posts : plan.posted = some rested)
    (built : buildRestingOrderInstruction (faithful state.spot.levels) toBase58 trader
      page.marketAddress page.market side amounts.rawPrice rested rounds = some (.ok placement)) :
    (RoomFor state.spot page.marketAddress page.market side amounts.rawPrice rested →
      ((∃ after, (plan.steps.map (MatchStep.instruction (.ofTicket trader page side amounts)
          trader) ++ [placement]).foldlM execute state = .ok after) ↔
        (∀ step ∈ plan.steps, 0 < stepGross page.market step) ∧
          0 < amounts.rawPrice * rested / 10 ^ page.market.baseDecimals)) ∧
    ∀ after, (plan.steps.map (MatchStep.instruction (.ofTicket trader page side amounts)
        trader) ++ [placement]).foldlM execute state = .ok after →
      Honored after config trader page side balance amounts plan remaining := by
  obtain ⟨rfl, open_ended⟩ := ready.posted rested posts
  have funded := ready.funded
  simp only [ticketCost, posts, Option.map_some, Option.getD_some] at funded
  have steps := ready.executes.accepted balance seated (by
    change _ ≤ spotLedger.free balance side
    exact (Nat.le_add_right _ _).trans funded)
  have quantityFits : rested ≤ u64Max :=
    (ready.sum ▸ Nat.le_add_left _ _).trans ready.fits
  -- What the fills leave is what the client placed the remainder for.
  have seats : ∀ {middle walk best}, Reached state.spot (.ofTicket trader page side amounts) trader
      page.market config walk best middle → ∃ prices,
      SpotList middle.spot.levels page.marketAddress side (page.market.best side) prices ∧
      Seats state.spot.levels trader page.marketAddress side prices amounts.rawPrice rested
        placement := by
    intro middle walk best reached
    obtain ⟨prices, ours, theirs⟩ := reached.list
    exact ⟨prices, theirs, buildRestingOrderInstruction_seats ours built⟩
  refine ⟨fun room => ⟨?_, fun ⟨worth, lasting⟩ => ?_⟩, fun after ran => ?_⟩
  · rintro ⟨after, ran⟩
    rw [List.foldlM_append, bind_eq_ok] at ran
    obtain ⟨middle, fills, ran⟩ := ran
    obtain ⟨walk, best, reached, -, -⟩ := ready.executes.reached middle fills
    obtain ⟨record, stored, retained, -, -⟩ := reached.bests
    obtain ⟨prices, -, seat⟩ := seats reached
    rw [List.foldlM_cons, bind_eq_ok] at ran
    obtain ⟨last, done, -⟩ := ran
    have posted := seat.posted ready.planning.limitFits quantityFits stored done
    exact ⟨steps.mp ⟨middle, fills⟩, retained.terms.decimals ▸ posted.worth⟩
  · obtain ⟨middle, fills⟩ := steps.mpr worth
    obtain ⟨walk, best, reached, left, stopped⟩ := ready.executes.reached middle fills
    obtain ⟨later, laterStored, pays⟩ := ready.pays seated fills
    obtain ⟨prices, list, seat⟩ := seats reached
    have some_left : 0 < rested := Nat.pos_of_ne_zero fun none_left => by
      rw [none_left, Nat.mul_zero, Nat.zero_div] at lasting
      exact absurd lasting (Nat.lt_irrefl 0)
    obtain ⟨record, placeable⟩ := reached.placeable ready.planning room some_left
      (left ▸ reached.lot) quantityFits laterStored (by
        change ticketCollateral page.market side amounts.rawPrice rested ≤
          spotLedger.free later side
        omega) lasting
    obtain ⟨after, done⟩ := reached.accepts placeable room ready.planning.limitFits quantityFits list
      seat
    refine ⟨after, ?_⟩
    rw [List.foldlM_append, bind_eq_ok]
    refine ⟨middle, fills, ?_⟩
    rw [List.foldlM_cons, bind_eq_ok]
    exact ⟨after, done, rfl⟩
  · rw [List.foldlM_append, bind_eq_ok] at ran
    obtain ⟨middle, fills, ran⟩ := ran
    obtain ⟨walk, best, reached, -, stopped⟩ := ready.executes.reached middle fills
    obtain ⟨later, laterStored, pays⟩ := ready.pays seated fills
    obtain ⟨record, stored, retained, -, bests⟩ := reached.bests
    obtain ⟨prices, -, seat⟩ := seats reached
    rw [List.foldlM_cons, bind_eq_ok] at ran
    obtain ⟨last, done, ⟨⟩⟩ := ran
    have posted := seat.posted ready.planning.limitFits quantityFits stored done
    obtain ⟨record', recordStored, opposite⟩ := posted.opposite
    obtain ⟨final, finalStored, locks⟩ := posted.paid later laterStored
    refine ⟨⟨final, finalStored, ?_⟩, ?_, record', recordStored, fun _ price top cross => ?_,
      fun other => (by cases posts.symm.trans other)⟩
    · have same : ticketCollateral record side amounts.rawPrice rested =
          ticketCollateral page.market side amounts.rawPrice rested := by
        unfold ticketCollateral
        rw [retained.terms.decimals]
      simp only [ticketCost, posts, Option.map_some, Option.getD_some]
      rw [same] at locks
      omega
    · intro other named
      cases posts.symm.trans named
      rw [← retained.number]
      exact posted.order
    · have here : best = some price := bests.symm.trans (opposite.symm.trans top)
      obtain rfl | rfl := open_ended
      · cases here.symm.trans stopped.2
      · obtain ⟨-, found, same, apart⟩ := stopped
        cases here.symm.trans same
        exact apart cross

end Planned

/-- A ticket that is planned from a state and sent at once is accepted whole, if and only if every
fill and the rest are worth an atom of quote, as long as there is room for the rest; and then the
trader paid what was checked, the rest waits at its limit with nothing opposing it, and where nothing
rests the reason is a true one. -/
theorem ticket_does_what_it_shows {price quantity : List Char} {rounds : Nat}
    {instructions : List Instruction} (reachable : Reachable state)
    (configured : state.protocol.config = some config)
    (stored : state.spot.markets.get page.marketAddress = some page.market)
    (held : page.traderBalance = some balance)
    (seated : state.spot.balances.get (.traderBalance page.marketAddress trader.key) = some balance)
    (submitted : placeOrder ⟨spotSnapshot state.spot, .ok state.protocol.config⟩ toBase58 trader page
      side price quantity rounds = some (.ok instructions)) :
    ∃ amounts plan remaining,
      planTicket ⟨spotSnapshot state.spot, .ok state.protocol.config⟩ toBase58 trader page side price
        quantity = .ok (amounts, plan) ∧
      plan.steps.length ≤ maxMatchesPerTransaction ∧
      (plan.steps.map MatchStep.fillQuantity).sum + remaining = amounts.rawQuantity ∧
      (∀ rested ∈ plan.posted, rested = remaining) ∧
      ((∀ rested ∈ plan.posted,
          RoomFor state.spot page.marketAddress page.market side amounts.rawPrice rested) →
        ((∃ after, instructions.foldlM execute state = .ok after) ↔
          (∀ step ∈ plan.steps, 0 < stepGross page.market step) ∧ ∀ rested ∈ plan.posted,
            0 < amounts.rawPrice * rested / 10 ^ page.market.baseDecimals)) ∧
      ∀ after, instructions.foldlM execute state = .ok after →
        Honored after config trader page side balance amounts plan remaining := by
  rw [placeOrder] at submitted
  split at submitted
  · cases submitted
  · next amounts plan planned =>
      obtain ⟨remaining, reason, ready⟩ :=
        planTicket_planned reachable configured stored held seated planned
      refine ⟨amounts, plan, remaining, planned, ready.short, ready.sum,
        fun rested posts => (ready.posted rested posts).1, ?_⟩
      dsimp only at submitted
      split at submitted
      · next none_posted =>
          cases submitted
          obtain ⟨accepted, honored⟩ := ready.matched seated none_posted
          refine ⟨fun _ => accepted.trans ⟨fun worth => ⟨worth, fun rested posts => ?_⟩, And.left⟩,
            honored⟩
          cases none_posted.symm.trans posts
      · next rested posts =>
          obtain ⟨built, placed, same⟩ := Option.map_eq_some_iff.mp submitted
          rw [bind_eq_ok] at same
          obtain ⟨placement, rfl, same⟩ := same
          cases same
          obtain ⟨accepted, honored⟩ := ready.posts seated posts placed
          refine ⟨fun room => ?_, honored⟩
          rw [posts] at room ⊢
          simp only [Option.mem_some_iff, forall_eq'] at room ⊢
          exact accepted room

end Ticket

/-- Bob bids two and a half for one and a half units; Alice asks two for one. -/
def Sample.ticketPage : Option TicketPage := do
  let market ← traded.spot.markets.get spot
  pure ⟨spot, market, 1, traded.spot.balances.get (.traderBalance spot bob.key)⟩

def Sample.ticketReader : TicketReader :=
  ⟨spotSnapshot traded.spot, .ok traded.protocol.config⟩

def Sample.ticket (page : TicketPage) : Option (TicketAmounts × TicketPlan) :=
  (planTicket ticketReader (fun _ => "") bob page .bid "2.5".toList "1.5".toList).toOption

def Sample.submitted (page : TicketPage) : Option (List Instruction) :=
  (placeOrder ticketReader (fun _ => "") bob page .bid "2.5".toList "1.5".toList 1).bind
    Except.toOption

set_option maxRecDepth 4096 in
/-- He takes her ten and rests five. -/
theorem ticket_does_what_it_shows_traded : ∃ page instructions,
    Sample.ticketPage = some page ∧ Sample.submitted page = some instructions ∧
      ∃ (after : State) (order : Order),
        instructions.foldlM execute Sample.traded = .ok after ∧
        after.spot.orders.get (.order Sample.spot page.market.nextOrderId) = some order ∧
        order.owner = Sample.bob.key ∧ order.remainingQuantity = 5 := by
  have facts : Sample.ticketPage.map (fun page => (page.market.nextOrderId,
      page.market.openOrderCount, 10 ^ page.market.baseDecimals, page.traderBalance.isSome)) =
        some (3, 2, 10, true) ∧
      (Sample.ticketPage.bind fun page => (Sample.ticket page).map fun planned =>
        (planned.1.rawPrice, planned.2.posted, planned.2.steps.map (stepGross page.market))) =
          some (25, some 5, [20]) ∧
      (Sample.ticketPage.bind Sample.submitted).isSome ∧
      Sample.traded.protocol.config.isSome ∧
      (Sample.traded.spot.orders.get (.order Sample.spot 3)).isNone ∧
      (Sample.traded.spot.levels.get (.priceLevel Sample.spot .bid 25)).isNone := by
    decide +kernel
  obtain ⟨shown, planned, hasInstructions, hasConfig, fresh, level⟩ := facts
  obtain ⟨page, isPage, parts⟩ := Option.map_eq_some_iff.mp shown
  simp only [Prod.mk.injEq] at parts
  obtain ⟨number, count, scale, hasBalance⟩ := parts
  rw [isPage, Option.bind_some] at planned hasInstructions
  obtain ⟨config, configured⟩ := Option.isSome_iff_exists.mp hasConfig
  obtain ⟨balance, held⟩ := Option.isSome_iff_exists.mp hasBalance
  obtain ⟨instructions, submitted⟩ := Option.isSome_iff_exists.mp hasInstructions
  have address : page.marketAddress = Sample.spot ∧
      Sample.traded.spot.markets.get Sample.spot = some page.market ∧ page.traderBalance =
        Sample.traded.spot.balances.get (.traderBalance Sample.spot Sample.bob.key) := by
    have read := isPage
    simp only [Sample.ticketPage, Option.bind_eq_bind, Option.bind_eq_some_iff] at read
    obtain ⟨market, stored, same⟩ := read
    cases same
    exact ⟨rfl, stored, rfl⟩
  obtain ⟨home, stored, read⟩ := address
  have reachable : Reachable Sample.traded :=
    ⟨Sample.start, Sample.funding ++ Sample.opening ++ Sample.trading, rfl⟩
  obtain ⟨result, built, isOk⟩ := Option.bind_eq_some_iff.mp submitted
  cases result with
  | error failure => cases isOk
  | ok instructions =>
      cases isOk
      obtain ⟨amounts, plan, remaining, plans, -, -, -, accepted, honored⟩ :=
        ticket_does_what_it_shows reachable configured (home ▸ stored) held
          (home ▸ read ▸ held) built
      rw [Sample.ticket, Sample.ticketReader, plans] at planned
      simp only [Except.toOption, Option.map_some, Option.some.injEq, Prod.mk.injEq] at planned
      obtain ⟨priced, posted, worth⟩ := planned
      rw [posted, priced, home] at accepted
      have room : ∀ rested ∈ some 5, RoomFor Sample.traded.spot Sample.spot page.market .bid 25
          rested := by
        rintro _ ⟨⟩
        refine ⟨?_, ?_, number ▸ Option.isNone_iff_eq_none.mp fresh, fun found here => ?_⟩
        · rw [number]
          decide
        · rw [count]
          decide
        · rw [Option.isNone_iff_eq_none.mp level] at here
          cases here
      have fills : ∀ step ∈ plan.steps, 0 < stepGross page.market step := by
        intro step member
        have listed : stepGross page.market step ∈ [20] := worth ▸ List.mem_map_of_mem member
        rw [List.mem_singleton.mp listed]
        decide
      have rest : ∀ rested ∈ some 5, 0 < 25 * rested / 10 ^ page.market.baseDecimals := by
        rintro _ ⟨⟩
        rw [scale]
        decide
      obtain ⟨after, ran⟩ := (accepted room).mpr ⟨fills, rest⟩
      obtain ⟨order, rests, own, -, -, left, -⟩ := (honored after ran).rested 5 posted
      exact ⟨page, instructions, isPage, submitted, after, order, ran, home ▸ rests, own, left⟩

end Tidebook.Proof
