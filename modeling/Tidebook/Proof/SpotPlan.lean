import Tidebook.Client.SpotTicket
import Tidebook.Proof.SpotTake

/-! # A bounded plan executes as planned

The plan is read from one state, and every match after the first finds a later one. What the plan
reads next is there still what it was, up to the links that the fills before it cleared.
-/

namespace Tidebook.Proof
open Library Program Client

theorem modify_blurred {V : Type} (change : V → V)
    (twice : ∀ value, change (change value) = change value) (store : Store Pubkey V)
    (key : Option Pubkey) (other : Pubkey) :
    ((store.modify key change).get other).map change = (store.get other).map change := by
  rw [Store.get_modify, amend]
  split
  · rw [Option.map_map]
    exact Option.map_congr fun value _ => twice value
  · rfl

def spotSnapshot (spot : Spot) : MatchingReader := ⟨faithful spot.levels, faithful spot.orders⟩

/-! ## One planned fill -/

section Plan

variable {request : MatchRequest} {walk : Traversal} {cursor : QueueCursor} {maker : Order}

theorem readMaker_ok {spot : Spot} {toBase58 : Pubkey → String}
    (done : readMaker (spotSnapshot spot) toBase58 request walk cursor = .ok maker) :
    cursor.currentOrder ∉ walk.visitedOrders ∧
      spot.orders.get cursor.currentOrder = some maker ∧ maker.market = request.marketAddress ∧
      maker.side = request.makerSide ∧ maker.price = cursor.level.price ∧
      maker.status = .opened ∧ maker.owner ≠ request.taker := by
  simp only [readMaker, spotSnapshot, faithful, bind_eq_ok, require_eq_ok, okOr_eq_ok,
    pure_eq_ok] at done
  obtain ⟨_, fresh, _, ⟨⟩, _, stored, _, ⟨home, -, side, price, live, -, -⟩, _, own, rfl⟩ := done
  exact ⟨fresh, stored, home, side, price, live, own⟩

theorem readLevel_ok {spot : Spot} {toBase58 : Pubkey → String} {price : Nat} {better : Option Nat}
    {entered : Traversal × QueueCursor}
    (done : readLevel (spotSnapshot spot) toBase58 request walk price better = .ok entered) :
    ∃ level first,
      Pubkey.priceLevel request.marketAddress request.makerSide price ∉ walk.visitedLevels ∧
      spot.levels.get (.priceLevel request.marketAddress request.makerSide price) = some level ∧
      level.price = price ∧ level.firstOrder = some first ∧ level.orderCount ≠ 0 ∧
      entered = (⟨.priceLevel request.marketAddress request.makerSide price :: walk.visitedLevels,
          walk.visitedOrders, walk.steps, walk.remainingQuantity⟩,
        ⟨.priceLevel request.marketAddress request.makerSide price, level, first, none,
          level.orderCount, level.totalRemainingQuantity⟩) := by
  simp only [readLevel, spotSnapshot, faithful, bind_eq_ok, require_eq_ok, okOr_eq_ok,
    pure_eq_ok] at done
  obtain ⟨_, fresh, _, ⟨⟩, level, stored, _, -, _, priced, _, -, _, -, first, isFirst, _,
    ⟨-, counted, -⟩, rfl⟩ := done
  exact ⟨level, first, fresh, stored, priced, isFirst, counted, rfl⟩

def Emptying (cursor : QueueCursor) (maker : Order) (quantity : Nat) : Prop :=
  maker.remainingQuantity ≤ quantity ∧ cursor.localOrderCount = 1

instance decidableEmptying (cursor : QueueCursor) (maker : Order) (quantity : Nat) :
    Decidable (Emptying cursor maker quantity) :=
  inferInstanceAs (Decidable (maker.remainingQuantity ≤ quantity ∧ cursor.localOrderCount = 1))

/-- What a planned fill promises. -/
structure Fills (request : MatchRequest) (cursor : QueueCursor) (maker : Order) (quantity : Nat)
    (fill : PlannedFill) : Prop where
  makerOrder : fill.step.makerOrder = cursor.currentOrder
  price : fill.step.makerPrice = maker.price
  before : fill.step.takerQuantityBeforeFill = quantity
  filled : fill.step.fillQuantity = min quantity maker.remainingQuantity
  full : fill.makerFullyFilled = decide (maker.remainingQuantity ≤ quantity)
  next : fill.step.nextOrder = if maker.remainingQuantity ≤ quantity ∧ cursor.localOrderCount ≠ 1
    then maker.nextOrder else none
  worse : fill.step.worseLevel = if Emptying cursor maker quantity then
    cursor.level.worsePrice.map (.priceLevel request.marketAddress request.makerSide) else none
  recipient : fill.step.levelRentRecipient = if Emptying cursor maker quantity then
    some cursor.level.rentPayer else none
  count : fill.nextOrderCount = if maker.remainingQuantity ≤ quantity then
    cursor.localOrderCount - 1 else cursor.localOrderCount
  total : fill.nextLevelQuantity = cursor.localLevelQuantity - min quantity maker.remainingQuantity
  last : Emptying cursor maker quantity → maker.nextOrder = none
  follows : maker.remainingQuantity ≤ quantity → cursor.localOrderCount ≠ 1 →
    maker.nextOrder ≠ none

theorem planFill_ok {quantity : Nat} {fill : PlannedFill} (counted : cursor.localOrderCount ≠ 0)
    (done : planFill request quantity cursor maker = .ok fill) :
    Fills request cursor maker quantity fill := by
  have full : (min quantity maker.remainingQuantity == maker.remainingQuantity) =
      decide (maker.remainingQuantity ≤ quantity) := by
    rw [Bool.eq_iff_iff, beq_iff_eq, decide_eq_true_eq, min_eq_right_iff]
  simp only [planFill, bind_eq_ok, require_eq_ok, pure_eq_ok, full] at done
  obtain ⟨_, -, done⟩ := done
  by_cases covered : maker.remainingQuantity ≤ quantity
  · by_cases last : cursor.localOrderCount = 1
    · simp only [covered, last, decide_true, if_true, Nat.sub_self, beq_self_eq_true, Bool.and_self,
        require_eq_ok, Bool.not_true, Bool.and_false, Bool.false_eq_true, if_false] at done
      obtain ⟨_, ⟨ends, -, -⟩, rfl⟩ := done
      refine ⟨rfl, rfl, rfl, rfl, (decide_eq_true covered).symm, ?_, ?_, ?_, ?_, rfl, fun _ => ends,
        fun _ other => absurd last other⟩
      · rw [if_neg fun both => both.2 last]
      · rw [if_pos ⟨covered, last⟩]
      · rw [if_pos ⟨covered, last⟩]
      · rw [if_pos covered, last]
    · have stays : (cursor.localOrderCount - 1 == 0) = false := by
        rw [beq_eq_false_iff_ne]
        omega
      simp only [covered, decide_true, if_true, stays, Bool.and_false, Bool.false_eq_true, if_false,
        require_eq_ok, true_implies, Bool.not_false, Bool.and_true] at done
      obtain ⟨_, follows, rfl⟩ := done
      have other : ¬Emptying cursor maker quantity := fun both => last both.2
      refine ⟨rfl, rfl, rfl, rfl, (decide_eq_true covered).symm, ?_, (if_neg other).symm,
        (if_neg other).symm, (if_pos covered).symm, rfl, fun both => absurd both other,
        fun _ _ => follows⟩
      rw [if_pos ⟨covered, last⟩]
  · have other : ¬Emptying cursor maker quantity := fun both => covered both.1
    simp only [covered, decide_false, Bool.false_eq_true, if_false, Bool.false_and, require_eq_ok,
      false_implies] at done
    obtain ⟨_, -, rfl⟩ := done
    exact ⟨rfl, rfl, rfl, rfl, (decide_eq_false covered).symm, (if_neg fun both => covered both.1).symm,
      (if_neg other).symm, (if_neg other).symm, (if_neg covered).symm, rfl,
      fun both => absurd both other, fun enough => absurd enough covered⟩

end Plan

/-! ## The plan follows the book -/

/-- What a plan is made for: a market that trades, and a limit on its grid. -/
structure Planning (request : MatchRequest) (taker : Wallet) (market : Market) : Prop where
  taker : request.taker = taker.key
  active : market.status = .active
  price_pos : 0 < request.limitPrice
  tick : market.priceTickSize ∣ request.limitPrice
  limitFits : request.limitPrice ≤ u64Max

/-- The state after the fills of a walk, as the book that the plan is read from shows it. -/
structure Reached (base : Spot) (request : MatchRequest) (taker : Wallet) (market : Market)
    (config : ProtocolConfig) (walk : Traversal) (best : Option Nat) (state : State) : Prop where
  reachable : Reachable state
  configured : state.protocol.config = some config
  stored : ∃ record, state.spot.markets.get request.marketAddress = some record ∧
    Retained market record ∧ record.best = Function.update market.best request.makerSide best
  orders : ∀ key ∉ walk.visitedOrders, (state.spot.orders.get key).map (Order.setPrevious none) =
    (base.orders.get key).map (Order.setPrevious none)
  known : ∀ key ∈ walk.visitedOrders, base.orders.get key ≠ none
  levels : ∀ key ∉ walk.visitedLevels, (state.spot.levels.get key).map (PriceLevel.setBetter none) =
    (base.levels.get key).map (PriceLevel.setBetter none)
  own : ∀ price, state.spot.levels.get (.priceLevel request.marketAddress request.takerSide price) =
    base.levels.get (.priceLevel request.marketAddress request.takerSide price)
  lot : market.quantityLotSize ∣ walk.remainingQuantity
  fits : walk.remainingQuantity ≤ u64Max

def headLevel (cursor : QueueCursor) : PriceLevel :=
  { cursor.level with
    firstOrder := some cursor.currentOrder, orderCount := cursor.localOrderCount
    totalRemainingQuantity := cursor.localLevelQuantity }

/-- The place that the walk has reached is the head of the book. -/
structure AtHead (base : Spot) (request : MatchRequest) (taker : Wallet) (market : Market)
    (config : ProtocolConfig) (walk : Traversal) (cursor : QueueCursor) (state : State) : Prop
    extends Reached base request taker market config walk (some cursor.level.price) state where
  address : cursor.levelAddress =
    .priceLevel request.marketAddress request.makerSide cursor.level.price
  entered : cursor.levelAddress ∈ walk.visitedLevels
  level : ∃ level, state.spot.levels.get cursor.levelAddress = some level ∧
    level.setBetter none = (headLevel cursor).setBetter none
  counted : cursor.localOrderCount ≠ 0
  cross : request.crosses cursor.level.price
  some_left : 0 < walk.remainingQuantity
  seated : ∃ balance, state.spot.balances.get
    (.traderBalance request.marketAddress taker.key) = some balance

theorem side_ne_opposite (side : OrderSide) : side ≠ side.opposite := by
  cases side <;> exact fun same => by cases same

theorem setPrevious_inj {first second : Order}
    (same : first.setPrevious none = second.setPrevious none) :
    first = { second with previousOrder := first.previousOrder } := by
  obtain ⟨⟩ := first
  obtain ⟨⟩ := second
  simp only [Order.setPrevious, Order.mk.injEq] at same
  obtain ⟨rfl, rfl, rfl, rfl, rfl, rfl, -, rfl, rfl, rfl, rfl, rfl⟩ := same
  rfl

theorem setBetter_inj {first second : PriceLevel}
    (same : first.setBetter none = second.setBetter none) :
    first = { second with betterPrice := first.betterPrice } := by
  obtain ⟨⟩ := first
  obtain ⟨⟩ := second
  simp only [PriceLevel.setBetter, PriceLevel.mk.injEq] at same
  obtain ⟨rfl, rfl, rfl, -, rfl, rfl, rfl, rfl, rfl, rfl⟩ := same
  rfl

section Head

variable {base : Spot} {request : MatchRequest} {taker : Wallet} {market : Market}
variable {config : ProtocolConfig} {walk : Traversal} {cursor : QueueCursor} {state : State}
variable {maker : Order} {fill : PlannedFill} {toBase58 : Pubkey → String}

/-- The maker that the plan reads is the first order that the program finds. -/
structure Meets (request : MatchRequest) (taker : Wallet) (market : Market)
    (config : ProtocolConfig) (walk : Traversal) (cursor : QueueCursor) (maker : Order)
    (fill : PlannedFill) (state : State)
    (facing : Facing state config taker request.takerSide request.limitPrice
      walk.remainingQuantity cursor.currentOrder) : Prop where
  maker : facing.maker = { maker with previousOrder := facing.maker.previousOrder }
  level : facing.level = { headLevel cursor with betterPrice := facing.level.betterPrice }
  retained : Retained market facing.market
  best : facing.market.best =
    Function.update market.best request.makerSide (some cursor.level.price)
  instruction : facing.instruction = fill.step.instruction request taker

theorem AtHead.meets (planning : Planning request taker market)
    (head : AtHead base request taker market config walk cursor state)
    (read : readMaker (spotSnapshot base) toBase58 request walk cursor = .ok maker)
    (planned : planFill request walk.remainingQuantity cursor maker = .ok fill) :
    ∃ facing, Meets request taker market config walk cursor maker fill state facing := by
  obtain ⟨fresh, stored, home, side, price, live, own⟩ := readMaker_ok read
  have fills := planFill_ok head.counted planned
  have shown := head.orders _ fresh
  rw [stored, Option.map_some, Option.map_eq_some_iff] at shown
  obtain ⟨found, present, same⟩ := shown
  have isMaker := setPrevious_inj same
  obtain ⟨level, levelStored, levelSame⟩ := head.level
  have isLevel := setBetter_inj levelSame
  obtain ⟨record, marketStored, retained, best⟩ := head.stored
  obtain ⟨balance, balanceStored⟩ := head.seated
  have isHome : found.market = request.marketAddress := isMaker ▸ home
  have isSide : found.side = request.makerSide := isMaker ▸ side
  have isPrice : found.price = cursor.level.price := isMaker ▸ price
  have gridded : record.checkGrid request.limitPrice walk.remainingQuantity = .ok () := by
    simp only [Market.checkGrid, bind_eq_ok, require_eq_ok]
    exact ⟨(), planning.price_pos, (), head.some_left, (), retained.terms.tick ▸ planning.tick,
      retained.terms.lot ▸ head.lot⟩
  let facing : Facing state config taker request.takerSide request.limitPrice
      walk.remainingQuantity cursor.currentOrder := {
    maker := found, level := level, market := record, balance := balance
    configured := head.configured
    stored := present
    live := isMaker ▸ live
    found := by rw [isHome, isSide, isPrice, ← head.address, levelStored]
    first := by rw [isLevel]; rfl
    marketStored := isHome ▸ marketStored
    active := retained.status.trans planning.active
    best := by rw [best, isSide, isPrice, Function.update_self]
    sided := isSide
    cross := isPrice ▸ head.cross
    own := by
      rw [isMaker, ← planning.taker]
      exact own
    gridded := gridded
    balanceStored := isHome ▸ balanceStored
    limitFits := planning.limitFits
    quantityFits := head.fits }
  refine ⟨facing, isMaker, isLevel, retained, best, ?_⟩
  have accounts : spotTake found level taker cursor.currentOrder walk.remainingQuantity =
      ⟨taker, request.marketAddress, cursor.currentOrder, fill.step.nextOrder,
        fill.step.worseLevel, fill.step.levelRentRecipient⟩ := by
    have rest : found.remainingQuantity = maker.remainingQuantity := by rw [isMaker]
    have next : found.nextOrder = maker.nextOrder := by rw [isMaker]
    have count : level.orderCount = cursor.localOrderCount := by rw [isLevel]; rfl
    have worse : level.worsePrice = cursor.level.worsePrice := by rw [isLevel]; rfl
    have payer : level.rentPayer = cursor.level.rentPayer := by rw [isLevel]; rfl
    simp only [spotTake, isHome, isSide, rest, next, count, worse, payer, fills.next, fills.worse,
      fills.recipient]
    rfl
  rw [MatchStep.instruction, Facing.instruction, accounts, fills.makerOrder, fills.before]

def filledWalk (walk : Traversal) (cursor : QueueCursor) (fill : PlannedFill) : Traversal :=
  { walk with
    visitedOrders := cursor.currentOrder :: walk.visitedOrders
    steps := walk.steps ++ [fill.step]
    remainingQuantity := walk.remainingQuantity - fill.step.fillQuantity }

variable {after : State}

theorem Meets.reaches {facing : Facing state config taker request.takerSide request.limitPrice
      walk.remainingQuantity cursor.currentOrder}
    (meets : Meets request taker market config walk cursor maker fill state facing)
    (head : AtHead base request taker market config walk cursor state)
    (read : readMaker (spotSnapshot base) toBase58 request walk cursor = .ok maker)
    (fills : Fills request cursor maker walk.remainingQuantity fill)
    (done : execute state facing.instruction = .ok after) (taken : facing.Taken after) :
    Reached base request taker market config (filledWalk walk cursor fill)
      (if Emptying cursor maker walk.remainingQuantity then cursor.level.worsePrice
        else some cursor.level.price) after := by
  obtain ⟨fresh, stored, home, side, price, live, own⟩ := readMaker_ok read
  have isHome : facing.maker.market = request.marketAddress := meets.maker ▸ home
  have isSide : facing.maker.side = request.makerSide := meets.maker ▸ side
  have isPrice : facing.maker.price = cursor.level.price := meets.maker ▸ price
  have rest : facing.maker.remainingQuantity = maker.remainingQuantity := by rw [meets.maker]
  have count : facing.level.orderCount = cursor.localOrderCount := by rw [meets.level]; rfl
  have worse : facing.level.worsePrice = cursor.level.worsePrice := by rw [meets.level]; rfl
  have empties : facing.Empties ↔ Emptying cursor maker walk.remainingQuantity := by
    rw [Facing.Empties, Emptying, rest, count]
  have address : Pubkey.priceLevel facing.maker.market facing.maker.side facing.maker.price =
      cursor.levelAddress := by rw [isHome, isSide, isPrice, head.address]
  obtain ⟨record, marketStored, retained, best⟩ := taken.market
  obtain ⟨written, orders⟩ := taken.orders
  refine ⟨head.reachable.execute done, taken.elsewhere.1 ▸ head.configured,
    ⟨record, isHome ▸ marketStored, meets.retained.trans retained, ?_⟩, ?_, ?_, ?_, ?_, ?_, ?_⟩
  · rw [best, meets.best, isSide, Function.update_idem]
    simp only [empties, worse, isPrice]
  · intro key unseen
    rw [filledWalk, List.mem_cons, not_or] at unseen
    rw [orders, modify_blurred (Order.setPrevious none) fun _ => rfl, Store.get_set_ne _ _ unseen.1]
    exact head.orders key unseen.2
  · intro key seen
    obtain rfl | earlier := List.mem_cons.mp seen
    · rw [stored]
      exact Option.some_ne_none maker
    · exact head.known key earlier
  · intro key unseen
    have away : key ≠ cursor.levelAddress := fun same => unseen (same ▸ head.entered)
    rw [taken.levels, address]
    split
    · rw [modify_blurred (PriceLevel.setBetter none) fun _ => rfl, Store.get_erase, if_neg away]
      exact head.levels key unseen
    · rw [Store.get_set_ne _ _ away]
      exact head.levels key unseen
  · intro other
    have away : ∀ found, Pubkey.priceLevel request.marketAddress request.takerSide other ≠
        .priceLevel facing.maker.market facing.maker.side found := by
      intro found same
      obtain ⟨-, sided, -⟩ := Pubkey.priceLevel.inj same
      exact side_ne_opposite request.takerSide (sided.trans isSide)
    rw [taken.levels, ← head.own other]
    split
    · rw [Store.get_modify, amend, if_neg, Store.get_erase, if_neg (away _)]
      intro named
      obtain ⟨found, -, same⟩ := Option.map_eq_some_iff.mp named
      exact away found same.symm
    · rw [Store.get_set_ne _ _ (away _)]
  · rw [filledWalk, fills.filled]
    by_cases covered : maker.remainingQuantity ≤ walk.remainingQuantity
    · have lot := (facing.resting head.reachable).lot
      rw [rest, meets.retained.terms.lot] at lot
      rw [min_eq_right covered]
      exact Nat.dvd_sub head.lot lot
    · rw [min_eq_left (Nat.le_of_not_le covered), Nat.sub_self]
      exact Nat.dvd_zero _
  · exact (Nat.sub_le _ _).trans head.fits

theorem Facing.Taken.seated {facing : Facing state config taker request.takerSide request.limitPrice
      walk.remainingQuantity cursor.currentOrder} (taken : facing.Taken after)
    (home : facing.maker.market = request.marketAddress) :
    ∃ later, after.spot.balances.get (.traderBalance request.marketAddress taker.key) =
      some later ∧ spotLedger.free later request.takerSide + facing.cost =
        spotLedger.free facing.balance request.takerSide := home ▸ taken.balance

theorem Meets.next_head {next : Pubkey}
    {facing : Facing state config taker request.takerSide request.limitPrice
      walk.remainingQuantity cursor.currentOrder}
    (meets : Meets request taker market config walk cursor maker fill state facing)
    (head : AtHead base request taker market config walk cursor state)
    (read : readMaker (spotSnapshot base) toBase58 request walk cursor = .ok maker)
    (fills : Fills request cursor maker walk.remainingQuantity fill)
    (done : execute state facing.instruction = .ok after) (taken : facing.Taken after)
    (full : maker.remainingQuantity ≤ walk.remainingQuantity) (link : maker.nextOrder = some next)
    (left : (filledWalk walk cursor fill).remainingQuantity ≠ 0) :
    AtHead base request taker market config (filledWalk walk cursor fill)
      { cursor with
        currentOrder := next, expectedPrevious := some cursor.currentOrder
        localOrderCount := fill.nextOrderCount, localLevelQuantity := fill.nextLevelQuantity }
      after := by
  have stays : ¬Emptying cursor maker walk.remainingQuantity := fun empties => by
    cases link.symm.trans (fills.last empties)
  have several : cursor.localOrderCount ≠ 1 := fun alone => stays ⟨full, alone⟩
  have reached := meets.reaches head read fills done taken
  rw [if_neg stays] at reached
  obtain ⟨-, -, home, side, price, -, -⟩ := readMaker_ok read
  have isHome : facing.maker.market = request.marketAddress := meets.maker ▸ home
  have isSide : facing.maker.side = request.makerSide := meets.maker ▸ side
  have isPrice : facing.maker.price = cursor.level.price := meets.maker ▸ price
  have rest : facing.maker.remainingQuantity = maker.remainingQuantity := by rw [meets.maker]
  have isNext : facing.maker.nextOrder = some next := by rw [meets.maker, ← link]
  have count : facing.level.orderCount = cursor.localOrderCount := by rw [meets.level]; rfl
  have total : facing.level.totalRemainingQuantity = cursor.localLevelQuantity := by
    rw [meets.level]
    rfl
  have kept : ¬facing.Empties := fun empties => several (count ▸ empties.2)
  have address : Pubkey.priceLevel facing.maker.market facing.maker.side facing.maker.price =
      cursor.levelAddress := by rw [isHome, isSide, isPrice, head.address]
  obtain ⟨later, seated, -⟩ := taken.seated isHome
  refine ⟨reached, head.address, head.entered, ?_, ?_, head.cross, Nat.pos_of_ne_zero left,
    later, seated⟩
  · refine ⟨_, by rw [taken.levels, if_neg kept, address, Store.get_set_self], ?_⟩
    simp only [rest, if_pos full, isNext, count, total, Facing.base, headLevel, fills.count,
      fills.total]
    rw [meets.level]
    rfl
  · simp only [fills.count, if_pos full]
    have some_count := head.counted
    omega

theorem Reached.enters {walk' : Traversal} {cursor' : QueueCursor} {price : Nat}
    {better : Option Nat}
    (reached : Reached base request taker market config walk (some price) state)
    (entered : readLevel (spotSnapshot base) toBase58 request walk price better =
      .ok (walk', cursor')) (cross : request.crosses price) (left : 0 < walk.remainingQuantity)
    (seated : ∃ balance, state.spot.balances.get
      (.traderBalance request.marketAddress taker.key) = some balance) :
    walk'.steps = walk.steps ∧ walk'.remainingQuantity = walk.remainingQuantity ∧
      AtHead base request taker market config walk' cursor' state := by
  obtain ⟨level, first, unseen, stored, priced, isFirst, counted, same⟩ := readLevel_ok entered
  obtain ⟨rfl, rfl⟩ := Prod.mk.inj same
  refine ⟨rfl, rfl, ⟨reached.reachable, reached.configured, ?_, reached.orders, reached.known, ?_,
    reached.own, reached.lot, reached.fits⟩, ?_, List.mem_cons_self, ?_, counted, ?_, left, seated⟩
  · rw [priced]
    exact reached.stored
  · intro key other
    exact reached.levels key fun seen => other (List.mem_cons_of_mem _ seen)
  · rw [priced]
  · have shown := reached.levels _ unseen
    rw [stored, Option.map_some, Option.map_eq_some_iff] at shown
    obtain ⟨found, present, same⟩ := shown
    refine ⟨found, present, same.trans (congrArg _ ?_)⟩
    simp only [headLevel, ← isFirst]
  · exact priced ▸ cross

end Head

/-! ## Where a plan goes on or stops -/

/-- Why a plan stopped, as it shows in the best opposing price that the plan leaves. -/
def StopsAt (request : MatchRequest) (remaining : Nat) (best : Option Nat) :
    MatchPlanStopReason → Prop
  | .filled => remaining = 0
  | .bookExhausted => remaining ≠ 0 ∧ best = none
  | .nonCrossing => remaining ≠ 0 ∧ ∃ price, best = some price ∧ ¬request.crosses price
  | .matchCap => remaining ≠ 0 ∧ ∃ price, best = some price ∧ request.crosses price

section Cases

variable {base : Spot} {request : MatchRequest} {toBase58 : Pubkey → String} {room : Nat}
variable {walk : Traversal} {cursor : QueueCursor} {plan : BoundedMatchPlan}

def bestAfter (walk : Traversal) (cursor : QueueCursor) (maker : Order) : Option Nat :=
  if Emptying cursor maker walk.remainingQuantity then cursor.level.worsePrice
  else some cursor.level.price

theorem capReason_stopped {maker : Order} {fill : PlannedFill}
    (fills : Fills request cursor maker walk.remainingQuantity fill)
    (left : (filledWalk walk cursor fill).remainingQuantity ≠ 0)
    (cross : request.crosses cursor.level.price) :
    StopsAt request (filledWalk walk cursor fill).remainingQuantity (bestAfter walk cursor maker)
      (capReason request maker cursor.level) := by
  have full : maker.remainingQuantity ≤ walk.remainingQuantity := by
    simp only [filledWalk, fills.filled] at left
    omega
  rw [capReason, bestAfter]
  cases link : maker.nextOrder with
  | some next =>
      rw [if_neg fun empties => by cases link.symm.trans (fills.last empties)]
      exact ⟨left, _, rfl, cross⟩
  | none =>
      have empties : Emptying cursor maker walk.remainingQuantity :=
        ⟨full, not_not.mp fun several => fills.follows full several link⟩
      rw [if_pos empties]
      cases cursor.level.worsePrice with
      | none => exact ⟨left, rfl⟩
      | some worsePrice =>
          dsimp only
          split
          · next crossing => exact ⟨left, _, rfl, crossing⟩
          · next apart => exact ⟨left, _, rfl, apart⟩

theorem planQueue_cases (counted : cursor.localOrderCount ≠ 0)
    (cross : request.crosses cursor.level.price)
    (done : planQueue (spotSnapshot base) toBase58 request (room + 1) walk cursor = .ok plan) :
    ∃ maker fill, readMaker (spotSnapshot base) toBase58 request walk cursor = .ok maker ∧
      planFill request walk.remainingQuantity cursor maker = .ok fill ∧
      ((∃ reason, plan = ⟨walk.steps ++ [fill.step],
          (filledWalk walk cursor fill).remainingQuantity, reason⟩ ∧
        StopsAt request (filledWalk walk cursor fill).remainingQuantity
          (bestAfter walk cursor maker) reason ∧ (reason = .matchCap → room = 0)) ∨
      (filledWalk walk cursor fill).remainingQuantity ≠ 0 ∧ room ≠ 0 ∧
        maker.remainingQuantity ≤ walk.remainingQuantity ∧
        ((∃ next, maker.nextOrder = some next ∧
          planQueue (spotSnapshot base) toBase58 request room (filledWalk walk cursor fill)
            { cursor with
              currentOrder := next, expectedPrevious := some cursor.currentOrder
              localOrderCount := fill.nextOrderCount
              localLevelQuantity := fill.nextLevelQuantity } = .ok plan) ∨
        ∃ price better walk' cursor', bestAfter walk cursor maker = some price ∧
          request.crosses price ∧
          readLevel (spotSnapshot base) toBase58 request (filledWalk walk cursor fill) price better =
            .ok (walk', cursor') ∧
          planQueue (spotSnapshot base) toBase58 request room walk' cursor' = .ok plan)) := by
  rw [planQueue] at done
  simp only [bind_eq_ok] at done
  obtain ⟨maker, read, fill, planned, done⟩ := done
  have fills := planFill_ok counted planned
  refine ⟨maker, fill, read, planned, ?_⟩
  have left_eq : (filledWalk walk cursor fill).remainingQuantity =
      walk.remainingQuantity - fill.step.fillQuantity := rfl
  split at done
  · next none_left =>
      rw [pure_eq_ok] at done
      exact .inl ⟨.filled, done.symm, none_left, fun other => by cases other⟩
  · next left =>
      have full : maker.remainingQuantity ≤ walk.remainingQuantity := by
        rw [fills.filled] at left
        omega
      split at done
      · next capped =>
          rw [pure_eq_ok] at done
          exact .inl ⟨_, done.symm, capReason_stopped fills left cross, fun _ => capped⟩
      · next more =>
          rw [bind_eq_ok] at done
          obtain ⟨_, -, done⟩ := done
          split at done
          · next next link => exact .inr ⟨left, more, full, .inl ⟨next, link, done⟩⟩
          · next alone =>
              have empties : Emptying cursor maker walk.remainingQuantity :=
                ⟨full, not_not.mp fun several => fills.follows full several alone⟩
              rw [bind_eq_ok] at done
              obtain ⟨entered, enters, done⟩ := done
              rw [bestAfter, if_pos empties]
              cases worse : cursor.level.worsePrice with
              | none =>
                  rw [worse, enterPrice, pure_eq_ok] at enters
                  cases enters
                  rw [pure_eq_ok] at done
                  exact .inl ⟨_, done.symm, ⟨left, rfl⟩, fun other => by cases other⟩
              | some price =>
                  rw [worse, enterPrice] at enters
                  split at enters
                  · next crossing =>
                      simp only [bind_eq_ok, pure_eq_ok] at enters
                      obtain ⟨⟨walk', cursor'⟩, readIt, rfl⟩ := enters
                      exact .inr ⟨left, more, full, .inr ⟨price, _, walk', cursor', rfl, crossing,
                        readIt, done⟩⟩
                  · next apart =>
                      rw [pure_eq_ok] at enters
                      cases enters
                      rw [pure_eq_ok] at done
                      exact .inl ⟨_, done.symm, ⟨left, price, rfl, apart⟩,
                        fun other => by cases other⟩

end Cases

/-! ## Execution -/

section Execution

variable {base : Spot} {request : MatchRequest} {taker : Wallet} {market : Market}
variable {config : ProtocolConfig} {toBase58 : Pubkey → String}

def stepGross (market : Market) (step : MatchStep) : Nat :=
  step.makerPrice * step.fillQuantity / 10 ^ market.baseDecimals

def stepCost (market : Market) (config : ProtocolConfig) (side : OrderSide) (step : MatchStep) :
    Nat :=
  takerCost side (stepGross market step) (takerFee (stepGross market step) config.takerFeeBps)
    step.fillQuantity

variable (base request taker market config) in
/-- The steps are accepted as far as the taker can pay, if and only if each is worth an atom; and
after them the book is what the plan says. -/
structure CarriesOut (state : State) (steps : List MatchStep) (remaining : Nat)
    (reason : MatchPlanStopReason) : Prop where
  accepted : ∀ balance, state.spot.balances.get
      (.traderBalance request.marketAddress taker.key) = some balance →
    (steps.map (stepCost market config request.takerSide)).sum ≤
      spotLedger.free balance request.takerSide →
    ((∃ after, (steps.map (MatchStep.instruction request taker)).foldlM execute state = .ok after) ↔
      ∀ step ∈ steps, 0 < stepGross market step)
  reached : ∀ after, (steps.map (MatchStep.instruction request taker)).foldlM execute state =
      .ok after → ∃ walk best, Reached base request taker market config walk best after ∧
    walk.remainingQuantity = remaining ∧ StopsAt request remaining best reason
  paid : ∀ after balance, (steps.map (MatchStep.instruction request taker)).foldlM execute state =
      .ok after → state.spot.balances.get
        (.traderBalance request.marketAddress taker.key) = some balance →
    ∃ later, after.spot.balances.get (.traderBalance request.marketAddress taker.key) = some later ∧
      spotLedger.free later request.takerSide +
        (steps.map (stepCost market config request.takerSide)).sum =
          spotLedger.free balance request.takerSide

theorem CarriesOut.cons {walk : Traversal} {cursor : QueueCursor} {maker : Order}
    {fill : PlannedFill} {state : State} {steps : List MatchStep} {remaining : Nat}
    {reason : MatchPlanStopReason} (planning : Planning request taker market)
    (head : AtHead base request taker market config walk cursor state)
    (read : readMaker (spotSnapshot base) toBase58 request walk cursor = .ok maker)
    (planned : planFill request walk.remainingQuantity cursor maker = .ok fill)
    (later : ∀ facing, Meets request taker market config walk cursor maker fill state facing →
      ∀ after, execute state facing.instruction = .ok after → facing.Taken after →
      CarriesOut base request taker market config after steps remaining reason) :
    CarriesOut base request taker market config state (fill.step :: steps) remaining reason := by
  obtain ⟨facing, meets⟩ := head.meets planning read planned
  have fills := planFill_ok head.counted planned
  obtain ⟨-, -, home, -, -, -, -⟩ := readMaker_ok read
  have isHome : facing.maker.market = request.marketAddress := meets.maker ▸ home
  have rest : facing.maker.remainingQuantity = maker.remainingQuantity := by rw [meets.maker]
  have price : facing.maker.price = maker.price := by rw [meets.maker]
  have gross : facing.gross = stepGross market fill.step := by
    rw [Facing.gross, Facing.base, stepGross, rest, price, meets.retained.terms.decimals,
      fills.price, fills.filled]
  have cost : facing.cost = stepCost market config request.takerSide fill.step := by
    have fee : facing.fee = takerFee (stepGross market fill.step) config.takerFeeBps :=
      congrArg (takerFee · config.takerFeeBps) gross
    have part : facing.base = fill.step.fillQuantity := by
      rw [Facing.base, rest, fills.filled]
    rw [Facing.cost, stepCost, fee, gross, part]
  have same : ∀ balance, state.spot.balances.get
      (.traderBalance request.marketAddress taker.key) = some balance → facing.balance = balance := by
    intro balance held
    have stored := facing.balanceStored
    rw [isHome, held, Option.some.injEq] at stored
    exact stored.symm
  have peeled : ∀ after, ((fill.step :: steps).map (MatchStep.instruction request taker)).foldlM
      execute state = .ok after → ∃ middle, execute state facing.instruction = .ok middle ∧
      facing.Taken middle ∧ (steps.map (MatchStep.instruction request taker)).foldlM execute middle =
        .ok after := by
    intro after ran
    rw [List.map_cons, List.foldlM_cons, bind_eq_ok, ← meets.instruction] at ran
    obtain ⟨middle, done, ran⟩ := ran
    exact ⟨middle, done, facing.taken head.reachable done, ran⟩
  refine ⟨fun balance held funds => ⟨?_, fun worth => ?_⟩, fun after ran => ?_,
    fun after balance ran held => ?_⟩
  · rintro ⟨after, ran⟩
    obtain ⟨middle, done, taken, ran⟩ := peeled after ran
    obtain ⟨left, seated, pays⟩ := taken.seated isHome
    rw [same balance held, cost] at pays
    rw [List.map_cons, List.sum_cons] at funds
    rw [List.forall_mem_cons, ← gross]
    exact ⟨taken.worth, ((later facing meets middle done taken).accepted left seated
      (by omega)).mp ⟨after, ran⟩⟩
  · rw [List.map_cons, List.sum_cons] at funds
    rw [List.forall_mem_cons, ← gross] at worth
    obtain ⟨middle, done⟩ := facing.accepts head.reachable worth.1 (by
      rw [same balance held, cost]
      omega)
    have taken := facing.taken head.reachable done
    obtain ⟨left, seated, pays⟩ := taken.seated isHome
    rw [same balance held, cost] at pays
    obtain ⟨after, ran⟩ := ((later facing meets middle done taken).accepted left seated
      (by omega)).mpr worth.2
    refine ⟨after, ?_⟩
    rw [List.map_cons, List.foldlM_cons, ← meets.instruction, done]
    exact ran
  · obtain ⟨middle, done, taken, ran⟩ := peeled after ran
    exact (later facing meets middle done taken).reached after ran
  · obtain ⟨middle, done, taken, ran⟩ := peeled after ran
    obtain ⟨left, seated, pays⟩ := taken.seated isHome
    rw [same balance held, cost] at pays
    obtain ⟨last, stored, total⟩ := (later facing meets middle done taken).paid after left ran seated
    refine ⟨last, stored, ?_⟩
    rw [List.map_cons, List.sum_cons]
    omega

theorem CarriesOut.nil {walk : Traversal} {best : Option Nat} {state : State} {remaining : Nat}
    {reason : MatchPlanStopReason} (reached : Reached base request taker market config walk best state)
    (left : walk.remainingQuantity = remaining) (stopped : StopsAt request remaining best reason) :
    CarriesOut base request taker market config state [] remaining reason := by
  refine ⟨fun balance held funds => ⟨fun _ step member => absurd member List.not_mem_nil, fun _ =>
    ⟨state, rfl⟩⟩, ?_, ?_⟩
  · rintro after ⟨⟩
    exact ⟨walk, best, reached, left, stopped⟩
  · rintro after balance ⟨⟩ held
    exact ⟨balance, held, rfl⟩

variable (base request taker market config) in
/-- The steps that a plan adds from a place on, and that they execute from every state in which that
place is the head. -/
def Plans (room : Nat) (walk : Traversal) (cursor : QueueCursor) (plan : BoundedMatchPlan) : Prop :=
  ∃ steps, plan.steps = walk.steps ++ steps ∧ steps ≠ [] ∧ steps.length ≤ room ∧
    (plan.stopReason = .matchCap → steps.length = room) ∧
    (steps.map MatchStep.fillQuantity).sum + plan.remainingQuantity = walk.remainingQuantity ∧
    ∀ state, AtHead base request taker market config walk cursor state →
      CarriesOut base request taker market config state steps plan.remainingQuantity plan.stopReason

theorem Plans.cons {room : Nat} {walk walk' : Traversal} {cursor cursor' : QueueCursor}
    {maker : Order} {fill : PlannedFill} {plan : BoundedMatchPlan}
    (planning : Planning request taker market)
    (read : readMaker (spotSnapshot base) toBase58 request walk cursor = .ok maker)
    (planned : planFill request walk.remainingQuantity cursor maker = .ok fill)
    (within : fill.step.fillQuantity ≤ walk.remainingQuantity)
    (sameSteps : walk'.steps = (filledWalk walk cursor fill).steps)
    (sameLeft : walk'.remainingQuantity = (filledWalk walk cursor fill).remainingQuantity)
    (heads : ∀ state facing, AtHead base request taker market config walk cursor state →
      Meets request taker market config walk cursor maker fill state facing →
      ∀ after, execute state facing.instruction = .ok after → facing.Taken after →
      AtHead base request taker market config walk' cursor' after)
    (rest : Plans base request taker market config room walk' cursor' plan) :
    Plans base request taker market config (room + 1) walk cursor plan := by
  obtain ⟨steps, split, -, short, capped, sum, executes⟩ := rest
  refine ⟨fill.step :: steps, ?_, List.cons_ne_nil _ _, Nat.succ_le_succ short, fun cap => ?_, ?_,
    fun state head => ?_⟩
  · rw [split, sameSteps, filledWalk, List.append_assoc]
    rfl
  · rw [List.length_cons, capped cap]
  · rw [sameLeft] at sum
    simp only [filledWalk] at sum
    rw [List.map_cons, List.sum_cons]
    omega
  · apply CarriesOut.cons planning head read planned
    intro facing meets after done taken
    exact executes after (heads state facing head meets after done taken)

theorem Plans.last {room : Nat} {walk : Traversal} {cursor : QueueCursor} {maker : Order}
    {fill : PlannedFill} {reason : MatchPlanStopReason} (planning : Planning request taker market)
    (counted : cursor.localOrderCount ≠ 0)
    (read : readMaker (spotSnapshot base) toBase58 request walk cursor = .ok maker)
    (planned : planFill request walk.remainingQuantity cursor maker = .ok fill)
    (stopped : StopsAt request (filledWalk walk cursor fill).remainingQuantity
      (bestAfter walk cursor maker) reason) (capped : reason = .matchCap → room = 0) :
    Plans base request taker market config (room + 1) walk cursor
      ⟨walk.steps ++ [fill.step], (filledWalk walk cursor fill).remainingQuantity, reason⟩ := by
  have fills := planFill_ok counted planned
  have within : fill.step.fillQuantity ≤ walk.remainingQuantity :=
    fills.filled ▸ min_le_left _ _
  refine ⟨[fill.step], rfl, List.cons_ne_nil _ _, Nat.le_add_left _ _, fun cap => ?_, ?_,
    fun state head => ?_⟩
  · rw [capped cap]
    rfl
  · rw [List.map_singleton, List.sum_singleton]
    exact Nat.add_sub_cancel' within
  · apply CarriesOut.cons planning head read planned
    intro facing meets after done taken
    exact .nil (meets.reaches head read fills done taken) rfl stopped

theorem planQueue_plans (planning : Planning request taker market) {room : Nat} {walk : Traversal}
    {cursor : QueueCursor} {plan : BoundedMatchPlan} (counted : cursor.localOrderCount ≠ 0)
    (cross : request.crosses cursor.level.price)
    (done : planQueue (spotSnapshot base) toBase58 request (room + 1) walk cursor = .ok plan) :
    Plans base request taker market config (room + 1) walk cursor plan := by
  induction room generalizing walk cursor with
  | zero =>
      obtain ⟨maker, fill, read, planned, ⟨reason, rfl, stopped, capped⟩ | ⟨-, more, -⟩⟩ :=
        planQueue_cases counted cross done
      · exact .last planning counted read planned stopped capped
      · exact absurd rfl more
  | succ room ih =>
      obtain ⟨maker, fill, read, planned, ⟨reason, rfl, stopped, capped⟩ | ⟨left, -, full, goes⟩⟩ :=
        planQueue_cases counted cross done
      · exact .last planning counted read planned stopped capped
      have fills := planFill_ok counted planned
      have within : fill.step.fillQuantity ≤ walk.remainingQuantity :=
        fills.filled ▸ min_le_left _ _
      obtain ⟨next, link, goes⟩ | ⟨price, better, walk', cursor', best, crossing, entered, goes⟩ := goes
      · have several : cursor.localOrderCount ≠ 1 := fun alone => by
          cases link.symm.trans (fills.last ⟨full, alone⟩)
        refine Plans.cons planning read planned within rfl rfl
          (fun state facing head meets after executed taken =>
            meets.next_head head read fills executed taken full link left)
          (ih ?_ cross goes)
        simp only [fills.count, if_pos full]
        omega
      · have facts : walk'.steps = (filledWalk walk cursor fill).steps ∧
            walk'.remainingQuantity = (filledWalk walk cursor fill).remainingQuantity ∧
            cursor'.localOrderCount ≠ 0 ∧ request.crosses cursor'.level.price := by
          obtain ⟨level, first, -, -, rfl, -, someOrders, same⟩ := readLevel_ok entered
          obtain ⟨rfl, rfl⟩ := Prod.mk.inj same
          exact ⟨rfl, rfl, someOrders, crossing⟩
        obtain ⟨sameSteps, sameLeft, someOrders, crosses⟩ := facts
        have heads : ∀ state facing,
            AtHead base request taker market config walk cursor state →
            Meets request taker market config walk cursor maker fill state facing →
            ∀ after, execute state facing.instruction = .ok after → facing.Taken after →
            AtHead base request taker market config walk' cursor' after := by
          intro state facing head meets after executed taken
          have reached := meets.reaches head read fills executed taken
          rw [← bestAfter, best] at reached
          obtain ⟨-, -, home, -⟩ := readMaker_ok read
          obtain ⟨later, seated, -⟩ := taken.seated (meets.maker ▸ home)
          exact (reached.enters entered crossing (Nat.pos_of_ne_zero left) ⟨later, seated⟩).2.2
        exact Plans.cons planning read planned within sameSteps sameLeft heads
          (ih someOrders crosses goes)

theorem Reached.start {state : State} (reachable : Reachable state)
    (configured : state.protocol.config = some config)
    (stored : state.spot.markets.get request.marketAddress = some market)
    (lot : market.quantityLotSize ∣ request.quantity) (fits : request.quantity ≤ u64Max) :
    Reached state.spot request taker market config ⟨[], [], [], request.quantity⟩
      (market.best request.makerSide) state where
  reachable := reachable
  configured := configured
  stored := ⟨market, stored, .refl market, (Function.update_eq_self _ _).symm⟩
  orders _ _ := rfl
  known _ seen := absurd seen List.not_mem_nil
  levels _ _ := rfl
  own _ := rfl
  lot := lot
  fits := fits

/-- A bounded plan has at most three steps, three where it stopped at its cap; they add up with the
remainder; and they execute. -/
theorem planBoundedMatches_carriesOut {state : State} {balance : TraderBalance}
    {plan : BoundedMatchPlan} (reachable : Reachable state)
    (configured : state.protocol.config = some config)
    (stored : state.spot.markets.get request.marketAddress = some market)
    (seated : state.spot.balances.get (.traderBalance request.marketAddress taker.key) =
      some balance) (planning : Planning request taker market)
    (lot : market.quantityLotSize ∣ request.quantity) (fits : request.quantity ≤ u64Max)
    (planned : planBoundedMatches (spotSnapshot state.spot) toBase58 request market = .ok plan) :
    plan.steps.length ≤ maxMatchesPerTransaction ∧
      (plan.stopReason = .matchCap → plan.steps.length = maxMatchesPerTransaction) ∧
      (plan.steps.map MatchStep.fillQuantity).sum + plan.remainingQuantity = request.quantity ∧
      CarriesOut state.spot request taker market config state plan.steps plan.remainingQuantity
        plan.stopReason := by
  have start : Reached state.spot request taker market config ⟨[], [], [], request.quantity⟩
      (market.best request.makerSide) state := .start reachable configured stored lot fits
  simp only [planBoundedMatches, bind_eq_ok, require_eq_ok] at planned
  obtain ⟨_, some_left, entered, enters, planned⟩ := planned
  cases best : market.best request.makerSide with
  | none =>
      rw [best, enterPrice, pure_eq_ok] at enters
      cases enters
      rw [pure_eq_ok] at planned
      cases planned
      rw [best] at start
      exact ⟨Nat.zero_le _, fun other => (by cases other), Nat.zero_add _,
        .nil start rfl ⟨some_left, rfl⟩⟩
  | some price =>
      rw [best, enterPrice] at enters
      rw [best] at start
      split at enters
      · next crossing =>
          simp only [bind_eq_ok, pure_eq_ok] at enters
          obtain ⟨⟨walk, cursor⟩, read, rfl⟩ := enters
          obtain ⟨sameSteps, sameLeft, head⟩ :=
            start.enters read crossing (Nat.pos_of_ne_zero some_left) ⟨balance, seated⟩
          obtain ⟨steps, split, -, short, capped, sum, executes⟩ :
              Plans state.spot request taker market config maxMatchesPerTransaction walk cursor plan :=
            planQueue_plans planning head.counted head.cross planned
          rw [sameSteps, List.nil_append] at split
          rw [sameLeft] at sum
          subst split
          exact ⟨short, capped, sum, executes state head⟩
      · next apart =>
          rw [pure_eq_ok] at enters
          cases enters
          rw [pure_eq_ok] at planned
          cases planned
          exact ⟨Nat.zero_le _, fun other => (by cases other), Nat.zero_add _,
            .nil start rfl ⟨some_left, price, rfl, apart⟩⟩

end Execution

end Tidebook.Proof
