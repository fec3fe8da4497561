import Tidebook.Client.PredictionPlan
import Tidebook.Library.Drain
import Tidebook.Library.Overlay
import Tidebook.Proof.Conservation
import Tidebook.Proof.PredictionHints
import Tidebook.Proof.Reachable

/-! # A planned prediction trade executes as planned

The overlay of the client's plan shows, fill by fill, the accounts that the program leaves; so every
step that the plan contains is accepted, with the amounts that the plan states.
-/

namespace Tidebook.Proof
open Library Program Client

/-! ## Reads through the overlay -/

theorem cached_ok {α : Type} {base store : Store Pubkey α} {cache later : Store Pubkey (Option α)}
    {turn next : Nat} {address : Pubkey} {value : Option α} (shows_ : Shows cache base store)
    (done : cached (faithful base) turn cache address = .ok (value, next, later)) :
    value = store.get address ∧ Shows later base store := by
  rw [cached] at done
  split at done
  · next found known =>
      rw [pure_eq_ok] at done
      cases done
      exact ⟨shows_.hit known, shows_⟩
  · next unknown =>
      simp only [faithful, bind_eq_ok, pure_eq_ok] at done
      obtain ⟨_, ⟨⟩, ⟨⟩⟩ := done
      have same := shows_.miss unknown
      refine ⟨same, ?_⟩
      rw [same]
      exact shows_.reread address

/-- A node that keeps showing one state. -/
def snapshot (base : Prediction) : PredictionMatchingReader where
  predictionOrder := faithful base.orders
  predictionPriceLevel := faithful base.levels
  predictionPosition := faithful base.positions

/-- The overlay reads like a later state, apart from the taker's own position. -/
structure Mirrors (base : Prediction) (taker : Pubkey) (overlay : Overlay)
    (prediction : Prediction) : Prop where
  orders : Shows overlay.orders base.orders prediction.orders
  levels : Shows overlay.levels base.levels prediction.levels
  positions : ∀ key, key ≠ taker →
    (overlay.positions.get key).or (base.positions.get key) = prediction.positions.get key

namespace Mirrors

variable {base prediction : Prediction} {taker address : Pubkey} {overlay later : Overlay}
variable (mirrors : Mirrors base taker overlay prediction)
include mirrors

theorem predictionOrder {order : Option PredictionOrder}
    (done : overlay.predictionOrder (snapshot base) address = .ok (order, later)) :
    order = prediction.orders.get address ∧ Mirrors base taker later prediction := by
  simp only [Overlay.predictionOrder, snapshot, bind_eq_ok, pure_eq_ok, Prod.mk.injEq] at done
  obtain ⟨⟨value, turn, orders⟩, read, rfl, rfl⟩ := done
  obtain ⟨same, shows_⟩ := cached_ok mirrors.orders read
  exact ⟨same, shows_, mirrors.levels, mirrors.positions⟩

theorem predictionPriceLevel {level : Option PredictionPriceLevel}
    (done : overlay.predictionPriceLevel (snapshot base) address = .ok (level, later)) :
    level = prediction.levels.get address ∧ Mirrors base taker later prediction := by
  simp only [Overlay.predictionPriceLevel, snapshot, bind_eq_ok, pure_eq_ok, Prod.mk.injEq] at done
  obtain ⟨⟨value, turn, levels⟩, read, rfl, rfl⟩ := done
  obtain ⟨same, shows_⟩ := cached_ok mirrors.levels read
  exact ⟨same, mirrors.orders, shows_, mirrors.positions⟩

theorem makerPosition {market owner : Pubkey} {maker : PredictionPosition}
    (other : Pubkey.predictionPosition market owner ≠ taker)
    (done : readMakerPosition (snapshot base) overlay market owner = .ok (maker, later)) :
    prediction.positions.get (.predictionPosition market owner) = some maker ∧
      Mirrors base taker later prediction := by
  have here := mirrors.positions _ other
  rw [readMakerPosition] at done
  split at done
  · next found known =>
      rw [pure_eq_ok] at done
      cases done
      rw [known, Option.some_or] at here
      exact ⟨here.symm, mirrors⟩
  · next unknown =>
      simp only [snapshot, faithful, bind_eq_ok, okOr_eq_ok, require_eq_ok, pure_eq_ok,
        Prod.mk.injEq] at done
      obtain ⟨_, ⟨⟩, stored, found, _, -, rfl, rfl⟩ := done
      rw [unknown, Option.none_or, found] at here
      exact ⟨here.symm, mirrors.orders, mirrors.levels, mirrors.positions⟩

end Mirrors

/-! ## The target -/

/-- The target is the head that the book lists, with the accounts that its fill needs. -/
structure Targets (prediction : Prediction) (request : PredictionMatchRequest)
    (book : PredictionOrderBook) (quantity : Nat) (target : PredictionMatchTarget) : Prop where
  home : target.maker.market = request.marketAddress
  isOutcome : target.maker.outcome = request.outcome
  side : target.maker.side = request.side.opposite
  stored : prediction.orders.get target.makerAddress = some target.maker
  live : target.maker.status = .opened
  found : prediction.levels.get (.predictionLevel target.maker.market target.maker.outcome
    target.maker.side target.maker.price) = some target.level
  filed : target.levelAddress = .predictionLevel target.maker.market target.maker.outcome
    target.maker.side target.maker.price
  best : book.bestPrice target.maker.outcome target.maker.side = some target.maker.price
  first : target.level.firstOrder = some target.makerAddress
  front : target.maker.previousOrder = none
  counted : 0 < target.level.orderCount
  accounts : (⟨request.taker, request.marketAddress, target.makerAddress, target.nextOrder,
    target.worseLevel, target.rentRecipient⟩ : MatchPredictionOrder) =
      predictionTake target.maker target.level request.taker target.makerAddress quantity

theorem readHead_ok {base prediction : Prediction} {taker market : Pubkey}
    {overlay later : Overlay} {book : PredictionOrderBook} {outcome : PredictionOutcome}
    {side : OrderSide} {best : Nat} {makerAddress : Pubkey} {level : PredictionPriceLevel}
    {maker : PredictionOrder} (mirrors : Mirrors base taker overlay prediction)
    (done : readHead (snapshot base) overlay market book outcome side best =
      .ok (makerAddress, level, maker, later)) :
    Mirrors base taker later prediction ∧
      prediction.levels.get (.predictionLevel market outcome side best) = some level ∧
      prediction.orders.get makerAddress = some maker ∧ level.firstOrder = some makerAddress ∧
      0 < level.orderCount ∧ maker.previousOrder = none ∧
      validOrder market (.predictionLevel market outcome side best) outcome side best
        book.nextOrderId makerAddress maker := by
  simp only [readHead, bind_eq_ok, okOr_eq_ok, require_eq_ok, pure_eq_ok, Prod.mk.injEq] at done
  obtain ⟨⟨foundLevel, middle⟩, readLevel, _, rfl, _, ⟨sound, -⟩, _, first, ⟨foundOrder, final⟩,
    readOrder, _, rfl, _, ⟨valid, front⟩, _, -, rfl, rfl, rfl, rfl⟩ := done
  obtain ⟨levelIs, middling⟩ := mirrors.predictionPriceLevel readLevel
  obtain ⟨orderIs, ending⟩ := middling.predictionOrder readOrder
  obtain ⟨-, -, -, -, counted, -⟩ := sound
  exact ⟨ending, levelIs.symm, orderIs.symm, first, counted, front, valid⟩

theorem readWorseLevel_ok {base prediction : Prediction} {taker market : Pubkey}
    {overlay later : Overlay} {outcome : PredictionOutcome} {side : OrderSide} {best : Nat}
    {worsePrice : Option Nat} {worse : Option Pubkey}
    (mirrors : Mirrors base taker overlay prediction)
    (done : readWorseLevel (snapshot base) overlay market outcome side best worsePrice =
      .ok (worse, later)) :
    Mirrors base taker later prediction ∧
      worse = worsePrice.map (.predictionLevel market outcome side) := by
  unfold readWorseLevel at done
  cases worsePrice with
  | none =>
      rw [pure_eq_ok] at done
      cases done
      exact ⟨mirrors, rfl⟩
  | some price =>
      simp only [bind_eq_ok, okOr_eq_ok, require_eq_ok, pure_eq_ok, Prod.mk.injEq] at done
      obtain ⟨⟨_, _⟩, read, _, -, _, -, rfl, rfl⟩ := done
      exact ⟨(mirrors.predictionPriceLevel read).2, rfl⟩

theorem readPredictionMatchTarget_ok {base prediction : Prediction} {taker : Pubkey}
    {request : PredictionMatchRequest} {overlay later : Overlay} {book : PredictionOrderBook}
    {quantity : Nat} {target : PredictionMatchTarget}
    (mirrors : Mirrors base taker overlay prediction)
    (done : readPredictionMatchTarget (snapshot base) overlay request.marketAddress book
      request.outcome request.side quantity = .ok (target, later)) :
    Targets prediction request book quantity target ∧ Mirrors base taker later prediction := by
  simp only [readPredictionMatchTarget, bind_eq_ok, okOr_eq_ok, require_eq_ok] at done
  obtain ⟨_, -, _, -, best, isBest, ⟨makerAddress, level, maker, middle⟩, head, done⟩ := done
  obtain ⟨middling, found, stored, first, counted, front, valid⟩ := readHead_ok mirrors head
  obtain ⟨-, home, -, isOutcome, side, rfl, live, -⟩ := valid
  rw [predictionBestPrice_eq] at isBest
  -- The accounts are the only part that depends on how much the taker wants.
  suffices reads : Mirrors base taker later prediction ∧ ∃ next worse recipient,
      target = ⟨makerAddress, .predictionLevel request.marketAddress request.outcome
        request.side.opposite maker.price, maker, level, next, worse, recipient⟩ ∧
      (⟨request.taker, request.marketAddress, makerAddress, next, worse, recipient⟩ :
        MatchPredictionOrder) = predictionTake maker level request.taker makerAddress quantity by
    obtain ⟨ending, next, worse, recipient, rfl, accounts⟩ := reads
    exact ⟨⟨home, isOutcome, side, stored, live, by rw [home, isOutcome, side, found],
      by rw [home, isOutcome, side], by rw [isOutcome, side, isBest], first, front, counted,
      accounts⟩, ending⟩
  simp only [predictionTake, home, isOutcome, side]
  dsimp only at done
  split at done
  · next small =>
      have partly : ¬maker.remainingQuantity ≤ quantity := Nat.not_le.mpr small
      rw [pure_eq_ok] at done
      cases done
      refine ⟨middling, none, none, none, rfl, ?_⟩
      simp only [partly, false_and, if_false]
  · next enough =>
      have full : maker.remainingQuantity ≤ quantity := Nat.not_lt.mp enough
      split at done
      · next several =>
          simp only [readSuccessor, bind_eq_ok, okOr_eq_ok, require_eq_ok, pure_eq_ok,
            Prod.mk.injEq] at done
          obtain ⟨⟨address, _⟩, ⟨_, isNext, ⟨_, last⟩, read, _, -, _, -, rfl, rfl⟩, rfl, rfl⟩ := done
          have stays : level.orderCount ≠ 1 := by omega
          refine ⟨(middling.predictionOrder read).2, some address, none, none, rfl, ?_⟩
          simp only [full, stays, true_and, if_true, if_false, not_false_eq_true, ne_eq, isNext]
      · next alone =>
          have last : level.orderCount = 1 := by omega
          simp only [bind_eq_ok, pure_eq_ok, Prod.mk.injEq] at done
          obtain ⟨⟨worse, after⟩, read, rfl, rfl⟩ := done
          obtain ⟨ending, isWorse⟩ := readWorseLevel_ok middling read
          refine ⟨ending, none, worse, some level.rentPayer, rfl, ?_⟩
          simp only [full, last, true_and, if_true, if_false, not_true_eq_false, ne_eq, isWorse]

/-! ## One fill -/

/-- What the client checked about a fill, and its amounts. -/
structure Quoted (market : PredictionMarket) (position : PredictionPosition)
    (request : PredictionMatchRequest) (maker : PredictionOrder) (quantity feeBps : Nat)
    (quote : PredictionQuote) : Prop where
  opened : market.status = .opened
  priced : 0 < request.limitPrice ∧ request.limitPrice < market.payoutPerContract ∧
    0 < market.priceTick ∧ market.priceTick ∣ request.limitPrice
  limitFits : request.limitPrice ≤ u64Max
  some_quantity : 0 < quantity
  capped : feeBps ≤ maxTakerFeeBps
  own : maker.owner ≠ request.taker.key
  cross : request.side.NoLater request.limitPrice maker.price
  backing : maker.lockedCollateral = match request.side.opposite with
    | .bid => maker.price * maker.remainingQuantity
    | .ask => maker.remainingQuantity
  fill : quote.fill = min quantity maker.remainingQuantity
  notional : quote.notional = maker.price * quote.fill
  fits : quote.notional ≤ u64Max
  fee : quote.fee = takerFee quote.notional feeBps
  bid : request.side = .bid → quote.cash = quote.notional + quote.fee ∧ quote.cash ≤ u64Max ∧
    quote.cash ≤ position.collateralFree
  ask : request.side = .ask → quote.cash = quote.notional - quote.fee ∧
    quote.fee ≤ quote.notional ∧ quote.fill ≤ position.contractsFree request.outcome

theorem validatePredictionMatch_ok {market : PredictionMarket} {book : PredictionOrderBook}
    {position : PredictionPosition} {target : PredictionMatchTarget}
    {request : PredictionMatchRequest} {quantity feeBps : Nat} {now : Int} {quote : PredictionQuote}
    (done : validatePredictionMatch market book position target request.outcome request.side
      request.limitPrice quantity feeBps request.taker.key now = .ok quote) :
    Quoted market position request target.maker quantity feeBps quote := by
  obtain ⟨marketAddress, taker, outcome, side, limitPrice, size⟩ := request
  simp only [validatePredictionMatch, bind_eq_ok, require_eq_ok] at done
  obtain ⟨_, ⟨opened, -⟩, _, ⟨some_quantity, -⟩, _, ⟨positive, below, limitFits, tick, grid⟩, _,
    capped, _, -, _, own, _, -, _, cross, _, ⟨backing, -⟩, _, fits, done⟩ := done
  cases side with
  | bid =>
      simp only [bind_eq_ok, require_eq_ok, pure_eq_ok] at done
      obtain ⟨_, cashFits, _, enough, _, -, rfl⟩ := done
      exact ⟨opened, ⟨positive, below, tick, grid⟩, limitFits, some_quantity, capped, own, cross,
        backing, rfl, rfl, fits, rfl, fun _ => ⟨rfl, cashFits, enough⟩, fun other => by cases other⟩
  | ask =>
      simp only [bind_eq_ok, require_eq_ok, pure_eq_ok] at done
      obtain ⟨_, charged, _, enough, _, -, rfl⟩ := done
      exact ⟨opened, ⟨positive, below, tick, grid⟩, limitFits, some_quantity, capped, own, cross,
        backing, rfl, rfl, fits, rfl, fun other => (by cases other), fun _ => ⟨rfl, charged, enough⟩⟩

/-- What the client previews is what the program settles. -/
theorem previewSettlement_ok {market : PredictionMarket} {request : PredictionMatchRequest}
    {order : PredictionOrder} {quantity feeBps : Nat}
    {quote : PredictionQuote} {maker taker makerSettled takerSettled : PredictionPosition}
    (quoted : Quoted market taker request order quantity feeBps quote)
    (backed : order.lockedCollateral ≤ match request.side.opposite with
      | .bid => maker.collateralLocked
      | .ask => maker.contractsLocked request.outcome)
    (done : previewSettlement request.outcome request.side quote maker taker =
      .ok (makerSettled, takerSettled)) :
    settlePositions request.outcome request.side order.lockedCollateral quote.fill quote.notional
      quote.fee maker taker = .ok (makerSettled, takerSettled) := by
  obtain ⟨marketAddress, owner, outcome, side, limitPrice, size⟩ := request
  have filled : quote.fill ≤ order.remainingQuantity := quoted.fill ▸ min_le_right _ _
  have worth := quoted.notional
  have lock := quoted.backing
  cases side with
  | bid =>
      obtain ⟨cash, cashFits, enough⟩ := quoted.bid rfl
      simp only [OrderSide.opposite] at backed lock
      simp only [previewSettlement, checkedU64, bind_eq_ok, require_eq_ok, pure_eq_ok,
        Prod.mk.injEq] at done
      obtain ⟨_, ⟨_, contracts, rfl⟩, _, ⟨_, collateral, rfl⟩, rfl, rfl⟩ := done
      simp only [settlePositions, bind_eq_ok, require_eq_ok, checkedAdd_eq_ok, checkedSub_eq_ok,
        pure_eq_ok]
      refine ⟨(), backed, _, ⟨by omega, cash⟩, _, ⟨enough, rfl⟩, _, ⟨collateral, rfl⟩, _,
        ⟨by omega, rfl⟩, _, ⟨contracts, rfl⟩, rfl⟩
  | ask =>
      obtain ⟨cash, charged, enough⟩ := quoted.ask rfl
      simp only [OrderSide.opposite] at backed lock
      have covered : quote.notional ≤ maker.collateralLocked := by
        rw [worth]
        exact (Nat.mul_le_mul_left _ filled).trans (lock ▸ backed)
      simp only [previewSettlement, checkedU64, bind_eq_ok, require_eq_ok, pure_eq_ok,
        Prod.mk.injEq] at done
      obtain ⟨_, ⟨_, collateral, rfl⟩, _, ⟨_, contracts, rfl⟩, rfl, rfl⟩ := done
      simp only [settlePositions, bind_eq_ok, require_eq_ok, checkedAdd_eq_ok, checkedSub_eq_ok,
        pure_eq_ok]
      exact ⟨(), backed, _, ⟨enough, rfl⟩, _, ⟨charged, cash⟩, _, ⟨collateral, rfl⟩, _,
        ⟨covered, rfl⟩, _, ⟨contracts, rfl⟩, rfl⟩

theorem promote_ok {base middle : Prediction} {taker : Pubkey} {overlay later : Overlay}
    {book headed : PredictionOrderBook} {outcome : PredictionOutcome} {side : OrderSide}
    {target : PredictionMatchTarget} {full : Bool} {count rest : Nat}
    (mirrors : Mirrors base taker overlay middle)
    (done : promote (snapshot base) overlay book outcome side target full count rest =
      .ok (headed, later)) :
    headed = (if full ∧ count = 0 then book.setBestPrice outcome side target.level.worsePrice
      else book) ∧
    Mirrors base taker later { middle with
      orders := if full ∧ count = 0 then middle.orders
        else middle.orders.modify target.nextOrder (PredictionOrder.setPrevious none)
      levels := if full ∧ count = 0 then
          (middle.levels.erase target.levelAddress).modify target.worseLevel
            (PredictionPriceLevel.setBetter none)
        else middle.levels.set target.levelAddress { target.level with
          orderCount := count, totalRemainingQuantity := rest
          firstOrder := if full then target.maker.nextOrder else target.level.firstOrder } } := by
  unfold promote at done
  by_cases removes : full ∧ count = 0
  · have erased : Mirrors base taker
        { overlay with levels := overlay.levels.set target.levelAddress none }
        { middle with levels := middle.levels.erase target.levelAddress } :=
      ⟨mirrors.orders, mirrors.levels.remove _, mirrors.positions⟩
    simp only [if_pos removes] at done ⊢
    simp only [bind_eq_ok, pure_eq_ok, Prod.mk.injEq] at done
    obtain ⟨after, promoted, rfl, rfl⟩ := done
    refine ⟨rfl, ?_⟩
    split at promoted
    · next absent =>
        rw [pure_eq_ok] at promoted
        cases promoted
        rw [absent]
        exact erased
    · next address present =>
        simp only [bind_eq_ok, okOr_eq_ok, pure_eq_ok] at promoted
        obtain ⟨⟨_, read⟩, fetched, worse, rfl, rfl⟩ := promoted
        obtain ⟨found, reading⟩ := erased.predictionPriceLevel fetched
        rw [present, Store.modify_some found.symm]
        exact ⟨reading.orders, reading.levels.write _ _, reading.positions⟩
  · have written : Mirrors base taker
        { overlay with levels := overlay.levels.set target.levelAddress (some { target.level with
          orderCount := count, totalRemainingQuantity := rest
          firstOrder := if full then target.maker.nextOrder else target.level.firstOrder }) }
        { middle with levels := middle.levels.set target.levelAddress { target.level with
          orderCount := count, totalRemainingQuantity := rest
          firstOrder := if full then target.maker.nextOrder else target.level.firstOrder } } :=
      ⟨mirrors.orders, mirrors.levels.write _ _, mirrors.positions⟩
    simp only [if_neg removes] at done ⊢
    simp only [bind_eq_ok, pure_eq_ok, Prod.mk.injEq] at done
    obtain ⟨after, promoted, rfl, rfl⟩ := done
    refine ⟨rfl, ?_⟩
    split at promoted
    · next absent =>
        rw [pure_eq_ok] at promoted
        cases promoted
        rw [absent]
        exact written
    · next address present =>
        simp only [bind_eq_ok, okOr_eq_ok, pure_eq_ok] at promoted
        obtain ⟨⟨_, read⟩, fetched, next, rfl, rfl⟩ := promoted
        obtain ⟨found, reading⟩ := written.predictionOrder fetched
        have present_ : middle.orders.get address = some next := found.symm
        rw [present, Store.modify_some present_]
        exact ⟨reading.orders.write _ _, reading.levels, reading.positions⟩

/-! ## What a fill leaves -/

section Filled

variable {prediction : Prediction} {now : Int} {config : ProtocolConfig} {taker : Wallet}
variable {key makerKey : Pubkey} {outcome : PredictionOutcome} {takerSide : OrderSide}
variable {limit quantity : Nat}
variable (fill : PredictionFill prediction now config taker key makerKey outcome takerSide limit
  quantity) (holds : PredictionInvariant prediction)

include holds

theorem PredictionFill.front : fill.order.previousOrder = none :=
  (holds.sound.ends fill.orderStored (predictionShelf_live.mpr fill.live) fill.levelStored).1.mp
    fill.first

theorem PredictionFill.top : fill.level.betterPrice = none := by
  have here : prediction.levels.get (predictionShelf.file fill.order.market
      ((fill.order.outcome, fill.order.side), fill.order.price)) = some fill.level :=
    fill.levelStored
  refine (holds.sound.top here).mp ?_
  rw [predictionHeads_stored fill.bookStored]
  exact fill.best

theorem PredictionFill.result_orders :
    fill.result.orders = (prediction.orders.set makerKey
        (fill.reduced (fill.order.remainingQuantity ≤ quantity))).modify
      (if fill.order.remainingQuantity ≤ quantity then fill.order.nextOrder else none)
      (PredictionOrder.setPrevious none) := by
  by_cases full : fill.order.remainingQuantity ≤ quantity
  · have front : (predictionShelf.node fill.order).link.prev = none := fill.front holds
    simp only [PredictionFill.result, if_pos full, decide_eq_true full, PredictionDeparture.orders,
      Shelf.unlink, Shelf.relink, front, Store.modify_none]
    rfl
  · simp only [PredictionFill.result, if_neg full, decide_eq_false full, Store.modify_none]

theorem PredictionFill.result_levels :
    fill.result.levels =
      if fill.order.remainingQuantity ≤ quantity ∧ fill.level.orderCount = 1 then
        (prediction.levels.erase (.predictionLevel fill.order.market fill.order.outcome
          fill.order.side fill.order.price)).modify
          (fill.level.worsePrice.map
            (.predictionLevel fill.order.market fill.order.outcome fill.order.side))
          (PredictionPriceLevel.setBetter none)
      else prediction.levels.set
        (.predictionLevel fill.order.market fill.order.outcome fill.order.side fill.order.price)
        { fill.level with
          orderCount := if fill.order.remainingQuantity ≤ quantity then fill.level.orderCount - 1
            else fill.level.orderCount
          totalRemainingQuantity := fill.level.totalRemainingQuantity - fill.filled
          firstOrder := if fill.order.remainingQuantity ≤ quantity then fill.order.nextOrder
            else fill.level.firstOrder } := by
  by_cases full : fill.order.remainingQuantity ≤ quantity
  · simp only [PredictionFill.result, PredictionDeparture.levels, full, true_and, if_true]
    split
    · next last =>
        have top : (predictionShelf.levelNode fill.level).link.prev = none := fill.top holds
        rw [Shelf.vacate_last _ last, Shelf.relevel, top]
        rfl
    · next stays =>
        obtain ⟨_, several, -, -⟩ := holds.sound.alone fill.orderStored
          (predictionShelf_live.mpr fill.live) fill.levelStored
        have front := fill.front holds
        have some_next : fill.order.nextOrder ≠ none :=
          (several stays).1.resolve_left fun previous => previous front
        rw [Shelf.vacate_stays _ stays, PredictionFill.filled, min_eq_right full]
        simp only [PredictionPriceLevel.vacated, PredictionPriceLevel.unlink, front, some_next,
          if_true, if_false]
        rfl
  · simp only [PredictionFill.result, full, false_and, if_false]

end Filled

/-! ## The draft follows the program -/

structure Follows (base : Prediction) (request : PredictionMatchRequest) (draft : Draft)
    (prediction : Prediction) : Prop where
  market : prediction.markets.get request.marketAddress = some draft.market
  book : prediction.books.get (.predictionBook request.marketAddress) = some draft.book
  taker : prediction.positions.get
    (.predictionPosition request.marketAddress request.taker.key) = some draft.taker
  fees : ∃ record, prediction.fees.get (.marketFees request.marketAddress) = some record ∧
    record.accruedQuoteFees = draft.fees
  mirrors : Mirrors base (.predictionPosition request.marketAddress request.taker.key)
    draft.overlay prediction

theorem settlePositions_unique {outcome : PredictionOutcome} {takerSide : OrderSide}
    {backing other fill notional fee : Nat} {maker taker : PredictionPosition}
    {first second : PredictionPosition × PredictionPosition}
    (one : settlePositions outcome takerSide backing fill notional fee maker taker = .ok first)
    (two : settlePositions outcome takerSide other fill notional fee maker taker = .ok second) :
    first = second := by
  cases takerSide with
  | bid =>
      simp only [settlePositions, bind_eq_ok, require_eq_ok] at one two
      obtain ⟨_, -, one⟩ := one
      obtain ⟨_, -, two⟩ := two
      simp only [checkedAdd_eq_ok, checkedSub_eq_ok, pure_eq_ok] at one two
      obtain ⟨_, ⟨-, rfl⟩, _, ⟨-, rfl⟩, _, ⟨-, rfl⟩, _, ⟨-, rfl⟩, _, ⟨-, rfl⟩, rfl⟩ := one
      obtain ⟨_, ⟨-, rfl⟩, _, ⟨-, rfl⟩, _, ⟨-, rfl⟩, _, ⟨-, rfl⟩, _, ⟨-, rfl⟩, rfl⟩ := two
      rfl
  | ask =>
      simp only [settlePositions, bind_eq_ok, require_eq_ok] at one two
      obtain ⟨_, -, one⟩ := one
      obtain ⟨_, -, two⟩ := two
      simp only [checkedAdd_eq_ok, checkedSub_eq_ok, pure_eq_ok] at one two
      obtain ⟨_, ⟨-, rfl⟩, _, ⟨-, rfl⟩, _, ⟨-, rfl⟩, _, ⟨-, rfl⟩, _, ⟨-, rfl⟩, rfl⟩ := one
      obtain ⟨_, ⟨-, rfl⟩, _, ⟨-, rfl⟩, _, ⟨-, rfl⟩, _, ⟨-, rfl⟩, _, ⟨-, rfl⟩, rfl⟩ := two
      rfl

structure Adds (request : PredictionMatchRequest) (draft next : Draft)
    (step : PredictionMatchStep) : Prop where
  steps : next.steps = draft.steps ++ [step]
  requested : step.requestedQuantity = draft.remaining
  remaining : next.remaining + step.fillQuantity = draft.remaining
  filled : 0 < step.fillQuantity
  worth : step.notional = step.target.maker.price * step.fillQuantity
  totalNotional : next.totalNotional = draft.totalNotional + step.notional
  totalFee : next.totalFee = draft.totalFee + step.fee
  fees : next.fees = draft.fees + step.fee
  bid : request.side = .bid →
    next.totalCash = draft.totalCash + (step.notional + step.fee) ∧
    next.taker.collateralFree + (step.notional + step.fee) = draft.taker.collateralFree ∧
    next.taker.contractsFree request.outcome =
      draft.taker.contractsFree request.outcome + step.fillQuantity
  ask : request.side = .ask →
    next.totalCash + step.fee = draft.totalCash + step.notional ∧ step.fee ≤ step.notional ∧
    next.taker.collateralFree + step.fee = draft.taker.collateralFree + step.notional ∧
    next.taker.contractsFree request.outcome + step.fillQuantity =
      draft.taker.contractsFree request.outcome

section Fill

variable {base : Prediction} {request : PredictionMatchRequest} {draft next : Draft} {state : State}
variable {config : ProtocolConfig} {now : Int}

theorem checkedU64Sub_ok {value amount result : Nat} {label : String}
    (done : checkedU64Sub value amount label = .ok result) : result = value - amount := by
  simp only [checkedU64Sub, checkedU64, bind_eq_ok, require_eq_ok, pure_eq_ok] at done
  obtain ⟨_, -, _, -, rfl⟩ := done
  rfl

theorem checkedU64_fewer {full : Prop} [Decidable full] {value result : Nat} {label : String}
    (done : (if decide full = true then checkedU64Sub value 1 label else pure value) = .ok result) :
    result = if full then value - 1 else value := by
  by_cases leaves : full
  · rw [if_pos (decide_eq_true leaves)] at done
    rw [if_pos leaves]
    exact checkedU64Sub_ok done
  · rw [if_neg (by simp [leaves]), pure_eq_ok] at done
    rw [if_neg leaves, ← done]

theorem Targets.rests {prediction : Prediction} {book : PredictionOrderBook} {quantity : Nat}
    {target : PredictionMatchTarget} (targets : Targets prediction request book quantity target)
    (holds : PredictionInvariant prediction) : 0 < target.maker.remainingQuantity := by
  obtain ⟨_, -, rest⟩ := holds.resting _ _ targets.stored targets.live
  exact rest.remaining_pos

theorem fill_record {prediction : Prediction} {clock : Int} {quantity feeBps : Nat}
    {market : PredictionMarket} {position : PredictionPosition} {quote : PredictionQuote}
    {makerAddress : Pubkey} {maker : PredictionOrder}
    (fill : PredictionFill prediction clock config request.taker request.marketAddress
      makerAddress request.outcome request.side request.limitPrice quantity)
    (sameOrder : fill.order = maker)
    (quoted : Quoted market position request maker quantity feeBps quote)
    (side : maker.side = request.side.opposite) (filled : fill.filled = quote.fill)
    (front : fill.order.previousOrder = none) :
    fill.reduced (quote.fill = maker.remainingQuantity) = { maker with
      remainingQuantity := maker.remainingQuantity - quote.fill
      lockedCollateral := maker.lockedCollateral -
        (match request.side.opposite with | .bid => quote.notional | .ask => quote.fill)
      status := if decide (quote.fill = maker.remainingQuantity) then .filled else maker.status
      nextOrder := if decide (quote.fill = maker.remainingQuantity) then none
        else maker.nextOrder } := by
  have debit : fill.debit =
      match request.side.opposite with | .bid => quote.notional | .ask => quote.fill := by
    rw [PredictionFill.debit, filled, sameOrder, side, quoted.notional]
    cases request.side <;> rfl
  rw [PredictionFill.reduced, filled, debit, sameOrder]
  rw [sameOrder] at front
  by_cases full : quote.fill = maker.remainingQuantity
  · simp only [PredictionOrder.fill, full, decide_true, if_true, ← front]
  · simp only [PredictionOrder.fill, full, decide_false, Bool.false_eq_true, if_false]

theorem fill_adds {target : PredictionMatchTarget} {quote : PredictionQuote} {feeBps : Nat}
    {maker makerSettled takerSettled : PredictionPosition} {market : PredictionMarket}
    {book : PredictionOrderBook} {overlay : Overlay}
    (quoted : Quoted draft.market draft.taker request target.maker draft.remaining feeBps quote)
    (rests : 0 < target.maker.remainingQuantity)
    (previewed : previewSettlement request.outcome request.side quote maker draft.taker =
      .ok (makerSettled, takerSettled)) :
    Adds request draft
      { market := market, book := book, taker := takerSettled, fees := draft.fees + quote.fee
        overlay := overlay
        steps := draft.steps ++
          [⟨target, draft.remaining, quote.fill, quote.notional, quote.fee⟩]
        remaining := draft.remaining - quote.fill
        totalNotional := draft.totalNotional + quote.notional
        totalFee := draft.totalFee + quote.fee
        totalCash := draft.totalCash + quote.cash }
      ⟨target, draft.remaining, quote.fill, quote.notional, quote.fee⟩ := by
  have filled := quoted.fill
  have some_quantity := quoted.some_quantity
  refine ⟨rfl, rfl, ?_, ?_, quoted.notional, rfl, rfl, rfl, fun isBid => ?_, fun isAsk => ?_⟩
  · dsimp only
    omega
  · dsimp only
    omega
  · obtain ⟨cash, -, enough⟩ := quoted.bid isBid
    simp only [previewSettlement, isBid, checkedU64, bind_eq_ok, require_eq_ok, pure_eq_ok,
      Prod.mk.injEq] at previewed
    obtain ⟨_, ⟨_, _, rfl⟩, _, ⟨_, _, rfl⟩, -, rfl⟩ := previewed
    refine ⟨by rw [cash], ?_, ?_⟩
    · cases request.outcome <;> simp only [PredictionPosition.setContractsFree] <;> omega
    · cases request.outcome <;> rfl
  · obtain ⟨cash, charged, enough⟩ := quoted.ask isAsk
    simp only [previewSettlement, isAsk, checkedU64, bind_eq_ok, require_eq_ok, pure_eq_ok,
      Prod.mk.injEq] at previewed
    obtain ⟨_, ⟨_, _, rfl⟩, _, ⟨_, _, rfl⟩, -, rfl⟩ := previewed
    refine ⟨?_, charged, ?_, ?_⟩
    · dsimp only
      omega
    · cases request.outcome <;> simp only [PredictionPosition.setContractsFree] <;> omega
    · cases outcome : request.outcome <;> rw [outcome] at enough <;>
        simp only [PredictionPosition.setContractsFree, PredictionPosition.contractsFree] at enough ⊢ <;>
        omega

theorem target_fills {target : PredictionMatchTarget} {quote : PredictionQuote}
    {charge : MarketFees} {maker makerSettled takerSettled : PredictionPosition}
    (reachable : Reachable state) (follows : Follows base request draft state.prediction)
    (configured : state.protocol.config = some config) (early : state.now < draft.market.closeTs)
    (fits : draft.remaining ≤ u64Max)
    (targets : Targets state.prediction request draft.book draft.remaining target)
    (quoted : Quoted draft.market draft.taker request target.maker draft.remaining
      config.takerFeeBps quote)
    (chargeStored : state.prediction.fees.get (.marketFees request.marketAddress) = some charge)
    (accrues : charge.accruedQuoteFees + quote.fee ≤ u64Max)
    (makerStored : state.prediction.positions.get
      (.predictionPosition request.marketAddress target.maker.owner) = some maker)
    (backed : target.maker.lockedCollateral ≤ match request.side.opposite with
      | .bid => maker.collateralLocked
      | .ask => maker.contractsLocked request.outcome)
    (previewed : previewSettlement request.outcome request.side quote maker draft.taker =
      .ok (makerSettled, takerSettled)) :
    ∃ fill : PredictionFill state.prediction state.now config request.taker request.marketAddress
        target.makerAddress request.outcome request.side request.limitPrice draft.remaining,
      execute state (PredictionMatchStep.instruction request
        ⟨target, draft.remaining, quote.fill, quote.notional, quote.fee⟩) =
          .ok { state with prediction := fill.result } ∧
      fill.market = draft.market ∧ fill.book = draft.book ∧ fill.order = target.maker ∧
      fill.level = target.level ∧ fill.fees = charge ∧ fill.fee = quote.fee ∧
      fill.makerSettled = makerSettled ∧ fill.takerSettled = takerSettled := by
  have holds := reachable.invariant
  have settles := previewSettlement_ok quoted backed previewed
  have feeOk : calculateTakerFee quote.notional config.takerFeeBps = .ok quote.fee := by
    rw [quoted.fee]
    exact calculateTakerFee_total quoted.fits quoted.capped
  have sides : target.maker.side ≠ request.side := by
    rw [targets.side]
    cases request.side <;> simp [OrderSide.opposite]
  have matched : ∃ after, handleMatchPredictionOrder state.prediction state.now config
      (predictionTake target.maker target.level request.taker target.makerAddress draft.remaining)
      target.maker.outcome request.side request.limitPrice draft.remaining = .ok after := by
    apply handleMatchPredictionOrder_total holds.prediction targets.stored targets.live
      targets.found (by rw [targets.home, follows.book]) targets.best
      targets.first holds.accounts.filed holds.questions (by rw [targets.home, follows.market])
      ⟨quoted.opened, early⟩ quoted.some_quantity quoted.priced quoted.own sides quoted.cross
      (by rw [targets.home, makerStored]) (by rw [targets.home, follows.taker])
    · rw [← quoted.fill, ← quoted.notional]
      exact quoted.fits
    · rw [← quoted.fill, ← quoted.notional]
      exact feeOk
    · rw [targets.home, chargeStored]
    · exact accrues
    · rw [← quoted.fill, ← quoted.notional, targets.isOutcome]
      exact settles
  obtain ⟨after, matched⟩ := matched
  rw [← targets.accounts, targets.isOutcome] at matched
  obtain ⟨fill, rfl⟩ := handleMatchPredictionOrder_ok holds.prediction matched
  have sameOrder : fill.order = target.maker :=
    Option.some.inj (fill.orderStored.symm.trans targets.stored)
  have home : fill.order.market = request.marketAddress := fill.home
  have sameMarket : fill.market = draft.market := by
    have stored := fill.stored
    rw [home, follows.market] at stored
    exact (Option.some.inj stored).symm
  have sameBook : fill.book = draft.book := by
    have stored := fill.bookStored
    rw [home, follows.book] at stored
    exact (Option.some.inj stored).symm
  have sameLevel : fill.level = target.level := by
    have stored := fill.levelStored
    rw [sameOrder, targets.found] at stored
    exact (Option.some.inj stored).symm
  have sameFee : fill.fee = quote.fee := by
    have charged := fill.charged
    rw [sameOrder, ← quoted.fill, ← quoted.notional, feeOk] at charged
    exact (Except.ok.inj charged).symm
  have settled := fill.settled
  have sameMaker : fill.makerPosition = maker := by
    have stored := fill.makerStored
    rw [sameOrder, makerStored] at stored
    exact (Option.some.inj stored).symm
  have sameTaker : fill.takerPosition = draft.taker :=
    Option.some.inj (fill.takerStored.symm.trans follows.taker)
  rw [sameOrder, sameFee, sameMaker, sameTaker, ← quoted.fill, ← quoted.notional] at settled
  obtain ⟨makerSame, takerSame⟩ := Prod.mk.inj (settlePositions_unique settled settles)
  refine ⟨fill, ?_, sameMarket, sameBook, sameOrder, sameLevel,
    Option.some.inj (fill.feesStored.symm.trans chargeStored), sameFee, makerSame, takerSame⟩
  have limitWord : (UInt64.ofNat request.limitPrice).toNat = request.limitPrice :=
    UInt64.toNat_ofNat_of_lt' (lt_of_le_of_lt quoted.limitFits (by decide))
  have quantityWord : (UInt64.ofNat draft.remaining).toNat = draft.remaining :=
    UInt64.toNat_ofNat_of_lt' (lt_of_le_of_lt fits (by decide))
  simp only [PredictionMatchStep.instruction, execute, Protocol.loadConfig, onPrediction,
    configured, limitWord, quantityWord, bind_eq_ok, okOr_eq_ok, pure_eq_ok]
  exact ⟨config, rfl, fill.result, matched, rfl⟩

theorem fill_promotes {prediction : Prediction} {clock : Int} {quantity : Nat}
    (holds : PredictionInvariant prediction) {book headed : PredictionOrderBook}
    {target : PredictionMatchTarget} (targets : Targets prediction request book quantity target)
    (fill : PredictionFill prediction clock config request.taker request.marketAddress
      target.makerAddress request.outcome request.side request.limitPrice quantity)
    (sameBook : fill.book = book) (sameOrder : fill.order = target.maker)
    (sameLevel : fill.level = target.level) {taker : Pubkey} {overlay later : Overlay}
    (mirrors : Mirrors base taker overlay { prediction with
      orders := prediction.orders.set target.makerAddress
        (fill.reduced (target.maker.remainingQuantity ≤ quantity))
      positions := fill.result.positions })
    (done : promote (snapshot base) overlay book request.outcome request.side.opposite target
      (target.maker.remainingQuantity ≤ quantity)
      (if target.maker.remainingQuantity ≤ quantity then target.level.orderCount - 1
        else target.level.orderCount)
      (target.level.totalRemainingQuantity - fill.filled) = .ok (headed, later)) :
    fill.result.books.get (.predictionBook request.marketAddress) = some headed ∧
      Mirrors base taker later fill.result := by
  obtain ⟨isHead, promoted⟩ := promote_ok mirrors done
  have nextIs := congrArg MatchPredictionOrder.nextOrder targets.accounts
  have worseIs := congrArg MatchPredictionOrder.worseLevel targets.accounts
  obtain ⟨alone, -, -, -⟩ := holds.sound.alone fill.orderStored
    (predictionShelf_live.mpr fill.live) fill.levelStored
  have orders := fill.result_orders holds
  have levels := fill.result_levels holds
  have counted := targets.counted
  have home : fill.order.market = request.marketAddress := fill.home
  simp only [predictionTake] at nextIs worseIs
  rw [sameOrder, sameLevel] at alone levels
  rw [sameOrder] at orders home
  rw [← targets.filed] at levels
  -- The book and both stores depend only on whether the level is removed.
  by_cases removes : target.maker.remainingQuantity ≤ quantity ∧ target.level.orderCount = 1
  · obtain ⟨-, noNext, -⟩ := alone removes.2
    have last : target.maker.nextOrder = none := noNext
    rw [if_pos removes] at levels worseIs
    simp only [removes.1, removes.2, decide_true, if_true, true_and, Nat.sub_self] at isHead promoted
    refine ⟨?_, ?_, ?_, promoted.positions⟩
    · have top := fill.top holds
      simp only [PredictionFill.result, sameOrder, if_pos removes.1, PredictionDeparture.books]
      rw [home, Store.get_set_self, isHead, PredictionDeparture.headed, sameLevel, sameOrder, sameBook,
        if_pos ⟨removes.2, sameLevel ▸ top⟩, targets.isOutcome, targets.side]
    · rw [orders, last, ite_self, Store.modify_none, decide_eq_true removes.1]
      exact promoted.orders
    · rw [levels, ← worseIs]
      exact promoted.levels
  · have stays : ¬((decide (target.maker.remainingQuantity ≤ quantity) = true) ∧
        (if target.maker.remainingQuantity ≤ quantity then target.level.orderCount - 1
          else target.level.orderCount) = 0) := by
      rintro ⟨full, zero⟩
      rw [decide_eq_true_eq] at full
      rw [if_pos full] at zero
      exact removes ⟨full, by omega⟩
    have nextSame : target.nextOrder =
        if target.maker.remainingQuantity ≤ quantity then target.maker.nextOrder else none := by
      rw [nextIs]
      by_cases full : target.maker.remainingQuantity ≤ quantity
      · have several : target.level.orderCount ≠ 1 := fun last => removes ⟨full, last⟩
        rw [if_pos ⟨full, several⟩, if_pos full]
      · rw [if_neg fun both => full both.1, if_neg full]
    rw [if_neg removes] at levels
    rw [if_neg stays] at isHead
    simp only [if_neg stays, nextSame] at promoted
    refine ⟨?_, ?_, ?_, promoted.positions⟩
    · simp only [PredictionFill.result, sameOrder, PredictionDeparture.books]
      rw [home, isHead]
      split
      · next full =>
          rw [Store.get_set_self, PredictionDeparture.headed, sameLevel, sameBook,
            if_neg fun both => removes ⟨full, both.1⟩]
      · rw [Store.get_set_self, sameBook]
    · rw [orders]
      exact promoted.orders
    · rw [levels]
      have written := promoted.levels
      simp only [decide_eq_true_eq] at written
      exact written

/-- A fill that the client plans is a fill that the program makes. -/
theorem Draft.fill_executes (reachable : Reachable state)
    (follows : Follows base request draft state.prediction)
    (configured : state.protocol.config = some config) (early : state.now < draft.market.closeTs)
    (fits : draft.remaining ≤ u64Max)
    (done : draft.fill (snapshot base) request config.takerFeeBps now = .ok next) :
    ∃ step after, Adds request draft next step ∧
      execute state (step.instruction request) = .ok after ∧
      Follows base request next after.prediction ∧ after.now = state.now ∧
      after.protocol = state.protocol ∧ next.market.closeTs = draft.market.closeTs := by
  have holds := reachable.invariant
  obtain ⟨charge, chargeStored, accrued⟩ := follows.fees
  simp only [Draft.fill, bind_eq_ok, require_eq_ok, checkedU64, pure_eq_ok] at done
  obtain ⟨⟨target, reading⟩, read, quote, quoting, ⟨maker, holding⟩, readMaker, _, backed,
    ⟨makerSettled, takerSettled⟩, previewed, _, ⟨_, accrues, rfl⟩, rest, resting, count, counting,
    open_, opening, ⟨headed, promoted⟩, promoting, rfl⟩ := done
  dsimp only at *
  obtain ⟨targets, mirrors⟩ := readPredictionMatchTarget_ok follows.mirrors read
  have quoted := validatePredictionMatch_ok quoting
  have other : Pubkey.predictionPosition request.marketAddress target.maker.owner ≠
      .predictionPosition request.marketAddress request.taker.key := fun same =>
    quoted.own (Pubkey.predictionPosition.inj same).2
  obtain ⟨makerStored, mirrored⟩ := mirrors.makerPosition other readMaker
  have filled := target_fills reachable follows configured early fits targets quoted chargeStored
    (accrued ▸ accrues) makerStored backed previewed
  obtain ⟨fill, done, sameMarket, sameBook, sameOrder, sameLevel, sameFees, sameFee, sameMaker,
    sameTaker⟩ := filled
  have isFull : (quote.fill = target.maker.remainingQuantity) =
      (target.maker.remainingQuantity ≤ draft.remaining) := by
    rw [quoted.fill, min_eq_right_iff]
  simp only [isFull] at counting opening promoting
  have filled : fill.filled = quote.fill := by
    rw [PredictionFill.filled, sameOrder, quoted.fill]
  have countIs := checkedU64_fewer counting
  have openIs := checkedU64_fewer opening
  have restIs := checkedU64Sub_ok resting
  have record := fill_record fill sameOrder quoted targets.side filled (fill.front holds.prediction)
  simp only [isFull] at record
  rw [countIs, restIs] at promoting
  have middle : Mirrors base (.predictionPosition request.marketAddress request.taker.key)
      { holding with
        orders := holding.orders.set target.makerAddress
          (some (fill.reduced (target.maker.remainingQuantity ≤ draft.remaining)))
        positions := holding.positions.set
          (.predictionPosition request.marketAddress target.maker.owner) makerSettled }
      { state.prediction with
        orders := state.prediction.orders.set target.makerAddress
          (fill.reduced (target.maker.remainingQuantity ≤ draft.remaining))
        positions := fill.result.positions } := by
    refine ⟨mirrored.orders.write _ _, mirrored.levels, fun key away => ?_⟩
    simp only [PredictionFill.result, sameOrder, sameMaker]
    rw [Store.get_set_ne _ _ away, Store.get_set, Store.get_set]
    split
    · rfl
    · exact mirrored.positions key away
  obtain ⟨bookStored, promotes⟩ := fill_promotes holds.prediction targets fill sameBook sameOrder
    sameLevel middle (by rw [record, filled]; exact promoting)
  refine ⟨_, _, ?_, done, ⟨?_, bookStored, ?_, ?_, promotes⟩, rfl, rfl, rfl⟩
  · exact fill_adds quoted (targets.rests holds.prediction) previewed
  · have home : fill.order.market = request.marketAddress := fill.home
    simp only [PredictionFill.result, PredictionDeparture.markets, openIs, ← sameOrder, ← sameMarket]
    split
    · rw [home, Store.get_set_self]
    · rw [Store.get_set_self]
  · simp only [PredictionFill.result, Store.get_set_self, sameTaker]
  · refine ⟨_, Store.get_set_self _ _ _, ?_⟩
    simp only [sameFees, sameFee, accrued]

end Fill

/-! ## The whole plan -/

def filledBy (steps : List PredictionMatchStep) : Nat :=
  (steps.map PredictionMatchStep.fillQuantity).sum

def worthOf (steps : List PredictionMatchStep) : Nat :=
  (steps.map PredictionMatchStep.notional).sum

def feesOf (steps : List PredictionMatchStep) : Nat := (steps.map PredictionMatchStep.fee).sum

structure Tally (request : PredictionMatchRequest) (first last : Draft)
    (steps : List PredictionMatchStep) : Prop where
  listed : last.steps = first.steps ++ steps
  remaining : last.remaining + filledBy steps = first.remaining
  notional : last.totalNotional = first.totalNotional + worthOf steps
  totalFee : last.totalFee = first.totalFee + feesOf steps
  fees : last.fees = first.fees + feesOf steps
  bid : request.side = .bid →
    last.totalCash = first.totalCash + (worthOf steps + feesOf steps) ∧
    last.taker.collateralFree + (worthOf steps + feesOf steps) = first.taker.collateralFree ∧
    last.taker.contractsFree request.outcome =
      first.taker.contractsFree request.outcome + filledBy steps
  ask : request.side = .ask →
    last.totalCash + feesOf steps = first.totalCash + worthOf steps ∧
    last.taker.collateralFree + feesOf steps = first.taker.collateralFree + worthOf steps ∧
    last.taker.contractsFree request.outcome + filledBy steps =
      first.taker.contractsFree request.outcome

theorem Tally.refl (request : PredictionMatchRequest) (draft : Draft) :
    Tally request draft draft [] :=
  ⟨(List.append_nil _).symm, rfl, rfl, rfl, rfl, fun _ => ⟨rfl, rfl, rfl⟩,
    fun _ => ⟨rfl, rfl, rfl⟩⟩

theorem Tally.cons {request : PredictionMatchRequest} {first next last : Draft}
    {step : PredictionMatchStep} {steps : List PredictionMatchStep}
    (adds : Adds request first next step) (tally : Tally request next last steps) :
    Tally request first last (step :: steps) := by
  have filled : filledBy (step :: steps) = step.fillQuantity + filledBy steps := List.sum_cons
  have worth : worthOf (step :: steps) = step.notional + worthOf steps := List.sum_cons
  have fees : feesOf (step :: steps) = step.fee + feesOf steps := List.sum_cons
  refine ⟨?_, ?_, ?_, ?_, ?_, fun isBid => ?_, fun isAsk => ?_⟩
  · rw [tally.listed, adds.steps, List.append_assoc, List.singleton_append]
  · rw [filled, ← adds.remaining, ← tally.remaining]
    omega
  · rw [worth, tally.notional, adds.totalNotional, Nat.add_assoc]
  · rw [fees, tally.totalFee, adds.totalFee, Nat.add_assoc]
  · rw [fees, tally.fees, adds.fees, Nat.add_assoc]
  · obtain ⟨cash, paid, got⟩ := adds.bid isBid
    obtain ⟨restCash, restPaid, restGot⟩ := tally.bid isBid
    refine ⟨?_, ?_, ?_⟩ <;> omega
  · obtain ⟨cash, -, got, given⟩ := adds.ask isAsk
    obtain ⟨restCash, restGot, restGiven⟩ := tally.ask isAsk
    refine ⟨?_, ?_, ?_⟩ <;> omega

/-- Why planning stopped: nothing is left to fill, no opposing order is left, none that the limit
reaches, or there is no place for a further fill. -/
def Stopped (request : PredictionMatchRequest) (room : Nat) (book : PredictionOrderBook)
    (remaining : Nat) : PredictionMatchStopReason → Prop
  | .filled => remaining = 0
  | .bookExhausted => 0 < remaining ∧
      book.bestPrice request.outcome request.side.opposite = none
  | .nonCrossing => 0 < remaining ∧
      ∃ best, book.bestPrice request.outcome request.side.opposite = some best ∧
        ¬request.side.NoLater request.limitPrice best
  | .matchCap => 0 < remaining ∧ room = 0 ∧
      ∃ best, book.bestPrice request.outcome request.side.opposite = some best ∧
        request.side.NoLater request.limitPrice best

section Plan

variable {base : Prediction} {request : PredictionMatchRequest} {config : ProtocolConfig}
variable {now : Int} {plan : PredictionMatchPlan} {room : Nat}

/-- The fills that lead from the draft to the plan are accepted in their order, and the plan is what
they leave. -/
def Executes (base : Prediction) (request : PredictionMatchRequest) (room : Nat) (draft : Draft)
    (state : State) (plan : PredictionMatchPlan) : Prop :=
  ∃ (steps : List PredictionMatchStep) (left : Nat) (last : Draft) (after : State),
    left + steps.length = room ∧ plan = last.result request plan.stopReason ∧
    Stopped request left last.book last.remaining plan.stopReason ∧
    Tally request draft last steps ∧
    (steps.map (PredictionMatchStep.instruction request)).foldlM execute state = .ok after ∧
    Follows base request last after.prediction

theorem Executes.idle {draft : Draft} {state : State} {reason : PredictionMatchStopReason}
    (isPlan : draft.result request reason = plan)
    (follows : Follows base request draft state.prediction)
    (stopped : Stopped request room draft.book draft.remaining reason) :
    Executes base request room draft state plan := by
  subst isPlan
  exact ⟨[], room, draft, state, rfl, rfl, stopped, .refl _ _, rfl, follows⟩

theorem Executes.step {draft next : Draft} {step : PredictionMatchStep} {state middle : State}
    (adds : Adds request draft next step)
    (executed : execute state (step.instruction request) = .ok middle)
    (rest : Executes base request room next middle plan) :
    Executes base request (room + 1) draft state plan := by
  obtain ⟨steps, left, last, after, places, isPlan, stopped, tally, ran, follows⟩ := rest
  refine ⟨step :: steps, left, last, after, ?_, isPlan, stopped, .cons adds tally,
    foldlM_append_ok (foldlM_singleton_ok executed) ran, follows⟩
  rw [List.length_cons, ← Nat.add_assoc, places]

theorem planFills_cases {accounts : PredictionMatchingReader} {feeBps : Nat} {draft : Draft}
    (wants : 0 < draft.remaining)
    (done : planFills accounts request feeBps now room draft = .ok plan) :
    (∃ reason, draft.result request reason = plan ∧
      Stopped request room draft.book draft.remaining reason) ∨
    ∃ left next, room = left + 1 ∧ draft.fill accounts request feeBps now = .ok next ∧
      (next.remaining = 0 ∧ next.result request .filled = plan ∨
        0 < next.remaining ∧ planFills accounts request feeBps now left next = .ok plan) := by
  unfold planFills at done
  rw [predictionBestPrice_eq] at done
  split at done
  · next empty => exact .inl ⟨.bookExhausted, pure_eq_ok.mp done, wants, empty⟩
  · next best isBest =>
      split at done
      · next crosses =>
          split at done
          · exact .inl ⟨.matchCap, pure_eq_ok.mp done, wants, rfl, best, isBest, crosses⟩
          · next left =>
              simp only [bind_eq_ok, ite_eq_ok, pure_eq_ok] at done
              obtain ⟨next, filling, ⟨complete, isPlan⟩ | ⟨some_left, rest⟩⟩ := done
              · exact .inr ⟨left, next, rfl, filling, .inl ⟨complete, isPlan⟩⟩
              · exact .inr ⟨left, next, rfl, filling, .inr ⟨Nat.pos_of_ne_zero some_left, rest⟩⟩
      · next apart =>
          exact .inl ⟨.nonCrossing, pure_eq_ok.mp done, wants, best, isBest, apart⟩

/-- Every fill that is planned from a draft is made from the state that the draft follows. -/
theorem planFills_executes (room : Nat) {draft : Draft} {state : State}
    (reachable : Reachable state) (follows : Follows base request draft state.prediction)
    (configured : state.protocol.config = some config) (early : state.now < draft.market.closeTs)
    (fits : draft.remaining ≤ u64Max) (wants : 0 < draft.remaining)
    (done : planFills (snapshot base) request config.takerFeeBps now room draft = .ok plan) :
    Executes base request room draft state plan := by
  induction room generalizing draft state with
  | zero =>
      obtain ⟨reason, isPlan, stopped⟩ | ⟨_, _, room, -⟩ := planFills_cases wants done
      · exact .idle isPlan follows stopped
      · cases room
  | succ room ih =>
      obtain ⟨reason, isPlan, stopped⟩ | ⟨left, next, same, filling, rest⟩ :=
        planFills_cases wants done
      · exact .idle isPlan follows stopped
      · obtain ⟨step, middle, adds, executed, following, sameNow, sameProtocol, sameClose⟩ :=
          Draft.fill_executes reachable follows configured early fits filling
        apply Executes.step adds executed
        rcases rest with ⟨complete, isPlan⟩ | ⟨some_left, rest⟩
        · exact .idle isPlan following complete
        · have smaller : next.remaining ≤ u64Max := by
            have less := adds.remaining
            omega
          have still : middle.now < next.market.closeTs := by
            rw [sameNow, sameClose]
            exact early
          obtain rfl : room = left := by omega
          exact ih (reachable.execute executed) following (sameProtocol ▸ configured) still smaller
            some_left rest

end Plan

structure Delivered (plan : PredictionMatchPlan) (request : PredictionMatchRequest)
    (position : PredictionPosition) (accruedFees : Nat) (after : Prediction) : Prop where
  marketNow : after.markets.get request.marketAddress = some plan.finalMarket
  bookNow : after.books.get (.predictionBook request.marketAddress) = some plan.finalBook
  positionNow : after.positions.get
    (.predictionPosition request.marketAddress request.taker.key) = some plan.finalPosition
  fees : accrued after.fees request.marketAddress = accruedFees + plan.totalFee
  filled : plan.remainingQuantity + filledBy plan.steps = request.quantity
  worth : plan.totalNotional = worthOf plan.steps
  bid : request.side = .bid →
    plan.totalCash = plan.totalNotional + plan.totalFee ∧
    plan.finalPosition.collateralFree + plan.totalCash = position.collateralFree ∧
    plan.finalPosition.contractsFree request.outcome =
      position.contractsFree request.outcome + filledBy plan.steps
  ask : request.side = .ask →
    plan.totalCash + plan.totalFee = plan.totalNotional ∧
    plan.finalPosition.collateralFree = position.collateralFree + plan.totalCash ∧
    plan.finalPosition.contractsFree request.outcome + filledBy plan.steps =
      position.contractsFree request.outcome
  stopped : Stopped request (maxPredictionMatchesPerTransaction - plan.steps.length) plan.finalBook
    plan.remainingQuantity plan.stopReason

/-- Every planned fill is accepted in a reachable state that the client read, and what they leave is
what the plan promises. -/
theorem plan_delivers {state : State} (reachable : Reachable state)
    {request : PredictionMatchRequest} {config : ProtocolConfig} {market : PredictionMarket}
    {book : PredictionOrderBook} {position : PredictionPosition} {charge : MarketFees} {now : Int}
    {plan : PredictionMatchPlan} (configured : state.protocol.config = some config)
    (marketStored : state.prediction.markets.get request.marketAddress = some market)
    (bookStored : state.prediction.books.get (.predictionBook request.marketAddress) = some book)
    (positionStored : state.prediction.positions.get
      (.predictionPosition request.marketAddress request.taker.key) = some position)
    (chargeStored : state.prediction.fees.get (.marketFees request.marketAddress) = some charge)
    (planned : planPredictionMatches (snapshot state.prediction) request market book position
      config.takerFeeBps charge.accruedQuoteFees now = .ok plan)
    (early : state.now < market.closeTs) :
    plan.request = request ∧ ∃ after,
      (plan.steps.map (PredictionMatchStep.instruction request)).foldlM execute state = .ok after ∧
      Delivered plan request position charge.accruedQuoteFees after.prediction := by
  simp only [planPredictionMatches, validateRequest, bind_eq_ok, require_eq_ok] at planned
  obtain ⟨_, ⟨_, -, _, -, _, ⟨wants, fits⟩, -⟩, planned⟩ := planned
  have mirrors : Mirrors state.prediction
      (.predictionPosition request.marketAddress request.taker.key) ⟨0, .empty, .empty, .empty⟩
      state.prediction := ⟨.empty _, .empty _, fun _ _ => rfl⟩
  obtain ⟨steps, left, last, after, places, isPlan, stopped, tally, ran, follows⟩ :=
    planFills_executes _ reachable
      ⟨marketStored, bookStored, positionStored, ⟨charge, chargeStored, rfl⟩, mirrors⟩ configured
      early fits wants planned
  obtain ⟨record, stored, total⟩ := follows.fees
  have worth := tally.notional
  have feeSum := tally.totalFee
  have listed := tally.listed
  simp only [Nat.zero_add, List.nil_append] at worth feeSum listed
  have room : maxPredictionMatchesPerTransaction - steps.length = left := by omega
  rw [isPlan]
  simp only [Draft.result, listed]
  refine ⟨trivial, after, ran, ⟨follows.market, follows.book, follows.taker, ?_, tally.remaining, worth,
    fun isBid => ?_, fun isAsk => ?_, room.symm ▸ stopped⟩⟩
  · rw [accrued, stored, Option.map_some, Option.getD_some, total, tally.fees, feeSum]
  · obtain ⟨cash, paid, got⟩ := tally.bid isBid
    simp only [Nat.zero_add] at cash
    refine ⟨by rw [cash, worth, feeSum], ?_, got⟩
    rw [cash]
    exact paid
  · obtain ⟨cash, got, given⟩ := tally.ask isAsk
    simp only [Nat.zero_add] at cash
    rw [worth, feeSum]
    refine ⟨cash, ?_, given⟩
    dsimp only at got ⊢
    omega

/-- In every reachable state, a trade that the client plans and builds from the accounts as they
are is accepted fill by fill, in its order, and ends in exactly the accounts and amounts that the
plan shows; an order for the rest is only sent where no order that its price reaches is left. -/
theorem planned_trade_executes (genesis : Genesis) (events : List Event) {state : State}
    (reached : (genesis.after events).state = state) {request : PredictionMatchRequest}
    {config : ProtocolConfig} {market : PredictionMarket} {book : PredictionOrderBook}
    {position : PredictionPosition} {charge : MarketFees} {now : Int} {plan : PredictionMatchPlan}
    {serialize : List Instruction → Option Nat} {remainder : Option Instruction}
    {instructions : List Instruction} (configured : state.protocol.config = some config)
    (marketStored : state.prediction.markets.get request.marketAddress = some market)
    (bookStored : state.prediction.books.get (.predictionBook request.marketAddress) = some book)
    (positionStored : state.prediction.positions.get
      (.predictionPosition request.marketAddress request.taker.key) = some position)
    (chargeStored : state.prediction.fees.get (.marketFees request.marketAddress) = some charge)
    (planned : planPredictionMatches (snapshot state.prediction) request market book position
      config.takerFeeBps charge.accruedQuoteFees now = .ok plan)
    (built : buildPredictionMatchTransaction serialize plan remainder = .ok instructions)
    (early : state.now < market.closeTs) :
    ∃ (fills : List Instruction) (after : State), instructions = fills ++ remainder.toList ∧
      fills.length = plan.steps.length ∧ fills.foldlM execute state = .ok after ∧
      Delivered plan request position charge.accruedQuoteFees after.prediction ∧
      (remainder.isSome →
        ∀ best ∈ plan.finalBook.bestPrice request.outcome request.side.opposite,
          ¬request.side.NoLater request.limitPrice best) := by
  obtain ⟨isRequest, after, ran, delivered⟩ := plan_delivers ⟨genesis, events, reached⟩ configured
    marketStored bookStored positionStored chargeStored planned early
  simp only [buildPredictionMatchTransaction, bind_eq_ok, okOr_eq_ok, require_eq_ok,
    pure_eq_ok] at built
  obtain ⟨_, postable, _, -, _, -, bytes, -, _, -, rfl⟩ := built
  refine ⟨_, after, by rw [isRequest], List.length_map _, ran, delivered, fun posts best isBest => ?_⟩
  have allowed := postable posts
  have stopped := delivered.stopped
  simp only [canPostPredictionRemainder, decide_eq_true_eq] at allowed
  rcases allowed.2 with exhausted | apart
  · rw [exhausted] at stopped
    cases isBest.symm.trans stopped.2
  · rw [apart] at stopped
    obtain ⟨-, found, isFound, beyond⟩ := stopped
    cases isBest.symm.trans isFound
    exact beyond

/-- Bob asks for five YES contracts at six, of which Alice offers three; he pays one per cent. -/
def Sample.want : PredictionMatchRequest := ⟨question, bob, .yes, .bid, 6, 5⟩

def Sample.charged : State :=
  (start.after (funding ++ opening ++ trading ++ [.instruction (.setTakerFee admin 100)])).state

def Sample.preview : Option PredictionMatchPlan := do
  let config ← charged.protocol.config
  let market ← charged.prediction.markets.get question
  let book ← charged.prediction.books.get (.predictionBook question)
  let position ← charged.prediction.positions.get (.predictionPosition question bob.key)
  let charge ← charged.prediction.fees.get (.marketFees question)
  (planPredictionMatches (snapshot charged.prediction) want market book position config.takerFeeBps
    charge.accruedQuoteFees 0).toOption

set_option maxRecDepth 4096 in
/-- Bob gets the three contracts for eighteen and a fee of one. -/
theorem planned_trade_executes_charged : ∃ plan, Sample.preview = some plan ∧
    plan.totalCash = 19 ∧ plan.remainingQuantity = 2 ∧ ∃ (fills : List Instruction) (after : State),
      fills.length = 1 ∧ fills.foldlM execute Sample.charged = .ok after ∧
      after.prediction.positions.get (.predictionPosition Sample.question Sample.bob.key) =
        some plan.finalPosition := by
  have facts : Sample.preview.map (fun plan => (plan.totalCash, plan.remainingQuantity,
      plan.steps.length, (buildPredictionMatchTransaction (fun _ => some 700) plan none).isOk)) =
        some (19, 2, 1, true) ∧
      Sample.charged.now = 0 ∧ (Sample.charged.prediction.markets.get Sample.question).map
        PredictionMarket.closeTs = some 100 := by
    decide +kernel
  obtain ⟨previewed, clock, closing⟩ := facts
  obtain ⟨plan, isPlan, amounts⟩ := Option.map_eq_some_iff.mp previewed
  simp only [Prod.mk.injEq] at amounts
  obtain ⟨cash, rest, length, buildable⟩ := amounts
  have parts := isPlan
  simp only [Sample.preview, Option.bind_eq_bind, Option.bind_eq_some_iff] at parts
  obtain ⟨config, configured, market, stored, book, bookStored, position, positionStored, charge,
    chargeStored, planned⟩ := parts
  cases plans : planPredictionMatches (snapshot Sample.charged.prediction) Sample.want market book
      position config.takerFeeBps charge.accruedQuoteFees 0 with
  | error failure =>
      rw [plans] at planned
      cases planned
  | ok found =>
      rw [plans] at planned
      cases planned
      cases built : buildPredictionMatchTransaction (fun _ => some 700) plan none with
      | error failure =>
          rw [built] at buildable
          cases buildable
      | ok instructions =>
          have early : Sample.charged.now < market.closeTs := by
            rw [stored, Option.map_some, Option.some.injEq] at closing
            omega
          obtain ⟨fills, after, -, count, ran, delivered, -⟩ := @planned_trade_executes
            Sample.start _ Sample.charged rfl Sample.want config market book position charge 0 plan
            (fun _ => some 700) none instructions configured stored bookStored positionStored
            chargeStored plans built early
          exact ⟨plan, isPlan, cash, rest, fills, after, count.trans length, ran,
            delivered.positionNow⟩

end Tidebook.Proof
