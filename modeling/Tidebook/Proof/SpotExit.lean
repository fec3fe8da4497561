import Tidebook.Proof.Orders
import Tidebook.Proof.Solvency

/-! # Exits from the spot books

What placement leaves behind for a cancellation, and that the owner of an open spot order can
always cancel it.
-/

namespace Tidebook.Proof
open Library Program

/-! ## Who has entered -/

def Numbered (markets : Store Pubkey Market) : Prop :=
  ∀ key market, markets.get key = some market → market.nextOrderId ≤ u64Max

/-- What placement leaves behind for the cancellation: an identifier that fits its argument, and
the balance that takes the refund. -/
structure Entered (state : State) : Prop where
  numbered : Numbered state.spot.markets
  seated : ∀ key order, state.spot.orders.get key = some order →
    state.spot.balances.get (.traderBalance order.market order.owner) ≠ none
  predicted : ∀ key order, state.prediction.orders.get key = some order → order.orderId ≤ u64Max

theorem Numbered.set {markets : Store Pubkey Market} {key : Pubkey} {market : Market}
    (numbered : Numbered markets) (fits : market.nextOrderId ≤ u64Max) :
    Numbered (markets.set key market) := by
  intro found other stored
  rw [Store.get_set] at stored
  split at stored
  · cases stored
    exact fits
  · exact numbered found other stored

theorem nextOrderId_setBest (market : Market) (side : OrderSide) (price : Option Nat) :
    (market.setBest side price).nextOrderId = market.nextOrderId := by
  cases side <;> rfl

theorem Departure.record_nextOrderId {spot : Spot} {orderKey : Pubkey}
    (leaving : Departure spot orderKey) :
    leaving.record.nextOrderId = leaving.market.nextOrderId := by
  rw [Departure.record]
  split
  · exact nextOrderId_setBest _ _ _
  · rfl

theorem handleInsertLimitOrder_numbered {spot after : Spot} {trader : Wallet} {key : Pubkey}
    {better worse : Option Pubkey} {side : OrderSide} {price quantity : Nat}
    (done : handleInsertLimitOrder spot trader key better worse side price quantity = .ok after) :
    ∃ market, spot.markets.get key = some market ∧ (submitted market).nextOrderId ≤ u64Max := by
  simp only [handleInsertLimitOrder, Market.submit, bind_eq_ok, load_eq_ok, checkedAdd_eq_ok] at done
  obtain ⟨⟨_, market⟩, ⟨rfl, stored⟩, _, -, _, -, _, -, _, -, _, -, _, -, _, -, _, -, _, -, _, -, _,
    ⟨_, ⟨fits, rfl⟩, -⟩, -⟩ := done
  exact ⟨market, stored, fits⟩

theorem handleAppendLimitOrder_numbered {spot after : Spot} {trader : Wallet}
    {key previous : Pubkey} {side : OrderSide} {price quantity : Nat}
    (done : handleAppendLimitOrder spot trader key previous side price quantity = .ok after) :
    ∃ market, spot.markets.get key = some market ∧ (submitted market).nextOrderId ≤ u64Max := by
  simp only [handleAppendLimitOrder, Market.submit, bind_eq_ok, load_eq_ok, checkedAdd_eq_ok] at done
  obtain ⟨⟨_, market⟩, ⟨rfl, stored⟩, _, -, _, -, _, -, _, -, _, -, _, -, _, -, _, -, _, -, _, -, _,
    -, _, -, _, ⟨_, ⟨fits, rfl⟩, -⟩, -⟩ := done
  exact ⟨market, stored, fits⟩

section Steps

variable {state after : State} {instruction : Instruction}

theorem Effect.balances_kept (effect : Effect state instruction after) {key : Pubkey}
    (known : state.spot.balances.get key ≠ none) : after.spot.balances.get key ≠ none := by
  cases effect with
  | initializeTraderBalance fresh => exact Store.set_ne_none known
  | deposit crossing => exact Store.set_ne_none known
  | withdraw crossing => exact Store.set_ne_none known
  | insertLimitOrder placed => exact Store.set_ne_none known
  | appendLimitOrder placed => exact Store.set_ne_none known
  | cancelLimitOrder leaving => exact Store.set_ne_none known
  | matchLimitOrder configured fill => exact Store.set_ne_none (Store.set_ne_none known)
  | migrateSpotAsset spot => exact Store.set_ne_none known
  | _ => exact known

theorem Effect.numbered (effect : Effect state instruction after)
    (done : execute state instruction = .ok after) (numbered : Numbered state.spot.markets) :
    Numbered after.spot.markets := by
  cases effect with
  | initializeMarket opening => exact numbered.set (by decide : 1 ≤ u64Max)
  | restatus status silent stored =>
      have fits := numbered _ _ stored
      exact numbered.set fits
  | closeMarket closing =>
      intro key market stored
      rw [MarketClosing.result, Store.get_erase] at stored
      split at stored
      · cases stored
      · exact numbered key market stored
  | insertLimitOrder placed =>
      obtain ⟨spot, inserted, -⟩ := onSpot_ok done
      obtain ⟨market, stored, fits⟩ := handleInsertLimitOrder_numbered inserted
      cases stored.symm.trans placed.stored
      refine numbered.set ?_
      split
      · exact (nextOrderId_setBest _ _ _).trans_le fits
      · exact fits
  | appendLimitOrder placed =>
      obtain ⟨spot, appended, -⟩ := onSpot_ok done
      obtain ⟨market, stored, fits⟩ := handleAppendLimitOrder_numbered appended
      cases stored.symm.trans placed.stored
      exact numbered.set fits
  | cancelLimitOrder leaving =>
      exact numbered.set (leaving.record_nextOrderId.trans_le (numbered _ _ leaving.stored))
  | matchLimitOrder configured fill =>
      have fits := numbered _ _ fill.stored
      simp only [Fill.result]
      split
      · exact numbered.set (fill.record_nextOrderId.trans_le fits)
      · exact numbered.set fits
  | _ => exact numbered

theorem Effect.entered (effect : Effect state instruction after)
    (done : execute state instruction = .ok after) (holds : Invariant state)
    (entered : Entered state) : Entered after where
  numbered := effect.numbered done entered.numbered
  seated key order stored := by
    refine (effect.spotOrders holds.spot).all orderIdentity_blind
      (P := fun (market, _, owner, _) =>
        after.spot.balances.get (.traderBalance market owner) ≠ none) ?_ ?_ stored
    · exact fun found old present => effect.balances_kept (entered.seated found old present)
    · exact fun written arrival => effect.balances_kept arrival
  predicted key order stored :=
    (effect.predictionOrders holds.prediction).all predictionIdentity_blind
      (P := fun (_, orderId, _) => orderId ≤ u64Max) entered.predicted
      (fun _ arrival => arrival.2) stored

end Steps

theorem run_entered (genesis : Genesis) (events : List Event) :
    Entered (genesis.after events).state := by
  have initial : Entered genesis.world.state :=
    ⟨fun _ _ found => (nomatch found), fun _ _ found => (nomatch found),
      fun _ _ found => (nomatch found)⟩
  refine (reach_of_steps (P := fun world => Entered world.state) ?_ (.genesis genesis) initial).2
  intro world event after _ holds entered applied reached _
  rw [reached]
  cases event with
  | instruction sent =>
      exact (execute_effect holds.spot holds.prediction holds.shared applied).entered applied holds
        entered
  | outside happened =>
      have around := occur_around applied
      refine ⟨?_, ?_, ?_⟩
      · rw [around.spot]
        exact entered.numbered
      · rw [around.spot]
        exact entered.seated
      · rw [around.prediction]
        exact entered.predicted

theorem fits_uint64 {value : Nat} (fits : value ≤ u64Max) : ∃ word : UInt64, word.toNat = value :=
  ⟨UInt64.ofNat value, UInt64.toNat_ofNat_of_lt' (lt_of_le_of_lt fits (by decide))⟩

theorem loadOption_total {α : Type} (store : Store Pubkey α) (key : Option Pubkey)
    (known : ∀ found ∈ key, store.get found ≠ none) : ∃ account,
      loadOption store key = .ok account ∧ key = account.map Account.key ∧
        ∀ loaded ∈ account, store.get loaded.key = some loaded.val := by
  cases key with
  | none => exact ⟨none, rfl, rfl, fun _ absent => nomatch absent⟩
  | some key =>
      obtain ⟨val, stored⟩ := Option.ne_none_iff_exists'.mp (known key rfl)
      have loaded : ∀ account ∈ some (Account.mk key val),
          store.get account.key = some account.val := by
        rintro account ⟨⟩
        exact stored
      exact ⟨some ⟨key, val⟩, loadOption_eq_ok.mpr ⟨rfl, loaded⟩, rfl, loaded⟩

theorem loadOption_named {α β : Type} {store : Store Pubkey α} {link : Option β} {file : β → Pubkey}
    {Fits : β → α → Prop} (known : ∀ other, link = some other →
      ∃ record, store.get (file other) = some record ∧ Fits other record) : ∃ account,
      loadOption store (link.map file) = .ok account ∧ link.map file = account.map Account.key ∧
        (∀ value ∈ account, store.get value.key = some value.val) ∧
        ∀ value ∈ account, ∃ other, link = some other ∧ value.key = file other ∧
          Fits other value.val := by
  obtain ⟨account, loaded, same, stored⟩ := loadOption_total store (link.map file) fun key inside => by
    obtain ⟨other, named, rfl⟩ := Option.map_eq_some_iff.mp inside
    obtain ⟨record, present, -⟩ := known other named
    exact Option.ne_none_iff_exists'.mpr ⟨record, present⟩
  refine ⟨account, loaded, same, stored, fun value member => ?_⟩
  rw [member, Option.map_some, Option.map_eq_some_iff] at same
  obtain ⟨other, named, keyed⟩ := same
  obtain ⟨record, present, fits⟩ := known other named
  rw [keyed] at present
  cases present.symm.trans (stored value member)
  exact ⟨other, named, keyed.symm, fits⟩

/-! The levels next to a stored one are loaded at the addresses that it names. -/

section Neighbors

variable {M ι O : Type*} {L : Type} [DecidableEq M] {shelf : Shelf M ι Nat Pubkey O L}
variable {prec : ι → Nat → Nat → Prop} {heads : M → ι → Option Nat} {orders : Store Pubkey O}
variable {levels : Store Pubkey L} (sound : shelf.Sound prec heads orders levels) {book : M}
variable {list : ι} {price : Nat} {level : L}
variable (found : levels.get (shelf.file book (list, price)) = some level)

include sound found

theorem loadOption_better : ∃ better,
    loadOption levels ((shelf.levelNode level).link.prev.map
        fun other => shelf.file book (list, other)) = .ok better ∧
      (shelf.levelNode level).link.prev.map (fun other => shelf.file book (list, other)) =
        better.map Account.key ∧
      (∀ value ∈ better, levels.get value.key = some value.val) ∧
      ∀ value ∈ better, ∃ other, (shelf.levelNode level).link.prev = some other ∧
        value.key = shelf.file book (list, other) ∧ prec list other price ∧
        (shelf.levelNode value.val).link.next = some price := by
  have known : ∀ other, (shelf.levelNode level).link.prev = some other →
      ∃ better, levels.get (shelf.file book (list, other)) = some better ∧ prec list other price ∧
        (shelf.levelNode better).link.next = some price := by
    intro other link
    obtain ⟨before, better, present, back⟩ := sound.better found link
    exact ⟨better, present, before, back⟩
  exact loadOption_named known

theorem loadOption_worse : ∃ worse,
    loadOption levels ((shelf.levelNode level).link.next.map
        fun other => shelf.file book (list, other)) = .ok worse ∧
      (shelf.levelNode level).link.next.map (fun other => shelf.file book (list, other)) =
        worse.map Account.key ∧
      (∀ value ∈ worse, levels.get value.key = some value.val) ∧
      ∀ value ∈ worse, ∃ other, (shelf.levelNode level).link.next = some other ∧
        value.key = shelf.file book (list, other) ∧ prec list price other ∧
        (shelf.levelNode value.val).link.prev = some price := by
  have known : ∀ other, (shelf.levelNode level).link.next = some other →
      ∃ worse, levels.get (shelf.file book (list, other)) = some worse ∧ prec list price other ∧
        (shelf.levelNode worse).link.prev = some price := by
    intro other link
    obtain ⟨after, worse, present, back⟩ := sound.worse found link
    exact ⟨worse, present, after, back⟩
  exact loadOption_named known

end Neighbors

/-! ## Spot orders -/

def spotExit (order : Order) (level : PriceLevel) (owner : Wallet) : CancelLimitOrder where
  owner := owner
  market := order.market
  previousOrder := order.previousOrder
  nextOrder := order.nextOrder
  betterLevel := if level.orderCount = 1 then
    level.betterPrice.map (.priceLevel order.market order.side) else none
  worseLevel := if level.orderCount = 1 then
    level.worsePrice.map (.priceLevel order.market order.side) else none
  levelRentRecipient := if level.orderCount = 1 then some level.rentPayer else none

section Spot

variable {spot : Spot} (holds : SpotInvariant spot) {key : Pubkey} {order : Order}
variable {level : PriceLevel} (stored : spot.orders.get key = some order)
variable (live : order.status = .opened)
variable (found : spot.levels.get (.priceLevel order.market order.side order.price) = some level)

include holds stored live

theorem checkQueueNeighbors_total {previous next : Option (Account Order)}
    (isPrevious : order.previousOrder = previous.map Account.key)
    (isNext : order.nextOrder = next.map Account.key)
    (hasPrevious : ∀ value ∈ previous, spot.orders.get value.key = some value.val)
    (hasNext : ∀ value ∈ next, spot.orders.get value.key = some value.val) :
    checkQueueNeighbors ⟨key, order⟩ (.priceLevel order.market order.side order.price) previous
      next = .ok () := by
  have opened := spotShelf_live.mpr live
  have level_of : ∀ {found neighbor}, spot.orders.get found = some neighbor →
      neighbor.status = .opened → neighbor.market = order.market →
      (neighbor.side, neighbor.price) = (order.side, order.price) →
      neighbor.priceLevel = .priceLevel order.market order.side order.price := by
    intro found neighbor present rests home place
    obtain ⟨_, -, rest⟩ := holds.resting found neighbor present rests
    obtain ⟨sided, priced⟩ := Prod.mk.inj place
    rw [rest.level, home, sided, priced]
  have older : ∀ value ∈ previous, value.val.status = .opened ∧
      value.val.priceLevel = .priceLevel order.market order.side order.price ∧
      value.val.nextOrder = some key := by
    intro value member
    have link : order.previousOrder = some value.key := by rw [isPrevious, member, Option.map_some]
    obtain ⟨-, -, neighbor, present, home, rests, place, back⟩ :=
      holds.books.previous stored opened link
    cases (hasPrevious value member).symm.trans present
    have rests := spotShelf_live.mp rests
    exact ⟨rests, level_of present rests home place, back⟩
  have newer : ∀ value ∈ next, value.val.status = .opened ∧
      value.val.priceLevel = .priceLevel order.market order.side order.price ∧
      value.val.previousOrder = some key := by
    intro value member
    have link : order.nextOrder = some value.key := by rw [isNext, member, Option.map_some]
    obtain ⟨-, neighbor, present, home, rests, place, back⟩ :=
      holds.books.following stored opened link
    cases (hasNext value member).symm.trans present
    have rests := spotShelf_live.mp rests
    exact ⟨rests, level_of present rests home place, back⟩
  simp only [checkQueueNeighbors, bind_eq_ok, require_eq_ok]
  exact ⟨(), isPrevious, (), isNext, (), fun value member => (older value member).1, (),
    fun value member => (older value member).2.1, (), fun value member => (older value member).2.2,
    (), fun value member => (newer value member).1, (),
    fun value member => (newer value member).2.1, fun value member => (newer value member).2.2⟩

include found

theorem checkLevelRemoval_total {market : Market} {better worse : Option (Account PriceLevel)}
    (marketStored : spot.markets.get order.market = some market) (last : level.orderCount = 1)
    (isBetter : level.betterPrice.map (.priceLevel order.market order.side) =
      better.map Account.key)
    (isWorse : level.worsePrice.map (.priceLevel order.market order.side) =
      worse.map Account.key) :
    checkLevelRemoval ⟨order.market, market⟩ ⟨key, order⟩
      ⟨.priceLevel order.market order.side order.price, level⟩
      (level.totalRemainingQuantity - order.remainingQuantity) better worse (some level.rentPayer) =
        .ok () := by
  have opened := spotShelf_live.mpr live
  obtain ⟨noPrevious, noNext, total, first, ends⟩ :=
    (holds.books.alone stored opened found).1 last
  have best : level.betterPrice = none → market.best order.side = some level.price := by
    intro alone
    have here : spot.levels.get (spotShelf.file order.market (order.side, order.price)) =
        some level := found
    have top := (holds.books.top here).mpr alone
    rw [spotHeads_stored marketStored] at top
    obtain ⟨-, -, priced⟩ := Pubkey.priceLevel.inj (holds.levels _ level found)
    rw [top, priced]
  have emptied : level.totalRemainingQuantity - order.remainingQuantity = 0 :=
    Nat.sub_eq_zero_of_le (le_of_eq total)
  simp only [checkLevelRemoval, bind_eq_ok, require_eq_ok, okOr_eq_ok]
  exact ⟨(), ⟨noPrevious, noNext⟩, (), ⟨first, ends⟩, (), emptied, (), best, level.rentPayer, rfl,
    (), rfl, isBetter.symm, isWorse.symm⟩

omit stored live in
theorem checkPriceNeighbors_total {better worse : Option (Account PriceLevel)}
    (isBetter : ∀ value ∈ better, ∃ price, level.betterPrice = some price ∧
      value.key = .priceLevel order.market order.side price)
    (isWorse : ∀ value ∈ worse, ∃ price, level.worsePrice = some price ∧
      value.key = .priceLevel order.market order.side price)
    (hasBetter : ∀ value ∈ better, spot.levels.get value.key = some value.val)
    (hasWorse : ∀ value ∈ worse, spot.levels.get value.key = some value.val) :
    checkPriceNeighbor order.market order.side level.betterPrice better PriceLevel.worsePrice
        level.price = .ok () ∧
      checkPriceNeighbor order.market order.side level.worsePrice worse PriceLevel.betterPrice
        level.price = .ok () := by
  obtain ⟨-, -, own⟩ := Pubkey.priceLevel.inj (holds.levels _ level found)
  have here : spot.levels.get (spotShelf.file order.market (order.side, order.price)) =
      some level := found
  constructor
  · cases better with
    | none => rfl
    | some value =>
        obtain ⟨price, link, keyed⟩ := isBetter value rfl
        obtain ⟨-, neighbor, present, back⟩ := holds.books.better here link
        have also := hasBetter value rfl
        rw [keyed] at also
        cases also.symm.trans present
        obtain ⟨home, sided, priced⟩ := Pubkey.priceLevel.inj (holds.levels _ _ present)
        simp only [checkPriceNeighbor, link, bind_eq_ok, require_eq_ok]
        exact ⟨(), home.symm, sided.symm, priced.symm, own ▸ back⟩
  · cases worse with
    | none => rfl
    | some value =>
        obtain ⟨price, link, keyed⟩ := isWorse value rfl
        obtain ⟨-, neighbor, present, back⟩ := holds.books.worse here link
        have also := hasWorse value rfl
        rw [keyed] at also
        cases also.symm.trans present
        obtain ⟨home, sided, priced⟩ := Pubkey.priceLevel.inj (holds.levels _ _ present)
        simp only [checkPriceNeighbor, link, bind_eq_ok, require_eq_ok]
        exact ⟨(), home.symm, sided.symm, priced.symm, own ▸ back⟩

omit stored live in
theorem exit_levels_total (owner : Wallet) : ∃ better worse,
    loadOption spot.levels (spotExit order level owner).betterLevel = .ok better ∧
    loadOption spot.levels (spotExit order level owner).worseLevel = .ok worse ∧
    (level.orderCount = 1 →
      level.betterPrice.map (.priceLevel order.market order.side) = better.map Account.key ∧
      level.worsePrice.map (.priceLevel order.market order.side) = worse.map Account.key) ∧
    (level.orderCount ≠ 1 → better = none ∧ worse = none) ∧
    checkPriceNeighbor order.market order.side level.betterPrice better PriceLevel.worsePrice
        level.price = .ok () ∧
      checkPriceNeighbor order.market order.side level.worsePrice worse PriceLevel.betterPrice
        level.price = .ok () := by
  have here : spot.levels.get (spotShelf.file order.market (order.side, order.price)) =
      some level := found
  by_cases last : level.orderCount = 1
  · simp only [spotExit, if_pos last]
    obtain ⟨better, loadedBetter, isBetter, hasBetter, above⟩ := loadOption_better holds.books here
    obtain ⟨worse, loadedWorse, isWorse, hasWorse, below⟩ := loadOption_worse holds.books here
    refine ⟨better, worse, loadedBetter, loadedWorse, fun _ => ⟨isBetter, isWorse⟩,
      fun stays => absurd last stays,
      checkPriceNeighbors_total holds found ?_ ?_ hasBetter hasWorse⟩
    · intro value member
      obtain ⟨price, link, keyed, -⟩ := above value member
      exact ⟨price, link, keyed⟩
    · intro value member
      obtain ⟨price, link, keyed, -⟩ := below value member
      exact ⟨price, link, keyed⟩
  · simp only [spotExit, if_neg last]
    exact ⟨none, none, rfl, rfl, fun alone => absurd alone last, fun _ => ⟨rfl, rfl⟩, rfl, rfl⟩

theorem handleCancelLimitOrder_total {owner : Wallet} (own : order.owner = owner.key)
    {market : Market} (marketStored : spot.markets.get order.market = some market)
    {balance released : TraderBalance}
    (balanceStored : spot.balances.get (.traderBalance order.market owner.key) = some balance)
    (unlock : balance.unlock order.side order.lockedCollateral = .ok released) :
    ∃ after, handleCancelLimitOrder spot (spotExit order level owner) order.orderId =
      .ok after := by
  obtain rfl := holds.orders key order stored
  have opened := spotShelf_live.mpr live
  obtain ⟨_, -, rest⟩ := holds.resting _ order stored live
  obtain ⟨homeIs, sideIs, priceIs⟩ := Pubkey.priceLevel.inj (holds.levels _ level found)
  obtain ⟨balanceHome, balanceOwner⟩ :=
    Pubkey.traderBalance.inj (holds.balances _ balance balanceStored)
  obtain ⟨-, -, counted, covered⟩ := holds.books.alone stored opened found
  have open_count : 1 ≤ market.openOrderCount :=
    (Departure.mk market order level marketStored stored live found).open_count holds
  obtain ⟨previous, loadedPrevious, isPrevious, hasPrevious⟩ :=
    loadOption_total spot.orders order.previousOrder fun other link => by
      obtain ⟨-, -, neighbor, present, -⟩ := holds.books.previous stored opened link
      exact Option.ne_none_iff_exists'.mpr ⟨neighbor, present⟩
  obtain ⟨next, loadedNext, isNext, hasNext⟩ :=
    loadOption_total spot.orders order.nextOrder fun other link => by
      obtain ⟨-, neighbor, present, -⟩ := holds.books.following stored opened link
      exact Option.ne_none_iff_exists'.mpr ⟨neighbor, present⟩
  obtain ⟨better, worse, loadedBetter, loadedWorse, keys, stays, above, below⟩ :=
    exit_levels_total holds found owner
  have queue := checkQueueNeighbors_total holds stored live isPrevious isNext hasPrevious hasNext
  have single : level.orderCount - 1 = 0 ↔ level.orderCount = 1 := by
    have positive : 0 < level.orderCount := counted
    omega
  have removal : (if level.orderCount - 1 = 0 then
      checkLevelRemoval ⟨order.market, market⟩ ⟨.order order.market order.orderId, order⟩
        ⟨.priceLevel order.market order.side order.price, level⟩
        (level.totalRemainingQuantity - order.remainingQuantity) better worse
        (spotExit order level owner).levelRentRecipient
      else pure ()) = .ok () := by
    by_cases last : level.orderCount = 1
    · have recipient : (spotExit order level owner).levelRentRecipient = some level.rentPayer :=
        if_pos last
      rw [if_pos (single.mpr last), recipient]
      exact checkLevelRemoval_total holds stored live found marketStored last (keys last).1
        (keys last).2
    · rw [if_neg (single.not.mpr last)]
      rfl
  have absent : level.orderCount - 1 ≠ 0 →
      better.isNone ∧ worse.isNone ∧ (spotExit order level owner).levelRentRecipient = none := by
    intro remains
    obtain ⟨rfl, rfl⟩ := stays (single.not.mp remains)
    exact ⟨rfl, rfl, if_neg (single.not.mp remains)⟩
  simp only [handleCancelLimitOrder, loadOwnOrder, loadPriceLevel, loadTraderBalance, bind_eq_ok,
    load_eq_ok, require_eq_ok, checkedSub_eq_ok, pure_eq_ok]
  exact ⟨_, ⟨order.market, market⟩, ⟨rfl, marketStored⟩, _,
    ⟨⟨.order order.market order.orderId, order⟩, ⟨rfl, stored⟩, (), own, (), rfl, rfl⟩, _,
    ⟨⟨.priceLevel order.market order.side order.price, level⟩, ⟨rfl, found⟩, (), homeIs.symm, (),
      sideIs.symm, (), priceIs.symm, rfl⟩, (), rest.level, previous, loadedPrevious, next,
    loadedNext, better, loadedBetter, worse, loadedWorse, _,
    ⟨⟨.traderBalance order.market owner.key, balance⟩, ⟨rfl, balanceStored⟩, (),
      balanceHome.symm, (), balanceOwner.symm, rfl⟩, (), live, (), queue, released, unlock, _,
    ⟨open_count, rfl⟩, _, ⟨counted, rfl⟩, _, ⟨covered, rfl⟩, (), absent, (), removal, (), above, (),
    below, rfl⟩

end Spot

def TraderBalance.refunded (balance : TraderBalance) (side : OrderSide) (amount : Nat) : TraderBalance :=
  match side with
  | .bid => { balance with
      quoteFree := balance.quoteFree + amount, quoteLocked := balance.quoteLocked - amount }
  | .ask => { balance with
      baseFree := balance.baseFree + amount, baseLocked := balance.baseLocked - amount }

def spliced (gone : Order) (key : Pubkey) (order : Order) : Order :=
  { order with
    previousOrder := if gone.nextOrder = some key then gone.previousOrder else order.previousOrder
    nextOrder := if gone.previousOrder = some key then gone.nextOrder else order.nextOrder }

/-- One order is canceled and its lock comes back; every other order keeps all but the links that
led to it, and nothing else moves. -/
structure SpotRefund (state after : State) (key : Pubkey) (order : Order) : Prop where
  cleared : after.spot.orders.get key = some (canceled order)
  others : ∀ other, other ≠ key →
    after.spot.orders.get other = (state.spot.orders.get other).map (spliced order other)
  refund : ∃ balance,
    state.spot.balances.get (.traderBalance order.market order.owner) = some balance ∧
    order.lockedCollateral ≤ spotLedger.locked balance order.side ∧
    after.spot.balances.get (.traderBalance order.market order.owner) =
      some (TraderBalance.refunded balance order.side order.lockedCollateral)
  balances : ∀ other, other ≠ .traderBalance order.market order.owner →
    after.spot.balances.get other = state.spot.balances.get other
  elsewhere : after.spot.fees = state.spot.fees ∧ after.prediction = state.prediction ∧
    after.shared = state.shared ∧ after.tokens = state.tokens ∧ after.protocol = state.protocol

theorem unlock_eq_ok {balance released : TraderBalance} {side : OrderSide} {amount : Nat} :
    balance.unlock side amount = .ok released ↔
      spotLedger.free balance side + amount ≤ u64Max ∧ amount ≤ spotLedger.locked balance side ∧
        released = TraderBalance.refunded balance side amount := by
  cases side <;>
    simp only [TraderBalance.unlock, bind_eq_ok, checkedAdd_eq_ok, checkedSub_eq_ok, pure_eq_ok,
      spotLedger, TraderBalance.refunded] <;>
    constructor <;>
    first
    | rintro ⟨_, ⟨fits, rfl⟩, _, ⟨enough, rfl⟩, rfl⟩
      exact ⟨fits, enough, rfl⟩
    | rintro ⟨fits, enough, rfl⟩
      exact ⟨_, ⟨fits, rfl⟩, _, ⟨enough, rfl⟩, rfl⟩

theorem Cancellation.refund {state : State} {owner : Wallet} {key : Pubkey} {orderId : Nat}
    (leaving : Cancellation state.spot owner key orderId) (holds : SpotInvariant state.spot) :
    SpotRefund state { state with spot := leaving.result } (.order key orderId) leaving.order where
  cleared := by
    have opened := spotShelf_live.mpr leaving.live
    refine spotShelf.unlink_self _ _ _ (fun link => ?_) fun link => ?_
    · exact (holds.books.previous leaving.orderStored opened link).1 rfl
    · exact (holds.books.following leaving.orderStored opened link).1 rfl
  others other different := by
    refine (spotShelf.unlink_get _ _ _ different).trans (congrArg (Option.map · _) ?_)
    funext record
    by_cases behind : leaving.order.nextOrder = some other <;>
      by_cases ahead : leaving.order.previousOrder = some other <;>
      simp [spotShelf, spliced, Order.setNext, Order.setPrevious, behind, ahead]
  refund := by
    obtain ⟨-, enough, same⟩ := unlock_eq_ok.mp leaving.unlock
    rw [leaving.home, leaving.own]
    exact ⟨leaving.balance, leaving.balanceStored, enough, same ▸ Store.get_set_self _ _ _⟩
  balances other different := by
    rw [leaving.home, leaving.own] at different
    exact Store.get_set_ne _ _ different
  elsewhere := ⟨rfl, rfl, rfl, rfl, rfl⟩

section SpotRefunds

variable {state : State} (holds : Invariant state) (solvent : Solvent state)
include holds solvent

theorem balance_fits {market : Pubkey} {record : Market} {owner : Pubkey} {balance : TraderBalance}
    (stored : state.spot.markets.get market = some record)
    (held : state.spot.balances.get (.traderBalance market owner) = some balance)
    (side : OrderSide) :
    spotLedger.free balance side + spotLedger.locked balance side ≤ u64Max := by
  have bound := spotLedger.held_le held side
  have home : spotLedger.pool (spotLedger.holder balance) = market :=
    (Pubkey.traderBalance.inj (holds.spot.balances _ balance held)).1.symm
  rw [home] at bound
  have guarded : guardOf (.vault market (mintOf record side)) ≠ none := by simp [guardOf]
  have fits := solvent.fits holds guarded
  obtain ⟨rfl, -⟩ := holds.canonical market record stored
  refine bound.trans (le_trans ?_ fits)
  cases side <;> simp only [owed, spotOwed, mintOf, if_true] <;> omega

theorem unlock_total {key : Pubkey} {order : Order} {record : Market} {balance : TraderBalance}
    (stored : state.spot.orders.get key = some order) (live : order.status = .opened)
    (marketStored : state.spot.markets.get order.market = some record)
    (held : state.spot.balances.get (.traderBalance order.market order.owner) = some balance) :
    ∃ released, balance.unlock order.side order.lockedCollateral = .ok released := by
  have fits := balance_fits holds solvent marketStored held order.side
  have locks := holds.spot.locks (order.market, order.owner) order.side
  have own := Store.le_total (f := lockedBy (order.market, order.owner) order.side) stored
  rw [Ledger.lockedOf_stored held] at locks
  rw [lockedBy_live live, Ledger.single, if_pos rfl, Pi.single_eq_same] at own
  exact ⟨_, unlock_eq_ok.mpr ⟨by omega, by omega, rfl⟩⟩

theorem spot_exit (entered : Entered state) {key : Pubkey} {order : Order} {owner : Wallet}
    (stored : state.spot.orders.get key = some order) (live : order.status = .opened)
    (own : order.owner = owner.key) : ∃ level after orderId,
    state.spot.levels.get (.priceLevel order.market order.side order.price) = some level ∧
    UInt64.toNat orderId = order.orderId ∧
    execute state (.cancelLimitOrder (spotExit order level owner) orderId) = .ok after ∧
    SpotRefund state after key order := by
  obtain ⟨market, marketStored, rest⟩ := holds.spot.resting key order stored live
  obtain ⟨level, found⟩ := holds.spot.books.has_level stored (spotShelf_live.mpr live)
  obtain ⟨balance, held⟩ := Option.ne_none_iff_exists'.mp (entered.seated key order stored)
  obtain ⟨released, unlock⟩ := unlock_total holds solvent stored live marketStored held
  obtain ⟨orderId, number⟩ := fits_uint64 (rest.earlier.le.trans (entered.numbered _ _ marketStored))
  rw [own] at held
  obtain ⟨after, done⟩ := handleCancelLimitOrder_total holds.spot stored live found own
    marketStored held unlock
  obtain ⟨leaving, rfl⟩ := handleCancelLimitOrder_ok holds.spot done
  obtain rfl := holds.spot.orders key order stored
  have same : order = leaving.order := Option.some.inj (stored.symm.trans leaving.orderStored)
  have refund := leaving.refund holds.spot
  rw [← same] at refund
  refine ⟨level, { state with spot := leaving.result }, orderId, found, number, ?_, refund⟩
  rw [execute, number, done]
  rfl

end SpotRefunds

end Tidebook.Proof
