import Tidebook.Client.Cancellation
import Tidebook.Proof.PredictionExit
import Tidebook.Proof.SharedAccounts

/-! # Exits from the shared books

When the owner of an open shared order can cancel it.
-/

namespace Tidebook.Proof
open Library Program Client

/-! ## Who is seated -/

def Seated (state : State) : Prop :=
  ∀ key order, state.shared.orders.get key = some order → order.status = .opened → Seat state order

theorem save_ne_none {α : Type} {store : Store Pubkey α} {key : Pubkey} {account : Account α}
    (known : store.get key ≠ none) : (save store account).get key ≠ none := Store.set_ne_none known

theorem saveOption_ne_none {α : Type} {store : Store Pubkey α} {key : Pubkey}
    {account : Option (Account α)} (known : store.get key ≠ none) :
    (saveOption store account).get key ≠ none := by
  cases account with
  | none => exact known
  | some account => exact save_ne_none known

theorem saveClaims_assets_kept {state : State} {key : Pubkey} (claims : Claims)
    (known : state.shared.assets.get key ≠ none) :
    (saveClaims state claims).shared.assets.get key ≠ none :=
  save_ne_none (saveOption_ne_none known)

theorem saveClaims_positions_kept {state : State} {key : Pubkey} (claims : Claims)
    (known : state.prediction.positions.get key ≠ none) :
    (saveClaims state claims).prediction.positions.get key ≠ none :=
  saveOption_ne_none known

theorem claims_stored {state : State} {book : SharedBook} {owner : Pubkey}
    (hasQuote : state.shared.assets.get (.assetBalance owner book.quoteMint) ≠ none)
    (hasBase : book.kind = .spot →
      state.shared.assets.get (.assetBalance owner book.baseMint) ≠ none)
    (hasPosition : book.kind ≠ .spot →
      state.prediction.positions.get (.predictionPosition book.market owner) ≠ none) :
    ∃ claims, ClaimsHeld state book owner claims := by
  obtain ⟨quote, quoteStored⟩ := Option.ne_none_iff_exists'.mp hasQuote
  by_cases isSpot : book.kind = .spot
  · obtain ⟨base, baseStored⟩ := Option.ne_none_iff_exists'.mp (hasBase isSpot)
    exact ⟨⟨some ⟨_, base⟩, ⟨_, quote⟩, none⟩, rfl, quoteStored,
      fun _ => ⟨rfl, base, rfl, baseStored⟩, fun notSpot => absurd isSpot notSpot⟩
  · obtain ⟨position, positionStored⟩ := Option.ne_none_iff_exists'.mp (hasPosition isSpot)
    exact ⟨⟨none, ⟨_, quote⟩, some ⟨_, position⟩⟩, rfl, quoteStored,
      fun other => absurd other isSpot, fun _ => ⟨rfl, position, rfl, positionStored⟩⟩

section Steps

variable {state after : State} {instruction : Instruction}
variable (effect : Effect state instruction after)

include effect

theorem Effect.assets_kept {key : Pubkey} (known : state.shared.assets.get key ≠ none) :
    after.shared.assets.get key ≠ none := by
  cases effect with
  | initializeAssetBalance mintStored fresh vault => exact Store.set_ne_none known
  | depositAsset crossing transferred => exact Store.set_ne_none known
  | withdrawAsset crossing held owned transferred => exact Store.set_ne_none known
  | migrateSpotAsset spot crossing transferred => exact Store.set_ne_none known
  | migratePredictionAsset position crossing transferred => exact Store.set_ne_none known
  | sharedSplit crossing => exact Store.set_ne_none known
  | sharedMerge crossing => exact Store.set_ne_none known
  | redeemPrediction crossing final worth => exact Store.set_ne_none known
  | insertSharedOrder placed => exact saveClaims_assets_kept placed.locked known
  | appendSharedOrder placed => exact saveClaims_assets_kept placed.locked known
  | cancelSharedOrder leaving => exact saveClaims_assets_kept leaving.released known
  | matchSharedOrder configured fill =>
      exact saveClaims_assets_kept fill.takerSettled (saveClaims_assets_kept fill.makerSettled known)
  | _ => exact known

theorem Effect.positions_kept {key : Pubkey} (known : state.prediction.positions.get key ≠ none) :
    after.prediction.positions.get key ≠ none := by
  cases effect with
  | initializePredictionPosition stored fresh => exact Store.set_ne_none known
  | depositPredictionCollateral crossing transferred => exact Store.set_ne_none known
  | withdrawPredictionCollateral crossing held owned transferred => exact Store.set_ne_none known
  | splitPredictionCompleteSet crossing => exact Store.set_ne_none known
  | mergePredictionCompleteSet crossing => exact Store.set_ne_none known
  | insertPredictionOrder placed => exact Store.set_ne_none known
  | placePredictionOrder placed => exact Store.set_ne_none known
  | appendPredictionOrder placed => exact Store.set_ne_none known
  | cancelPredictionOrder leaving => exact Store.set_ne_none known
  | matchPredictionOrder configured fill => exact Store.set_ne_none (Store.set_ne_none known)
  | restate silent named restates done =>
      obtain ⟨_, _, _, _, rfl⟩ := restates
      exact known
  | migratePredictionAsset position crossing transferred => exact Store.set_ne_none known
  | sharedSplit crossing => exact Store.set_ne_none known
  | sharedMerge crossing => exact Store.set_ne_none known
  | redeemPrediction crossing final worth => exact Store.set_ne_none known
  | insertSharedOrder placed => exact saveClaims_positions_kept placed.locked known
  | appendSharedOrder placed => exact saveClaims_positions_kept placed.locked known
  | cancelSharedOrder leaving => exact saveClaims_positions_kept leaving.released known
  | matchSharedOrder configured fill =>
      exact saveClaims_positions_kept fill.takerSettled
        (saveClaims_positions_kept fill.makerSettled known)
  | _ => exact known

theorem Effect.sameTerms (holds : SharedInvariant state.shared) {key : Pubkey}
    {book later : SharedBook} (stored : state.shared.books.get key = some book)
    (stays : after.shared.books.get key = some later) : Shared.SameTerms book later := by
  have refl : ∀ book : SharedBook, Shared.SameTerms book book :=
    fun book => ⟨rfl, rfl, rfl, le_rfl⟩
  have edited : ∀ {found orderKey record written previous next ahead behind} {old : SharedBook},
      SharedEdit state.shared after.shared found orderKey old record written previous next ahead
        behind → Shared.SameTerms book later := by
    intro found orderKey record written previous next ahead behind old edit
    rw [edit.books, Store.get_set] at stays
    split at stays
    · next home =>
        rw [home, edit.stored, Option.some.injEq] at stored
        rw [Option.some.injEq] at stays
        exact stored ▸ stays ▸ edit.same
    · exact Option.some.inj (stored.symm.trans stays) ▸ refl book
  cases effect with
  | @initializeSharedBook authority market kind opening =>
      rw [Store.get_set] at stays
      split at stays
      · next home =>
          rw [home, opening.absent] at stored
          cases stored
      · exact Option.some.inj (stored.symm.trans stays) ▸ refl book
  | withdrawSharedFees charged enough held owned transferred =>
      rw [Store.get_set] at stays
      split at stays
      · next home =>
          rw [home, charged, Option.some.injEq] at stored
          rw [Option.some.injEq] at stays
          exact stored ▸ stays ▸ ⟨rfl, rfl, rfl, le_rfl⟩
      · exact Option.some.inj (stored.symm.trans stays) ▸ refl book
  | closeSharedBook found count fees empty =>
      rw [Store.get_erase] at stays
      split at stays
      · cases stays
      · exact Option.some.inj (stored.symm.trans stays) ▸ refl book
  | insertSharedOrder placed => exact edited (placed.edit holds (uint64_fits _) (uint64_fits _))
  | appendSharedOrder placed => exact edited (placed.edit holds (uint64_fits _) (uint64_fits _))
  | cancelSharedOrder leaving => exact edited (leaving.edit holds)
  | matchSharedOrder configured fill =>
      cases full : fill.plan.makerFullyFilled with
      | true => exact edited (fill.edit_full holds full)
      | false => exact edited (fill.edit_partial holds full)
  | _ => exact Option.some.inj (stored.symm.trans stays) ▸ refl book

theorem Effect.seat_kept (holds : SharedInvariant state.shared) {order version : SharedOrder}
    {later : SharedBook} (seat : Seat state order) (book : version.book = order.book)
    (owner : version.owner = order.owner)
    (stays : after.shared.books.get order.book = some later) : Seat after version := by
  obtain ⟨record, claims, stored, held⟩ := seat
  have same := effect.sameTerms holds stored stays
  obtain ⟨kept, keeps⟩ : ∃ kept, ClaimsHeld after later version.owner kept := by
    rw [owner]
    refine claims_stored ?_ (fun isSpot => ?_) fun notSpot => ?_
    · rw [same.quoteMint]
      exact effect.assets_kept (Option.ne_none_iff_exists'.mpr ⟨_, held.quoteStored⟩)
    · obtain ⟨-, base, -, baseStored⟩ := held.spot (same.kind ▸ isSpot)
      rw [same.baseMint]
      exact effect.assets_kept (Option.ne_none_iff_exists'.mpr ⟨base, baseStored⟩)
    · obtain ⟨-, position, -, positionStored⟩ := held.contracts (same.kind ▸ notSpot)
      rw [same.market]
      exact effect.positions_kept (Option.ne_none_iff_exists'.mpr ⟨position, positionStored⟩)
  exact ⟨later, kept, book ▸ stays, keeps⟩

theorem Effect.seated (holds : SharedInvariant state.shared) (kept : SharedInvariant after.shared)
    (seated : Seated state) : Seated after := by
  intro key order stored live
  obtain ⟨later, stays, -⟩ := kept.resting key order stored live
  obtain ⟨arrived, admitted, origin⟩ := (effect.sharedOrders holds).origin sharedIdentity_blind
  have moved : ∀ old, Seat state old → sharedIdentity order = sharedIdentity old →
      Seat after order := by
    intro old seat same
    simp only [sharedIdentity, Prod.mk.injEq] at same
    exact effect.seat_kept holds seat same.1 same.2.2.2.1 (same.1 ▸ stays)
  obtain ⟨old, present, rests, same⟩ | ⟨written, member, same⟩ :=
    origin key order stored (sharedShelf_live.mpr live)
  · exact moved old (seated key old present (sharedShelf_live.mp rests)) same
  · exact moved written (admitted written member).2 same

end Steps

theorem run_seated (genesis : Genesis) (events : List Event) :
    Seated (genesis.after events).state := by
  have initial : Seated genesis.world.state := fun _ _ found => (nomatch found)
  refine (reach_of_steps (P := fun world => Seated world.state) ?_ (.genesis genesis) initial).2
  intro world event after _ holds seated applied reached _
  have kept := (apply_preserves holds applied).shared
  rw [reached]
  cases event with
  | instruction sent =>
      exact (execute_effect holds.spot holds.prediction holds.shared applied).seated holds.shared kept
        seated
  | outside happened =>
      have around := occur_around applied
      unfold Seated Seat
      intro key order stored live
      rw [around.shared] at stored
      obtain ⟨book, claims, present, held⟩ := seated key order stored live
      exact ⟨book, claims, around.shared ▸ present,
        held.congr ⟨rfl, rfl, rfl, le_rfl⟩ (by rw [around.shared]) (by rw [around.prediction])⟩

/-! ## What a removal asks for -/

section Removal

variable {shared : Shared} (holds : SharedInvariant shared)

include holds

theorem checkSharedOrder_iff {key : Pubkey} {order : SharedOrder} {book : SharedBook}
    (stored : shared.orders.get key = some order) (live : order.status = .opened)
    (bookStored : shared.books.get order.book = some book) :
    checkSharedOrder ⟨order.book, book⟩ ⟨key, order⟩ = .ok () ↔ 0 < order.lockedCollateral := by
  obtain ⟨record, present, rest⟩ := holds.resting key order stored live
  cases bookStored.symm.trans present
  simp only [checkSharedOrder, bind_eq_ok, require_eq_ok]
  constructor
  · rintro ⟨_, -, _, ⟨-, -, -, -, -, -, -, -, locked⟩, -⟩
    exact locked
  · intro locked
    refine ⟨_, slot_eq_ok.mpr ⟨rest.traded, rfl⟩, (), ⟨trivial, rest.market, rest.id_pos, rest.id_lt, live,
      rest.remaining_pos, rest.remaining_le, rest.price_pos, locked⟩, (),
      holds.orders key order stored, (), rest.level, ?_⟩
    cases side : order.side with
    | bid =>
        have product : order.price * order.remainingQuantity ≤ u128Max :=
          (Nat.mul_le_mul rest.price_fits (rest.remaining_le.trans rest.quantity_fits)).trans
            (by decide)
        simp only [minimumLock, side, quoteAmount_eq_ok, coversMinimum, decide_eq_true_iff]
        exact ⟨_, ⟨rest.scale, product, rest.quote_fits, rfl⟩, rest.bid_lock side⟩
    | ask =>
        simp only [minimumLock, side, pure_eq_ok, coversMinimum, decide_eq_true_iff]
        exact ⟨_, rfl, rest.ask_lock side⟩

theorem checkSharedLevel_total {key : Pubkey} {book : SharedBook} {outcome : SharedOutcome}
    {side : OrderSide} {price : Nat} {level : SharedPriceLevel}
    (bookStored : shared.books.get key = some book)
    (found : shared.levels.get (.sharedLevel key outcome side price) = some level) :
    checkSharedLevel ⟨key, book⟩ ⟨.sharedLevel key outcome side price, level⟩ = .ok () ∧
      level.outcome = outcome ∧ level.side = side ∧ level.price = price := by
  obtain ⟨homeIs, rfl, rfl, rfl⟩ := Pubkey.sharedLevel.inj (holds.levels _ level found)
  have here : shared.levels.get (sharedShelf.file key ((level.outcome, level.side), level.price)) =
      some level := found
  obtain ⟨first, last, total⟩ := holds.sound.filled here
  obtain ⟨end_, isLast⟩ := Option.ne_none_iff_exists'.mp last
  obtain ⟨order, stored, home, live, place⟩ := holds.sound.tail here isLast
  obtain ⟨record, present, rest⟩ := holds.resting end_ order stored (sharedShelf_live.mp live)
  rw [show order.book = key from home, bookStored, Option.some.injEq] at present
  subst present
  obtain ⟨listed, priced⟩ := Prod.mk.inj place
  obtain ⟨answered, -⟩ := Prod.mk.inj listed
  have market : level.market = book.market :=
    Pubkey.sharedBook.inj
      ((holds.levelHome _ level found).symm.trans (homeIs.symm.trans (holds.books key book bookStored)))
  refine ⟨?_, rfl, rfl, rfl⟩
  simp only [checkSharedLevel, bind_eq_ok, require_eq_ok]
  exact ⟨_, slot_eq_ok.mpr ⟨answered ▸ rest.traded, rfl⟩, (), ⟨homeIs.symm, market,
    priced ▸ rest.price_pos, holds.sound.occupied here, total, Option.isSome_iff_ne_none.mpr first,
    Option.isSome_iff_ne_none.mpr last⟩, trivial⟩

variable {key : Pubkey} (leaving : SharedDeparture shared key)

/-- Something is locked behind the order that a link leads to. -/
def Backed (shared : Shared) (link : Option Pubkey) : Prop :=
  ∀ key ∈ link, ∀ order, shared.orders.get key = some order → 0 < order.lockedCollateral

theorem checkRemovedNeighbor_iff (previous : Bool) {neighbor : Account SharedOrder}
    (present : shared.orders.get neighbor.key = some neighbor.val)
    (link : (if previous then leaving.order.previousOrder else leaving.order.nextOrder) =
      some neighbor.key) :
    checkRemovedNeighbor ⟨leaving.order.book, leaving.book⟩ ⟨key, leaving.order⟩
        (.sharedLevel leaving.order.book leaving.order.outcome leaving.order.side leaving.order.price)
        previous neighbor = .ok () ↔
      0 < neighbor.val.lockedCollateral := by
  have opened := sharedShelf_live.mpr leaving.live
  obtain ⟨away, found, home, rests, place, back⟩ : neighbor.key ≠ key ∧
      shared.orders.get neighbor.key = some neighbor.val ∧
      neighbor.val.book = leaving.order.book ∧ neighbor.val.status = .opened ∧
      ((neighbor.val.outcome, neighbor.val.side), neighbor.val.price) =
        ((leaving.order.outcome, leaving.order.side), leaving.order.price) ∧
      (if previous then neighbor.val.nextOrder = some key ∧
          neighbor.val.orderId < leaving.order.orderId
        else neighbor.val.previousOrder = some key ∧
          neighbor.val.orderId > leaving.order.orderId) := by
    cases previous with
    | true =>
        obtain ⟨away, -, older, stored, home, rests, place, back⟩ :=
          holds.sound.previous leaving.orderStored opened link
        cases present.symm.trans stored
        exact ⟨away, present, home, sharedShelf_live.mp rests, place, back,
          holds.sound.previous_older leaving.orderStored opened link present⟩
    | false =>
        obtain ⟨away, newer, stored, home, rests, place, back⟩ :=
          holds.sound.following leaving.orderStored opened link
        cases present.symm.trans stored
        exact ⟨away, present, home, sharedShelf_live.mp rests, place, back,
          holds.sound.following_newer leaving.orderStored opened link present⟩
  obtain ⟨listed, priced⟩ := Prod.mk.inj place
  obtain ⟨answered, sided⟩ := Prod.mk.inj listed
  have checked := checkSharedOrder_iff holds present rests (home ▸ leaving.stored)
  rw [home] at checked
  obtain ⟨record, -, rest⟩ := holds.resting _ _ present rests
  have filed := rest.level
  rw [home, answered, sided, priced] at filed
  simp only [checkRemovedNeighbor, bind_eq_ok, require_eq_ok]
  exact ⟨fun ⟨_, valid, _⟩ => checked.mp valid,
    fun locked => ⟨(), checked.mpr locked, away, filed, answered, sided, priced, back⟩⟩

theorem checkRemoved_iff {previous next : Option (Account SharedOrder)}
    (isPrevious : leaving.order.previousOrder = previous.map Account.key)
    (isNext : leaving.order.nextOrder = next.map Account.key)
    (hasPrevious : ∀ value ∈ previous, shared.orders.get value.key = some value.val)
    (hasNext : ∀ value ∈ next, shared.orders.get value.key = some value.val) :
    checkRemoved ⟨leaving.order.book, leaving.book⟩
        (listSlot leaving.order.outcome leaving.order.side) ⟨key, leaving.order⟩
        ⟨.sharedLevel leaving.order.book leaving.order.outcome leaving.order.side leaving.order.price,
          leaving.level⟩ previous next = .ok () ↔
      Backed shared leaving.order.previousOrder ∧ Backed shared leaving.order.nextOrder := by
  have opened := sharedShelf_live.mpr leaving.live
  obtain ⟨heads, ends⟩ := holds.sound.ends leaving.orderStored opened leaving.levelStored
  obtain ⟨-, answered, sided, priced⟩ := checkSharedLevel_total holds leaving.stored leaving.levelStored
  obtain ⟨best, top, reaches⟩ : ∃ best,
      sharedHeads shared.books leaving.order.book (leaving.order.outcome, leaving.order.side) =
        some best ∧
      (leaving.order.price = best ∨ leaving.order.side.Precedes best leaving.order.price) :=
    holds.sound.best_reaches leaving.orderStored opened
  have here : shared.levels.get (sharedShelf.file leaving.order.book
      ((leaving.order.outcome, leaving.order.side), leaving.order.price)) = some leaving.level :=
    leaving.levelStored
  have leads := holds.sound.top here
  rw [top, Option.some.injEq] at leads
  rw [sharedHeads_stored leaving.stored, headOf_slot (leaving.slotted holds)] at top
  have latest : leaving.order.side.NoLater best leaving.order.price := by
    cases side : leaving.order.side <;> simp only [side, OrderSide.Precedes] at reaches <;>
      simp only [OrderSide.NoLater] <;> omega
  have behind : (∀ value ∈ previous, checkRemovedNeighbor ⟨leaving.order.book, leaving.book⟩
      ⟨key, leaving.order⟩ (.sharedLevel leaving.order.book leaving.order.outcome leaving.order.side
        leaving.order.price) true value = .ok ()) ↔ Backed shared leaving.order.previousOrder := by
    rw [isPrevious]
    cases previous with
    | none => simp [Backed]
    | some value =>
        have present := hasPrevious value rfl
        have checked := checkRemovedNeighbor_iff holds leaving true present isPrevious
        simp [Backed, present, checked]
  have ahead : (∀ value ∈ next, checkRemovedNeighbor ⟨leaving.order.book, leaving.book⟩
      ⟨key, leaving.order⟩ (.sharedLevel leaving.order.book leaving.order.outcome leaving.order.side
        leaving.order.price) false value = .ok ()) ↔ Backed shared leaving.order.nextOrder := by
    rw [isNext]
    cases next with
    | none => simp [Backed]
    | some value =>
        have present := hasNext value rfl
        have checked := checkRemovedNeighbor_iff holds leaving false present isNext
        simp [Backed, present, checked]
  simp only [checkRemoved, bind_eq_ok, require_eq_ok, okOr_eq_ok, forSupplied_eq_ok]
  rw [← behind, ← ahead]
  constructor
  · rintro ⟨_, -, _, -, _, -, _, -, _, -, _, before, after⟩
    exact ⟨before, after⟩
  · rintro ⟨before, after⟩
    exact ⟨(), ⟨(leaving.rests holds).level, priced.symm, answered.symm, sided.symm⟩, best, top, (),
      ⟨priced ▸ leads, priced ▸ latest⟩, (), ⟨isPrevious.symm, isNext.symm⟩, (), ⟨heads, ends⟩, (),
      before, after⟩

theorem checkRemovedPrice_total (better : Bool) {price : Nat} {neighbor : SharedPriceLevel}
    (present : shared.levels.get (.sharedLevel leaving.order.book leaving.order.outcome
      leaving.order.side price) = some neighbor)
    (link : (if better then leaving.level.betterPrice else leaving.level.worsePrice) = some price) :
    checkRemovedPrice ⟨leaving.order.book, leaving.book⟩ leaving.level better
      ⟨.sharedLevel leaving.order.book leaving.order.outcome leaving.order.side price, neighbor⟩ =
        .ok () := by
  have here : shared.levels.get (sharedShelf.file leaving.order.book
      ((leaving.order.outcome, leaving.order.side), leaving.order.price)) = some leaving.level :=
    leaving.levelStored
  obtain ⟨-, answerIs, sideIs, priceIs⟩ :=
    checkSharedLevel_total holds leaving.stored leaving.levelStored
  obtain ⟨valid, answered, sided, priced⟩ := checkSharedLevel_total holds leaving.stored present
  simp only [checkRemovedPrice, bind_eq_ok, require_eq_ok]
  refine ⟨(), valid, answered.trans answerIs.symm, sided.trans sideIs.symm, ?_⟩
  rw [priceIs, sideIs, priced]
  cases better with
  | true =>
      obtain ⟨before, other, found, back⟩ := holds.sound.better here link
      cases present.symm.trans found
      exact ⟨back, before⟩
  | false =>
      obtain ⟨after, other, found, back⟩ := holds.sound.worse here link
      cases present.symm.trans found
      exact ⟨back, after⟩

theorem checkRemovedLevel_total {previous next : Option (Account SharedOrder)} (owner : Wallet)
    (claims : ClaimKeys) (isPrevious : leaving.order.previousOrder = previous.map Account.key)
    (isNext : leaving.order.nextOrder = next.map Account.key) : ∃ better worse,
      loadOption shared.levels (sharedExit leaving.order leaving.level owner claims).betterLevel =
        .ok better ∧
      loadOption shared.levels (sharedExit leaving.order leaving.level owner claims).worseLevel =
        .ok worse ∧
      checkRemovedLevel ⟨leaving.order.book, leaving.book⟩ leaving.level
        (leaving.level.orderCount - 1)
        (leaving.level.totalRemainingQuantity - leaving.order.remainingQuantity) previous next better
        worse (sharedExit leaving.order leaving.level owner claims).levelRentRecipient = .ok () := by
  have here : shared.levels.get (sharedShelf.file leaving.order.book
      ((leaving.order.outcome, leaving.order.side), leaving.order.price)) = some leaving.level :=
    leaving.levelStored
  obtain ⟨alone, several, counted, covered⟩ := holds.sound.alone leaving.orderStored
    (sharedShelf_live.mpr leaving.live) leaving.levelStored
  obtain ⟨-, answerIs, sideIs, -⟩ := checkSharedLevel_total holds leaving.stored leaving.levelStored
  have positive : 0 < leaving.level.orderCount := counted
  by_cases last : leaving.level.orderCount = 1
  · obtain ⟨noPrevious, noNext, total, -, -⟩ := alone last
    have emptied : leaving.level.totalRemainingQuantity - leaving.order.remainingQuantity = 0 :=
      Nat.sub_eq_zero_of_le (le_of_eq total)
    simp only [sharedExit, if_pos last]
    obtain ⟨better, loadedBetter, isBetter, hasBetter, above⟩ := loadOption_better holds.sound here
    obtain ⟨worse, loadedWorse, isWorse, hasWorse, below⟩ := loadOption_worse holds.sound here
    refine ⟨better, worse, loadedBetter, loadedWorse, ?_⟩
    rw [checkRemovedLevel, if_pos (by omega)]
    simp only [bind_eq_ok, require_eq_ok, okOr_eq_ok, forSupplied_eq_ok]
    refine ⟨(), ⟨?_, ?_, emptied⟩, (), ?_, (), fun value member => ?_, (), fun value member => ?_,
      leaving.level.rentPayer, rfl, rfl⟩
    · rw [Option.isNone_iff_eq_none, ← Option.map_eq_none_iff (f := Account.key), ← isPrevious]
      exact noPrevious
    · rw [Option.isNone_iff_eq_none, ← Option.map_eq_none_iff (f := Account.key), ← isNext]
      exact noNext
    · rw [answerIs, sideIs]
      exact ⟨isBetter.symm, isWorse.symm⟩
    · obtain ⟨price, link, keyed, -⟩ := above value member
      have present := hasBetter value member
      obtain ⟨found, neighbor⟩ := value
      obtain rfl : found = _ := keyed
      exact checkRemovedPrice_total holds leaving true present link
    · obtain ⟨price, link, keyed, -⟩ := below value member
      have present := hasWorse value member
      obtain ⟨found, neighbor⟩ := value
      obtain rfl : found = _ := keyed
      exact checkRemovedPrice_total holds leaving false present link
  · obtain ⟨neighbored, remains⟩ := several last
    have left : leaving.level.totalRemainingQuantity - leaving.order.remainingQuantity > 0 :=
      Nat.sub_pos_of_lt remains
    simp only [sharedExit, if_neg last]
    refine ⟨none, none, rfl, rfl, ?_⟩
    rw [checkRemovedLevel, if_neg (by omega)]
    simp only [require_eq_ok]
    refine ⟨left, neighbored.imp (fun some_previous => ?_) fun some_next => ?_, rfl, rfl, trivial⟩
    · rw [Option.isSome_iff_ne_none, Ne, ← Option.map_eq_none_iff (f := Account.key), ← isPrevious]
      exact some_previous
    · rw [Option.isSome_iff_ne_none, Ne, ← Option.map_eq_none_iff (f := Account.key), ← isNext]
      exact some_next

/-- With the stored accounts, a removal fails only where the order or a neighbour has lost its
lock. -/
theorem removeOrder_iff {previous next : Option (Account SharedOrder)} (owner : Wallet)
    (claims : ClaimKeys) (isPrevious : leaving.order.previousOrder = previous.map Account.key)
    (isNext : leaving.order.nextOrder = next.map Account.key)
    (hasPrevious : ∀ value ∈ previous, shared.orders.get value.key = some value.val)
    (hasNext : ∀ value ∈ next, shared.orders.get value.key = some value.val) : ∃ better worse,
      loadOption shared.levels (sharedExit leaving.order leaving.level owner claims).betterLevel =
        .ok better ∧
      loadOption shared.levels (sharedExit leaving.order leaving.level owner claims).worseLevel =
        .ok worse ∧
      ((∃ removal, removeOrder ⟨leaving.order.book, leaving.book⟩ ⟨key, leaving.order⟩
        ⟨.sharedLevel leaving.order.book leaving.order.outcome leaving.order.side leaving.order.price,
          leaving.level⟩ previous next better worse
        (sharedExit leaving.order leaving.level owner claims).levelRentRecipient = .ok removal) ↔
      0 < leaving.order.lockedCollateral ∧ Backed shared leaving.order.previousOrder ∧
        Backed shared leaving.order.nextOrder) := by
  obtain ⟨better, worse, loadedBetter, loadedWorse, emptying⟩ :=
    checkRemovedLevel_total holds leaving owner claims isPrevious isNext
  obtain ⟨-, -, counted, covered⟩ := holds.sound.alone leaving.orderStored
    (sharedShelf_live.mpr leaving.live) leaving.levelStored
  have own := checkSharedOrder_iff holds leaving.orderStored leaving.live leaving.stored
  have linked := checkRemoved_iff holds leaving isPrevious isNext hasPrevious hasNext
  refine ⟨better, worse, loadedBetter, loadedWorse, ?_⟩
  simp only [removeOrder, bind_eq_ok, checkedSub_eq_ok, pure_eq_ok]
  constructor
  · rintro ⟨removal, _, valid, _, -, slot, slotted, _, placed, -⟩
    rw [leaving.slotted holds, Except.ok.injEq] at slotted
    subst slotted
    exact ⟨own.mp valid, linked.mp placed⟩
  · rintro ⟨locked, neighbours⟩
    exact ⟨_, (), own.mpr locked, (),
      (checkSharedLevel_total holds leaving.stored leaving.levelStored).1, _, leaving.slotted holds, (),
      linked.mpr neighbours, _, ⟨counted, rfl⟩, _, ⟨covered, rfl⟩, _, ⟨leaving.open_count holds, rfl⟩,
      (), emptying, rfl⟩

end Removal

/-! ## What comes back -/

section Refunds

variable {state : State}

theorem loadClaims_total {book : SharedBook} {owner : Pubkey} {claims : Claims}
    (holds : Invariant state) (terms : Shared.Terms book)
    (held : ClaimsHeld state book owner claims) :
    loadClaims state (traderAccounts book owner) = .ok claims ∧
      trader book owner claims = .ok () := by
  obtain ⟨base, ⟨quoteKey, quote⟩, position⟩ := claims
  obtain ⟨rfl, quoteStored, spot, contracts⟩ := held
  obtain ⟨quoteOwner, quoteMint⟩ := Pubkey.assetBalance.inj (holds.assets _ quote quoteStored)
  dsimp only at *
  have quoted : asset ⟨.assetBalance owner book.quoteMint, quote⟩ owner book.quoteMint = .ok () := by
    simp only [asset, bind_eq_ok, require_eq_ok]
    exact ⟨(), ⟨quoteOwner.symm, quoteMint.symm⟩, trivial⟩
  simp only [loadClaims, traderAccounts, trader, bind_eq_ok, load_eq_ok, loadOption_eq_ok, pure_eq_ok]
  rcases terms.kind with isSpot | isQuestion
  · obtain ⟨rfl, balance, rfl, stored⟩ := spot isSpot
    obtain ⟨baseOwner, baseMint⟩ := Pubkey.assetBalance.inj (holds.assets _ balance stored)
    have other : book.kind ≠ .prediction := by simp [isSpot]
    rw [if_pos isSpot, if_neg other, if_pos isSpot]
    refine ⟨⟨some ⟨_, balance⟩, ⟨rfl, ?_⟩, _, ⟨rfl, quoteStored⟩, none, ⟨rfl, by simp⟩, rfl⟩, (), quoted,
      ?_⟩
    · rintro _ ⟨⟩
      exact stored
    · simp only [bind_eq_ok, okOr_eq_ok, require_eq_ok, asset]
      exact ⟨_, rfl, (), ⟨(), ⟨baseOwner.symm, baseMint.symm⟩, rfl⟩, rfl⟩
  · have notSpot : book.kind ≠ .spot := by simp [isQuestion]
    obtain ⟨rfl, account, rfl, stored⟩ := contracts notSpot
    obtain ⟨marketIs, ownerIs⟩ :=
      Pubkey.predictionPosition.inj (holds.accounts.filed _ account stored)
    rw [if_neg notSpot, if_pos isQuestion, if_neg notSpot]
    refine ⟨⟨none, ⟨rfl, by simp⟩, _, ⟨rfl, quoteStored⟩, some ⟨_, account⟩, ⟨rfl, ?_⟩, rfl⟩, (), quoted,
      ?_⟩
    · rintro _ ⟨⟩
      exact stored
    · simp only [bind_eq_ok, okOr_eq_ok, require_eq_ok]
      exact ⟨(), rfl, _, rfl, (), ⟨ownerIs.symm, marketIs.symm⟩, rfl⟩

section Locks

variable (holds : Invariant state) (solvent : Solvent state) {key : Pubkey}
variable (leaving : SharedDeparture state.shared key)

include holds

theorem assetShare_le {owner mint : Pubkey} {balance : AssetBalance}
    (stored : state.shared.assets.get (.assetBalance owner mint) = some balance) :
    Shared.assetShare leaving.book leaving.order (owner, mint) () ≤ balance.locked := by
  have there : state.shared.assets.get (assetLedger.file (owner, mint)) = some balance := stored
  have locks := holds.assetLocks (owner, mint)
  rw [Ledger.lockedOf_stored there] at locks
  have own := Store.le_total (f := Shared.assetLocked state.shared.books (owner, mint))
    leaving.orderStored
  rw [Shared.assetLocked_live leaving.live leaving.stored] at own
  exact own.trans locks.ge

theorem contractShare_le {market owner : Pubkey} {position : PredictionPosition}
    (stored : state.prediction.positions.get (.predictionPosition market owner) = some position)
    (bucket : Bucket) :
    Shared.contractShare leaving.order (market, owner) bucket ≤
      positionLedger.locked position bucket := by
  have there : state.prediction.positions.get (positionLedger.file (market, owner)) =
      some position := stored
  have locks := holds.positionLocks (market, owner) bucket
  rw [Ledger.lockedOf_stored there] at locks
  have own := Store.le_total (f := Shared.contractLocked (market, owner) bucket) leaving.orderStored
  rw [Shared.contractLocked_live leaving.live] at own
  exact own.trans ((Nat.le_add_left _ _).trans locks.ge)

include solvent

theorem asset_fits {owner mint : Pubkey} {balance : AssetBalance}
    (stored : state.shared.assets.get (.assetBalance owner mint) = some balance) :
    balance.free + balance.locked ≤ u64Max :=
  (asset_le_owed holds.assets stored).trans (solvent.assets_fit holds mint)

theorem contracts_total {claims : Claims}
    (held : ClaimsHeld state leaving.book leaving.order.owner claims)
    (contracts : leaving.order.outcome ≠ .spot) : leaving.book.kind = .prediction ∧ ∃ position,
    claims.position =
      some ⟨.predictionPosition leaving.book.market leaving.order.owner, position⟩ ∧
    (∀ bucket, positionLedger.free position bucket + positionLedger.locked position bucket ≤ u64Max) ∧
    ∀ bucket, Shared.contractShare leaving.order (leaving.book.market, leaving.order.owner) bucket ≤
      positionLedger.locked position bucket := by
  have trades := (leaving.rests holds.shared).traded
  have isQuestion : leaving.book.kind = .prediction := by
    cases kind : leaving.book.kind <;> simp_all [Trades]
  obtain ⟨-, position, isPosition, stored⟩ := held.contracts (by simp [isQuestion])
  have marketIs : leaving.book.market = position.market :=
    (Pubkey.predictionPosition.inj (holds.accounts.filed _ position stored)).1
  obtain ⟨record, present⟩ :=
    Option.ne_none_iff_exists'.mp (holds.accounts.housed _ position stored)
  rw [← marketIs] at present
  exact ⟨isQuestion, position, isPosition, position_fits holds solvent present stored,
    contractShare_le holds leaving stored⟩

theorem backingBuckets_total {claims : Claims}
    (held : ClaimsHeld state leaving.book leaving.order.owner claims) : ∃ free locked,
    backingBuckets leaving.book.kind leaving.order.outcome leaving.order.side claims =
      .ok (free, locked) ∧
    free + locked ≤ u64Max ∧ leaving.order.lockedCollateral ≤ locked := by
  have rest := leaving.rests holds.shared
  have trades := rest.traded
  cases side : leaving.order.side with
  | bid =>
      have share := assetShare_le holds leaving held.quoteStored
      simp only [Shared.assetShare, Shared.assetPart, side, Shared.quoteShare, if_true, Pi.add_apply,
        Ledger.single] at share
      exact ⟨_, _, rfl, asset_fits holds solvent held.quoteStored,
        (Nat.le_add_right _ _).trans share⟩
  | ask =>
      cases outcome : leaving.order.outcome with
      | spot =>
          have isSpot : leaving.book.kind = .spot := by
            rw [outcome] at trades
            cases kind : leaving.book.kind <;> simp_all [Trades]
          obtain ⟨-, balance, isBase, stored⟩ := held.spot isSpot
          have share := assetShare_le holds leaving stored
          simp only [Shared.assetShare, Shared.assetPart, outcome, side, Shared.baseShare, if_true,
            Pi.add_apply, Ledger.single] at share
          refine ⟨balance.free, balance.locked, ?_, asset_fits holds solvent stored,
            (Nat.le_add_left _ _).trans share⟩
          rw [isSpot]
          simp only [backingBuckets, baseBuckets, isBase, okOr, bind_eq_ok]
          exact ⟨_, rfl, rfl⟩
      | yes =>
          obtain ⟨isQuestion, position, isPosition, fits, share⟩ :=
            contracts_total holds solvent leaving held (by simp [outcome])
          have share := share (.contracts .yes)
          simp only [Shared.contractShare, Shared.contractPart, rest.market, outcome, side,
            Shared.baseShare, Shared.traded, Ledger.single, if_true, Pi.single_eq_same] at share
          refine ⟨position.yesFree, position.yesLocked, ?_, fits (.contracts .yes), share⟩
          rw [isQuestion]
          simp only [backingBuckets, baseBuckets, isPosition, okOr, bind_eq_ok]
          exact ⟨_, rfl, rfl⟩
      | no =>
          obtain ⟨isQuestion, position, isPosition, fits, share⟩ :=
            contracts_total holds solvent leaving held (by simp [outcome])
          have share := share (.contracts .no)
          simp only [Shared.contractShare, Shared.contractPart, rest.market, outcome, side,
            Shared.baseShare, Shared.traded, Ledger.single, if_true, Pi.single_eq_same] at share
          refine ⟨position.noFree, position.noLocked, ?_, fits (.contracts .no), share⟩
          rw [isQuestion]
          simp only [backingBuckets, baseBuckets, isPosition, okOr, bind_eq_ok]
          exact ⟨_, rfl, rfl⟩

theorem unlockClaims_total {claims : Claims}
    (held : ClaimsHeld state leaving.book leaving.order.owner claims) : ∃ released,
    unlock leaving.book.kind leaving.order.outcome leaving.order.side claims
      leaving.order.lockedCollateral = .ok released := by
  obtain ⟨free, locked, buckets, fits, enough⟩ := backingBuckets_total holds solvent leaving held
  simp only [unlock, bind_eq_ok, checkedAdd_eq_ok, checkedSub_eq_ok, pure_eq_ok]
  refine ⟨_, (free, locked), buckets, _, ⟨?_, rfl⟩, _, ⟨enough, rfl⟩, rfl⟩
  dsimp only
  omega

/-- With the stored accounts, the cancellation of an open order fails only where the order or one of
its neighbours has lost its lock. -/
theorem handleCancelSharedOrder_iff (seated : Seated state) {owner : Wallet}
    (own : leaving.order.owner = owner.key) :
    (∃ after, handleCancelSharedOrder state (sharedExit leaving.order leaving.level owner
      (traderAccounts leaving.book owner.key)) = .ok after) ↔
    0 < leaving.order.lockedCollateral ∧ Backed state.shared leaving.order.previousOrder ∧
      Backed state.shared leaving.order.nextOrder := by
  have opened := sharedShelf_live.mpr leaving.live
  obtain ⟨record, claims, present, held⟩ := seated key leaving.order leaving.orderStored leaving.live
  cases leaving.stored.symm.trans present
  obtain ⟨released, unlocked⟩ := unlockClaims_total holds solvent leaving held
  rw [own] at held
  obtain ⟨loaded, traded⟩ :=
    loadClaims_total holds (holds.shared.terms _ _ leaving.stored) held
  obtain ⟨previous, loadedPrevious, isPrevious, hasPrevious⟩ :=
    loadOption_total state.shared.orders leaving.order.previousOrder fun other link => by
      obtain ⟨-, -, neighbor, present, -⟩ :=
        holds.shared.sound.previous leaving.orderStored opened link
      exact Option.ne_none_iff_exists'.mpr ⟨neighbor, present⟩
  obtain ⟨next, loadedNext, isNext, hasNext⟩ :=
    loadOption_total state.shared.orders leaving.order.nextOrder fun other link => by
      obtain ⟨-, neighbor, present, -⟩ :=
        holds.shared.sound.following leaving.orderStored opened link
      exact Option.ne_none_iff_exists'.mpr ⟨neighbor, present⟩
  obtain ⟨better, worse, loadedBetter, loadedWorse, removes⟩ :=
    removeOrder_iff holds.shared leaving owner (traderAccounts leaving.book owner.key) isPrevious
      isNext hasPrevious hasNext
  have valid := checkSharedOrder_iff holds.shared leaving.orderStored leaving.live leaving.stored
  have keyed : key = .sharedOrder leaving.order.book leaving.order.orderId :=
    holds.shared.orders key leaving.order leaving.orderStored
  have ownOrder : load state.shared.orders
      (.sharedOrder leaving.order.book leaving.order.orderId) = .ok ⟨key, leaving.order⟩ :=
    load_eq_ok.mpr ⟨keyed, keyed ▸ leaving.orderStored⟩
  have ownLevel : load state.shared.levels (.sharedLevel leaving.order.book leaving.order.outcome
      leaving.order.side leaving.order.price) = .ok ⟨_, leaving.level⟩ :=
    load_eq_ok.mpr ⟨rfl, leaving.levelStored⟩
  have ownBook : loadBookAccount state.shared leaving.order.book =
      .ok ⟨leaving.order.book, leaving.book⟩ := by
    simp only [loadBookAccount, bind_eq_ok, load_eq_ok, require_eq_ok, pure_eq_ok]
    exact ⟨⟨_, leaving.book⟩, ⟨rfl, leaving.stored⟩, (), holds.shared.books _ _ leaving.stored, rfl⟩
  rw [← removes]
  simp only [sharedExit] at loadedBetter loadedWorse ⊢
  simp only [handleCancelSharedOrder, ownBook, loaded, ownOrder, ownLevel, loadedPrevious, loadedNext,
    loadedBetter, loadedWorse, traded, unlocked, bind_eq_ok, require_eq_ok, pure_eq_ok,
    Except.ok.injEq, exists_eq_left', own, exists_const, true_and]
  constructor
  · rintro ⟨_, _, -, removal, removed, -⟩
    exact ⟨removal, removed⟩
  · rintro ⟨removal, removed⟩
    exact ⟨_, (), valid.mpr (removes.mp ⟨removal, removed⟩).1, removal, removed, rfl⟩

end Locks

end Refunds

end Tidebook.Proof
