import Tidebook.Proof.Engines

/-! # Claims in the two engines

What a handler of the shared engine does to the claims of a trader, the legacy engine does to the
position that holds the same amounts.
-/

namespace Tidebook.Proof
open Library Program

/-- What a move leaves of the accounts that carry the claims: their addresses, and no base
balance. -/
structure Carried (claims after : Claims) (key : Pubkey) (moved : PredictionPosition) : Prop where
  quoteKey : after.quote.key = claims.quote.key
  base : claims.base = none → after.base = none
  position : after.position = some ⟨key, moved⟩

section Buckets

variable {outcome : SharedOutcome} (traded : outcome ≠ .spot) {claims : Claims} {key : Pubkey}
variable {position : PredictionPosition} (isPosition : claims.position = some ⟨key, position⟩)

include traded isPosition

theorem backingBuckets_carries (side : OrderSide) :
    backingBuckets .prediction outcome side claims = .ok
      ((legacyPosition claims.quote.val position).buckets (legacyOutcome outcome) side) := by
  cases side with
  | bid => cases outcome <;> rfl
  | ask =>
      cases outcome with
      | spot => exact absurd rfl traded
      | yes => simp only [backingBuckets, baseBuckets, isPosition]; rfl
      | no => simp only [backingBuckets, baseBuckets, isPosition]; rfl

theorem setBackingBuckets_carries (side : OrderSide) (free locked : Nat) : ∃ moved,
    Carried claims (setBackingBuckets outcome side claims free locked) key moved ∧
      legacyPosition (setBackingBuckets outcome side claims free locked).quote.val moved =
        (legacyPosition claims.quote.val position).setBuckets (legacyOutcome outcome) side free
          locked := by
  cases side with
  | bid => exact ⟨position, ⟨rfl, id, isPosition⟩, by cases outcome <;> rfl⟩
  | ask =>
      cases outcome with
      | spot => exact absurd rfl traded
      | yes =>
          refine ⟨{ position with yesFree := free, yesLocked := locked }, ⟨rfl, id, ?_⟩, rfl⟩
          simp only [setBackingBuckets, setBaseBuckets, isPosition]
          rfl
      | no =>
          refine ⟨{ position with noFree := free, noLocked := locked }, ⟨rfl, id, ?_⟩, rfl⟩
          simp only [setBackingBuckets, setBaseBuckets, isPosition]
          rfl

theorem baseBuckets_carries : baseBuckets .prediction outcome claims = .ok
    ((legacyPosition claims.quote.val position).contractsFree (legacyOutcome outcome),
      (legacyPosition claims.quote.val position).contractsLocked (legacyOutcome outcome)) := by
  cases outcome with
  | spot => exact absurd rfl traded
  | yes => simp only [baseBuckets, isPosition]; rfl
  | no => simp only [baseBuckets, isPosition]; rfl

theorem setBoth_carries (quoteFree quoteLocked free locked : Nat) : ∃ moved,
    Carried claims (setBaseBuckets outcome (claims.setQuote quoteFree quoteLocked) free locked) key
      moved ∧
    legacyPosition
        (setBaseBuckets outcome (claims.setQuote quoteFree quoteLocked) free locked).quote.val
        moved =
      (({ legacyPosition claims.quote.val position with
          collateralFree := quoteFree, collateralLocked := quoteLocked }.setContractsFree
        (legacyOutcome outcome) free).setContractsLocked (legacyOutcome outcome) locked) := by
  cases outcome with
  | spot => exact absurd rfl traded
  | yes =>
      refine ⟨{ position with yesFree := free, yesLocked := locked }, ⟨rfl, id, ?_⟩, rfl⟩
      simp only [setBaseBuckets, Claims.setQuote, isPosition]
      rfl
  | no =>
      refine ⟨{ position with noFree := free, noLocked := locked }, ⟨rfl, id, ?_⟩, rfl⟩
      simp only [setBaseBuckets, Claims.setQuote, isPosition]
      rfl

/-! ## Locks -/

variable {side : OrderSide} {after : Claims} {amount : Nat}

theorem lock_carries {price quantity : Nat}
    (backed : backing side price quantity .predictionAccountingOverflow = .ok amount)
    (passed : lock .prediction outcome side claims amount = .ok after) :
    ∃ moved, Carried claims after key moved ∧
      lockRestingFunds (legacyPosition claims.quote.val position) (legacyOutcome outcome) side price
        quantity = .ok (legacyPosition after.quote.val moved, amount) := by
  simp only [lock, backingBuckets_carries traded isPosition, bind_eq_ok, Except.ok.injEq,
    exists_eq_left', checkedSub_eq_ok, checkedAdd_eq_ok, pure_eq_ok] at passed
  obtain ⟨_, ⟨enough, rfl⟩, _, ⟨fits, rfl⟩, rfl⟩ := passed
  obtain ⟨moved, carried, same⟩ := setBackingBuckets_carries traded isPosition side _ _
  refine ⟨moved, carried, ?_⟩
  rw [same]
  simp only [lockRestingFunds, bind_eq_ok, checkedSub_eq_ok, checkedAdd_eq_ok, pure_eq_ok]
  exact ⟨_, backed, _, ⟨enough, rfl⟩, _, ⟨fits, rfl⟩, rfl⟩

theorem unlock_carries (passed : unlock .prediction outcome side claims amount = .ok after) :
    ∃ moved, Carried claims after key moved ∧
      (legacyPosition claims.quote.val position).unlock (legacyOutcome outcome) side amount =
        .ok (legacyPosition after.quote.val moved) := by
  simp only [unlock, backingBuckets_carries traded isPosition, bind_eq_ok, Except.ok.injEq,
    exists_eq_left', checkedSub_eq_ok, checkedAdd_eq_ok, pure_eq_ok] at passed
  obtain ⟨_, ⟨fits, rfl⟩, _, ⟨enough, rfl⟩, rfl⟩ := passed
  obtain ⟨moved, carried, same⟩ := setBackingBuckets_carries traded isPosition side _ _
  refine ⟨moved, carried, ?_⟩
  rw [same]
  simp only [PredictionPosition.unlock, bind_eq_ok, checkedSub_eq_ok, checkedAdd_eq_ok, pure_eq_ok]
  exact ⟨_, ⟨fits, rfl⟩, _, ⟨enough, rfl⟩, rfl⟩

end Buckets

/-! ## Settlement -/

/-- What the maker's position must hold behind its order when the taker is on `side`. -/
def heldBehind (position : PredictionPosition) (outcome : PredictionOutcome) : OrderSide → Nat
  | .bid => position.contractsLocked outcome
  | .ask => position.collateralLocked

theorem settle_carries {outcome : SharedOutcome} (traded : outcome ≠ .spot) {takerSide : OrderSide}
    {plan : SettlementPlan} {fee backing : Nat} {maker taker makerSettled takerSettled : Claims}
    {makerKey takerKey : Pubkey} {makerPosition takerPosition : PredictionPosition}
    (isMaker : maker.position = some ⟨makerKey, makerPosition⟩)
    (isTaker : taker.position = some ⟨takerKey, takerPosition⟩)
    (debit : plan.makerLockedDebit =
      match takerSide with
      | .bid => plan.fill.baseQuantity
      | .ask => plan.fill.quoteQuantity)
    (refund : takerSide = .ask → plan.makerQuoteRefund = 0)
    (covered : backing ≤
      heldBehind (legacyPosition maker.quote.val makerPosition) (legacyOutcome outcome) takerSide)
    (passed : settleClaims .prediction outcome takerSide plan fee maker taker =
      .ok (makerSettled, takerSettled)) :
    ∃ makerMoved takerMoved, Carried maker makerSettled makerKey makerMoved ∧
      Carried taker takerSettled takerKey takerMoved ∧
      settlePositions (legacyOutcome outcome) takerSide backing plan.fill.baseQuantity
        plan.fill.quoteQuantity fee (legacyPosition maker.quote.val makerPosition)
        (legacyPosition taker.quote.val takerPosition) =
          .ok (legacyPosition makerSettled.quote.val makerMoved,
            legacyPosition takerSettled.quote.val takerMoved) := by
  simp only [settleClaims, baseBuckets_carries traded isMaker, baseBuckets_carries traded isTaker,
    bind_eq_ok, Except.ok.injEq, exists_eq_left'] at passed
  cases takerSide with
  | bid =>
      simp only [bind_eq_ok, checkedAdd_eq_ok, checkedSub_eq_ok, pure_eq_ok, Prod.mk.injEq,
        debit] at passed
      obtain ⟨_, ⟨costs, rfl⟩, _, ⟨pays, rfl⟩, _, ⟨earns, rfl⟩, _, ⟨held, rfl⟩, _, ⟨gains, rfl⟩,
        rfl, rfl⟩ := passed
      obtain ⟨makerMoved, carriedMaker, isMade⟩ := setBoth_carries traded isMaker _ _ _ _
      obtain ⟨takerMoved, carriedTaker, isTaken⟩ := setBoth_carries traded isTaker _ _ _ _
      refine ⟨makerMoved, takerMoved, carriedMaker, carriedTaker, ?_⟩
      rw [isMade, isTaken]
      simp only [settlePositions, bind_eq_ok, require_eq_ok, checkedAdd_eq_ok, checkedSub_eq_ok,
        pure_eq_ok, Prod.mk.injEq]
      exact ⟨(), covered, _, ⟨costs, rfl⟩, _, ⟨pays, rfl⟩, _, ⟨earns, rfl⟩, _, ⟨held, rfl⟩, _,
        ⟨gains, rfl⟩, by cases outcome <;> rfl, by cases outcome <;> rfl⟩
  | ask =>
      simp only [bind_eq_ok, checkedAdd_eq_ok, checkedSub_eq_ok, pure_eq_ok, Prod.mk.injEq,
        debit, refund rfl, Nat.add_zero] at passed
      obtain ⟨_, ⟨charged, rfl⟩, _, ⟨gives, rfl⟩, _, ⟨gains, rfl⟩, _, ⟨earns, rfl⟩, _,
        ⟨held, rfl⟩, _, ⟨_, rfl⟩, rfl, rfl⟩ := passed
      obtain ⟨makerMoved, carriedMaker, isMade⟩ := setBoth_carries traded isMaker _ _ _ _
      obtain ⟨takerMoved, carriedTaker, isTaken⟩ := setBoth_carries traded isTaker _ _ _ _
      refine ⟨makerMoved, takerMoved, carriedMaker, carriedTaker, ?_⟩
      rw [isMade, isTaken]
      simp only [settlePositions, bind_eq_ok, require_eq_ok, checkedAdd_eq_ok, checkedSub_eq_ok,
        pure_eq_ok, Prod.mk.injEq]
      exact ⟨(), covered, _, ⟨gives, rfl⟩, _, ⟨charged, rfl⟩, _, ⟨earns, rfl⟩, _, ⟨held, rfl⟩, _,
        ⟨gains, rfl⟩, by cases outcome <;> rfl, by cases outcome <;> rfl⟩

/-! ## Saving -/

section Saving

variable {assets : Store Pubkey AssetBalance} {positions legacy : Store Pubkey PredictionPosition}
variable {market quoteMint : Pubkey}

theorem SameClaims.write (same : SameClaims assets positions legacy market quoteMint)
    (owner : Pubkey) (asset : AssetBalance) (position : PredictionPosition) :
    SameClaims (assets.set (.assetBalance owner quoteMint) asset)
      (positions.set (.predictionPosition market owner) position)
      (legacy.set (.predictionPosition market owner) (legacyPosition asset position)) market
      quoteMint := by
  intro other found held stored kept
  by_cases here : other = owner
  · subst here
    rw [Store.get_set_self, Option.some.injEq] at stored kept
    rw [Store.get_set_self, stored, kept]
  · have apart : Pubkey.assetBalance other quoteMint ≠ .assetBalance owner quoteMint :=
      fun same => here (Pubkey.assetBalance.inj same).1
    have distinct : Pubkey.predictionPosition market other ≠ .predictionPosition market owner :=
      fun same => here (Pubkey.predictionPosition.inj same).2
    rw [Store.get_set_ne _ _ apart] at stored
    rw [Store.get_set_ne _ _ distinct] at kept ⊢
    exact same other found held stored kept

variable {state : State} {book : SharedBook} {owner : Pubkey} {claims after : Claims}
variable {position moved : PredictionPosition}

theorem SameClaims.save (kind : book.kind = .prediction) (home : book.market = market)
    (same : SameClaims state.shared.assets state.prediction.positions legacy market book.quoteMint)
    (held : ClaimsHeld state book owner claims)
    (carried : Carried claims after (.predictionPosition market owner) moved) :
    SameClaims (saveClaims state after).shared.assets (saveClaims state after).prediction.positions
      (legacy.set (.predictionPosition market owner) (legacyPosition after.quote.val moved)) market
      book.quoteMint := by
  subst home
  obtain ⟨noBase, -⟩ := held.contracts (by simp [kind])
  have written := same.write owner after.quote.val moved
  simp only [saveClaims, carried.base noBase, carried.position, saveOption, Program.save,
    carried.quoteKey, held.quoteKey]
  exact written

theorem SameClaims.held (kind : book.kind = .prediction) (home : book.market = market)
    (same : SameClaims state.shared.assets state.prediction.positions legacy market book.quoteMint)
    (held : ClaimsHeld state book owner claims) : ∃ position,
    claims.position = some ⟨.predictionPosition market owner, position⟩ ∧
      legacy.get (.predictionPosition market owner) =
        some (legacyPosition claims.quote.val position) := by
  subst home
  obtain ⟨-, position, isPosition, stored⟩ := held.contracts (by simp [kind])
  exact ⟨position, isPosition, same owner _ _ held.quoteStored stored⟩

end Saving

end Tidebook.Proof
