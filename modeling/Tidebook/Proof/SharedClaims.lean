import Mathlib.Algebra.Group.Pi.Lemmas
import Tidebook.Proof.SharedInvariant

/-! # Claims

The accounts a trader brings to a shared book, what a handler moves in them, and what saving them
does to the two ledgers they come from.
-/

namespace Tidebook.Proof
open Library Program
open Shared (traded assetPart contractPart)

/-! ## Claims that belong to a trader -/

structure ClaimsHeld (state : State) (book : SharedBook) (owner : Pubkey) (claims : Claims) :
    Prop where
  quoteKey : claims.quote.key = .assetBalance owner book.quoteMint
  quoteStored : state.shared.assets.get (.assetBalance owner book.quoteMint) =
    some claims.quote.val
  spot : book.kind = .spot → claims.position = none ∧
    ∃ base, claims.base = some ⟨.assetBalance owner book.baseMint, base⟩ ∧
      state.shared.assets.get (.assetBalance owner book.baseMint) = some base
  contracts : book.kind ≠ .spot → claims.base = none ∧
    ∃ position, claims.position = some ⟨.predictionPosition book.market owner, position⟩ ∧
      state.prediction.positions.get (.predictionPosition book.market owner) = some position

theorem ClaimsHeld.congr {state later : State} {book record : SharedBook} {owner : Pubkey}
    {claims : Claims} (same : Shared.SameTerms book record)
    (assets : later.shared.assets = state.shared.assets)
    (positions : later.prediction.positions = state.prediction.positions)
    (held : ClaimsHeld state book owner claims) : ClaimsHeld later record owner claims := by
  refine ⟨?_, ?_, ?_, ?_⟩
  · rw [same.quoteMint]
    exact held.quoteKey
  · rw [same.quoteMint, assets]
    exact held.quoteStored
  · rw [same.kind, same.baseMint, assets]
    exact held.spot
  · rw [same.kind, same.market, positions]
    exact held.contracts

theorem asset_ok {account : Account AssetBalance} {owner mint : Pubkey} {done : Unit}
    (passed : asset account owner mint = .ok done) : account.key = .assetBalance owner mint := by
  simp only [asset, bind_eq_ok, require_eq_ok] at passed
  obtain ⟨_, _, filed⟩ := passed
  exact filed

theorem loadClaims_ok {state : State} {keys : ClaimKeys} {claims : Claims}
    (passed : loadClaims state keys = .ok claims) :
    (∀ base ∈ claims.base, state.shared.assets.get base.key = some base.val) ∧
      state.shared.assets.get claims.quote.key = some claims.quote.val ∧
      ∀ position ∈ claims.position,
        state.prediction.positions.get position.key = some position.val := by
  simp only [loadClaims, bind_eq_ok, loadOption_eq_ok, load_eq_ok, pure_eq_ok] at passed
  obtain ⟨base, ⟨_, hasBase⟩, quote, ⟨filed, hasQuote⟩, position, ⟨_, hasPosition⟩, rfl⟩ := passed
  exact ⟨hasBase, filed.symm ▸ hasQuote, hasPosition⟩

theorem claimsHeld {state : State} {book : SharedBook} {owner : Pubkey} {keys : ClaimKeys}
    {claims : Claims} {done : Unit} (loaded : loadClaims state keys = .ok claims)
    (passed : trader book owner claims = .ok done) : ClaimsHeld state book owner claims := by
  obtain ⟨hasBase, hasQuote, hasPosition⟩ := loadClaims_ok loaded
  simp only [trader, bind_eq_ok, ite_eq_ok] at passed
  obtain ⟨_, quoted, ⟨isSpot, rest⟩ | ⟨notSpot, rest⟩⟩ := passed
  · have filed := asset_ok quoted
    simp only [okOr_eq_ok, require_eq_ok, Option.isNone_iff_eq_none] at rest
    obtain ⟨⟨key, base⟩, isBase, _, based, none⟩ := rest
    obtain rfl := asset_ok based
    exact ⟨filed, filed ▸ hasQuote, fun _ => ⟨none, base, isBase, hasBase _ isBase⟩,
      fun other => absurd isSpot other⟩
  · have filed := asset_ok quoted
    simp only [okOr_eq_ok, require_eq_ok, Option.isNone_iff_eq_none] at rest
    obtain ⟨_, none, ⟨key, position⟩, isPosition, _, -, keyed⟩ := rest
    obtain rfl : key = _ := keyed
    exact ⟨filed, filed ▸ hasQuote, fun other => absurd other notSpot,
      fun _ => ⟨none, position, isPosition, hasPosition _ isPosition⟩⟩

/-! ## Moves -/

instance : Add Flow :=
  ⟨fun first second => ⟨first.lost + second.lost, first.gained + second.gained,
    first.out + second.out, first.into + second.into⟩⟩

theorem AssetMove.trans {first second third : AssetBalance} {one two : Flow}
    (left : AssetMove first second one) (right : AssetMove second third two) :
    AssetMove first third (one + two) := Ledger.Move.trans left right

def PositionMove (outcome : SharedOutcome) (before after : PredictionPosition) (flow : Flow) :
    Prop :=
  positionLedger.Move before after (traded outcome flow.lost) (traded outcome flow.gained)
    (traded outcome flow.out) (traded outcome flow.into)

theorem traded_add (outcome : SharedOutcome) (first second : Nat) :
    traded outcome (first + second) = traded outcome first + traded outcome second := by
  cases outcome with
  | spot => rfl
  | yes => exact Pi.single_add (f := fun _ : Bucket => Nat) _ _ _
  | no => exact Pi.single_add (f := fun _ : Bucket => Nat) _ _ _

@[simp] theorem traded_zero (outcome : SharedOutcome) : traded outcome 0 = 0 := by
  cases outcome with
  | spot => rfl
  | yes => exact Pi.single_zero _
  | no => exact Pi.single_zero _

theorem PositionMove.trans {outcome : SharedOutcome} {first second third : PredictionPosition}
    {one two : Flow} (left : PositionMove outcome first second one)
    (right : PositionMove outcome second third two) :
    PositionMove outcome first third (one + two) := by
  have both := Ledger.Move.trans left right
  simp only [← traded_add] at both
  exact both

/-- The base balance is the traded asset of the spot list only. -/
def spotFlow (outcome : SharedOutcome) (flow : Flow) : Flow :=
  if outcome = .spot then flow else Flow.none

/-- What a handler does to a trader's claims, in the quote mint and in the traded asset. -/
structure ClaimsMove (outcome : SharedOutcome) (before after : Claims) (quote base : Flow) :
    Prop where
  quoteKey : after.quote.key = before.quote.key
  quoteMove : AssetMove before.quote.val after.quote.val quote
  baseNone : before.base = none → after.base = none
  baseMove : ∀ key old, before.base = some ⟨key, old⟩ → ∃ new, after.base = some ⟨key, new⟩ ∧
    AssetMove old new (spotFlow outcome base)
  positionNone : before.position = none → after.position = none
  positionMove : ∀ key old, before.position = some ⟨key, old⟩ →
    ∃ new, after.position = some ⟨key, new⟩ ∧ PositionMove outcome old new base

namespace ClaimsMove

variable {outcome : SharedOutcome} {first second third : Claims} {quote base quote' base' : Flow}

theorem trans (left : ClaimsMove outcome first second quote base)
    (right : ClaimsMove outcome second third quote' base') :
    ClaimsMove outcome first third (quote + quote') (base + base') where
  quoteKey := right.quoteKey.trans left.quoteKey
  quoteMove := left.quoteMove.trans right.quoteMove
  baseNone none := right.baseNone (left.baseNone none)
  baseMove key old stored := by
    obtain ⟨middle, kept, one⟩ := left.baseMove key old stored
    obtain ⟨new, last, two⟩ := right.baseMove key middle kept
    refine ⟨new, last, ?_⟩
    have both := one.trans two
    unfold spotFlow at both ⊢
    split at both
    · next spot => rwa [if_pos spot]
    · next other => rwa [if_neg other]
  positionNone none := right.positionNone (left.positionNone none)
  positionMove key old stored := by
    obtain ⟨middle, kept, one⟩ := left.positionMove key old stored
    obtain ⟨new, last, two⟩ := right.positionMove key middle kept
    exact ⟨new, last, one.trans two⟩

theorem assetMove_none (balance : AssetBalance) : AssetMove balance balance Flow.none :=
  assetMove_iff.mpr ⟨rfl, rfl, rfl, rfl⟩

theorem positionMove_none (outcome : SharedOutcome) (position : PredictionPosition) :
    PositionMove outcome position position Flow.none := by
  unfold PositionMove Flow.none
  rw [traded_zero]
  exact Ledger.Move.refl _ _

theorem spotFlow_none (outcome : SharedOutcome) : spotFlow outcome Flow.none = Flow.none :=
  ite_self _

theorem setQuote {claims : Claims} {free locked : Nat} (outcome : SharedOutcome)
    (moved : locked + quote.lost = claims.quote.val.locked + quote.gained)
    (net : free + locked + quote.out =
      claims.quote.val.free + claims.quote.val.locked + quote.into) :
    ClaimsMove outcome claims (claims.setQuote free locked) quote Flow.none where
  quoteKey := rfl
  quoteMove := assetMove_iff.mpr ⟨rfl, rfl, moved, net⟩
  baseNone none := none
  baseMove _ old stored :=
    ⟨old, stored, (spotFlow_none outcome).symm ▸ assetMove_none old⟩
  positionNone none := none
  positionMove _ old stored := ⟨old, stored, positionMove_none outcome old⟩

theorem setBase {kind : MarketKind} {claims : Claims} {free locked oldFree oldLocked : Nat}
    (buckets : baseBuckets kind outcome claims = .ok (oldFree, oldLocked))
    (moved : locked + base.lost = oldLocked + base.gained)
    (net : free + locked + base.out = oldFree + oldLocked + base.into) :
    ClaimsMove outcome claims (setBaseBuckets outcome claims free locked) Flow.none base := by
  cases outcome with
  | spot =>
      refine ⟨rfl, assetMove_none _, fun none => by simp [setBaseBuckets, none],
        fun _ old stored => ⟨_, by simp [setBaseBuckets, stored, Account.map]; rfl, ?_⟩,
        fun none => none, fun key old stored => ⟨old, stored, Ledger.Move.refl _ _⟩⟩
      cases kind <;> simp [baseBuckets, stored, okOr, throw, throwThe,
        MonadExceptOf.throw] at buckets
      obtain ⟨rfl, rfl⟩ := buckets
      exact assetMove_iff.mpr ⟨rfl, rfl, moved, net⟩
  | yes =>
      refine ⟨rfl, assetMove_none _, fun none => none,
        fun key old stored => ⟨old, stored, assetMove_none old⟩,
        fun none => by simp [setBaseBuckets, none],
        fun key old stored => ⟨_, by simp [setBaseBuckets, stored, Account.map]; rfl, ?_⟩⟩
      cases kind <;> simp [baseBuckets, stored, okOr, throw, throwThe,
        MonadExceptOf.throw] at buckets
      obtain ⟨rfl, rfl⟩ := buckets
      refine ⟨rfl, ?_, ?_⟩ <;>
        rintro (_ | _ | _) <;> simp [positionLedger, traded, moved, net]
  | no =>
      refine ⟨rfl, assetMove_none _, fun none => none,
        fun key old stored => ⟨old, stored, assetMove_none old⟩,
        fun none => by simp [setBaseBuckets, none],
        fun key old stored => ⟨_, by simp [setBaseBuckets, stored, Account.map]; rfl, ?_⟩⟩
      cases kind <;> simp [baseBuckets, stored, okOr, throw, throwThe,
        MonadExceptOf.throw] at buckets
      obtain ⟨rfl, rfl⟩ := buckets
      refine ⟨rfl, ?_, ?_⟩ <;>
        rintro (_ | _ | _) <;> simp [positionLedger, traded, moved, net]

end ClaimsMove

/-! ## Saving -/

namespace Shared

/-- What leaves or enters the pools of a book's two mints. -/
def mintPart (book : SharedBook) (outcome : SharedOutcome) (quote base : Nat) :
    Pubkey → Unit → Nat :=
  Ledger.single book.quoteMint (fun _ => quote) +
    match outcome with
    | .spot => Ledger.single book.baseMint fun _ => base
    | .yes | .no => 0

@[simp] theorem assetPart_zero (book : SharedBook) (owner : Pubkey) (outcome : SharedOutcome) :
    assetPart book owner outcome 0 0 = 0 := by
  have nothing : (fun _ => 0 : Unit → Nat) = 0 := rfl
  cases outcome <;> simp only [assetPart, nothing, Ledger.single_zero, add_zero]

@[simp] theorem mintPart_zero (book : SharedBook) (outcome : SharedOutcome) :
    mintPart book outcome 0 0 = 0 := by
  have nothing : (fun _ => 0 : Unit → Nat) = 0 := rfl
  cases outcome <;> simp only [mintPart, nothing, Ledger.single_zero, add_zero]

@[simp] theorem contractPart_zero (market owner : Pubkey) (outcome : SharedOutcome) :
    contractPart market owner outcome 0 = 0 := by
  rw [contractPart, traded_zero, Ledger.single_zero]

theorem single_add {A β : Type} [DecidableEq A] (index : A) (first second : β → Nat) :
    Ledger.single index (first + second) =
      Ledger.single index first + Ledger.single index second := by
  funext other bucket
  simp only [Ledger.single, Pi.add_apply]
  split <;> rfl

theorem assetPart_add (book : SharedBook) (owner : Pubkey) (outcome : SharedOutcome)
    (quote base quote' base' : Nat) :
    assetPart book owner outcome (quote + quote') (base + base') =
      assetPart book owner outcome quote base + assetPart book owner outcome quote' base' := by
  have constant : ∀ first second : Nat, (fun _ => first + second : Unit → Nat) =
    (fun _ => first) + fun _ => second := fun _ _ => rfl
  cases outcome <;> simp only [assetPart, constant, single_add, add_zero]
  exact add_add_add_comm _ _ _ _

theorem mintPart_add (book : SharedBook) (outcome : SharedOutcome)
    (quote base quote' base' : Nat) :
    mintPart book outcome (quote + quote') (base + base') =
      mintPart book outcome quote base + mintPart book outcome quote' base' := by
  have constant : ∀ first second : Nat, (fun _ => first + second : Unit → Nat) =
    (fun _ => first) + fun _ => second := fun _ _ => rfl
  cases outcome <;> simp only [mintPart, constant, single_add, add_zero]
  exact add_add_add_comm _ _ _ _

theorem mintPart_quote (book : SharedBook) (outcome : SharedOutcome) (quote : Nat) :
    mintPart book outcome quote 0 = Ledger.single book.quoteMint fun _ => quote := by
  have nothing : (fun _ => 0 : Unit → Nat) = 0 := rfl
  cases outcome <;> simp only [mintPart, nothing, Ledger.single_zero, add_zero]

theorem contractPart_add (market owner : Pubkey) (outcome : SharedOutcome) (base base' : Nat) :
    contractPart market owner outcome (base + base') =
      contractPart market owner outcome base + contractPart market owner outcome base' := by
  rw [contractPart, traded_add, single_add, contractPart, contractPart]

end Shared

open Shared (mintPart)

section Saving

variable {state : State} {book : SharedBook} {owner : Pubkey} {before after : Claims}
variable {outcome : SharedOutcome} {quote base : Flow}

theorem saveClaims_assets (terms : Shared.Terms book) (trades : Trades book.kind outcome)
    (filed : assetLedger.Filed state.shared.assets) (claims : ClaimsHeld state book owner before)
    (move : ClaimsMove outcome before after quote base) :
    assetLedger.Edit state.shared.assets (saveClaims state after).shared.assets
      (assetPart book owner outcome quote.lost base.lost)
      (assetPart book owner outcome quote.gained base.gained)
      (mintPart book outcome quote.out base.out) (mintPart book outcome quote.into base.into) := by
  have quoteKey := move.quoteKey.trans claims.quoteKey
  simp only [saveClaims, save, quoteKey]
  by_cases isSpot : book.kind = .spot
  · obtain ⟨-, balance, isBase, stored⟩ := claims.spot isSpot
    obtain ⟨new, isNew, baseMove⟩ := move.baseMove _ _ isBase
    rw [isSpot] at trades
    obtain rfl : outcome = .spot := trades
    have first := asset_write filed stored baseMove
    have kept : (state.shared.assets.set (.assetBalance owner book.baseMint) new).get
        (.assetBalance owner book.quoteMint) = some before.quote.val := by
      rw [Store.get_set_ne _ _ fun same => ?_, claims.quoteStored]
      exact terms.mints isSpot (Pubkey.assetBalance.inj same).2.symm
    have both := first.trans (asset_write (first.filed filed) kept move.quoteMove)
    rw [isNew]
    simp only [assetPart, mintPart, add_comm (Ledger.single (_, book.quoteMint) _),
      add_comm (Ledger.single book.quoteMint _)]
    exact both
  · obtain ⟨none, -⟩ := claims.contracts isSpot
    have written := asset_write filed claims.quoteStored move.quoteMove
    have others : outcome = .yes ∨ outcome = .no := by
      cases outcome with
      | spot => cases kind : book.kind <;> simp_all [Trades]
      | yes => exact .inl rfl
      | no => exact .inr rfl
    rw [move.baseNone none]
    rcases others with rfl | rfl <;> exact written

theorem saveClaims_positions (trades : Trades book.kind outcome)
    (filed : positionLedger.Filed state.prediction.positions)
    (claims : ClaimsHeld state book owner before)
    (move : ClaimsMove outcome before after quote base) :
    positionLedger.Edit state.prediction.positions (saveClaims state after).prediction.positions
      (contractPart book.market owner outcome base.lost)
      (contractPart book.market owner outcome base.gained)
      (Ledger.single book.market (traded outcome base.out))
      (Ledger.single book.market (traded outcome base.into)) := by
  simp only [saveClaims]
  by_cases isSpot : book.kind = .spot
  · obtain ⟨none, -⟩ := claims.spot isSpot
    rw [isSpot] at trades
    obtain rfl : outcome = .spot := trades
    rw [move.positionNone none]
    simp only [contractPart, traded, Ledger.single_zero]
    exact Ledger.Edit.refl _
  · obtain ⟨-, position, isPosition, stored⟩ := claims.contracts isSpot
    obtain ⟨new, isNew, moved⟩ := move.positionMove _ _ isPosition
    rw [isNew]
    exact position_write filed stored moved

theorem ClaimsHeld.keep {other : Pubkey} {others : Claims} (different : other ≠ owner)
    (claims : ClaimsHeld state book owner before)
    (move : ClaimsMove outcome before after quote base)
    (held : ClaimsHeld state book other others) :
    ClaimsHeld (saveClaims state after) book other others := by
  have quoteKey := move.quoteKey.trans claims.quoteKey
  have apart : ∀ mint found, Pubkey.assetBalance other mint ≠ .assetBalance owner found :=
    fun mint found same => different (Pubkey.assetBalance.inj same).1
  have away : ∀ mint, (saveClaims state after).shared.assets.get (.assetBalance other mint) =
      state.shared.assets.get (.assetBalance other mint) := by
    intro mint
    simp only [saveClaims, save, quoteKey]
    rw [Store.get_set_ne _ _ (apart _ _)]
    by_cases isSpot : book.kind = .spot
    · obtain ⟨-, balance, isBase, -⟩ := claims.spot isSpot
      obtain ⟨new, isNew, -⟩ := move.baseMove _ _ isBase
      rw [isNew]
      exact Store.get_set_ne _ _ (apart _ _)
    · rw [move.baseNone (claims.contracts isSpot).1]
      rfl
  have positions : (saveClaims state after).prediction.positions.get
      (.predictionPosition book.market other) =
      state.prediction.positions.get (.predictionPosition book.market other) := by
    simp only [saveClaims]
    by_cases isSpot : book.kind = .spot
    · rw [move.positionNone (claims.spot isSpot).1]
      rfl
    · obtain ⟨-, position, isPosition, -⟩ := claims.contracts isSpot
      obtain ⟨new, isNew, -⟩ := move.positionMove _ _ isPosition
      rw [isNew]
      exact Store.get_set_ne _ _ fun same => different (Pubkey.predictionPosition.inj same).2
  refine ⟨held.quoteKey, (away _).trans held.quoteStored, fun isSpot => ?_, fun notSpot => ?_⟩
  · obtain ⟨none, balance, isBase, stored⟩ := held.spot isSpot
    exact ⟨none, balance, isBase, (away _).trans stored⟩
  · obtain ⟨none, position, isPosition, stored⟩ := held.contracts notSpot
    exact ⟨none, position, isPosition, positions.trans stored⟩

end Saving

/-! ## Locks -/

def Flow.locking (amount : Nat) : Flow := ⟨0, amount, 0, 0⟩

def Flow.unlocking (amount : Nat) : Flow := ⟨amount, 0, 0, 0⟩

section Locks

variable {kind : MarketKind} {outcome : SharedOutcome} {side : OrderSide} {before after : Claims}
variable {amount : Nat}

theorem lockClaims_ok (passed : lock kind outcome side before amount = .ok after) :
    ClaimsMove outcome before after (.locking (Shared.quoteShare side amount))
      (.locking (Shared.baseShare side amount)) := by
  cases side with
  | bid =>
      simp only [lock, backingBuckets, bind_eq_ok, pure_eq_ok, Prod.exists, Prod.mk.injEq,
        checkedSub_eq_ok, checkedAdd_eq_ok] at passed
      obtain ⟨_, _, ⟨rfl, rfl⟩, _, ⟨enough, rfl⟩, _, ⟨_, rfl⟩, rfl⟩ := passed
      refine ClaimsMove.setQuote outcome ?_ ?_
      all_goals simp only [Shared.quoteShare, Flow.locking, if_true]
      all_goals omega
  | ask =>
      simp only [lock, backingBuckets, bind_eq_ok, pure_eq_ok, Prod.exists, checkedSub_eq_ok,
        checkedAdd_eq_ok] at passed
      obtain ⟨_, _, buckets, _, ⟨enough, rfl⟩, _, ⟨_, rfl⟩, rfl⟩ := passed
      refine ClaimsMove.setBase buckets ?_ ?_
      all_goals simp only [Shared.baseShare, Flow.locking, if_true]
      all_goals omega

theorem unlockClaims_ok (passed : unlock kind outcome side before amount = .ok after) :
    ClaimsMove outcome before after (.unlocking (Shared.quoteShare side amount))
      (.unlocking (Shared.baseShare side amount)) := by
  cases side with
  | bid =>
      simp only [unlock, backingBuckets, bind_eq_ok, pure_eq_ok, Prod.exists, Prod.mk.injEq,
        checkedSub_eq_ok, checkedAdd_eq_ok] at passed
      obtain ⟨_, _, ⟨rfl, rfl⟩, _, ⟨_, rfl⟩, _, ⟨enough, rfl⟩, rfl⟩ := passed
      refine ClaimsMove.setQuote outcome ?_ ?_
      all_goals simp only [Shared.quoteShare, Flow.unlocking, if_true]
      all_goals omega
  | ask =>
      simp only [unlock, backingBuckets, bind_eq_ok, pure_eq_ok, Prod.exists, checkedSub_eq_ok,
        checkedAdd_eq_ok] at passed
      obtain ⟨_, _, buckets, _, ⟨_, rfl⟩, _, ⟨enough, rfl⟩, rfl⟩ := passed
      refine ClaimsMove.setBase buckets ?_ ?_
      all_goals simp only [Shared.baseShare, Flow.unlocking, if_true]
      all_goals omega

end Locks
end Tidebook.Proof
