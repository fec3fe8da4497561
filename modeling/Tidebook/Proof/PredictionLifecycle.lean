import Tidebook.Proof.PredictionFill
import Tidebook.Proof.SpotLifecycle
import Tidebook.Program.SharedCustody

/-! # Questions and positions

The backing of a question through its lifecycle, and everything that touches positions outside the
order handlers.
-/

namespace Tidebook.Proof
open Library Program

/-! ## Backing -/

def supplyOf (market : PredictionMarket) : PredictionOutcome → Nat
  | .yes => market.yesSupply
  | .no => market.noSupply

/-- The reserve pays every contract its worth: a full payout for a pair before the outcome is
known, the redemption value of both supplies afterwards. -/
structure Backing (market : PredictionMarket) : Prop where
  payout_pos : 0 < market.payoutPerContract
  even : 2 ∣ market.payoutPerContract
  resolved : market.status = .resolved ↔ market.finalOutcome ≠ none
  before : market.finalOutcome = none →
    market.backingReserve = market.yesSupply * market.payoutPerContract ∧
      market.backingReserve = market.noSupply * market.payoutPerContract
  after : ∀ outcome, market.finalOutcome = some outcome → market.backingReserve =
    redemption outcome market.payoutPerContract market.yesSupply market.noSupply
  reserve_fits : market.backingReserve ≤ u64Max
  supply_fits : ∀ outcome, supplyOf market outcome ≤ u64Max

/-- A step towards the final outcome: it moves no contract and no collateral. -/
structure Restated (before after : PredictionMarket) : Prop where
  question : SameQuestion before after
  count : after.openOrderCount = before.openOrderCount
  yes : after.yesSupply = before.yesSupply
  no : after.noSupply = before.noSupply
  reserve : after.backingReserve = before.backingReserve
  backing : Backing before → Backing after

section Restated

variable {market : PredictionMarket}

theorem Backing.open_outcome (backing : Backing market) (open_ : market.status ≠ .resolved) :
    market.finalOutcome = none :=
  not_not.mp (mt backing.resolved.mpr open_)

theorem restated_open {status : PredictionStatus} {phase : PredictionResolutionPhase}
    {proposal : Option PredictionProposal} (open_ : market.finalOutcome = none)
    (unresolved : status ≠ .resolved) :
    Restated market { market with
      status := status, resolutionPhase := phase, proposal := proposal } where
  question := ⟨rfl, rfl, rfl, rfl, rfl⟩
  count := rfl
  yes := rfl
  no := rfl
  reserve := rfl
  backing backing :=
    ⟨backing.payout_pos, backing.even, by simp [unresolved, open_], backing.before, backing.after,
      backing.reserve_fits, backing.supply_fits⟩

/-- Before the outcome both supplies are equal, so that any outcome is worth the reserve. -/
theorem Backing.redeemable (backing : Backing market) (open_ : market.finalOutcome = none)
    (outcome : PredictionResolution) : market.backingReserve =
      redemption outcome market.payoutPerContract market.yesSupply market.noSupply := by
  obtain ⟨yes, no⟩ := backing.before open_
  have same : market.yesSupply = market.noSupply :=
    Nat.eq_of_mul_eq_mul_right backing.payout_pos (yes.symm.trans no)
  cases outcome with
  | yes => exact yes
  | no => exact no
  | invalid =>
      obtain ⟨half, whole⟩ := backing.even
      simp only [redemption]
      rw [yes, ← same, whole, Nat.mul_div_cancel_left half (by decide : 0 < 2)]
      ring

theorem restated_final {phase : PredictionResolutionPhase} {outcome : PredictionResolution}
    (open_ : market.finalOutcome = none) :
    Restated market { market with
      resolutionPhase := phase, finalOutcome := some outcome, status := .resolved } where
  question := ⟨rfl, rfl, rfl, rfl, rfl⟩
  count := rfl
  yes := rfl
  no := rfl
  reserve := rfl
  backing backing :=
    { backing with
      resolved := by simp
      before := fun none => by cases none
      after := fun found same => by
        cases same
        exact backing.redeemable open_ outcome }

theorem advance_ok {now : Int} {action : Nat} {advanced : PredictionMarket}
    (open_ : market.finalOutcome = none) (passed : market.advance now action = .ok advanced) :
    Restated market advanced := by
  match action with
  | 0 =>
      simp only [PredictionMarket.advance, bind_eq_ok, require_eq_ok, pure_eq_ok] at passed
      obtain ⟨_, _, rfl⟩ := passed
      exact restated_open open_ (by simp)
  | 1 =>
      simp only [PredictionMarket.advance, bind_eq_ok, okOr_eq_ok, require_eq_ok,
        pure_eq_ok] at passed
      obtain ⟨_, _, _, _, rfl⟩ := passed
      exact restated_open open_ (by simp)
  | 2 =>
      simp only [PredictionMarket.advance, bind_eq_ok, okOr_eq_ok, require_eq_ok,
        pure_eq_ok] at passed
      obtain ⟨_, _, _, _, _, _, _, _, rfl⟩ := passed
      exact restated_final open_
  | 3 =>
      simp only [PredictionMarket.advance, bind_eq_ok, okOr_eq_ok, require_eq_ok,
        pure_eq_ok] at passed
      obtain ⟨_, _, _, _, rfl⟩ := passed
      exact restated_final open_
  | _ + 4 => simp [PredictionMarket.advance] at passed

end Restated

/-! ## The lifecycle of a question -/

section Lifecycle

variable {state after : State} {prediction changed : Prediction} {key : Pubkey}

structure QuestionOpening (state : State) (marketId : Nat) (collateralMint : Pubkey)
    (config : PredictionMarketConfig) where
  mint : Mint
  tokens : Tokens
  mintStored : state.tokens.mints.get collateralMint = some mint
  absent : state.prediction.markets.get (.predictionMarket marketId) = none
  noFees : state.prediction.fees.get (.marketFees (.predictionMarket marketId)) = none
  unbooked : state.prediction.books.get (.predictionBook (.predictionMarket marketId)) = none
  vault : state.tokens.initializeAccount (.vault (.predictionMarket marketId) collateralMint)
    collateralMint (.vaultAuthority (.predictionMarket marketId)) = .ok tokens
  valid : validatePredictionMarketConfig config state.now = .ok ()
  payout : config.payoutPerContract = 10 ^ mint.decimals

def QuestionOpening.result {marketId : Nat} {collateralMint : Pubkey}
    {config : PredictionMarketConfig}
    (opening : QuestionOpening state marketId collateralMint config) (authority : Wallet) : State :=
  { state with
    tokens := opening.tokens
    prediction := { state.prediction with
      markets := state.prediction.markets.set (.predictionMarket marketId)
        (newPredictionMarket marketId authority.key collateralMint config)
      fees := state.prediction.fees.set (.marketFees (.predictionMarket marketId))
        ⟨.predictionMarket marketId, collateralMint, 0⟩
      books := state.prediction.books.set (.predictionBook (.predictionMarket marketId))
        ⟨.predictionMarket marketId, 1, none, none, none, none⟩ } }

theorem validatePredictionMarketConfig_ok {config : PredictionMarketConfig} {now : Int}
    {done : Unit} (passed : validatePredictionMarketConfig config now = .ok done) :
    0 < config.payoutPerContract ∧ 2 ∣ config.payoutPerContract ∧ 0 < config.priceTick := by
  simp only [validatePredictionMarketConfig, bind_eq_ok, require_eq_ok] at passed
  obtain ⟨_, _, _, _, _, _, _, _, _, _, _, _, _, _, _, payout, _, tick, _⟩ := passed
  exact ⟨payout.1, payout.2, tick.1⟩

theorem handleInitializePredictionMarket_ok {authority : Wallet} {marketId : Nat}
    {collateralMint : Pubkey} {config : PredictionMarketConfig}
    (done : handleInitializePredictionMarket state authority marketId collateralMint config =
      .ok after) :
    ∃ opening : QuestionOpening state marketId collateralMint config,
      opening.result authority = after := by
  simp only [handleInitializePredictionMarket, bind_eq_ok, load_eq_ok, vacant_eq_ok,
    require_eq_ok, pure_eq_ok] at done
  obtain ⟨_, -, _, absent, ⟨_, mint⟩, ⟨rfl, mintStored⟩, tokens, vault, _, noFees, _, unbooked, _,
    valid, _, -, _, -, _, payout, rfl⟩ := done
  exact ⟨⟨mint, tokens, mintStored, absent, noFees, unbooked, vault, valid, payout⟩, rfl⟩

/-- A step of the lifecycle writes one restated question. -/
def Restates (prediction after : Prediction) (key : Pubkey) : Prop :=
  ∃ market restated, prediction.markets.get key = some market ∧
    (Backing market → Restated market restated) ∧
    after = { prediction with markets := prediction.markets.set key restated }

theorem handleOpenPredictionMarket_ok {authority : Wallet}
    (done : handleOpenPredictionMarket state authority key = .ok after) :
    ∃ result, Restates state.prediction result key ∧
      after = { state with prediction := result } := by
  simp only [handleOpenPredictionMarket, bind_eq_ok, require_eq_ok, pure_eq_ok] at done
  obtain ⟨market, ownMarket, _, -, _, -, _, -, _, draft, _, -, rfl⟩ := done
  obtain ⟨filed, stored, _⟩ := loadPredictionMarket_ok ownMarket
  refine ⟨_, ⟨market.val, _, stored, fun backing => ?_, rfl⟩, by rw [filed]⟩
  exact restated_open (backing.open_outcome (by simp [draft])) (by simp)

theorem handleProposePrediction_ok {resolver : Wallet} {outcome : PredictionResolution}
    {evidenceUri : List Char} {evidenceHash : Nat} {correction : Bool}
    (done : handleProposePrediction state resolver key outcome evidenceUri evidenceHash correction =
      .ok after) :
    ∃ result, Restates state.prediction result key ∧
      after = { state with prediction := result } := by
  simp only [handleProposePrediction, bind_eq_ok, require_eq_ok, pure_eq_ok] at done
  obtain ⟨market, ownMarket, _, -, _, -, _, open_, _, -, _, -, _, -, rfl⟩ := done
  obtain ⟨filed, stored, _⟩ := loadPredictionMarket_ok ownMarket
  refine ⟨_, ⟨market.val, _, stored, fun _ => ?_, rfl⟩, by rw [filed]⟩
  exact restated_open open_ (by simp)

theorem handleClosePredictionTrading_ok {resolver : Wallet}
    (done : handleClosePredictionTrading state resolver key = .ok after) :
    ∃ result, Restates state.prediction result key ∧
      after = { state with prediction := result } := by
  simp only [handleClosePredictionTrading, bind_eq_ok, require_eq_ok, pure_eq_ok] at done
  obtain ⟨market, ownMarket, _, -, _, -, _, opened, rfl⟩ := done
  obtain ⟨filed, stored, _⟩ := loadPredictionMarket_ok ownMarket
  refine ⟨_, ⟨market.val, _, stored, fun backing => ?_, rfl⟩, by rw [filed]⟩
  exact restated_open (backing.open_outcome (by simp [opened])) (by simp)

theorem handleAdvancePrediction_ok {now : Int} {action : Nat}
    (done : handleAdvancePrediction prediction now key action = .ok changed) :
    Restates prediction changed key := by
  simp only [handleAdvancePrediction, bind_eq_ok, require_eq_ok, pure_eq_ok] at done
  obtain ⟨market, ownMarket, _, open_, advanced, passed, rfl⟩ := done
  obtain ⟨filed, stored, _⟩ := loadPredictionMarket_ok ownMarket
  exact ⟨market.val, advanced, stored, fun _ => advance_ok open_ passed, by rw [filed]⟩

theorem handleInitializePredictionPosition_ok {owner : Wallet}
    (done : handleInitializePredictionPosition prediction owner key = .ok changed) :
    ∃ market, prediction.markets.get key = some market ∧
      prediction.positions.get (positionLedger.file (key, owner.key)) = none ∧
      changed = { prediction with
        positions := prediction.positions.set (positionLedger.file (key, owner.key))
          ⟨key, owner.key, 0, 0, 0, 0, 0, 0⟩ } := by
  simp only [handleInitializePredictionPosition, bind_eq_ok, vacant_eq_ok, pure_eq_ok] at done
  obtain ⟨market, ownMarket, _, fresh, rfl⟩ := done
  obtain ⟨filed, stored, _⟩ := loadPredictionMarket_ok ownMarket
  rw [filed] at fresh ⊢
  exact ⟨market.val, stored, fresh, rfl⟩

end Lifecycle

/-! ## Collateral -/

section Collateral

variable {state after : State} {prediction : Prediction} {market owner : Pubkey} {out into : Nat}

structure PositionCrossing (prediction : Prediction) (market owner : Pubkey) (out into : Nat) where
  record : PredictionMarket
  position : PredictionPosition
  moved : PredictionPosition
  stored : prediction.markets.get market = some record
  positionStored : prediction.positions.get (.predictionPosition market owner) = some position
  move : positionLedger.Move position moved 0 0 (Pi.single .collateral out)
    (Pi.single .collateral into)

def PositionCrossing.result (crossing : PositionCrossing prediction market owner out into) :
    Prediction :=
  { prediction with
    positions := prediction.positions.set (.predictionPosition market owner) crossing.moved }

theorem PositionCrossing.ledger (crossing : PositionCrossing prediction market owner out into)
    (filed : positionLedger.Filed prediction.positions) :
    positionLedger.Edit prediction.positions crossing.result.positions 0 0
      (Ledger.single market (Pi.single .collateral out))
      (Ledger.single market (Pi.single .collateral into)) := by
  have written := position_write filed crossing.positionStored crossing.move
  simp only [Ledger.single_zero] at written
  exact written

theorem collateral_move {position : PredictionPosition} {free : Nat}
    (net : free + out = position.collateralFree + into) :
    positionLedger.Move position { position with collateralFree := free } 0 0
      (Pi.single .collateral out) (Pi.single .collateral into) := by
  refine ⟨rfl, fun bucket => ?_, fun bucket => ?_⟩
  · rcases bucket with _ | (_ | _) <;> rfl
  · rcases bucket with _ | (_ | _)
    · simp only [positionLedger, Pi.single_eq_same]
      omega
    · simp [positionLedger]
    · simp [positionLedger]

theorem loadCollateralVault_ok {tokens : Tokens} {market : Account PredictionMarket}
    {vault : Account TokenAccount} (passed : loadCollateralVault tokens market = .ok vault) :
    vault.key = .vault market.key market.val.collateralMint := by
  simp only [loadCollateralVault, bind_eq_ok, load_eq_ok, require_eq_ok, pure_eq_ok] at passed
  obtain ⟨_, ⟨filed, _⟩, _, -, _, -, _, -, rfl⟩ := passed
  exact filed

theorem handleDepositPredictionCollateral_ok {wallet : Wallet} {token : Pubkey} {amount : Nat}
    (done : handleDepositPredictionCollateral state wallet market token amount = .ok after) :
    ∃ (crossing : PositionCrossing state.prediction market wallet.key 0 amount) (tokens : Tokens),
      state.tokens.transferChecked token crossing.record.collateralMint
        (.vault market crossing.record.collateralMint) wallet.key amount = .ok tokens ∧
      after = { state with tokens := tokens, prediction := crossing.result } := by
  simp only [handleDepositPredictionCollateral, bind_eq_ok, load_eq_ok, require_eq_ok,
    checkedAdd_eq_ok, pure_eq_ok] at done
  obtain ⟨record, ownMarket, position, ownPosition, _, -, ⟨_, source⟩, ⟨rfl, _⟩, _, -, _, -, vault,
    ownVault, _, -, _, -, _, -, _, ⟨_, rfl⟩, tokens, transferred, rfl⟩ := done
  obtain ⟨filed, stored, _⟩ := loadPredictionMarket_ok ownMarket
  obtain ⟨positionFiled, positionStored⟩ := loadPosition_ok ownPosition
  have there := loadCollateralVault_ok ownVault
  rw [filed] at positionFiled positionStored there
  dsimp only at *
  rw [there] at transferred
  refine ⟨⟨record.val, position.val,
    { position.val with collateralFree := position.val.collateralFree + amount }, stored,
    positionStored, collateral_move rfl⟩, tokens, transferred, ?_⟩
  simp only [PositionCrossing.result, positionFiled]

theorem handleWithdrawPredictionCollateral_ok {wallet : Wallet} {token : Pubkey} {amount : Nat}
    (done : handleWithdrawPredictionCollateral state wallet market token amount = .ok after) :
    ∃ (crossing : PositionCrossing state.prediction market wallet.key amount 0) (tokens : Tokens)
      (account : TokenAccount), state.tokens.accounts.get token = some account ∧
      account.owner = wallet.key ∧
      state.tokens.transferChecked (.vault market crossing.record.collateralMint)
        crossing.record.collateralMint token (.vaultAuthority market) amount = .ok tokens ∧
      after = { state with tokens := tokens, prediction := crossing.result } := by
  simp only [handleWithdrawPredictionCollateral, bind_eq_ok, load_eq_ok, require_eq_ok,
    checkedSub_eq_ok, pure_eq_ok] at done
  obtain ⟨record, ownMarket, position, ownPosition, _, -, ⟨_, account⟩, ⟨rfl, held⟩, _, owned, _, -,
    vault, ownVault, _, -, _, ⟨enough, rfl⟩, _, -, tokens, transferred, rfl⟩ := done
  obtain ⟨filed, stored, _⟩ := loadPredictionMarket_ok ownMarket
  obtain ⟨positionFiled, positionStored⟩ := loadPosition_ok ownPosition
  have there := loadCollateralVault_ok ownVault
  rw [filed] at positionFiled positionStored there transferred
  dsimp only at *
  rw [there] at transferred
  refine ⟨⟨record.val, position.val,
    { position.val with collateralFree := position.val.collateralFree - amount }, stored,
    positionStored, collateral_move (Nat.sub_add_cancel enough)⟩, tokens, account, held, owned,
    transferred, ?_⟩
  simp only [PositionCrossing.result, positionFiled]

end Collateral

/-! ## Complete sets -/

section Sets

variable {prediction after : Prediction} {market owner : Pubkey} {out into : Bucket → Nat}
variable {paid funded : Nat}

/-- Contracts are issued or retired together with their backing. -/
structure SetCrossing (prediction : Prediction) (market owner : Pubkey) (out into : Bucket → Nat)
    (paid funded : Nat) where
  record : PredictionMarket
  changed : PredictionMarket
  position : PredictionPosition
  moved : PredictionPosition
  stored : prediction.markets.get market = some record
  positionStored : prediction.positions.get (.predictionPosition market owner) = some position
  question : SameQuestion record changed
  count : changed.openOrderCount = record.openOrderCount
  course : courseOf changed = courseOf record
  supply : ∀ outcome, supplyOf changed outcome + out (.contracts outcome) =
    supplyOf record outcome + into (.contracts outcome)
  reserve : changed.backingReserve + paid = record.backingReserve + funded
  backing : Backing record → Backing changed
  move : positionLedger.Move position moved 0 0 out into

def SetCrossing.result (crossing : SetCrossing prediction market owner out into paid funded) :
    Prediction :=
  { prediction with
    markets := prediction.markets.set market crossing.changed
    positions := prediction.positions.set (.predictionPosition market owner) crossing.moved }

theorem SetCrossing.ledger (crossing : SetCrossing prediction market owner out into paid funded)
    (filed : positionLedger.Filed prediction.positions) :
    positionLedger.Edit prediction.positions crossing.result.positions 0 0
      (Ledger.single market out) (Ledger.single market into) := by
  have written := position_write filed crossing.positionStored crossing.move
  simp only [Ledger.single_zero] at written
  exact written

def pairs (cash quantity : Nat) : Bucket → Nat
  | .collateral => cash
  | .contracts _ => quantity

theorem marketIssue_ok {record issued : PredictionMarket} {quantity cost : Nat}
    (open_ : record.status ≠ .resolved) (price : cost = quantity * record.payoutPerContract)
    (passed : record.issue quantity cost = .ok issued) :
    SameQuestion record issued ∧ issued.openOrderCount = record.openOrderCount ∧
      courseOf issued = courseOf record ∧
      (∀ outcome, supplyOf issued outcome = supplyOf record outcome + quantity) ∧
      issued.backingReserve = record.backingReserve + cost ∧ (Backing record → Backing issued) := by
  simp only [PredictionMarket.issue, bind_eq_ok, checkedAdd_eq_ok, pure_eq_ok] at passed
  obtain ⟨_, ⟨yes, rfl⟩, _, ⟨no, rfl⟩, _, ⟨reserve, rfl⟩, rfl⟩ := passed
  refine ⟨⟨rfl, rfl, rfl, rfl, rfl⟩, rfl, rfl, by rintro (_ | _) <;> rfl, rfl, fun backing => ?_⟩
  have none := backing.open_outcome open_
  obtain ⟨yesBacked, noBacked⟩ := backing.before none
  refine ⟨backing.payout_pos, backing.even, backing.resolved, fun _ => ⟨?_, ?_⟩, ?_, reserve, ?_⟩
  · rw [Nat.add_mul, ← yesBacked, price]
  · rw [Nat.add_mul, ← noBacked, price]
  · intro outcome same
    rw [show record.finalOutcome = some outcome from same] at none
    cases none
  · rintro (_ | _)
    · exact yes
    · exact no

theorem marketRetire_ok {record retired : PredictionMarket} {quantity refund : Nat}
    (open_ : record.status ≠ .resolved) (price : refund = quantity * record.payoutPerContract)
    (passed : record.retire quantity refund = .ok retired) :
    SameQuestion record retired ∧ retired.openOrderCount = record.openOrderCount ∧
      courseOf retired = courseOf record ∧
      (∀ outcome, supplyOf retired outcome + quantity = supplyOf record outcome) ∧
      retired.backingReserve + refund = record.backingReserve ∧
      (Backing record → Backing retired) := by
  simp only [PredictionMarket.retire, bind_eq_ok, checkedSub_eq_ok, pure_eq_ok] at passed
  obtain ⟨_, ⟨yes, rfl⟩, _, ⟨no, rfl⟩, _, ⟨reserve, rfl⟩, rfl⟩ := passed
  refine ⟨⟨rfl, rfl, rfl, rfl, rfl⟩, rfl, rfl, ?_, Nat.sub_add_cancel reserve, fun backing => ?_⟩
  · rintro (_ | _)
    · exact Nat.sub_add_cancel yes
    · exact Nat.sub_add_cancel no
  have none := backing.open_outcome open_
  obtain ⟨yesBacked, noBacked⟩ := backing.before none
  refine ⟨backing.payout_pos, backing.even, backing.resolved, fun _ => ⟨?_, ?_⟩, ?_, ?_, ?_⟩
  · rw [Nat.sub_mul, ← yesBacked, price]
  · rw [Nat.sub_mul, ← noBacked, price]
  · intro outcome same
    rw [show record.finalOutcome = some outcome from same] at none
    cases none
  · exact le_trans (Nat.sub_le _ _) backing.reserve_fits
  · rintro (_ | _)
    · exact le_trans (Nat.sub_le _ _) (backing.supply_fits .yes)
    · exact le_trans (Nat.sub_le _ _) (backing.supply_fits .no)

theorem positionIssue_ok {position holder : PredictionPosition} {quantity free cost : Nat}
    (passed : position.issue quantity = .ok holder)
    (net : free + cost = position.collateralFree) :
    positionLedger.Move position { holder with collateralFree := free } 0 0 (pairs cost 0)
      (pairs 0 quantity) := by
  simp only [PredictionPosition.issue, bind_eq_ok, checkedAdd_eq_ok, pure_eq_ok] at passed
  obtain ⟨_, ⟨_, rfl⟩, _, ⟨_, rfl⟩, rfl⟩ := passed
  refine ⟨rfl, fun bucket => ?_, fun bucket => ?_⟩
  · rcases bucket with _ | (_ | _) <;> rfl
  · rcases bucket with _ | (_ | _) <;> simp only [positionLedger, pairs] <;> omega

theorem positionRetire_ok {position holder : PredictionPosition} {quantity free refund : Nat}
    (passed : position.retire quantity = .ok holder)
    (net : free = position.collateralFree + refund) :
    positionLedger.Move position { holder with collateralFree := free } 0 0 (pairs 0 quantity)
      (pairs refund 0) := by
  simp only [PredictionPosition.retire, bind_eq_ok, checkedSub_eq_ok, pure_eq_ok] at passed
  obtain ⟨_, ⟨_, rfl⟩, _, ⟨_, rfl⟩, rfl⟩ := passed
  refine ⟨rfl, fun bucket => ?_, fun bucket => ?_⟩
  · rcases bucket with _ | (_ | _) <;> rfl
  · rcases bucket with _ | (_ | _) <;> simp only [positionLedger, pairs] <;> omega

theorem handleSplitPredictionCompleteSet_ok {now : Int} {wallet : Wallet} {quantity : Nat}
    (done : handleSplitPredictionCompleteSet prediction now wallet market quantity = .ok after) :
    ∃ (cost : Nat) (crossing : SetCrossing prediction market wallet.key (pairs cost 0)
      (pairs 0 quantity) 0 cost), crossing.result = after := by
  simp only [handleSplitPredictionCompleteSet, bind_eq_ok, require_eq_ok, checkedMul_eq_ok,
    checkedSub_eq_ok, pure_eq_ok] at done
  obtain ⟨record, ownMarket, position, ownPosition, _, trading, _, -, _, ⟨_, rfl⟩, _, ⟨enough, rfl⟩,
    holder, held, issued, issue, rfl⟩ := done
  obtain ⟨filed, stored, _⟩ := loadPredictionMarket_ok ownMarket
  obtain ⟨positionFiled, positionStored⟩ := loadPosition_ok ownPosition
  obtain ⟨question, count, course, supply, reserve, backing⟩ :=
    marketIssue_ok (by simp [trading.1]) rfl issue
  rw [filed] at positionFiled positionStored
  refine ⟨_, ⟨record.val, issued, position.val, _, stored, positionStored, question, count, course, supply,
    reserve, backing, positionIssue_ok held (Nat.sub_add_cancel enough)⟩, ?_⟩
  simp only [SetCrossing.result, filed, positionFiled]

theorem handleMergePredictionCompleteSet_ok {wallet : Wallet} {quantity : Nat}
    (done : handleMergePredictionCompleteSet prediction wallet market quantity = .ok after) :
    ∃ (refund : Nat) (crossing : SetCrossing prediction market wallet.key (pairs 0 quantity)
      (pairs refund 0) refund 0), crossing.result = after := by
  simp only [handleMergePredictionCompleteSet, bind_eq_ok, require_eq_ok, checkedMul_eq_ok,
    checkedAdd_eq_ok, pure_eq_ok] at done
  obtain ⟨record, ownMarket, position, ownPosition, _, status, _, -, _, ⟨_, rfl⟩, holder, held, _,
    ⟨_, rfl⟩, retired, retire, rfl⟩ := done
  obtain ⟨filed, stored, _⟩ := loadPredictionMarket_ok ownMarket
  obtain ⟨positionFiled, positionStored⟩ := loadPosition_ok ownPosition
  obtain ⟨question, count, course, supply, reserve, backing⟩ :=
    marketRetire_ok (by rcases status with is | is | is <;> simp [is]) rfl retire
  rw [filed] at positionFiled positionStored
  refine ⟨_, ⟨record.val, retired, position.val, _, stored, positionStored, question, count, course, supply,
    reserve, backing, positionRetire_ok held rfl⟩, ?_⟩
  simp only [SetCrossing.result, filed, positionFiled]

end Sets

/-! ## Accounts

What the accounting of a prediction market keeps, whichever instruction changes it.
-/

structure PredictionAccounts (prediction : Prediction) : Prop where
  filed : positionLedger.Filed prediction.positions
  housed : ∀ key position, prediction.positions.get key = some position →
    prediction.markets.get position.market ≠ none
  backing : ∀ key market, prediction.markets.get key = some market → Backing market
  supply : ∀ key market outcome, prediction.markets.get key = some market →
    supplyOf market outcome =
      prediction.positions.total (positionLedger.held key (.contracts outcome))

namespace PredictionAccounts

variable {prediction after : Prediction} {lost gained : Pubkey × Pubkey → Bucket → Nat}
variable {out into : Pubkey → Bucket → Nat} {key : Pubkey} {market record : PredictionMarket}

theorem reposition (holds : PredictionAccounts prediction)
    (markets : after.markets = prediction.markets)
    (edit : positionLedger.Edit prediction.positions after.positions lost gained out into)
    (contracts : ∀ key outcome, out key (.contracts outcome) = into key (.contracts outcome)) :
    PredictionAccounts after where
  filed := edit.filed holds.filed
  housed found position stored := by
    obtain ⟨old, present, same⟩ := edit.holders found position stored
    rw [markets, ← (Prod.mk.inj same).1]
    exact holds.housed found old present
  backing found other stored := holds.backing found other (markets ▸ stored)
  supply found other outcome stored := by
    have held := edit.held found (.contracts outcome)
    rw [contracts] at held
    rw [holds.supply found other outcome (markets ▸ stored)]
    omega

theorem update (holds : PredictionAccounts prediction)
    (stored : prediction.markets.get key = some market)
    (markets : after.markets = prediction.markets.set key record)
    (backing : Backing market → Backing record)
    (edit : positionLedger.Edit prediction.positions after.positions lost gained out into)
    (supply : ∀ outcome, supplyOf record outcome + out key (.contracts outcome) =
      supplyOf market outcome + into key (.contracts outcome))
    (elsewhere : ∀ other, other ≠ key → ∀ outcome,
      out other (.contracts outcome) = into other (.contracts outcome)) :
    PredictionAccounts after where
  filed := edit.filed holds.filed
  housed found position present := by
    obtain ⟨old, before, same⟩ := edit.holders found position present
    rw [markets, ← (Prod.mk.inj same).1, Store.get_set]
    split
    · simp
    · exact holds.housed found old before
  backing found other present := by
    rw [markets, Store.get_set] at present
    split at present
    · cases present
      exact backing (holds.backing key market stored)
    · exact holds.backing found other present
  supply found other outcome present := by
    have held := edit.held found (.contracts outcome)
    rw [markets, Store.get_set] at present
    split at present
    · next same =>
        subst same
        cases present
        have before := holds.supply found market outcome stored
        have moved := supply outcome
        omega
    · next different =>
        have before := holds.supply found other outcome present
        rw [elsewhere found different outcome] at held
        omega

end PredictionAccounts
end Tidebook.Proof
