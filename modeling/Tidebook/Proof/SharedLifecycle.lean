import Tidebook.Proof.PredictionLifecycle
import Tidebook.Proof.SharedOperation

/-! # Shared custody and books

Everything that touches asset balances and shared books outside the order handlers.
-/

namespace Tidebook.Proof
open Library Program

/-! ## Asset balances -/

section Assets

variable {state after : State} {owner mint : Pubkey} {out into : Nat}

/-- A wallet's free balance of one mint changes by what crosses the asset vault. -/
structure AssetCrossing (assets : Store Pubkey AssetBalance) (owner mint : Pubkey)
    (out into : Nat) where
  balance : AssetBalance
  free : Nat
  stored : assets.get (.assetBalance owner mint) = some balance
  net : free + out = balance.free + into

def AssetCrossing.result {assets : Store Pubkey AssetBalance}
    (crossing : AssetCrossing assets owner mint out into) : Store Pubkey AssetBalance :=
  assets.set (.assetBalance owner mint) { crossing.balance with free := crossing.free }

theorem AssetCrossing.ledger {assets : Store Pubkey AssetBalance}
    (crossing : AssetCrossing assets owner mint out into) (filed : assetLedger.Filed assets) :
    assetLedger.Edit assets crossing.result 0 0 (Ledger.single mint fun _ => out)
      (Ledger.single mint fun _ => into) := by
  have move : AssetMove crossing.balance { crossing.balance with free := crossing.free }
      ⟨0, 0, out, into⟩ := by
    have net := crossing.net
    refine assetMove_iff.mpr ⟨rfl, rfl, rfl, ?_⟩
    simp only
    omega
  have written := asset_write filed crossing.stored move
  have nothing : (fun _ => 0 : Unit → Nat) = 0 := rfl
  simp only [nothing, Ledger.single_zero] at written
  exact written

theorem loadAssetBalance_ok {shared : Shared} {balance : Account AssetBalance}
    (passed : loadAssetBalance shared owner mint = .ok balance) :
    balance.key = .assetBalance owner mint ∧
      shared.assets.get (.assetBalance owner mint) = some balance.val := by
  simp only [loadAssetBalance, bind_eq_ok, load_eq_ok, require_eq_ok, pure_eq_ok] at passed
  obtain ⟨_, ⟨filed, stored⟩, _, -, rfl⟩ := passed
  exact ⟨filed, stored⟩

theorem loadAssetVault_ok {tokens : Tokens} {vault : Account TokenAccount}
    (passed : loadAssetVault tokens mint = .ok vault) : vault.key = .assetVault mint := by
  simp only [loadAssetVault, bind_eq_ok, load_eq_ok, require_eq_ok, pure_eq_ok] at passed
  obtain ⟨_, ⟨filed, _⟩, _, -, _, -, rfl⟩ := passed
  exact filed

theorem loadWalletToken_ok {tokens : Tokens} {key : Pubkey} {account : Account TokenAccount}
    (passed : loadWalletToken tokens owner mint key = .ok account) :
    account.key = key ∧ tokens.accounts.get key = some account.val ∧ account.val.owner = owner := by
  simp only [loadWalletToken, bind_eq_ok, load_eq_ok, require_eq_ok, pure_eq_ok] at passed
  obtain ⟨_, ⟨filed, stored⟩, _, -, _, owned, rfl⟩ := passed
  exact ⟨filed, stored, owned⟩

theorem handleInitializeAssetBalance_ok {wallet : Wallet}
    (done : handleInitializeAssetBalance state wallet mint = .ok after) :
    ∃ record tokens, state.tokens.mints.get mint = some record ∧
      state.shared.assets.get (assetLedger.file (wallet.key, mint)) = none ∧
      (state.tokens.initializeAccount (.assetVault mint) mint (.assetAuthority mint) = .ok tokens ∨
        state.tokens.accounts.get (.assetVault mint) ≠ none ∧ tokens = state.tokens) ∧
      after = { state with
        tokens := tokens
        shared := { state.shared with
          assets := state.shared.assets.set (assetLedger.file (wallet.key, mint))
            ⟨wallet.key, mint, 0, 0⟩ } } := by
  simp only [handleInitializeAssetBalance, bind_eq_ok, load_eq_ok, vacant_eq_ok,
    pure_eq_ok] at done
  obtain ⟨⟨_, record⟩, ⟨rfl, mintStored⟩, _, fresh, tokens, vault, rfl⟩ := done
  refine ⟨record, tokens, mintStored, fresh, ?_, rfl⟩
  split at vault
  · exact .inl vault
  · next present =>
      simp only [bind_eq_ok, pure_eq_ok] at vault
      obtain ⟨_, -, rfl⟩ := vault
      exact .inr ⟨by simp [present], rfl⟩

theorem handleDepositAsset_ok {wallet : Wallet} {token : Pubkey} {amount : Nat}
    (done : handleDepositAsset state wallet mint token amount = .ok after) :
    ∃ (crossing : AssetCrossing state.shared.assets wallet.key mint 0 amount) (tokens : Tokens),
      state.tokens.transferChecked token mint (.assetVault mint) wallet.key amount = .ok tokens ∧
        after = { state with
          tokens := tokens, shared := { state.shared with assets := crossing.result } } := by
  simp only [handleDepositAsset, bind_eq_ok, require_eq_ok, checkedAdd_eq_ok, pure_eq_ok] at done
  obtain ⟨_, -, balance, ownBalance, source, ownSource, vault, ownVault, _, -, _, -, _, ⟨_, rfl⟩,
    tokens, transferred, rfl⟩ := done
  obtain ⟨filed, stored⟩ := loadAssetBalance_ok ownBalance
  obtain ⟨tokenFiled, _, _⟩ := loadWalletToken_ok ownSource
  rw [loadAssetVault_ok ownVault, tokenFiled] at transferred
  exact ⟨⟨balance.val, balance.val.free + amount, stored, rfl⟩, tokens, transferred,
    by simp only [AssetCrossing.result, filed]⟩

theorem handleWithdrawAsset_ok {wallet : Wallet} {token : Pubkey} {amount : Nat}
    (done : handleWithdrawAsset state wallet mint token amount = .ok after) :
    ∃ (crossing : AssetCrossing state.shared.assets wallet.key mint amount 0) (tokens : Tokens)
      (account : TokenAccount), state.tokens.accounts.get token = some account ∧
        account.owner = wallet.key ∧
        state.tokens.transferChecked (.assetVault mint) mint token (.assetAuthority mint) amount =
          .ok tokens ∧
        after = { state with
          tokens := tokens, shared := { state.shared with assets := crossing.result } } := by
  simp only [handleWithdrawAsset, bind_eq_ok, require_eq_ok, checkedSub_eq_ok, pure_eq_ok] at done
  obtain ⟨_, -, balance, ownBalance, account, ownAccount, vault, ownVault, _, -, _, ⟨enough, rfl⟩, _,
    -, tokens, transferred, rfl⟩ := done
  obtain ⟨filed, stored⟩ := loadAssetBalance_ok ownBalance
  obtain ⟨tokenFiled, held, owned⟩ := loadWalletToken_ok ownAccount
  rw [loadAssetVault_ok ownVault, tokenFiled] at transferred
  exact ⟨⟨balance.val, balance.val.free - amount, stored, Nat.sub_add_cancel enough⟩, tokens,
    account.val, held, owned, transferred, by simp only [AssetCrossing.result, filed]⟩

/-! ## Migrations -/

theorem handleMigrateSpotAsset_ok {wallet : Wallet} {market : Pubkey} {amount : Nat}
    (done : handleMigrateSpotAsset state wallet market mint amount = .ok after) :
    ∃ (spot : SpotCrossing state.spot market wallet.key mint amount 0)
      (crossing : AssetCrossing state.shared.assets wallet.key mint 0 amount) (tokens : Tokens),
      state.tokens.transferChecked (.vault market mint) mint (.assetVault mint)
        (.vaultAuthority market) amount = .ok tokens ∧
      after = { state with
        tokens := tokens
        spot := spot.result
        shared := { state.shared with assets := crossing.result } } := by
  simp only [handleMigrateSpotAsset, bind_eq_ok, load_eq_ok, require_eq_ok, checkedAdd_eq_ok,
    pure_eq_ok] at done
  obtain ⟨⟨_, record⟩, ⟨rfl, stored⟩, balance, ownBalance, _, -, asset, ownAsset, marketVault,
    ownMarketVault, vault, ownVault, _, -, debited, debit, _, ⟨_, rfl⟩, tokens, transferred,
    rfl⟩ := done
  obtain ⟨balanceFiled, balanceStored, _, _⟩ := loadTraderBalance_ok ownBalance
  obtain ⟨filed, assetStored⟩ := loadAssetBalance_ok ownAsset
  obtain ⟨side, isMint, move⟩ := withdraw_ok debit
  dsimp only at *
  rw [loadVault_ok ownMarketVault, loadAssetVault_ok ownVault] at transferred
  refine ⟨⟨record, side, balance.val, debited, stored, isMint, balanceStored, ?_⟩,
    ⟨asset.val, asset.val.free + amount, assetStored, rfl⟩, tokens, transferred, ?_⟩
  · rwa [Pi.single_zero]
  · simp only [SpotCrossing.result, AssetCrossing.result, filed, balanceFiled]

theorem handleMigratePredictionAsset_ok {wallet : Wallet} {market : Pubkey} {amount : Nat}
    (done : handleMigratePredictionAsset state wallet market amount = .ok after) :
    ∃ (position : PositionCrossing state.prediction market wallet.key amount 0)
      (crossing : AssetCrossing state.shared.assets wallet.key position.record.collateralMint 0
        amount) (tokens : Tokens),
      state.tokens.transferChecked (.vault market position.record.collateralMint)
        position.record.collateralMint (.assetVault position.record.collateralMint)
        (.vaultAuthority market) amount = .ok tokens ∧
      after = { state with
        tokens := tokens
        prediction := position.result
        shared := { state.shared with assets := crossing.result } } := by
  simp only [handleMigratePredictionAsset, bind_eq_ok, require_eq_ok, checkedAdd_eq_ok,
    checkedSub_eq_ok, pure_eq_ok] at done
  obtain ⟨record, ownMarket, position, ownPosition, _, -, asset, ownAsset, marketVault,
    ownMarketVault, vault, ownVault, _, -, _, ⟨enough, rfl⟩, _, ⟨_, rfl⟩, tokens, transferred,
    rfl⟩ := done
  obtain ⟨marketFiled, stored, _⟩ := loadPredictionMarket_ok ownMarket
  obtain ⟨positionFiled, positionStored⟩ := loadPosition_ok ownPosition
  obtain ⟨filed, assetStored⟩ := loadAssetBalance_ok ownAsset
  have there := loadCollateralVault_ok ownMarketVault
  rw [marketFiled] at positionFiled positionStored there transferred
  rw [there, loadAssetVault_ok ownVault] at transferred
  refine ⟨⟨record.val, position.val,
    { position.val with collateralFree := position.val.collateralFree - amount }, stored,
    positionStored, collateral_move (Nat.sub_add_cancel enough)⟩,
    ⟨asset.val, asset.val.free + amount, assetStored, rfl⟩, tokens, transferred, ?_⟩
  simp only [PositionCrossing.result, AssetCrossing.result, filed, positionFiled]

end Assets

/-! ## Complete sets and redemption -/

section Reserve

variable {state after : State} {market : Pubkey} {wallet : Wallet}

/-- A crossing between a question's reserve and a wallet's asset balance, with the tokens that
follow it from one vault to the other. -/
structure ReserveCrossing (state : State) (market owner : Pubkey) (out into : Bucket → Nat)
    (paid funded : Nat) extends
    SetCrossing state.prediction market owner out into paid funded where
  asset : AssetCrossing state.shared.assets owner record.collateralMint funded paid
  tokens : Tokens
  noCash : out .collateral = 0 ∧ into .collateral = 0
  toReserve : funded ≠ 0 → paid = 0 ∧ state.tokens.transferChecked
    (.assetVault record.collateralMint) record.collateralMint
    (.vault market record.collateralMint) (.assetAuthority record.collateralMint) funded =
      .ok tokens
  fromReserve : paid ≠ 0 → funded = 0 ∧ state.tokens.transferChecked
    (.vault market record.collateralMint) record.collateralMint
    (.assetVault record.collateralMint) (.vaultAuthority market) paid = .ok tokens
  still : funded = 0 → paid = 0 → tokens = state.tokens

def ReserveCrossing.settled {owner : Pubkey} {out into : Bucket → Nat} {paid funded : Nat}
    (crossing : ReserveCrossing state market owner out into paid funded) : State :=
  { state with
    tokens := crossing.tokens
    prediction := crossing.result
    shared := { state.shared with assets := crossing.asset.result } }

structure CustodyHeld (state : State) (owner market : Pubkey) (custody : SharedPredictionCustody) :
    Prop where
  filed : custody.market.key = market
  stored : state.prediction.markets.get market = some custody.market.val
  positionFiled : custody.position.key = .predictionPosition market owner
  positionStored : state.prediction.positions.get (.predictionPosition market owner) =
    some custody.position.val
  assetFiled : custody.assets.key = .assetBalance owner custody.market.val.collateralMint
  assetStored : state.shared.assets.get
    (.assetBalance owner custody.market.val.collateralMint) = some custody.assets.val
  assetVault : custody.assetVault.key = .assetVault custody.market.val.collateralMint
  marketVault : custody.marketVault.key = .vault market custody.market.val.collateralMint

theorem loadCustody_ok {custody : SharedPredictionCustody}
    (passed : loadCustody state wallet market = .ok custody) :
    CustodyHeld state wallet.key market custody := by
  simp only [loadCustody, bind_eq_ok, pure_eq_ok] at passed
  obtain ⟨record, ownMarket, position, ownPosition, _, -, asset, ownAsset, assetVault,
    ownAssetVault, marketVault, ownMarketVault, rfl⟩ := passed
  obtain ⟨filed, stored, _⟩ := loadPredictionMarket_ok ownMarket
  obtain ⟨positionFiled, positionStored⟩ := loadPosition_ok ownPosition
  obtain ⟨assetFiled, assetStored⟩ := loadAssetBalance_ok ownAsset
  have there := loadCollateralVault_ok ownMarketVault
  rw [filed] at positionFiled positionStored there
  exact ⟨filed, stored, positionFiled, positionStored, assetFiled, assetStored,
    loadAssetVault_ok ownAssetVault, there⟩

theorem transferReserve_ok {custody : SharedPredictionCustody} {owner : Pubkey} {amount : Nat}
    {intoReserve : Bool} {tokens : Tokens} (held : CustodyHeld state owner market custody)
    (passed : transferReserve state.tokens custody amount intoReserve = .ok tokens) :
    (amount = 0 → tokens = state.tokens) ∧ (amount ≠ 0 →
      if intoReserve then state.tokens.transferChecked
        (.assetVault custody.market.val.collateralMint) custody.market.val.collateralMint
        (.vault market custody.market.val.collateralMint)
        (.assetAuthority custody.market.val.collateralMint) amount = .ok tokens
      else state.tokens.transferChecked (.vault market custody.market.val.collateralMint)
        custody.market.val.collateralMint (.assetVault custody.market.val.collateralMint)
        (.vaultAuthority market) amount = .ok tokens) := by
  constructor
  · intro none
    rw [transferReserve, if_pos none, pure_eq_ok] at passed
    exact passed.symm
  · intro some
    rw [transferReserve, if_neg some, held.assetVault, held.marketVault, held.filed] at passed
    split <;> simp_all

theorem handleSharedCompleteSet_ok {quantity : Nat} {split : Bool}
    (done : handleSharedCompleteSet state wallet market quantity split = .ok after) :
    ∃ amount, (∃ crossing : ReserveCrossing state market wallet.key 0 (pairs 0 quantity) 0 amount,
        crossing.settled = after) ∨
      ∃ crossing : ReserveCrossing state market wallet.key (pairs 0 quantity) 0 amount 0,
        crossing.settled = after := by
  simp only [handleSharedCompleteSet, bind_eq_ok, require_eq_ok, checkedMul_eq_ok, ite_eq_ok] at done
  obtain ⟨custody, loaded, _, -, _, trading, _, ⟨_, rfl⟩, tokens, moved, done⟩ := done
  have held := loadCustody_ok loaded
  obtain ⟨still, transferred⟩ := transferReserve_ok held moved
  refine ⟨quantity * custody.market.val.payoutPerContract, ?_⟩
  obtain ⟨isSplit, done⟩ | ⟨isMerge, done⟩ := done
  · simp only [checkedSub_eq_ok, pure_eq_ok] at done
    obtain ⟨_, ⟨enough, rfl⟩, holder, issuedTo, issued, issue, rfl⟩ := done
    obtain ⟨_, trading⟩ | ⟨other, _⟩ := trading
    swap
    · exact absurd isSplit other
    obtain ⟨question, count, course, supply, reserve, backing⟩ :=
      marketIssue_ok (by simp [trading.1]) rfl issue
    have move := positionIssue_ok issuedTo
      (rfl : custody.position.val.collateralFree + 0 = custody.position.val.collateralFree)
    have kept : { holder with collateralFree := custody.position.val.collateralFree } = holder := by
      simp only [PredictionPosition.issue, bind_eq_ok, pure_eq_ok] at issuedTo
      obtain ⟨_, -, _, -, rfl⟩ := issuedTo
      rfl
    have none_out : pairs 0 0 = 0 := by
      funext bucket
      rcases bucket with _ | _ <;> rfl
    rw [kept, none_out] at move
    simp only [isSplit, if_true] at transferred
    refine .inl ⟨⟨⟨custody.market.val, issued, custody.position.val, holder, held.stored,
      held.positionStored, question, count, course, supply, reserve, backing, move⟩,
      ⟨custody.assets.val,
        custody.assets.val.free - quantity * custody.market.val.payoutPerContract,
        held.assetStored, Nat.sub_add_cancel enough⟩, tokens, ⟨rfl, rfl⟩,
      fun some => ⟨rfl, transferred some⟩, fun some => absurd rfl some,
      fun none _ => still none⟩, ?_⟩
    simp only [ReserveCrossing.settled, SetCrossing.result, AssetCrossing.result, saveCustody,
      held.filed, held.positionFiled, held.assetFiled]
  · simp only [checkedAdd_eq_ok, pure_eq_ok] at done
    obtain ⟨holder, retiredFrom, retired, retire, _, ⟨_, rfl⟩, rfl⟩ := done
    obtain ⟨other, _⟩ | ⟨_, trading⟩ := trading
    · exact absurd other isMerge
    obtain ⟨question, count, course, supply, reserve, backing⟩ :=
      marketRetire_ok (by rcases trading with is | is | is <;> simp [is]) rfl retire
    have move := positionRetire_ok retiredFrom
      (Nat.add_zero custody.position.val.collateralFree).symm
    have kept : { holder with collateralFree := custody.position.val.collateralFree } = holder := by
      simp only [PredictionPosition.retire, bind_eq_ok, pure_eq_ok] at retiredFrom
      obtain ⟨_, -, _, -, rfl⟩ := retiredFrom
      rfl
    have none_in : pairs 0 0 = 0 := by
      funext bucket
      rcases bucket with _ | _ <;> rfl
    rw [kept, none_in] at move
    simp only [isMerge, Bool.false_eq_true, if_false] at transferred
    refine .inr ⟨⟨⟨custody.market.val, retired, custody.position.val, holder, held.stored,
      held.positionStored, question, count, course, supply, reserve, backing, move⟩,
      ⟨custody.assets.val,
        custody.assets.val.free + quantity * custody.market.val.payoutPerContract,
        held.assetStored, rfl⟩, tokens, ⟨rfl, rfl⟩, fun some => absurd rfl some,
      fun some => ⟨rfl, transferred some⟩, fun _ none => still none⟩, ?_⟩
    simp only [ReserveCrossing.settled, SetCrossing.result, AssetCrossing.result, saveCustody,
      held.filed, held.positionFiled, held.assetFiled]

def contractPair (yes no : Nat) : Bucket → Nat
  | .collateral => 0
  | .contracts .yes => yes
  | .contracts .no => no

theorem redemption_sub (outcome : PredictionResolution) (payout : Nat)
    {yes no yesSupply noSupply : Nat} (hasYes : yes ≤ yesSupply) (hasNo : no ≤ noSupply) :
    redemption outcome payout yesSupply noSupply - redemption outcome payout yes no =
      redemption outcome payout (yesSupply - yes) (noSupply - no) := by
  cases outcome with
  | yes => exact (Nat.sub_mul _ _ _).symm
  | no => exact (Nat.sub_mul _ _ _).symm
  | invalid =>
      have sum : yesSupply - yes + (noSupply - no) = yesSupply + noSupply - (yes + no) := by omega
      simp only [redemption]
      rw [sum, Nat.sub_mul]

theorem handleRedeemPrediction_ok {yes no : Nat}
    (done : handleRedeemPrediction state wallet market yes no = .ok after) :
    ∃ (record : PredictionMarket) (outcome : PredictionResolution)
      (crossing : ReserveCrossing state market wallet.key (contractPair yes no) 0
        (redemption outcome record.payoutPerContract yes no) 0),
      crossing.record = record ∧ record.finalOutcome = some outcome ∧ crossing.settled = after := by
  simp only [handleRedeemPrediction, bind_eq_ok, require_eq_ok, okOr_eq_ok, toU64_eq_ok,
    checkedSub_eq_ok, checkedAdd_eq_ok, pure_eq_ok] at done
  obtain ⟨custody, loaded, _, -, _, resolved, outcome, final, _, -, _, ⟨_, rfl⟩, tokens, moved, _,
    ⟨yesFree, rfl⟩, _, ⟨noFree, rfl⟩, _, ⟨yesSupply, rfl⟩, _, ⟨noSupply, rfl⟩, _, ⟨reserve, rfl⟩, _,
    ⟨_, rfl⟩, rfl⟩ := done
  have held := loadCustody_ok loaded
  obtain ⟨still, transferred⟩ := transferReserve_ok held moved
  simp only [Bool.false_eq_true, if_false] at transferred
  have move : positionLedger.Move custody.position.val
      { custody.position.val with
        yesFree := custody.position.val.yesFree - yes
        noFree := custody.position.val.noFree - no } 0 0 (contractPair yes no) 0 := by
    refine ⟨rfl, fun bucket => ?_, fun bucket => ?_⟩
    · rcases bucket with _ | (_ | _) <;> rfl
    · rcases bucket with _ | (_ | _) <;>
        simp only [positionLedger, contractPair, Pi.zero_apply] <;> omega
  refine ⟨custody.market.val, outcome, ⟨⟨custody.market.val,
    { custody.market.val with
      yesSupply := custody.market.val.yesSupply - yes
      noSupply := custody.market.val.noSupply - no
      backingReserve := custody.market.val.backingReserve -
        redemption outcome custody.market.val.payoutPerContract yes no },
    custody.position.val, _, held.stored, held.positionStored, ⟨rfl, rfl, rfl, rfl, rfl⟩, rfl, rfl, ?_,
    Nat.sub_add_cancel reserve, fun backing => ?_, move⟩,
    ⟨custody.assets.val, custody.assets.val.free +
      redemption outcome custody.market.val.payoutPerContract yes no, held.assetStored, rfl⟩,
    tokens, ⟨rfl, rfl⟩, fun some => absurd rfl some, fun some => ⟨rfl, transferred some⟩, fun _ none => still none⟩,
    rfl, final, ?_⟩
  · rintro (_ | _)
    · exact Nat.sub_add_cancel yesSupply
    · exact Nat.sub_add_cancel noSupply
  · refine ⟨backing.payout_pos, backing.even, backing.resolved, fun unknown => ?_,
      fun found same => ?_, le_trans (Nat.sub_le _ _) backing.reserve_fits, ?_⟩
    · rw [show custody.market.val.finalOutcome = none from unknown] at final
      cases final
    · rw [show custody.market.val.finalOutcome = some found from same] at final
      cases final
      have worth := backing.after outcome same
      simp only
      rw [worth, redemption_sub outcome _ yesSupply noSupply]
    · rintro (_ | _)
      · exact le_trans (Nat.sub_le _ _) (backing.supply_fits .yes)
      · exact le_trans (Nat.sub_le _ _) (backing.supply_fits .no)
  · simp only [ReserveCrossing.settled, SetCrossing.result, AssetCrossing.result, saveCustody,
      held.filed, held.positionFiled, held.assetFiled]

end Reserve

/-! ## Shared books -/

section Books

variable {state after : State} {shared : Shared} {market key : Pubkey} {book record : SharedBook}

theorem SharedInvariant.absent (holds : SharedInvariant shared)
    (absent : shared.books.get key = none) (found : Pubkey) (order : SharedOrder)
    (present : shared.orders.get found = some order) (home : order.book = key) :
    order.status ≠ .opened := by
  intro live
  obtain ⟨book, stored, _⟩ := holds.resting found order present live
  rw [home, absent] at stored
  cases stored

theorem SharedInvariant.uncounted (holds : SharedInvariant shared)
    (stored : shared.books.get key = some book) (none_open : book.openOrderCount = 0)
    (found : Pubkey) (order : SharedOrder) (present : shared.orders.get found = some order)
    (home : order.book = key) : order.status ≠ .opened := by
  intro live
  have counted := holds.counts key book stored
  rw [none_open, eq_comm, Store.total_eq_zero] at counted
  have one := counted found order present
  simp [Shared.openIn, home, live] at one

theorem SharedInvariant.retag (holds : SharedInvariant shared)
    (stored : shared.books.get key = some book) (same : Shared.SameTerms book record)
    (best : record.bestPrices = book.bestPrices)
    (count : record.openOrderCount = book.openOrderCount) :
    SharedInvariant { shared with books := shared.books.set key record } where
  books := by
    refine holds.books.set ?_
    rw [same.market]
    exact holds.books key book stored
  orders := holds.orders
  levels := holds.levels
  orderHome := holds.orderHome
  levelHome := holds.levelHome
  terms found other present := by
    rw [Store.get_set] at present
    split at present
    · cases present
      exact (holds.terms key book stored).congr same
    · exact holds.terms found other present
  sound := by
    refine holds.sound.congr ?_
    rw [sharedHeads_set, headOf_congr same.kind best, ← sharedHeads_stored stored,
      Function.update_eq_self]
  resting found order present := (holds.resting found order present).update stored same
  counts found other present := by
    rw [Store.get_set] at present
    split at present
    · next same =>
        subst same
        cases present
        exact count.trans (holds.counts found book stored)
    · exact holds.counts found other present

theorem headOf_empty (empty : ∀ slot, book.bestPrices slot = none) (list : SharedList) :
    headOf book list = none := by
  rw [headOf]
  split
  · exact empty _
  · rfl

theorem SharedInvariant.open_book (holds : SharedInvariant shared)
    (absent : shared.books.get (.sharedBook market) = none) (home : book.market = market)
    (terms : Shared.Terms book) (empty : ∀ slot, book.bestPrices slot = none)
    (count : book.openOrderCount = 0) :
    SharedInvariant { shared with books := shared.books.set (.sharedBook market) book } where
  books := holds.books.set (by rw [home])
  orders := holds.orders
  levels := holds.levels
  orderHome := holds.orderHome
  levelHome := holds.levelHome
  terms found other present := by
    rw [Store.get_set] at present
    split at present
    · cases present
      exact terms
    · exact holds.terms found other present
  sound := by
    refine holds.sound.congr ?_
    rw [sharedHeads_set, Function.update_eq_iff]
    refine ⟨funext fun list => ?_, fun _ _ => rfl⟩
    rw [headOf_empty empty, sharedHeads, absent]
    rfl
  resting found order present live := by
    obtain ⟨other, stored, rest⟩ := holds.resting found order present live
    refine ⟨other, ?_, rest⟩
    rw [Store.get_set_ne _ _ fun same => ?_, stored]
    exact holds.absent absent found order present same live
  counts found other present := by
    rw [Store.get_set] at present
    split at present
    · next same =>
        cases present
        rw [count, eq_comm, Store.total_eq_zero]
        intro orderKey order here
        rw [Shared.openIn, if_neg]
        rintro ⟨there, live⟩
        exact holds.absent absent orderKey order here (there.trans same) live
    · exact holds.counts found other present

theorem SharedInvariant.close_book (holds : SharedInvariant shared)
    (stored : shared.books.get key = some book) (empty : ∀ slot, book.bestPrices slot = none)
    (count : book.openOrderCount = 0) :
    SharedInvariant { shared with books := shared.books.erase key } where
  books := holds.books.erase key
  orders := holds.orders
  levels := holds.levels
  orderHome := holds.orderHome
  levelHome := holds.levelHome
  terms found other present := by
    rw [Store.get_erase] at present
    split at present
    · cases present
    · exact holds.terms found other present
  sound := by
    refine holds.sound.congr (funext fun found => funext fun list => ?_)
    simp only [sharedHeads, Store.get_erase]
    split
    · next same => simp [same, stored, headOf_empty empty]
    · rfl
  resting found order present live := by
    obtain ⟨other, there, rest⟩ := holds.resting found order present live
    refine ⟨other, ?_, rest⟩
    rw [Store.get_erase, if_neg fun same => ?_]
    · exact there
    · exact holds.uncounted stored count found order present same live
  counts found other present := by
    rw [Store.get_erase] at present
    split at present
    · cases present
    · exact holds.counts found other present

/-! ### Handlers -/

structure BookOpening (state : State) (market : Pubkey) (kind : MarketKind) where
  terms : SharedTerms
  absent : state.shared.books.get (.sharedBook market) = none
  taken : Program.terms state market kind false = .ok terms
  tick_pos : 0 < terms.tick
  lot_pos : 0 < terms.lot

def BookOpening.opened {kind : MarketKind} (opening : BookOpening state market kind) :
    SharedBook where
  market := market
  authority := opening.terms.authority
  kind := kind
  baseMint := opening.terms.baseMint
  quoteMint := opening.terms.quoteMint
  baseDecimals := opening.terms.baseDecimals
  quoteDecimals := opening.terms.quoteDecimals
  priceTick := opening.terms.tick
  quantityLot := opening.terms.lot
  payoutPerContract := opening.terms.payout
  bestPrices := fun _ => none
  nextOrderId := 1
  openOrderCount := 0
  accruedQuoteFees := 0

theorem handleInitializeSharedBook_ok {authority : Wallet} {kind : MarketKind}
    (done : handleInitializeSharedBook state authority market kind = .ok after) :
    ∃ opening : BookOpening state market kind, after = { state with
      shared := { state.shared with
        books := state.shared.books.set (.sharedBook market) opening.opened } } := by
  simp only [handleInitializeSharedBook, bind_eq_ok, vacant_eq_ok, require_eq_ok,
    pure_eq_ok] at done
  obtain ⟨_, -, _, absent, value, taken, _, -, _, positive, rfl⟩ := done
  exact ⟨⟨value, absent, taken, positive.1, positive.2⟩, rfl⟩

theorem terms_ok {kind : MarketKind} {trading : Bool} {value : SharedTerms}
    (taken : terms state market kind trading = .ok value) :
    (kind = .spot ∧ ∃ record, state.spot.markets.get market = some record ∧
      value.baseMint = record.baseMint ∧ value.quoteMint = record.quoteMint) ∨
    kind = .prediction ∧ value.baseDecimals = 0 ∧ value.lot = 1 ∧ ∃ record,
      state.prediction.markets.get market = some record ∧
        value.quoteMint = record.collateralMint := by
  cases kind with
  | spot =>
      simp only [terms, bind_eq_ok, load_eq_ok, require_eq_ok, pure_eq_ok] at taken
      obtain ⟨record, ⟨_, stored⟩, _, -, _, -, rfl⟩ := taken
      exact .inl ⟨rfl, record.val, stored, rfl, rfl⟩
  | prediction =>
      simp only [terms, bind_eq_ok, load_eq_ok, require_eq_ok, pure_eq_ok] at taken
      obtain ⟨record, ⟨_, stored⟩, _, -, _, -, _, -, _, -, rfl⟩ := taken
      exact .inr ⟨rfl, rfl, rfl, record.val, stored, rfl⟩
  | other => cases taken

theorem BookOpening.valid {kind : MarketKind} (opening : BookOpening state market kind)
    (distinct : ∀ key record, state.spot.markets.get key = some record →
      record.baseMint ≠ record.quoteMint) : Shared.Terms opening.opened := by
  rcases terms_ok opening.taken with ⟨rfl, record, stored, base, quote⟩ | ⟨rfl, whole, single, -⟩
  · refine ⟨.inl rfl, opening.tick_pos, opening.lot_pos, fun _ => ?_, fun other => by cases other⟩
    change opening.terms.baseMint ≠ opening.terms.quoteMint
    rw [base, quote]
    exact distinct market record stored
  · exact ⟨.inr rfl, opening.tick_pos, opening.lot_pos, fun other => (by cases other),
      fun _ => ⟨whole, single⟩⟩

theorem handleCloseSharedBook_ok {authority : Wallet}
    (done : handleCloseSharedBook state authority market = .ok after) :
    ∃ book, state.shared.books.get (.sharedBook market) = some book ∧ book.openOrderCount = 0 ∧
      book.accruedQuoteFees = 0 ∧ (∀ slot, book.bestPrices slot = none) ∧
      after = { state with
        shared := { state.shared with
          books := state.shared.books.erase (.sharedBook market) } } := by
  simp only [handleCloseSharedBook, bind_eq_ok, require_eq_ok, pure_eq_ok] at done
  obtain ⟨_, -, book, ownBook, _, -, _, empty, _, -, rfl⟩ := done
  obtain ⟨filed, stored, _⟩ := loadSharedBook_ok ownBook
  exact ⟨book.val, stored, empty.1, empty.2.1, empty.2.2, by rw [filed]⟩

theorem handleWithdrawSharedFees_ok {superAdmin : Wallet} {token : Pubkey} {amount : Nat}
    (done : handleWithdrawSharedFees state superAdmin key token amount = .ok after) :
    ∃ book tokens account, state.shared.books.get key = some book ∧
      amount ≤ book.accruedQuoteFees ∧ state.tokens.accounts.get token = some account ∧
      account.owner = superAdmin.key ∧
      state.tokens.transferChecked (.assetVault book.quoteMint) book.quoteMint token
        (.assetAuthority book.quoteMint) amount = .ok tokens ∧
      after = { state with
        tokens := tokens
        shared := { state.shared with
          books := state.shared.books.set key
            { book with accruedQuoteFees := book.accruedQuoteFees - amount } } } := by
  simp only [handleWithdrawSharedFees, bind_eq_ok, require_eq_ok, checkedSub_eq_ok,
    pure_eq_ok] at done
  obtain ⟨_, -, book, ownBook, _, -, account, ownAccount, vault, ownVault, _, -, _, ⟨enough, rfl⟩,
    tokens, transferred, rfl⟩ := done
  obtain ⟨filed, stored⟩ := loadBookAccount_ok ownBook
  obtain ⟨tokenFiled, held, owned⟩ := loadWalletToken_ok ownAccount
  rw [loadAssetVault_ok ownVault, tokenFiled] at transferred
  exact ⟨book.val, tokens, account.val, stored, enough, held, owned, transferred, by rw [filed]⟩

end Books
end Tidebook.Proof
