import Tidebook.Proof.Run

/-! # Solvency

Every claim is covered by its vault, so no sum of claims on one vault leaves the width of a token
amount, and what a claim asks for can be paid.
-/

namespace Tidebook.Proof
open Library Program

/-- Every vault covers what the program owes there. -/
def Solvent (state : State) : Prop :=
  ∀ vault, guardOf vault ≠ none → owed state vault ≤ state.tokens.held vault

theorem run_solvent (genesis : Genesis) (events : List Event) :
    Solvent (genesis.after events).state := by
  intro vault guarded
  rw [run_custody genesis events vault guarded]
  exact Nat.le_add_right _ _

/-! ## Loading what is stored -/

section Loads

variable {state : State} (holds : Invariant state)

include holds

theorem loadAssetBalance_total {owner mint : Pubkey} {balance : AssetBalance}
    (stored : state.shared.assets.get (.assetBalance owner mint) = some balance) :
    loadAssetBalance state.shared owner mint = .ok ⟨.assetBalance owner mint, balance⟩ := by
  obtain ⟨ownerIs, mintIs⟩ := Pubkey.assetBalance.inj (holds.assets _ balance stored)
  simp only [loadAssetBalance, bind_eq_ok, load_eq_ok, require_eq_ok, pure_eq_ok]
  exact ⟨⟨_, balance⟩, ⟨rfl, stored⟩, (), ⟨ownerIs.symm, mintIs.symm⟩, rfl⟩

theorem loadPosition_total {market owner : Pubkey} {position : PredictionPosition}
    (stored : state.prediction.positions.get (.predictionPosition market owner) = some position) :
    loadPosition state.prediction market owner =
      .ok ⟨.predictionPosition market owner, position⟩ := by
  obtain ⟨marketIs, ownerIs⟩ :=
    Pubkey.predictionPosition.inj (holds.accounts.filed _ position stored)
  simp only [loadPosition, bind_eq_ok, load_eq_ok, require_eq_ok, pure_eq_ok]
  exact ⟨⟨_, position⟩, ⟨rfl, stored⟩, (), marketIs.symm, (), ownerIs.symm, rfl⟩

theorem loadPredictionMarket_total {key : Pubkey} {market : PredictionMarket}
    (stored : state.prediction.markets.get key = some market) :
    loadPredictionMarket state.prediction key = .ok ⟨key, market⟩ := by
  simp only [loadPredictionMarket, bind_eq_ok, load_eq_ok, require_eq_ok, pure_eq_ok]
  exact ⟨⟨key, market⟩, ⟨rfl, stored⟩, (), holds.prediction.markets key market stored, rfl⟩

theorem loadAssetVault_total {mint : Pubkey} {vault : TokenAccount}
    (stored : state.tokens.accounts.get (.assetVault mint) = some vault) :
    loadAssetVault state.tokens mint = .ok ⟨.assetVault mint, vault⟩ := by
  obtain ⟨owner, asset⟩ := holds.tokens.guarded _ vault _ _ stored rfl
  simp only [loadAssetVault, bind_eq_ok, load_eq_ok, require_eq_ok, pure_eq_ok]
  exact ⟨⟨_, vault⟩, ⟨rfl, stored⟩, (), asset, (), owner, rfl⟩

theorem loadCollateralVault_total {key : Pubkey} {market : PredictionMarket} {vault : TokenAccount}
    (known : state.prediction.markets.get key = some market)
    (stored : state.tokens.accounts.get (.vault key market.collateralMint) = some vault) :
    loadCollateralVault state.tokens ⟨key, market⟩ =
      .ok ⟨.vault key market.collateralMint, vault⟩ := by
  obtain ⟨owner, asset⟩ := holds.tokens.guarded _ vault _ _ stored rfl
  obtain ⟨-, -, address⟩ := holds.vaulted.question key market known
  simp only [loadCollateralVault, bind_eq_ok, load_eq_ok, require_eq_ok, pure_eq_ok]
  exact ⟨⟨_, vault⟩, ⟨rfl, stored⟩, (), address.symm, (), asset, (), owner, rfl⟩

theorem loadVault_total {market mint : Pubkey} {vault : TokenAccount}
    (stored : state.tokens.accounts.get (.vault market mint) = some vault) :
    loadVault state.tokens market mint = .ok ⟨.vault market mint, vault⟩ := by
  obtain ⟨owner, asset⟩ := holds.tokens.guarded _ vault _ _ stored rfl
  simp only [loadVault, bind_eq_ok, load_eq_ok, require_eq_ok, pure_eq_ok]
  exact ⟨⟨_, vault⟩, ⟨rfl, stored⟩, (), asset, (), owner, rfl⟩

end Loads

/-! ## Claims fit -/

section Claims

variable {state : State} (holds : Invariant state) (solvent : Solvent state)

include holds solvent

theorem Solvent.vault_fits {vault : Pubkey} {account : TokenAccount}
    (stored : state.tokens.accounts.get vault = some account) (guarded : guardOf vault ≠ none) :
    owed state vault ≤ account.amount ∧ account.amount ≤ u64Max := by
  have covered := solvent vault guarded
  simp only [Tokens.held, stored, Option.map_some, Option.getD_some] at covered
  exact ⟨covered, holds.tokens.amount_fits stored⟩

theorem Solvent.fits {vault : Pubkey} (guarded : guardOf vault ≠ none) :
    owed state vault ≤ u64Max := by
  have covered := solvent vault guarded
  cases stored : state.tokens.accounts.get vault with
  | none =>
      simp only [Tokens.held, stored, Option.map_none, Option.getD_none] at covered
      omega
  | some account =>
      obtain ⟨_, fits⟩ := Solvent.vault_fits holds solvent stored guarded
      simp only [Tokens.held, stored, Option.map_some, Option.getD_some] at covered
      exact covered.trans fits

theorem Solvent.pair_fits {first second mint authority other : Pubkey} (different : first ≠ second)
    (guard : guardOf first = some (authority, mint))
    (also : guardOf second = some (other, mint)) :
    owed state first + owed state second ≤ u64Max := by
  have one := solvent first (by simp [guard])
  have two := solvent second (by simp [also])
  have alone := solvent.fits holds (show guardOf first ≠ none by simp [guard])
  have apart := solvent.fits holds (show guardOf second ≠ none by simp [also])
  cases stored : state.tokens.accounts.get first with
  | none =>
      simp only [Tokens.held, stored, Option.map_none, Option.getD_none] at one
      omega
  | some account =>
      cases found : state.tokens.accounts.get second with
      | none =>
          simp only [Tokens.held, found, Option.map_none, Option.getD_none] at two
          omega
      | some counterpart =>
          obtain ⟨-, mintIs⟩ := holds.tokens.guarded first account _ _ stored guard
          obtain ⟨-, alike⟩ := holds.tokens.guarded second counterpart _ _ found also
          have together := holds.tokens.pair_fits stored found different (alike.trans mintIs.symm)
          simp only [Tokens.held, stored, found, Option.map_some, Option.getD_some] at one two
          omega

theorem Solvent.assets_fit (mint : Pubkey) : assetOwed state.shared mint ≤ u64Max := by
  have guarded : guardOf (.assetVault mint) ≠ none := by simp [guardOf]
  exact solvent.fits holds guarded

theorem Solvent.question_fits {key : Pubkey} {market : PredictionMarket}
    (stored : state.prediction.markets.get key = some market) :
    state.prediction.positions.total (positionLedger.held key .collateral) +
      accrued state.prediction.fees key + market.backingReserve ≤ u64Max := by
  have guarded : guardOf (.vault key market.collateralMint) ≠ none := by simp [guardOf]
  have bound := solvent.fits holds guarded
  simp only [owed, questionOwed, stored, Option.elim_some, if_true] at bound
  omega

end Claims

/-! ## Redemption -/

/-- Contracts of a position are within the supply of their outcome. -/
theorem PredictionAccounts.contracts_le {prediction : Prediction}
    (holds : PredictionAccounts prediction) {key owner : Pubkey} {market : PredictionMarket}
    {position : PredictionPosition} (stored : prediction.markets.get key = some market)
    (held : prediction.positions.get (.predictionPosition key owner) = some position)
    (outcome : PredictionOutcome) :
    positionLedger.free position (.contracts outcome) +
      positionLedger.locked position (.contracts outcome) ≤ supplyOf market outcome := by
  have bound := Store.le_total (f := positionLedger.held key (.contracts outcome)) held
  obtain ⟨marketIs, -⟩ := Pubkey.predictionPosition.inj (holds.filed _ position held)
  have home : positionLedger.pool (positionLedger.holder position) = key := marketIs.symm
  rw [Ledger.held, if_pos home] at bound
  rw [holds.supply key market outcome stored]
  exact bound

theorem asset_le_owed {shared : Shared} (filed : assetLedger.Filed shared.assets)
    {owner mint : Pubkey} {balance : AssetBalance}
    (stored : shared.assets.get (.assetBalance owner mint) = some balance) :
    balance.free + balance.locked ≤ assetOwed shared mint := by
  have bound := Store.le_total (f := assetLedger.held mint ()) stored
  have home : assetLedger.pool (assetLedger.holder balance) = mint :=
    (Pubkey.assetBalance.inj (filed _ balance stored)).2.symm
  rw [Ledger.held, if_pos home] at bound
  exact bound.trans (Nat.le_add_right _ _)

theorem redemption_mono {outcome : PredictionResolution} {payout yes no yesSupply noSupply : Nat}
    (yesLe : yes ≤ yesSupply) (noLe : no ≤ noSupply) :
    redemption outcome payout yes no ≤ redemption outcome payout yesSupply noSupply := by
  cases outcome with
  | yes => exact Nat.mul_le_mul_right payout yesLe
  | no => exact Nat.mul_le_mul_right payout noLe
  | invalid => exact Nat.mul_le_mul_right _ (Nat.add_le_add yesLe noLe)

section Redemption

variable {state : State} {owner : Wallet} {key : Pubkey} {market : PredictionMarket}
variable {position : PredictionPosition} {balance : AssetBalance}

theorem loadCustody_total (holds : Invariant state)
    (stored : state.prediction.markets.get key = some market)
    (held : state.prediction.positions.get (.predictionPosition key owner.key) = some position)
    (funded : state.shared.assets.get (.assetBalance owner.key market.collateralMint) =
      some balance) :
    ∃ assetVault marketVault,
      state.tokens.accounts.get (.assetVault market.collateralMint) = some assetVault ∧
      state.tokens.accounts.get (.vault key market.collateralMint) = some marketVault ∧
      loadCustody state owner key = .ok ⟨⟨key, market⟩,
        ⟨.predictionPosition key owner.key, position⟩,
        ⟨.assetBalance owner.key market.collateralMint, balance⟩,
        ⟨.assetVault market.collateralMint, assetVault⟩,
        ⟨.vault key market.collateralMint, marketVault⟩⟩ := by
  obtain ⟨hasVault, hasMint, -⟩ := holds.vaulted.question key market stored
  obtain ⟨hasAssetVault, -⟩ := holds.vaulted.asset _ balance funded
  have mintIs : market.collateralMint = balance.mint :=
    (Pubkey.assetBalance.inj (holds.assets _ balance funded)).2
  rw [← mintIs] at hasAssetVault
  obtain ⟨marketVault, marketVaultStored⟩ := Option.ne_none_iff_exists'.mp hasVault
  obtain ⟨assetVault, assetVaultStored⟩ := Option.ne_none_iff_exists'.mp hasAssetVault
  obtain ⟨mint, mintStored⟩ := Option.ne_none_iff_exists'.mp hasMint
  refine ⟨assetVault, marketVault, assetVaultStored, marketVaultStored, ?_⟩
  simp only [loadCustody, bind_eq_ok, pure_eq_ok]
  exact ⟨_, loadPredictionMarket_total holds stored, _, loadPosition_total holds held,
    ⟨market.collateralMint, mint⟩, load_eq_ok.mpr ⟨rfl, mintStored⟩, _,
    loadAssetBalance_total holds funded, _, loadAssetVault_total holds assetVaultStored, _,
    loadCollateralVault_total holds stored marketVaultStored, rfl⟩

theorem transferReserve_total (holds : Invariant state) (solvent : Solvent state)
    (position : Account PredictionPosition) (assets : Account AssetBalance)
    {assetVault marketVault : TokenAccount} {amount : Nat}
    (stored : state.prediction.markets.get key = some market)
    (assetStored : state.tokens.accounts.get (.assetVault market.collateralMint) = some assetVault)
    (vaultStored : state.tokens.accounts.get (.vault key market.collateralMint) = some marketVault)
    (covered : amount ≤ market.backingReserve) :
    ∃ tokens, transferReserve state.tokens ⟨⟨key, market⟩, position, assets,
        ⟨.assetVault market.collateralMint, assetVault⟩,
        ⟨.vault key market.collateralMint, marketVault⟩⟩ amount false = .ok tokens := by
  obtain ⟨owner, mint⟩ := holds.tokens.guarded _ marketVault _ _ vaultStored rfl
  obtain ⟨-, assetMint⟩ := holds.tokens.guarded _ assetVault _ _ assetStored rfl
  have enough := (solvent.vault_fits holds vaultStored (by simp [guardOf])).1
  simp only [owed, questionOwed, stored, Option.elim_some, if_true] at enough
  have together := holds.tokens.pair_fits assetStored vaultStored (by simp) (mint.trans assetMint.symm)
  unfold transferReserve
  split
  · exact ⟨_, rfl⟩
  · rw [if_neg (by decide)]
    exact transferChecked_total (by simp) vaultStored assetStored mint assetMint owner (by omega)
      (by omega)

/-- Free contracts of a resolved question are always paid. -/
theorem redeem_total (holds : Invariant state) (solvent : Solvent state)
    (stored : state.prediction.markets.get key = some market)
    (held : state.prediction.positions.get (.predictionPosition key owner.key) = some position)
    (funded : state.shared.assets.get (.assetBalance owner.key market.collateralMint) =
      some balance)
    {outcome : PredictionResolution} (final : market.finalOutcome = some outcome) {yes no : Nat}
    (some_ : 0 < yes ∨ 0 < no) (yesFree : yes ≤ position.yesFree) (noFree : no ≤ position.noFree) :
    ∃ after, handleRedeemPrediction state owner key yes no = .ok after ∧
      after.shared.assets.get (.assetBalance owner.key market.collateralMint) =
        some { balance with
          free := balance.free + redemption outcome market.payoutPerContract yes no } := by
  have backing := holds.accounts.backing key market stored
  have resolved : market.status = .resolved := backing.resolved.mpr (by simp [final])
  have yesLe := holds.accounts.contracts_le stored held .yes
  have noLe := holds.accounts.contracts_le stored held .no
  simp only [positionLedger, supplyOf] at yesLe noLe
  have worth : redemption outcome market.payoutPerContract yes no ≤ market.backingReserve := by
    rw [backing.after outcome final]
    exact redemption_mono (yesFree.trans ((Nat.le_add_right _ _).trans yesLe))
      (noFree.trans ((Nat.le_add_right _ _).trans noLe))
  obtain ⟨assetVault, marketVault, assetStored, vaultStored, custody⟩ :=
    loadCustody_total holds stored held funded
  obtain ⟨tokens, paid⟩ := transferReserve_total holds solvent
    ⟨.predictionPosition key owner.key, position⟩
    ⟨.assetBalance owner.key market.collateralMint, balance⟩ stored assetStored vaultStored worth
  have credit : balance.free + redemption outcome market.payoutPerContract yes no ≤ u64Max := by
    have claim := asset_le_owed holds.assets funded
    have both : owed state (.assetVault market.collateralMint) +
        owed state (.vault key market.collateralMint) ≤ u64Max :=
      solvent.pair_fits holds (by simp) rfl rfl
    simp only [owed, questionOwed, stored, Option.elim_some, if_true] at both
    omega
  have yesSupply := yesFree.trans ((Nat.le_add_right _ _).trans yesLe)
  have noSupply := noFree.trans ((Nat.le_add_right _ _).trans noLe)
  simp only [handleRedeemPrediction, bind_eq_ok, require_eq_ok, okOr_eq_ok, toU64_eq_ok,
    checkedSub_eq_ok, checkedAdd_eq_ok, pure_eq_ok]
  refine ⟨_, ⟨_, custody, (), some_, (), resolved, outcome, final, (),
    ⟨backing.payout_pos, backing.even⟩, _, ⟨worth.trans backing.reserve_fits, rfl⟩, tokens, paid, _,
    ⟨yesFree, rfl⟩, _, ⟨noFree, rfl⟩, _, ⟨yesSupply, rfl⟩, _, ⟨noSupply, rfl⟩, _, ⟨worth, rfl⟩, _,
    ⟨credit, rfl⟩, rfl⟩, ?_⟩
  simp only [saveCustody, Store.get_set_self]

end Redemption
end Tidebook.Proof
