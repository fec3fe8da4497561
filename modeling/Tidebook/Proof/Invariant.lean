import Tidebook.Proof.Custody

/-! # The invariant of the program

What holds of the whole ledger in every state a run can reach, whoever sends the instructions and
in whatever order.
-/

namespace Tidebook.Proof
open Library Program

/-! ## Fees and vaults -/

/-- Every market has its own fee record. -/
def Charged {M : Type} (mint : M → Pubkey) (markets : Store Pubkey M)
    (fees : Store Pubkey MarketFees) : Prop :=
  ∀ key market, markets.get key = some market → ∃ record,
    fees.get (.marketFees key) = some record ∧ record.market = key ∧ record.quoteMint = mint market

namespace Charged

variable {M : Type} {mint : M → Pubkey} {markets : Store Pubkey M}
variable {fees : Store Pubkey MarketFees} {key : Pubkey} {market record : M}

theorem update (holds : Charged mint markets fees) (stored : markets.get key = some market)
    (same : mint record = mint market) : Charged mint (markets.set key record) fees := by
  intro found other present
  rw [Store.get_set] at present
  split at present
  · next home =>
      cases present
      rw [home, same]
      exact holds key market stored
  · exact holds found other present

theorem charge (holds : Charged mint markets fees) {charged : MarketFees} {amount : Nat}
    (stored : fees.get (.marketFees key) = some charged) :
    Charged mint markets
      (fees.set (.marketFees key) { charged with accruedQuoteFees := amount }) := by
  intro found other present
  obtain ⟨old, kept, home, quote⟩ := holds found other present
  rw [Store.get_set]
  split
  · next same =>
      rw [same, stored, Option.some.injEq] at kept
      subst kept
      exact ⟨_, rfl, home, quote⟩
  · exact ⟨old, kept, home, quote⟩

theorem opened (holds : Charged mint markets fees) (market : M) (amount : Nat) :
    Charged mint (markets.set key market)
      (fees.set (.marketFees key) ⟨key, mint market, amount⟩) := by
  intro found other present
  simp only [Store.get_set, Pubkey.marketFees.injEq] at present ⊢
  split at present
  · next same =>
      cases present
      rw [if_pos same]
      exact ⟨_, rfl, same.symm, rfl⟩
  · next different =>
      rw [if_neg different]
      exact holds found other present

theorem closed (holds : Charged mint markets fees) (key : Pubkey) :
    Charged mint (markets.erase key) (fees.erase (.marketFees key)) := by
  intro found other present
  simp only [Store.get_erase, Pubkey.marketFees.injEq] at present ⊢
  split at present
  · cases present
  · next different =>
      rw [if_neg different]
      exact holds found other present

end Charged

/-- Whoever has a claim has the vault that pays it. -/
structure Vaulted (state : State) : Prop where
  question : ∀ key market, state.prediction.markets.get key = some market →
    state.tokens.accounts.get (.vault key market.collateralMint) ≠ none ∧
      state.tokens.mints.get market.collateralMint ≠ none ∧
      market.collateralVault = .vault key market.collateralMint
  asset : ∀ key balance, state.shared.assets.get key = some balance →
    state.tokens.accounts.get (.assetVault balance.mint) ≠ none ∧
      state.tokens.mints.get balance.mint ≠ none

/-- Accounts and mints stay; only the vaults of a closed spot market go. -/
structure Persists (before after : Tokens) : Prop where
  accounts : ∀ key, (∀ base quote mint, key ≠ .vault (.market base quote) mint) →
    before.accounts.get key ≠ none → after.accounts.get key ≠ none
  mints : ∀ key, before.mints.get key ≠ none → after.mints.get key ≠ none

namespace Persists

variable {before middle after : Tokens}

theorem refl (tokens : Tokens) : Persists tokens tokens := ⟨fun _ _ => id, fun _ => id⟩

theorem trans (first : Persists before middle) (second : Persists middle after) :
    Persists before after where
  accounts key other known := second.accounts key other (first.accounts key other known)
  mints key known := second.mints key (first.mints key known)

theorem shift {source destination : Pubkey} {amount : Nat}
    (shift : Shift before after source destination amount) : Persists before after where
  accounts key _ known := by
    have same := shift.identities key
    intro unknown
    rw [unknown, Option.map_none, eq_comm, Option.map_eq_none_iff] at same
    exact known same
  mints key known := by
    rw [shift.mints]
    exact known

theorem open_account {key mint owner : Pubkey}
    (done : before.initializeAccount key mint owner = .ok after) : Persists before after := by
  obtain ⟨_, rfl⟩ := initializeAccount_ok done
  exact ⟨fun other _ known => Store.set_ne_none known, fun _ => id⟩

theorem close_account {key base quote mint owner : Pubkey}
    (address : key = .vault (.market base quote) mint)
    (done : before.closeAccount key owner = .ok after) : Persists before after := by
  obtain ⟨_, _, _, rfl⟩ := closeAccount_ok done
  refine ⟨fun other elsewhere known => ?_, fun _ => id⟩
  simp only [Store.get_erase]
  rw [if_neg (address ▸ elsewhere base quote mint)]
  exact known

theorem open_mint {key : Pubkey} {decimals : Nat}
    (done : before.initializeMint key decimals = .ok after) : Persists before after := by
  obtain ⟨_, rfl⟩ := initializeMint_ok done
  exact ⟨fun _ _ => id, fun other known => Store.set_ne_none known⟩

theorem mint_to {mint key : Pubkey} {amount : Nat}
    (done : before.mintTo mint key amount = .ok after) : Persists before after := by
  obtain ⟨_, _, _, _, _, _, rfl⟩ := mintTo_ok done
  exact ⟨fun other _ known => Store.set_ne_none known, fun other known => Store.set_ne_none known⟩

theorem burn {key authority : Pubkey} {amount : Nat}
    (done : before.burn key authority amount = .ok after) : Persists before after := by
  obtain ⟨_, _, _, _, _, _, _, rfl⟩ := burn_ok done
  exact ⟨fun other _ known => Store.set_ne_none known, fun other known => Store.set_ne_none known⟩

end Persists

theorem Vaulted.keep {state after : State} (holds : Vaulted state)
    (persists : Persists state.tokens after.tokens)
    (keyed : state.prediction.markets.Keyed fun market => .predictionMarket market.marketId)
    (markets : ∀ key market, after.prediction.markets.get key = some market →
      ∃ old, state.prediction.markets.get key = some old ∧ SameQuestion old market)
    (assets : ∀ key balance, after.shared.assets.get key = some balance →
      ∃ found old, state.shared.assets.get found = some old ∧ old.mint = balance.mint) :
    Vaulted after where
  question key market stored := by
    obtain ⟨old, present, same⟩ := markets key market stored
    obtain ⟨vault, mint, address⟩ := holds.question key old present
    rw [same.collateralMint, show market.collateralVault = old.collateralVault from
      congrArg Prod.fst same.resolution]
    refine ⟨persists.accounts _ (fun base quote asset => ?_) vault, persists.mints _ mint, address⟩
    rw [keyed key old present]
    exact fun same => nomatch (Pubkey.vault.inj same).1
  asset key balance stored := by
    obtain ⟨found, old, present, same⟩ := assets key balance stored
    obtain ⟨vault, mint⟩ := holds.asset found old present
    rw [← same]
    exact ⟨persists.accounts _ (fun _ _ _ => nofun) vault, persists.mints _ mint⟩

/-! ## The invariant -/

structure Invariant (state : State) : Prop where
  capped : FeeCapped state.protocol
  tokens : TokenInvariant state.tokens
  vaulted : Vaulted state
  spot : SpotInvariant state.spot
  canonical : Canonical state.spot.markets
  charged : Charged Market.quoteMint state.spot.markets state.spot.fees
  prediction : PredictionInvariant state.prediction
  accounts : PredictionAccounts state.prediction
  questions : Charged PredictionMarket.collateralMint state.prediction.markets
    state.prediction.fees
  shared : SharedInvariant state.shared
  assets : assetLedger.Filed state.shared.assets
  assetLocks : ∀ holder, assetLedger.lockedOf state.shared.assets holder () =
    state.shared.orders.total (Shared.assetLocked state.shared.books holder)
  positionLocks : ∀ holder bucket,
    positionLedger.lockedOf state.prediction.positions holder bucket =
      state.prediction.orders.total (Predicted.lockedBy holder bucket) +
        state.shared.orders.total (Shared.contractLocked holder bucket)

namespace Invariant

theorem genesis (start : Genesis) : Invariant start.state where
  capped _ found := (nomatch found)
  tokens := {
    guarded := fun _ _ _ _ found => (nomatch found)
    circulates := fun _ => Nat.zero_le _
    fits := fun _ => Nat.zero_le _ }
  vaulted := {
    question := fun _ _ found => (nomatch found)
    asset := fun _ _ found => (nomatch found) }
  spot := {
    markets := Store.Keyed.empty _
    orders := Store.Keyed.empty _
    levels := Store.Keyed.empty _
    balances := Store.Keyed.empty _
    books := Shelf.Sound.empty fun _ _ => rfl
    resting := fun _ _ found => (nomatch found)
    counts := fun _ _ found => (nomatch found)
    locks := fun _ _ => rfl }
  canonical _ _ found := (nomatch found)
  charged _ _ found := (nomatch found)
  prediction := {
    markets := Store.Keyed.empty _
    books := Store.Keyed.empty _
    orders := Store.Keyed.empty _
    levels := Store.Keyed.empty _
    sound := Shelf.Sound.empty fun _ _ => rfl
    resting := fun _ _ found => (nomatch found)
    issued := fun _ _ found => (nomatch found)
    counts := fun _ _ found => (nomatch found) }
  accounts := {
    filed := Store.Keyed.empty _
    housed := fun _ _ found => (nomatch found)
    backing := fun _ _ found => (nomatch found)
    supply := fun _ _ _ found => (nomatch found) }
  questions _ _ found := (nomatch found)
  shared := {
    books := Store.Keyed.empty _
    orders := Store.Keyed.empty _
    levels := Store.Keyed.empty _
    orderHome := fun _ _ found => (nomatch found)
    levelHome := fun _ _ found => (nomatch found)
    terms := fun _ _ found => (nomatch found)
    sound := Shelf.Sound.empty fun _ _ => rfl
    resting := fun _ _ found => (nomatch found)
    counts := fun _ _ found => (nomatch found) }
  assets := Store.Keyed.empty _
  assetLocks _ := rfl
  positionLocks _ _ := rfl

end Invariant
end Tidebook.Proof
