import Tidebook.Proof.StepInvariant

/-! # Runs

The rule by which everything about reachable states is proved, the invariant of every run, and
custody: each vault holds what the program owes there and what arrived unasked.
-/

namespace Tidebook.Proof
open Library Program

/-! ## Custody of one step -/

section Effects

variable {state after : State} {instruction : Instruction}

/-- A vault's tokens and its claims move together, up to what arrives unasked. -/
def KeepsCustody (state after : State) (event : Event) : Prop :=
  ∀ vault, guardOf vault ≠ none → after.tokens.held vault + owed state vault =
    state.tokens.held vault + owed after vault + received event vault

theorem keeps_still {event : Event} (silent : event.uncredited = none)
    (tokens : ∀ vault, after.tokens.held vault = state.tokens.held vault)
    (spot : ∀ market asset, spotOwed after.spot market asset = spotOwed state.spot market asset)
    (question : ∀ market asset, questionOwed after.prediction market asset =
      questionOwed state.prediction market asset)
    (shared : ∀ asset, assetOwed after.shared asset = assetOwed state.shared asset) :
    KeepsCustody state after event := by
  intro vault _
  have none_received : received event vault = 0 := by rw [received, silent]
  have same : owed after vault = owed state vault := by
    cases vault with
    | vault market asset => simp only [owed, spot, question]
    | assetVault asset => exact shared asset
    | _ => rfl
  rw [tokens, same, none_received, Nat.add_zero]

theorem keeps_shift {event : Event} {source destination : Pubkey} {amount : Nat}
    (silent : event.uncredited = none)
    (shift : Shift state.tokens after.tokens source destination amount)
    (markets : ∀ market asset,
      spotOwed after.spot market asset + questionOwed after.prediction market asset +
          (if Pubkey.vault market asset = source then amount else 0) =
        spotOwed state.spot market asset + questionOwed state.prediction market asset +
          if Pubkey.vault market asset = destination then amount else 0)
    (assets : ∀ asset,
      assetOwed after.shared asset + (if Pubkey.assetVault asset = source then amount else 0) =
        assetOwed state.shared asset +
          if Pubkey.assetVault asset = destination then amount else 0) :
    KeepsCustody state after event := by
  intro vault guarded
  have held := shift.held vault
  have none_received : received event vault = 0 := by rw [received, silent]
  cases vault with
  | vault market asset =>
      have claims := markets market asset
      simp only [owed]
      omega
  | assetVault asset =>
      have claims := assets asset
      simp only [owed]
      omega
  | _ => exact absurd rfl guarded

theorem guarded_ne {key token : Pubkey} (away : guardOf token = none)
    (guarded : guardOf key ≠ none) : key ≠ token := fun same => guarded (same ▸ away)

theorem vault_ne {market asset token : Pubkey} (away : guardOf token = none) :
    Pubkey.vault market asset ≠ token := guarded_ne away (by simp [guardOf])

theorem assetVault_ne {asset token : Pubkey} (away : guardOf token = none) :
    Pubkey.assetVault asset ≠ token := guarded_ne away (by simp [guardOf])

/-- A reserve crossing moves the reserve with its tokens. -/
theorem ReserveCrossing.custody {event : Event} {market owner : Pubkey} {out into : Bucket → Nat}
    {paid funded : Nat} (crossing : ReserveCrossing state market owner out into paid funded)
    (holds : Invariant state) (silent : event.uncredited = none) :
    KeepsCustody state crossing.settled event := by
  have net : crossing.changed.backingReserve + into .collateral + paid =
      crossing.record.backingReserve + out .collateral + funded := by
    rw [crossing.noCash.1, crossing.noCash.2]
    exact crossing.reserve
  have question := crossing.toSetCrossing.owed holds.accounts.filed net
  have asset := crossing.asset.owed holds.assets
  obtain ⟨-, rfl, shift⟩ | ⟨-, rfl, shift⟩ | ⟨rfl, rfl, same⟩ := crossing.shift
  · refine keeps_shift silent shift (fun other mint => ?_) fun mint => ?_
    · have moved := question other mint
      simp only [ite_self] at moved
      simp only [ReserveCrossing.settled, Pubkey.vault.injEq, reduceCtorEq, if_false]
      omega
    · have moved := asset mint
      simp only [ite_self] at moved
      simp only [ReserveCrossing.settled, Pubkey.assetVault.injEq, reduceCtorEq, if_false]
      omega
  · refine keeps_shift silent shift (fun other mint => ?_) fun mint => ?_
    · have moved := question other mint
      simp only [ite_self] at moved
      simp only [ReserveCrossing.settled, Pubkey.vault.injEq, reduceCtorEq, if_false]
      omega
    · have moved := asset mint
      simp only [ite_self] at moved
      simp only [ReserveCrossing.settled, Pubkey.assetVault.injEq, reduceCtorEq, if_false]
      omega
  · refine keeps_still silent (fun vault => ?_) (fun _ _ => rfl) (fun other mint => ?_) fun mint => ?_
    · rw [ReserveCrossing.settled, same]
    · have moved := question other mint
      simp only [ite_self] at moved
      exact moved
    · have moved := asset mint
      simp only [ite_self] at moved
      exact moved

/-- Complete sets change hands against collateral that never leaves the question vault. -/
theorem SetCrossing.custody {event : Event} {market owner : Pubkey} {out into : Bucket → Nat}
    {paid funded : Nat} (crossing : SetCrossing state.prediction market owner out into paid funded)
    (holds : Invariant state) (silent : event.uncredited = none)
    (cash : out .collateral = funded ∧ into .collateral = paid) :
    KeepsCustody state { state with prediction := crossing.result } event := by
  have reserve := crossing.reserve
  have net : crossing.changed.backingReserve + into .collateral + 0 =
      crossing.record.backingReserve + out .collateral + 0 := by
    rw [cash.1, cash.2]
    exact reserve
  refine keeps_still silent (fun _ => rfl) (fun _ _ => rfl) (fun other asset => ?_) fun _ => rfl
  have moved := crossing.owed holds.accounts.filed net other asset
  simp only [ite_self] at moved
  exact moved

theorem PredictionAccounts.owed_opened {prediction : Prediction} {key : Pubkey}
    {market : PredictionMarket} {books : Store Pubkey PredictionOrderBook}
    (holds : PredictionAccounts prediction) (absent : prediction.markets.get key = none)
    (noFees : prediction.fees.get (.marketFees key) = none)
    (unbacked : market.backingReserve = 0) (other asset : Pubkey) :
    questionOwed { prediction with
        markets := prediction.markets.set key market
        fees := prediction.fees.set (.marketFees key) ⟨key, market.collateralMint, 0⟩
        books := books } other asset = questionOwed prediction other asset := by
  simp only [questionOwed, Store.get_set, accrued_set]
  by_cases home : other = key
  · subst home
    have unheld : prediction.positions.total (positionLedger.held other .collateral) = 0 := by
      rw [Store.total_eq_zero]
      intro found position stored
      rw [Ledger.held, if_neg]
      intro same
      refine holds.housed found position stored ?_
      rw [show position.market = other from same, absent]
    simp [absent, unheld, unbacked]
  · simp only [if_neg home]

theorem SharedOperation.custody {event : Event} (operation : SharedOperation state after)
    (silent : event.uncredited = none) : KeepsCustody state after event := by
  refine keeps_still silent (fun _ => ?_) (fun _ _ => ?_) operation.questionOwed
    operation.assetOwed
  · rw [operation.same_tokens]
  · rw [operation.same_spot]

/-! A transfer between a vault and an account of a key holder, or from vault to vault, is followed
by the claims on the vaults. -/

section Transfers

variable {event : Event} {market mint token authority : Pubkey} {owner : Wallet}
variable {account : TokenAccount} {amount : Nat}

theorem keeps_vault_in (holds : Invariant state) (silent : event.uncredited = none)
    (transferred : state.tokens.transferChecked token mint (.vault market mint) owner.key amount =
      .ok after.tokens)
    (claims : ∀ other asset,
      spotOwed after.spot other asset + questionOwed after.prediction other asset =
        spotOwed state.spot other asset + questionOwed state.prediction other asset +
          if other = market ∧ asset = mint then amount else 0)
    (assets : ∀ asset, assetOwed after.shared asset = assetOwed state.shared asset) :
    KeepsCustody state after event := by
  obtain ⟨shift, account, stored, owned, -⟩ := transferChecked_shift transferred
  have away := holds.tokens.unguarded stored owned
  refine keeps_shift silent shift (fun other asset => ?_) fun asset => ?_
  · have moved := claims other asset
    simp only [if_neg (vault_ne away), Pubkey.vault.injEq]
    omega
  · simp [if_neg (assetVault_ne away), assets]

theorem keeps_vault_out (holds : Invariant state) (silent : event.uncredited = none)
    (held : state.tokens.accounts.get token = some account) (owned : account.owner = owner.key)
    (transferred : state.tokens.transferChecked (.vault market mint) mint token authority amount =
      .ok after.tokens)
    (claims : ∀ other asset,
      spotOwed after.spot other asset + questionOwed after.prediction other asset +
          (if other = market ∧ asset = mint then amount else 0) =
        spotOwed state.spot other asset + questionOwed state.prediction other asset)
    (assets : ∀ asset, assetOwed after.shared asset = assetOwed state.shared asset) :
    KeepsCustody state after event := by
  have away := holds.tokens.unguarded held owned
  refine keeps_shift silent (transferChecked_shift transferred).1 (fun other asset => ?_)
    fun asset => ?_
  · have moved := claims other asset
    simp only [if_neg (vault_ne away), Pubkey.vault.injEq]
    omega
  · simp [if_neg (assetVault_ne away), assets]

theorem keeps_asset_in (holds : Invariant state) (silent : event.uncredited = none)
    (transferred : state.tokens.transferChecked token mint (.assetVault mint) owner.key amount =
      .ok after.tokens)
    (markets : ∀ other asset,
      spotOwed after.spot other asset + questionOwed after.prediction other asset =
        spotOwed state.spot other asset + questionOwed state.prediction other asset)
    (claims : ∀ asset, assetOwed after.shared asset =
      assetOwed state.shared asset + if asset = mint then amount else 0) :
    KeepsCustody state after event := by
  obtain ⟨shift, account, stored, owned, -⟩ := transferChecked_shift transferred
  have away := holds.tokens.unguarded stored owned
  refine keeps_shift silent shift (fun other asset => ?_) fun asset => ?_
  · simp [if_neg (vault_ne away), markets]
  · have moved := claims asset
    simp only [if_neg (assetVault_ne away), Pubkey.assetVault.injEq]
    omega

theorem keeps_asset_out (holds : Invariant state) (silent : event.uncredited = none)
    (held : state.tokens.accounts.get token = some account) (owned : account.owner = owner.key)
    (transferred : state.tokens.transferChecked (.assetVault mint) mint token authority amount =
      .ok after.tokens)
    (markets : ∀ other asset,
      spotOwed after.spot other asset + questionOwed after.prediction other asset =
        spotOwed state.spot other asset + questionOwed state.prediction other asset)
    (claims : ∀ asset, assetOwed after.shared asset + (if asset = mint then amount else 0) =
      assetOwed state.shared asset) :
    KeepsCustody state after event := by
  have away := holds.tokens.unguarded held owned
  refine keeps_shift silent (transferChecked_shift transferred).1 (fun other asset => ?_)
    fun asset => ?_
  · simp [if_neg (vault_ne away), markets]
  · have moved := claims asset
    simp only [if_neg (assetVault_ne away), Pubkey.assetVault.injEq]
    omega

theorem keeps_migrated (silent : event.uncredited = none)
    (transferred : state.tokens.transferChecked (.vault market mint) mint (.assetVault mint)
      authority amount = .ok after.tokens)
    (markets : ∀ other asset,
      spotOwed after.spot other asset + questionOwed after.prediction other asset +
          (if other = market ∧ asset = mint then amount else 0) =
        spotOwed state.spot other asset + questionOwed state.prediction other asset)
    (assets : ∀ asset, assetOwed after.shared asset =
      assetOwed state.shared asset + if asset = mint then amount else 0) :
    KeepsCustody state after event := by
  refine keeps_shift silent (transferChecked_shift transferred).1 (fun other asset => ?_)
    fun asset => ?_
  · have moved := markets other asset
    simp only [Pubkey.vault.injEq, reduceCtorEq, if_false]
    omega
  · have moved := assets asset
    simp only [Pubkey.assetVault.injEq, reduceCtorEq, if_false]
    omega

end Transfers

/-! Markets, questions, books and accounts open and close with nothing owed in them. -/

section Openings

variable {event : Event} (silent : event.uncredited = none)
include silent

theorem MarketOpening.custody {authority : Wallet} {baseMint quoteMint : Pubkey} {tick lot : Nat}
    (opening : MarketOpening state authority baseMint quoteMint tick lot) :
    KeepsCustody state opening.result event := by
  refine keeps_still silent (fun vault => ?_) (fun market asset => ?_) (fun _ _ => rfl) fun _ => rfl
  · exact (initializeAccount_held opening.quoteVault vault).trans
      (initializeAccount_held opening.baseVault vault)
  · refine spotOwed_congr ?_ ?_ asset
    · exact fun _ => rfl
    simp only [MarketOpening.result, accrued_set]
    split
    · next home => simp [accrued, home, opening.noFees]
    · rfl

theorem MarketClosing.custody {key : Pubkey} (closing : MarketClosing state key) :
    KeepsCustody state closing.result event := by
  refine keeps_still silent (fun vault => ?_) (fun market asset => ?_) (fun _ _ => rfl) fun _ => rfl
  · exact (closeAccount_held closing.quoteClosed vault).trans
      (closeAccount_held closing.baseClosed vault)
  · refine spotOwed_congr ?_ ?_ asset
    · exact fun _ => rfl
    simp only [MarketClosing.result, accrued, Store.get_erase, Pubkey.marketFees.injEq]
    split
    · next home => simp [home, closing.feesStored, closing.no_fees]
    · rfl

theorem balance_opened_custody {key owner : Pubkey}
    (fresh : state.spot.balances.get (spotLedger.file (key, owner)) = none) :
    KeepsCustody state { state with
      spot := { state.spot with
        balances := state.spot.balances.set (spotLedger.file (key, owner))
          ⟨key, owner, 0, 0, 0, 0⟩ } } event := by
  refine keeps_still silent (fun _ => rfl) (fun market asset => ?_) (fun _ _ => rfl) fun _ => rfl
  have opened := Ledger.Edit.opened (⟨key, owner, 0, 0, 0, 0⟩ : TraderBalance) fresh
    (by rintro (_ | _) <;> rfl) (by rintro (_ | _) <;> rfl)
  refine spotOwed_congr ?_ ?_ asset
  · exact opened.2 market
  · rfl

theorem position_opened_custody {key owner : Pubkey}
    (fresh : state.prediction.positions.get (positionLedger.file (key, owner)) = none) :
    KeepsCustody state { state with
      prediction := { state.prediction with
        positions := state.prediction.positions.set (positionLedger.file (key, owner))
          ⟨key, owner, 0, 0, 0, 0, 0, 0⟩ } } event := by
  refine keeps_still silent (fun _ => rfl) (fun _ _ => rfl) (fun other asset => ?_) fun _ => rfl
  have opened := Ledger.Edit.opened ⟨key, owner, 0, 0, 0, 0, 0, 0⟩ fresh
    (emptyPosition_free key owner) (emptyPosition_locked key owner)
  refine questionOwed_congr ?_ ?_ ?_ asset
  · rfl
  · exact opened.2 other .collateral
  · rfl

theorem asset_opened_custody {owner mint : Pubkey} {tokens : Tokens}
    (fresh : state.shared.assets.get (assetLedger.file (owner, mint)) = none)
    (vault : state.tokens.initializeAccount (.assetVault mint) mint (.assetAuthority mint) =
      .ok tokens ∨ state.tokens.accounts.get (.assetVault mint) ≠ none ∧ tokens = state.tokens) :
    KeepsCustody state { state with
      tokens := tokens
      shared := { state.shared with
        assets := state.shared.assets.set (assetLedger.file (owner, mint))
          ⟨owner, mint, 0, 0⟩ } } event := by
  refine keeps_still silent (fun address => ?_) (fun _ _ => rfl) (fun _ _ => rfl) fun asset => ?_
  · obtain done | ⟨-, rfl⟩ := vault
    · exact initializeAccount_held done address
    · rfl
  · have opened := Ledger.Edit.opened (⟨owner, mint, 0, 0⟩ : AssetBalance) fresh
      (fun _ => rfl) fun _ => rfl
    exact congrArg (· + state.shared.books.total (feesIn asset)) (opened.2 asset ())

theorem Restates.custody {prediction : Prediction} {key : Pubkey}
    (restates : Restates state.prediction prediction key) (holds : Invariant state) :
    KeepsCustody state { state with prediction := prediction } event := by
  obtain ⟨market, record, stored, restated, rfl⟩ := restates
  have step := restated (holds.accounts.backing key market stored)
  refine keeps_still silent (fun _ => rfl) (fun _ _ => rfl) (fun other asset => ?_) fun _ => rfl
  exact questionOwed_restated stored step.question.collateralMint step.reserve other asset

theorem BookOpening.custody {market : Pubkey} {kind : MarketKind}
    (opening : BookOpening state market kind) :
    KeepsCustody state { state with
      shared := { state.shared with
        books := state.shared.books.set (.sharedBook market) opening.opened } } event := by
  refine keeps_still silent (fun _ => rfl) (fun _ _ => rfl) (fun _ _ => rfl) fun asset => ?_
  have fees := Store.total_set_new (f := feesIn asset) opening.absent opening.opened
  have none_due : feesIn asset (.sharedBook market) opening.opened = 0 := ite_self 0
  simp only [assetOwed]
  omega

theorem book_closed_custody {key : Pubkey} {book : SharedBook}
    (stored : state.shared.books.get key = some book) (fees : book.accruedQuoteFees = 0) :
    KeepsCustody state { state with
      shared := { state.shared with books := state.shared.books.erase key } } event := by
  refine keeps_still silent (fun _ => rfl) (fun _ _ => rfl) (fun _ _ => rfl) fun asset => ?_
  have gone := Store.total_erase_old (f := feesIn asset) stored
  simp only [feesIn, fees, ite_self] at gone
  simp only [assetOwed]
  exact congrArg (_ + ·) gone

end Openings

/-! Fees leave their vault with the tokens that pay them. -/

section Fees

variable {event : Event} {key destination authority : Pubkey} {amount : Nat} {tokens : Tokens}

theorem protocol_fees_custody {record : Market} {fees : MarketFees} (holds : Invariant state)
    (paid : event.uncredited = some (destination, amount))
    (stored : state.spot.markets.get key = some record)
    (feesStored : state.spot.fees.get (.marketFees key) = some fees)
    (enough : amount ≤ fees.accruedQuoteFees)
    (transferred : state.tokens.transferChecked (.vault key record.quoteMint) record.quoteMint
      destination authority amount = .ok tokens) :
    KeepsCustody state { state with
      tokens := tokens
      spot := { state.spot with
        fees := state.spot.fees.set (.marketFees key)
          { fees with accruedQuoteFees := fees.accruedQuoteFees - amount } } } event := by
  intro vault guarded
  have held := (transferChecked_shift transferred).1.held vault
  have taken : ∀ market, accrued (state.spot.fees.set (.marketFees key)
        { fees with accruedQuoteFees := fees.accruedQuoteFees - amount }) market +
      (if market = key then amount else 0) = accrued state.spot.fees market := by
    intro market
    rw [accrued_set]
    split
    · next home =>
        rw [home, accrued_stored feesStored]
        exact Nat.sub_add_cancel enough
    · rfl
  cases vault with
  | vault market asset =>
      have moved := spotOwed_fees holds.canonical stored (rfl : ({ state.spot with
        fees := state.spot.fees.set (.marketFees key)
          { fees with accruedQuoteFees := fees.accruedQuoteFees - amount } } :
            Spot).balances = state.spot.balances) taken market asset
      simp only [owed, received, paid, Pubkey.vault.injEq] at held moved ⊢
      omega
  | assetVault asset =>
      simp only [owed, received, paid, reduceCtorEq, if_false] at held ⊢
      omega
  | _ => exact absurd rfl guarded

theorem shared_fees_custody {book : SharedBook} {account : TokenAccount} {admin : Wallet}
    (holds : Invariant state) (silent : event.uncredited = none)
    (stored : state.shared.books.get key = some book) (enough : amount ≤ book.accruedQuoteFees)
    (held : state.tokens.accounts.get destination = some account)
    (owned : account.owner = admin.key)
    (transferred : state.tokens.transferChecked (.assetVault book.quoteMint) book.quoteMint
      destination authority amount = .ok tokens) :
    KeepsCustody state { state with
      tokens := tokens
      shared := { state.shared with
        books := state.shared.books.set key
          { book with accruedQuoteFees := book.accruedQuoteFees - amount } } } event := by
  refine keeps_asset_out holds silent held owned transferred (fun _ _ => rfl) fun asset => ?_
  have fees := Store.total_set_old (f := feesIn asset) stored
    { book with accruedQuoteFees := book.accruedQuoteFees - amount }
  simp only [feesIn, eq_comm (a := book.quoteMint)] at fees
  simp only [assetOwed]
  split at fees <;> simp_all only [if_true, if_false] <;> omega

end Fees

theorem Effect.custody (effect : Effect state instruction after) (holds : Invariant state) :
    KeepsCustody state after (.instruction instruction) := by
  cases effect with
  | governed silent capped =>
      exact keeps_still silent (fun _ => rfl) (fun _ _ => rfl) (fun _ _ => rfl) fun _ => rfl
  | initializeMarket opening => exact opening.custody rfl
  | restatus status silent stored =>
      exact keeps_still silent (fun _ => rfl) (fun _ _ => rfl) (fun _ _ => rfl) fun _ => rfl
  | closeMarket closing => exact closing.custody rfl
  | initializeTraderBalance fresh => exact balance_opened_custody rfl fresh
  | deposit crossing transferred =>
      refine keeps_vault_in holds rfl transferred (fun other asset => ?_) fun _ => rfl
      have moved := crossing.owed holds.spot holds.canonical other asset
      simp only [ite_self] at moved ⊢
      omega
  | withdraw crossing held owned transferred =>
      refine keeps_vault_out holds rfl held owned transferred (fun other asset => ?_) fun _ => rfl
      have moved := crossing.owed holds.spot holds.canonical other asset
      simp only [ite_self] at moved ⊢
      omega
  | withdrawProtocolFees stored feesStored enough transferred =>
      exact protocol_fees_custody holds rfl stored feesStored enough transferred
  | insertLimitOrder placed =>
      exact keeps_still rfl (fun _ => rfl) (spotOwed_still (placed.ledger holds.spot) rfl)
        (fun _ _ => rfl) fun _ => rfl
  | appendLimitOrder placed =>
      exact keeps_still rfl (fun _ => rfl) (spotOwed_still (placed.ledger holds.spot) rfl)
        (fun _ _ => rfl) fun _ => rfl
  | cancelLimitOrder leaving =>
      exact keeps_still rfl (fun _ => rfl) (spotOwed_still (leaving.ledger holds.spot) rfl)
        (fun _ _ => rfl) fun _ => rfl
  | matchLimitOrder configured fill =>
      exact keeps_still rfl (fun _ => rfl) (fill.owed holds.spot) (fun _ _ => rfl) fun _ => rfl
  | initializePredictionMarket opening =>
      refine keeps_still rfl (initializeAccount_held opening.vault) (fun _ _ => rfl)
        (fun market asset => ?_) fun _ => rfl
      exact holds.accounts.owed_opened opening.absent opening.noFees rfl market asset
  | initializePredictionPosition stored fresh => exact position_opened_custody rfl fresh
  | restate silent named restates done => exact restates.custody silent holds
  | depositPredictionCollateral crossing transferred =>
      refine keeps_vault_in holds rfl transferred (fun other asset => ?_) fun _ => rfl
      have moved := crossing.owed holds.accounts.filed other asset
      simp only [ite_self] at moved ⊢
      omega
  | withdrawPredictionCollateral crossing held owned transferred =>
      refine keeps_vault_out holds rfl held owned transferred (fun other asset => ?_) fun _ => rfl
      have moved := crossing.owed holds.accounts.filed other asset
      simp only [ite_self] at moved ⊢
      omega
  | splitPredictionCompleteSet crossing => exact crossing.custody holds rfl ⟨rfl, rfl⟩
  | mergePredictionCompleteSet crossing => exact crossing.custody holds rfl ⟨rfl, rfl⟩
  | insertPredictionOrder placed =>
      exact keeps_still rfl (fun _ => rfl) (fun _ _ => rfl)
        ((placed.edit holds.prediction).owed (placed.ledger holds.accounts.filed) rfl) fun _ => rfl
  | placePredictionOrder placed =>
      exact keeps_still rfl (fun _ => rfl) (fun _ _ => rfl)
        ((placed.edit holds.prediction).owed (placed.ledger holds.accounts.filed) rfl) fun _ => rfl
  | appendPredictionOrder placed =>
      exact keeps_still rfl (fun _ => rfl) (fun _ _ => rfl)
        ((placed.edit holds.prediction).owed (placed.ledger holds.accounts.filed) rfl) fun _ => rfl
  | cancelPredictionOrder leaving =>
      exact keeps_still rfl (fun _ => rfl) (fun _ _ => rfl)
        ((leaving.edit holds.prediction).owed (leaving.ledger holds.accounts.filed) rfl) fun _ => rfl
  | matchPredictionOrder configured fill =>
      exact keeps_still rfl (fun _ => rfl) (fun _ _ => rfl)
        (fill.owed holds.prediction holds.accounts.filed) fun _ => rfl
  | initializeAssetBalance mintStored fresh vault => exact asset_opened_custody rfl fresh vault
  | depositAsset crossing transferred =>
      refine keeps_asset_in holds rfl transferred (fun _ _ => rfl) fun asset => ?_
      have moved := crossing.owed holds.assets asset
      simp only [ite_self] at moved ⊢
      omega
  | withdrawAsset crossing held owned transferred =>
      refine keeps_asset_out holds rfl held owned transferred (fun _ _ => rfl) fun asset => ?_
      have moved := crossing.owed holds.assets asset
      simp only [ite_self] at moved ⊢
      omega
  | migrateSpotAsset leaving crossing transferred =>
      refine keeps_migrated rfl transferred (fun other asset => ?_) fun asset => ?_
      · have moved := leaving.owed holds.spot holds.canonical other asset
        simp only [ite_self] at moved ⊢
        omega
      · have moved := crossing.owed holds.assets asset
        simp only [ite_self] at moved ⊢
        omega
  | migratePredictionAsset leaving crossing transferred =>
      refine keeps_migrated rfl transferred (fun other asset => ?_) fun asset => ?_
      · have moved := leaving.owed holds.accounts.filed other asset
        simp only [ite_self] at moved ⊢
        omega
      · have moved := crossing.owed holds.assets asset
        simp only [ite_self] at moved ⊢
        omega
  | sharedSplit crossing => exact crossing.custody holds rfl
  | sharedMerge crossing => exact crossing.custody holds rfl
  | redeemPrediction crossing final worth => exact crossing.custody holds rfl
  | initializeSharedBook opening => exact opening.custody rfl
  | withdrawSharedFees stored enough held owned transferred =>
      exact shared_fees_custody holds rfl stored enough held owned transferred
  | closeSharedBook stored count fees empty => exact book_closed_custody rfl stored fees
  | insertSharedOrder placed =>
      exact (placed.operation holds.shared holds.assets holds.accounts.filed (uint64_fits _)
        (uint64_fits _)).custody rfl
  | appendSharedOrder placed =>
      exact (placed.operation holds.shared holds.assets holds.accounts.filed (uint64_fits _)
        (uint64_fits _)).custody rfl
  | cancelSharedOrder leaving =>
      exact (leaving.operation holds.shared holds.assets holds.accounts.filed).custody rfl
  | matchSharedOrder configured fill =>
      exact (fill.operation holds.shared holds.assets holds.accounts.filed).custody rfl

end Effects

/-! ## Moves outside the program -/

section Outside

variable {state after : State} {happened : Outside}

theorem onTokens_ok {result : Result Tokens} (done : onTokens state result = .ok after) :
    ∃ tokens, result = .ok tokens ∧ after = { state with tokens := tokens } := by
  simp only [onTokens, bind_eq_ok, pure_eq_ok] at done
  obtain ⟨tokens, made, rfl⟩ := done
  exact ⟨tokens, made, rfl⟩

/-- Key holders move tokens and time passes; no account of the program changes. -/
structure Around (state after : State) : Prop where
  protocol : after.protocol = state.protocol
  spot : after.spot = state.spot
  prediction : after.prediction = state.prediction
  shared : after.shared = state.shared
  persists : Persists state.tokens after.tokens
  tokens : TokenInvariant state.tokens → TokenInvariant after.tokens

theorem Around.of_tokens {tokens : Tokens} (persists : Persists state.tokens tokens)
    (kept : TokenInvariant state.tokens → TokenInvariant tokens) :
    Around state { state with tokens := tokens } := ⟨rfl, rfl, rfl, rfl, persists, kept⟩

theorem occur_around (done : occur state happened = .ok after) : Around state after := by
  cases happened with
  | createMint id decimals =>
      obtain ⟨tokens, opened, rfl⟩ := onTokens_ok done
      exact .of_tokens (.open_mint opened) fun holds => holds.open_mint opened
  | createAccount id mint owner =>
      simp only [occur, bind_eq_ok] at done
      obtain ⟨_, -, done⟩ := done
      obtain ⟨tokens, opened, rfl⟩ := onTokens_ok done
      exact .of_tokens (.open_account opened) fun holds => holds.open_account opened (.inl rfl)
  | mintTo mint destination amount =>
      obtain ⟨tokens, minted, rfl⟩ := onTokens_ok done
      exact .of_tokens (.mint_to minted) fun holds => holds.mint_to minted
  | burn holder source amount =>
      obtain ⟨tokens, burned, rfl⟩ := onTokens_ok done
      exact .of_tokens (.burn burned) fun holds => holds.burn burned
  | transfer holder source mint destination amount =>
      obtain ⟨tokens, transferred, rfl⟩ := onTokens_ok done
      have shift := (transferChecked_shift transferred).1
      exact .of_tokens (.shift shift) fun holds => holds.shift shift
  | wait seconds =>
      simp only [occur, pure_eq_ok] at done
      subst done
      exact ⟨rfl, rfl, rfl, rfl, .refl _, id⟩

theorem Around.preserves (around : Around state after) (holds : Invariant state) :
    Invariant after := by
  obtain ⟨now, protocol, tokens, spot, prediction, shared⟩ := after
  obtain ⟨rfl, rfl, rfl, rfl, persists, kept⟩ := around
  have vaulted : Vaulted ⟨now, state.protocol, tokens, state.spot, state.prediction,
      state.shared⟩ :=
    holds.vaulted.keep persists holds.prediction.markets
      (fun _ market stored => ⟨market, stored, .refl market⟩)
      fun key balance stored => ⟨key, balance, stored, rfl⟩
  exact { holds with
    tokens := kept holds.tokens
    vaulted := vaulted }

theorem Around.owed (around : Around state after) (vault : Pubkey) :
    Proof.owed after vault = Proof.owed state vault := by
  simp only [Proof.owed, around.spot, around.prediction, around.shared]

/-- No key holder signs for a vault, so what happens outside only adds to it. -/
theorem occur_held (holds : TokenInvariant state.tokens) (done : occur state happened = .ok after)
    {vault : Pubkey} (guarded : guardOf vault ≠ none) :
    after.tokens.held vault = state.tokens.held vault + received (.outside happened) vault := by
  cases happened with
  | createMint id decimals =>
      obtain ⟨tokens, opened, rfl⟩ := onTokens_ok done
      obtain ⟨-, rfl⟩ := initializeMint_ok opened
      rfl
  | createAccount id mint owner =>
      simp only [occur, bind_eq_ok] at done
      obtain ⟨_, -, done⟩ := done
      obtain ⟨tokens, opened, rfl⟩ := onTokens_ok done
      exact initializeAccount_held opened vault
  | mintTo mint destination amount =>
      obtain ⟨tokens, minted, rfl⟩ := onTokens_ok done
      exact mintTo_held minted vault
  | burn holder source amount =>
      obtain ⟨tokens, burned, rfl⟩ := onTokens_ok done
      obtain ⟨_, account, stored, -, owned, -⟩ := burn_ok burned
      exact burn_held burned (guarded_ne (holds.unguarded stored owned) guarded)
  | transfer holder source mint destination amount =>
      obtain ⟨tokens, transferred, rfl⟩ := onTokens_ok done
      obtain ⟨shift, account, stored, owned, -⟩ := transferChecked_shift transferred
      have held := shift.held vault
      rw [if_neg (guarded_ne (holds.unguarded stored owned) guarded)] at held
      exact held
  | wait seconds =>
      simp only [occur, pure_eq_ok] at done
      subst done
      rfl

end Outside

/-! ## Runs -/

section Runs

variable {state after : State} {event : Event}

theorem apply_preserves (holds : Invariant state) (done : event.apply state = .ok after) :
    Invariant after := by
  cases event with
  | instruction sent =>
      exact (execute_effect holds.spot holds.prediction holds.shared done).preserves holds
  | outside happened => exact (occur_around done).preserves holds

theorem apply_custody (holds : Invariant state) (done : event.apply state = .ok after) :
    KeepsCustody state after event := by
  cases event with
  | instruction sent =>
      exact (execute_effect holds.spot holds.prediction holds.shared done).custody holds
  | outside happened =>
      intro vault guarded
      rw [(occur_around done).owed, occur_held holds.tokens done guarded]
      exact Nat.add_right_comm _ _ _

/-- An event is refused and changes nothing, or it is applied and what it sends unasked is
recorded. -/
theorem step_cases (world : World) (event : Event) :
    world.step event = world ∨ ∃ after, event.apply world.state = .ok after ∧
      (world.step event).state = after ∧
      ∀ address, (world.step event).unsolicited address =
        world.unsolicited address + received event address := by
  unfold World.step
  cases applied : event.apply world.state with
  | error failure => exact .inl rfl
  | ok after =>
      refine .inr ⟨after, rfl, rfl, fun address => ?_⟩
      unfold received
      cases event.uncredited with
      | none => rfl
      | some sent =>
          simp only [Function.update_apply]
          split
          · next home => rw [home]
          · rfl

theorem reach_of_steps {P : World → Prop} {events : List Event}
    (kept : ∀ world event after, event ∈ events → Invariant world.state → P world →
      event.apply world.state = .ok after → (world.step event).state = after →
      (∀ address, (world.step event).unsolicited address =
        world.unsolicited address + received event address) →
      P (world.step event)) {world : World} (holds : Invariant world.state) (initial : P world) :
    Invariant (world.run events).state ∧ P (world.run events) := by
  induction events generalizing world with
  | nil => exact ⟨holds, initial⟩
  | cons event rest ih =>
      have later : ∀ world event after, event ∈ rest → _ := fun world event after member =>
        kept world event after (List.mem_cons_of_mem _ member)
      refine ih later ?_ ?_
      · rcases step_cases world event with refused | ⟨after, applied, reached, -⟩
        · rwa [refused]
        · rw [reached]
          exact apply_preserves holds applied
      · rcases step_cases world event with refused | ⟨after, applied, reached, arrived⟩
        · rwa [refused]
        · exact kept world event after List.mem_cons_self holds initial applied reached arrived

theorem run_invariant (genesis : Genesis) (events : List Event) :
    Invariant (genesis.after events).state :=
  (reach_of_steps (P := fun _ => True) (fun _ _ _ _ _ _ _ _ _ => trivial) (.genesis genesis)
    trivial).1

theorem owed_genesis (genesis : Genesis) (vault : Pubkey) : owed genesis.state vault = 0 := by
  cases vault with
  | vault market mint =>
      cases market <;> simp [owed, spotOwed, questionOwed, accrued, Genesis.state]
  | _ => rfl

/-- Every vault holds what the program owes there and what arrived unasked. -/
theorem run_custody (genesis : Genesis) (events : List Event) (vault : Pubkey)
    (guarded : guardOf vault ≠ none) :
    (genesis.after events).state.tokens.held vault =
      owed (genesis.after events).state vault + (genesis.after events).unsolicited vault := by
  refine (reach_of_steps (P := fun world => world.state.tokens.held vault =
    owed world.state vault + world.unsolicited vault) ?_ (.genesis genesis) ?_).2
  · intro world event after _ holds paid applied reached arrived
    have moved := apply_custody holds applied vault guarded
    rw [reached, arrived]
    omega
  · exact (owed_genesis genesis vault).symm

end Runs
end Tidebook.Proof
