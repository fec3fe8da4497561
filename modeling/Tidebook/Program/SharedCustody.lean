import Tidebook.Program.SharedOrders

/-! # Shared custody

The wallet-wide asset balances with their per-mint vault, the crossings between them and the
vaults of single markets, and the lifecycle of shared books.
-/

namespace Tidebook.Program
open Tidebook.Library

/-! ## Asset balances -/

def loadAssetVault (tokens : Tokens) (mint : Pubkey) : Result (Account TokenAccount) := do
  let vault ← load tokens.accounts (.assetVault mint)
  require (vault.val.mint = mint) .constraintTokenMint
  require (vault.val.owner = .assetAuthority mint) .constraintTokenOwner
  pure vault

def loadAssetBalance (shared : Shared) (owner mint : Pubkey) : Result (Account AssetBalance) := do
  let balance ← load shared.assets (.assetBalance owner mint)
  require (balance.val.owner = owner ∧ balance.val.mint = mint) .invalidAssetBalance
  pure balance

def handleInitializeAssetBalance (state : State) (owner : Wallet) (mint : Pubkey) :
    Result State := do
  let _ ← load state.tokens.mints mint
  vacant state.shared.assets (.assetBalance owner.key mint)
  let tokens ← (match state.tokens.accounts.get (.assetVault mint) with
    | none => state.tokens.initializeAccount (.assetVault mint) mint (.assetAuthority mint)
    | some _ => do
        let _ ← loadAssetVault state.tokens mint
        pure state.tokens)
  pure { state with
    tokens := tokens
    shared := { state.shared with
      assets := state.shared.assets.set (.assetBalance owner.key mint) ⟨owner.key, mint, 0, 0⟩ } }

def loadWalletToken (tokens : Tokens) (owner mint key : Pubkey) :
    Result (Account TokenAccount) := do
  let account ← load tokens.accounts key
  require (account.val.mint = mint) .constraintTokenMint
  require (account.val.owner = owner) .constraintTokenOwner
  pure account

def handleDepositAsset (state : State) (owner : Wallet) (mint walletToken : Pubkey)
    (amount : Nat) : Result State := do
  let _ ← load state.tokens.mints mint
  let balance ← loadAssetBalance state.shared owner.key mint
  let wallet ← loadWalletToken state.tokens owner.key mint walletToken
  let vault ← loadAssetVault state.tokens mint
  require (amount > 0) .invalidDepositAmount
  require (wallet.val.amount ≥ amount) .insufficientDepositFunds
  let free ← checkedAdd balance.val.free amount .freeBalanceOverflow
  let tokens ← state.tokens.transferChecked wallet.key mint vault.key owner.key amount
  pure { state with
    tokens := tokens
    shared := { state.shared with
      assets := state.shared.assets.set balance.key { balance.val with free := free } } }

def handleWithdrawAsset (state : State) (owner : Wallet) (mint walletToken : Pubkey)
    (amount : Nat) : Result State := do
  let _ ← load state.tokens.mints mint
  let balance ← loadAssetBalance state.shared owner.key mint
  let wallet ← loadWalletToken state.tokens owner.key mint walletToken
  let vault ← loadAssetVault state.tokens mint
  require (amount > 0) .invalidWithdrawalAmount
  let free ← checkedSub balance.val.free amount .insufficientFreeBalance
  require (vault.val.amount ≥ amount) .insufficientVaultFunds
  let tokens ← state.tokens.transferChecked vault.key mint wallet.key (.assetAuthority mint) amount
  pure { state with
    tokens := tokens
    shared := { state.shared with
      assets := state.shared.assets.set balance.key { balance.val with free := free } } }

def handleMigrateSpotAsset (state : State) (owner : Wallet) (market mint : Pubkey)
    (amount : Nat) : Result State := do
  let market ← load state.spot.markets market
  let balance ← loadTraderBalance state.spot market.key owner.key
  let _ ← load state.tokens.mints mint
  let assets ← loadAssetBalance state.shared owner.key mint
  let marketVault ← loadVault state.tokens market.key mint
  let vault ← loadAssetVault state.tokens mint
  require (amount > 0) .invalidDepositAmount
  let debited ← balance.val.withdraw market.val mint amount .invalidDepositMint
  let free ← checkedAdd assets.val.free amount .freeBalanceOverflow
  let tokens ← state.tokens.transferChecked marketVault.key mint vault.key
    (.vaultAuthority market.key) amount
  pure { state with
    tokens := tokens
    spot := { state.spot with balances := state.spot.balances.set balance.key debited }
    shared := { state.shared with
      assets := state.shared.assets.set assets.key { assets.val with free := free } } }

def handleMigratePredictionAsset (state : State) (owner : Wallet) (market : Pubkey)
    (amount : Nat) : Result State := do
  let market ← loadPredictionMarket state.prediction market
  let position ← loadPosition state.prediction market.key owner.key
  let mint := market.val.collateralMint
  let _ ← load state.tokens.mints mint
  let assets ← loadAssetBalance state.shared owner.key mint
  let marketVault ← loadCollateralVault state.tokens market
  let vault ← loadAssetVault state.tokens mint
  require (amount > 0) .invalidDepositAmount
  let remaining ← checkedSub position.val.collateralFree amount .insufficientFreeBalance
  let free ← checkedAdd assets.val.free amount .freeBalanceOverflow
  let tokens ← state.tokens.transferChecked marketVault.key mint vault.key
    (.vaultAuthority market.key) amount
  pure { state with
    tokens := tokens
    prediction := { state.prediction with
      positions := state.prediction.positions.set position.key
        { position.val with collateralFree := remaining } }
    shared := { state.shared with
      assets := state.shared.assets.set assets.key { assets.val with free := free } } }

/-! ## Complete sets and redemption -/

/-- The accounts of a crossing between a prediction market's reserve and the owner's asset
balance. -/
structure SharedPredictionCustody where
  market : Account PredictionMarket
  position : Account PredictionPosition
  assets : Account AssetBalance
  assetVault : Account TokenAccount
  marketVault : Account TokenAccount

def loadCustody (state : State) (owner : Wallet) (market : Pubkey) :
    Result SharedPredictionCustody := do
  let market ← loadPredictionMarket state.prediction market
  let position ← loadPosition state.prediction market.key owner.key
  let _ ← load state.tokens.mints market.val.collateralMint
  let assets ← loadAssetBalance state.shared owner.key market.val.collateralMint
  let assetVault ← loadAssetVault state.tokens market.val.collateralMint
  let marketVault ← loadCollateralVault state.tokens market
  pure ⟨market, position, assets, assetVault, marketVault⟩

/-- Moves the reserve's tokens between the two vaults; nothing moves for a zero amount. -/
def transferReserve (tokens : Tokens) (custody : SharedPredictionCustody) (amount : Nat)
    (intoReserve : Bool) : Result Tokens :=
  let mint := custody.market.val.collateralMint
  if amount = 0 then pure tokens
  else if intoReserve then
    tokens.transferChecked custody.assetVault.key mint custody.marketVault.key
      (.assetAuthority mint) amount
  else
    tokens.transferChecked custody.marketVault.key mint custody.assetVault.key
      (.vaultAuthority custody.market.key) amount

def saveCustody (state : State) (tokens : Tokens) (custody : SharedPredictionCustody)
    (market : PredictionMarket) (position : PredictionPosition) (assets : AssetBalance) : State :=
  { state with
    tokens := tokens
    prediction := { state.prediction with
      markets := state.prediction.markets.set custody.market.key market
      positions := state.prediction.positions.set custody.position.key position }
    shared := { state.shared with
      assets := state.shared.assets.set custody.assets.key assets } }

def handleSharedCompleteSet (state : State) (owner : Wallet) (market : Pubkey) (quantity : Nat)
    (split : Bool) : Result State := do
  let custody ← loadCustody state owner market
  let market := custody.market.val
  require (quantity > 0) .invalidPredictionContractQuantity
  (if split then
      require (market.status = .opened ∧ state.now < market.closeTs) .predictionSplitUnavailable
    else
      require (market.status = .opened ∨ market.status = .frozen ∨ market.status = .proposed)
        .predictionMergeUnavailable)
  let amount ← checkedMul quantity market.payoutPerContract .predictionAccountingOverflow
  let tokens ← transferReserve state.tokens custody amount split
  if split then do
    let free ← checkedSub custody.assets.val.free amount .insufficientFreeBalance
    let holder ← custody.position.val.issue quantity
    let issued ← market.issue quantity amount
    pure (saveCustody state tokens custody issued holder { custody.assets.val with free := free })
  else do
    let holder ← custody.position.val.retire quantity
    let retired ← market.retire quantity amount
    let free ← checkedAdd custody.assets.val.free amount .freeBalanceOverflow
    pure (saveCustody state tokens custody retired holder { custody.assets.val with free := free })

/-- The payout of redeemed contracts under the final outcome. -/
def redemption (outcome : PredictionResolution) (payout yes no : Nat) : Nat :=
  match outcome with
  | .yes => yes * payout
  | .no => no * payout
  | .invalid => (yes + no) * (payout / 2)

def handleRedeemPrediction (state : State) (owner : Wallet) (market : Pubkey) (yes no : Nat) :
    Result State := do
  let custody ← loadCustody state owner market
  let market := custody.market.val
  let position := custody.position.val
  require (yes > 0 ∨ no > 0) .nothingToRedeem
  require (market.status = .resolved) .predictionNotResolved
  let outcome ← okOr market.finalOutcome .predictionNotResolved
  require (market.payoutPerContract > 0 ∧ 2 ∣ market.payoutPerContract)
    .predictionBackingUnderflow
  let amount ← toU64 (redemption outcome market.payoutPerContract yes no)
    .predictionAccountingOverflow
  let tokens ← transferReserve state.tokens custody amount false
  let yesFree ← checkedSub position.yesFree yes .insufficientPredictionPositions
  let noFree ← checkedSub position.noFree no .insufficientPredictionPositions
  let yesSupply ← checkedSub market.yesSupply yes .predictionBackingUnderflow
  let noSupply ← checkedSub market.noSupply no .predictionBackingUnderflow
  let reserve ← checkedSub market.backingReserve amount .predictionBackingUnderflow
  let free ← checkedAdd custody.assets.val.free amount .freeBalanceOverflow
  pure (saveCustody state tokens custody
    { market with yesSupply := yesSupply, noSupply := noSupply, backingReserve := reserve }
    { position with yesFree := yesFree, noFree := noFree } { custody.assets.val with free := free })

/-! ## Shared books -/

def handleInitializeSharedBook (state : State) (authority : Wallet) (market : Pubkey)
    (kind : MarketKind) : Result State := do
  state.protocol.loadActiveAdmin authority
  vacant state.shared.books (.sharedBook market)
  let value ← terms state market kind false
  require (value.authority = authority.key) .unauthorizedAdmin
  require (value.tick > 0 ∧ value.lot > 0) .invalidSharedBook
  pure { state with
    shared := { state.shared with
      books := state.shared.books.set (.sharedBook market)
        { market := market
          authority := value.authority
          kind := kind
          baseMint := value.baseMint
          quoteMint := value.quoteMint
          baseDecimals := value.baseDecimals
          quoteDecimals := value.quoteDecimals
          priceTick := value.tick
          quantityLot := value.lot
          payoutPerContract := value.payout
          bestPrices := fun _ => none
          nextOrderId := 1
          openOrderCount := 0
          accruedQuoteFees := 0 } } }

def handleWithdrawSharedFees (state : State) (superAdmin : Wallet) (book destination : Pubkey)
    (amount : Nat) : Result State := do
  let _ ← state.protocol.loadConfigAs superAdmin
  let book ← loadBookAccount state.shared book
  let mint := book.val.quoteMint
  let _ ← load state.tokens.mints mint
  let destination ← loadWalletToken state.tokens superAdmin.key mint destination
  let vault ← loadAssetVault state.tokens mint
  require (amount > 0) .invalidWithdrawalAmount
  let fees ← checkedSub book.val.accruedQuoteFees amount .insufficientFreeBalance
  let tokens ← state.tokens.transferChecked vault.key mint destination.key (.assetAuthority mint)
    amount
  pure { state with
    tokens := tokens
    shared := { state.shared with
      books := state.shared.books.set book.key { book.val with accruedQuoteFees := fees } } }

def handleCloseSharedBook (state : State) (authority : Wallet) (market : Pubkey) :
    Result State := do
  state.protocol.loadActiveAdmin authority
  let book ← loadSharedBook state.shared market
  require (book.val.authority = authority.key) .unauthorizedAdmin
  require (book.val.openOrderCount = 0 ∧ book.val.accruedQuoteFees = 0 ∧
    ∀ slot, book.val.bestPrices slot = none) .sharedBookNotEmpty
  (match book.val.kind with
    | .spot => do
        let value ← load state.spot.markets market
        require (value.val.status = .paused) .marketMustBePaused
    | .prediction => do
        let value ← load state.prediction.markets market
        require (value.val.status = .resolved) .predictionNotResolved
    | .other => throw .sharedMarketKindMismatch)
  pure { state with
    shared := { state.shared with books := state.shared.books.erase book.key } }

end Tidebook.Program
