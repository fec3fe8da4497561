import Tidebook.Program.Market

/-! # Prediction markets

Creation terms, positions, collateral custody, complete sets and the path to a final outcome.
Labels and metadata are not represented.
-/

namespace Tidebook.Program
open Tidebook.Library

/-! ## Timestamps -/

def i64Max : Int := 2 ^ 63 - 1

def i64Min : Int := -(2 ^ 63)

def checkedAddTs (left right : Int) : Result Int := do
  require (i64Min ≤ left + right ∧ left + right ≤ i64Max) .predictionTimestampOverflow
  pure (left + right)

/-- A stored delay as a signed number of seconds. -/
def delayTs (seconds : Nat) (failure : TidebookError) : Result Int := do
  require ((seconds : Int) ≤ i64Max) failure
  pure seconds

/-! ## Creation terms -/

structure PredictionMarketConfig where
  resolver : Pubkey
  fallback : Option PredictionFallback
  closeTs : Int
  earliestResolutionTs : Option Int
  resolutionDelaySeconds : Nat
  payoutPerContract : Nat
  priceTick : Nat
  rulesUri : List Char
  questionHash : Nat
  rulesHash : Nat

def predictionUriMaxLength : Nat := 200

def asciiGraphic (char : Char) : Bool := 33 ≤ char.toNat && char.toNat ≤ 126

/-- What follows an accepted scheme. -/
def uriTarget (uri : List Char) : Option (List Char) :=
  ("ar://".toList.isPrefixOf? uri).or ("https://".toList.isPrefixOf? uri)

def validateFallback (resolver : Pubkey) (earliest delay : Int) (fallback : PredictionFallback) :
    Result Unit := do
  require (fallback.resolver ≠ .default ∧ fallback.resolver ≠ resolver) .invalidPredictionResolver
  require (fallback.availableTs > earliest) .invalidPredictionFallback
  let _ ← checkedAddTs fallback.availableTs delay
  match fallback.deadlineTs with
  | none => pure ()
  | some deadline => do
      require (deadline > fallback.availableTs) .invalidPredictionFallback
      let latestProposal ← checkedAddTs deadline (-1)
      let _ ← checkedAddTs latestProposal delay
      pure ()

def validatePredictionMarketConfig (config : PredictionMarketConfig) (now : Int) :
    Result Unit := do
  require (config.closeTs > now) .invalidPredictionCloseTime
  let earliest := config.earliestResolutionTs.getD config.closeTs
  require (earliest ≥ config.closeTs) .invalidPredictionResolutionTime
  require (config.resolver ≠ .default) .invalidPredictionResolver
  let delay ← delayTs config.resolutionDelaySeconds .invalidPredictionResolutionDelay
  require (delay > 0) .invalidPredictionResolutionDelay
  let _ ← checkedAddTs earliest delay
  (match config.fallback with
    | none => pure ()
    | some fallback => validateFallback config.resolver earliest delay fallback)
  require (config.payoutPerContract > 0 ∧ 2 ∣ config.payoutPerContract) .invalidPredictionPayout
  require (config.priceTick > 0 ∧ config.priceTick < config.payoutPerContract ∧
    config.priceTick ∣ config.payoutPerContract) .invalidPredictionPriceTick
  require (config.rulesUri.length ≤ predictionUriMaxLength ∧ config.rulesUri.all asciiGraphic ∧
    (uriTarget config.rulesUri).any fun target =>
      !target.isEmpty && !(['/', '?', '#'].contains (target.headD ' '))) .invalidPredictionRulesUri
  require (config.questionHash ≠ 0 ∧ config.rulesHash ≠ 0) .invalidPredictionRulesHash

def newPredictionMarket (marketId : Nat) (authority collateralMint : Pubkey)
    (config : PredictionMarketConfig) : PredictionMarket where
  marketId := marketId
  authority := authority
  resolver := config.resolver
  fallback := config.fallback
  collateralMint := collateralMint
  collateralVault := .vault (.predictionMarket marketId) collateralMint
  questionHash := config.questionHash
  rulesHash := config.rulesHash
  rulesUri := config.rulesUri
  closeTs := config.closeTs
  earliestResolutionTs := config.earliestResolutionTs
  resolutionDelaySeconds := config.resolutionDelaySeconds
  resolutionPhase := .primary
  status := .draft
  proposal := none
  finalOutcome := none
  payoutPerContract := config.payoutPerContract
  priceTick := config.priceTick
  yesSupply := 0
  noSupply := 0
  backingReserve := 0
  openOrderCount := 0

def handleInitializePredictionMarket (state : State) (authority : Wallet) (marketId : Nat)
    (collateralMint : Pubkey) (config : PredictionMarketConfig) : Result State := do
  state.protocol.loadActiveAdmin authority
  let market := Pubkey.predictionMarket marketId
  vacant state.prediction.markets market
  let mint ← load state.tokens.mints collateralMint
  let tokens ← state.tokens.initializeAccount (.vault market collateralMint) collateralMint
    (.vaultAuthority market)
  vacant state.prediction.fees (.marketFees market)
  vacant state.prediction.books (.predictionBook market)
  validatePredictionMarketConfig config state.now
  require (config.resolver = authority.key) .predictionCreatorMustResolve
  require (10 ^ mint.val.decimals ≤ u64Max) .invalidPredictionPayout
  require (config.payoutPerContract = 10 ^ mint.val.decimals) .invalidPredictionPayout
  pure { state with
    tokens := tokens
    prediction := { state.prediction with
      markets := state.prediction.markets.set market
        (newPredictionMarket marketId authority.key collateralMint config)
      fees := state.prediction.fees.set (.marketFees market) ⟨market, collateralMint, 0⟩
      books := state.prediction.books.set (.predictionBook market) ⟨market, 1, none, none, none, none⟩ } }

/-! ## Positions -/

def loadPredictionMarket (prediction : Prediction) (key : Pubkey) :
    Result (Account PredictionMarket) := do
  let market ← load prediction.markets key
  require (market.key = .predictionMarket market.val.marketId) .constraintSeeds
  pure market

def loadPosition (prediction : Prediction) (market owner : Pubkey) :
    Result (Account PredictionPosition) := do
  let position ← load prediction.positions (.predictionPosition market owner)
  require (position.val.market = market) .predictionPositionMarketMismatch
  require (position.val.owner = owner) .predictionPositionOwnerMismatch
  pure position

def handleInitializePredictionPosition (prediction : Prediction) (owner : Wallet)
    (market : Pubkey) : Result Prediction := do
  let market ← loadPredictionMarket prediction market
  vacant prediction.positions (.predictionPosition market.key owner.key)
  pure { prediction with
    positions := prediction.positions.set (.predictionPosition market.key owner.key)
      ⟨market.key, owner.key, 0, 0, 0, 0, 0, 0⟩ }

def handleOpenPredictionMarket (state : State) (authority : Wallet) (market : Pubkey) :
    Result State := do
  let market ← loadPredictionMarket state.prediction market
  require (market.val.authority = authority.key) .unauthorizedPredictionAuthority
  require (market.val.resolver = authority.key) .predictionCreatorMustResolve
  state.protocol.loadActiveAdmin authority
  require (market.val.status = .draft) .predictionNotDraft
  require (state.now < market.val.closeTs) .predictionOpeningClosed
  pure { state with
    prediction := { state.prediction with
      markets := state.prediction.markets.set market.key { market.val with status := .opened } } }

/-! ## Collateral custody -/

/-- The question vault, at its stored address, with the mint and authority its context asserts. -/
def loadCollateralVault (tokens : Tokens) (market : Account PredictionMarket) :
    Result (Account TokenAccount) := do
  let vault ← load tokens.accounts (.vault market.key market.val.collateralMint)
  require (vault.key = market.val.collateralVault) .invalidPredictionVault
  require (vault.val.mint = market.val.collateralMint) .constraintTokenMint
  require (vault.val.owner = .vaultAuthority market.key) .constraintTokenOwner
  pure vault

def handleDepositPredictionCollateral (state : State) (owner : Wallet) (market source : Pubkey)
    (amount : Nat) : Result State := do
  let market ← loadPredictionMarket state.prediction market
  let position ← loadPosition state.prediction market.key owner.key
  let _ ← load state.tokens.mints market.val.collateralMint
  let source ← load state.tokens.accounts source
  require (source.val.owner = owner.key) .invalidPredictionTokenOwner
  require (source.val.mint = market.val.collateralMint) .invalidPredictionCollateralMint
  let vault ← loadCollateralVault state.tokens market
  require (market.val.status ≠ .resolved) .predictionDepositAfterResolution
  require (amount > 0) .invalidDepositAmount
  require (source.val.amount ≥ amount) .insufficientDepositFunds
  let nextFree ← checkedAdd position.val.collateralFree amount .freeBalanceOverflow
  let tokens ← state.tokens.transferChecked source.key market.val.collateralMint vault.key
    owner.key amount
  pure { state with
    tokens := tokens
    prediction := { state.prediction with
      positions := state.prediction.positions.set position.key
        { position.val with collateralFree := nextFree } } }

def handleWithdrawPredictionCollateral (state : State) (owner : Wallet)
    (market destination : Pubkey) (amount : Nat) : Result State := do
  let market ← loadPredictionMarket state.prediction market
  let position ← loadPosition state.prediction market.key owner.key
  let _ ← load state.tokens.mints market.val.collateralMint
  let destination ← load state.tokens.accounts destination
  require (destination.val.owner = owner.key) .invalidWithdrawalDestinationOwner
  require (destination.val.mint = market.val.collateralMint) .invalidPredictionCollateralMint
  let vault ← loadCollateralVault state.tokens market
  require (amount > 0) .invalidWithdrawalAmount
  let nextFree ← checkedSub position.val.collateralFree amount .insufficientFreeBalance
  require (vault.val.amount ≥ amount) .insufficientVaultFunds
  let tokens ← state.tokens.transferChecked vault.key market.val.collateralMint destination.key
    (.vaultAuthority market.key) amount
  pure { state with
    tokens := tokens
    prediction := { state.prediction with
      positions := state.prediction.positions.set position.key
        { position.val with collateralFree := nextFree } } }

/-! ## Complete sets -/

def PredictionPosition.issue (position : PredictionPosition) (quantity : Nat) :
    Result PredictionPosition := do
  let yes ← checkedAdd position.yesFree quantity .predictionAccountingOverflow
  let no ← checkedAdd position.noFree quantity .predictionAccountingOverflow
  pure { position with yesFree := yes, noFree := no }

def PredictionPosition.retire (position : PredictionPosition) (quantity : Nat) :
    Result PredictionPosition := do
  let yes ← checkedSub position.yesFree quantity .insufficientPredictionPositions
  let no ← checkedSub position.noFree quantity .insufficientPredictionPositions
  pure { position with yesFree := yes, noFree := no }

/-- Both supplies and the reserve after `quantity` pairs backed by `cost` are issued. -/
def PredictionMarket.issue (market : PredictionMarket) (quantity cost : Nat) :
    Result PredictionMarket := do
  let yesSupply ← checkedAdd market.yesSupply quantity .predictionAccountingOverflow
  let noSupply ← checkedAdd market.noSupply quantity .predictionAccountingOverflow
  let reserve ← checkedAdd market.backingReserve cost .predictionAccountingOverflow
  pure { market with yesSupply := yesSupply, noSupply := noSupply, backingReserve := reserve }

/-- Both supplies and the reserve after `quantity` pairs are retired for `refund`. -/
def PredictionMarket.retire (market : PredictionMarket) (quantity refund : Nat) :
    Result PredictionMarket := do
  let yesSupply ← checkedSub market.yesSupply quantity .predictionBackingUnderflow
  let noSupply ← checkedSub market.noSupply quantity .predictionBackingUnderflow
  let reserve ← checkedSub market.backingReserve refund .predictionBackingUnderflow
  pure { market with yesSupply := yesSupply, noSupply := noSupply, backingReserve := reserve }

def handleSplitPredictionCompleteSet (prediction : Prediction) (now : Int) (owner : Wallet)
    (market : Pubkey) (quantity : Nat) : Result Prediction := do
  let market ← loadPredictionMarket prediction market
  let position ← loadPosition prediction market.key owner.key
  require (market.val.status = .opened ∧ now < market.val.closeTs) .predictionSplitUnavailable
  require (quantity > 0) .invalidPredictionContractQuantity
  let cost ← checkedMul quantity market.val.payoutPerContract .predictionAccountingOverflow
  let free ← checkedSub position.val.collateralFree cost .insufficientFreeBalance
  let holder ← position.val.issue quantity
  let issued ← market.val.issue quantity cost
  pure { prediction with
    markets := prediction.markets.set market.key issued
    positions := prediction.positions.set position.key { holder with collateralFree := free } }

def handleMergePredictionCompleteSet (prediction : Prediction) (owner : Wallet) (market : Pubkey)
    (quantity : Nat) : Result Prediction := do
  let market ← loadPredictionMarket prediction market
  let position ← loadPosition prediction market.key owner.key
  require (market.val.status = .opened ∨ market.val.status = .frozen ∨
    market.val.status = .proposed) .predictionMergeUnavailable
  require (quantity > 0) .invalidPredictionContractQuantity
  let refund ← checkedMul quantity market.val.payoutPerContract .predictionAccountingOverflow
  let holder ← position.val.retire quantity
  let free ← checkedAdd position.val.collateralFree refund .freeBalanceOverflow
  let retired ← market.val.retire quantity refund
  pure { prediction with
    markets := prediction.markets.set market.key retired
    positions := prediction.positions.set position.key { holder with collateralFree := free } }

/-! ## Resolution -/

/-- The signer may resolve now: the primary resolver before the fallback window, else the
fallback resolver inside it. -/
def resolverWindow (market : PredictionMarket) (signer : Pubkey) (now : Int) : Result Unit := do
  require (now ≥ market.closeTs ∧ now ≥ market.earliestResolutionTs.getD market.closeTs)
    .predictionResolutionUnavailable
  let expected ← (match market.resolutionPhase with
    | .primary => do
        require (∀ fallback ∈ market.fallback, now < fallback.availableTs)
          .predictionFallbackUnavailable
        pure market.resolver
    | .fallback => do
        let fallback ← okOr market.fallback .predictionFallbackUnavailable
        require (now ≥ fallback.availableTs ∧ ∀ deadline ∈ fallback.deadlineTs, now < deadline)
          .predictionFallbackUnavailable
        pure fallback.resolver)
  require (expected = signer) .unauthorizedPredictionResolver

def maturity (market : PredictionMarket) : Result Int := do
  let proposal ← okOr market.proposal .predictionProposalUnavailable
  let delay ← delayTs market.resolutionDelaySeconds .predictionTimestampOverflow
  checkedAddTs proposal.proposedAt delay

def handleProposePrediction (state : State) (resolver : Wallet) (market : Pubkey)
    (outcome : PredictionResolution) (evidenceUri : List Char) (evidenceHash : Nat)
    (correction : Bool) : Result State := do
  let market ← loadPredictionMarket state.prediction market
  state.protocol.loadActiveAdmin resolver
  resolverWindow market.val resolver.key state.now
  require (market.val.finalOutcome = none) .predictionProposalUnavailable
  (if correction then do
      require (market.val.status = .proposed) .predictionProposalUnavailable
      let matures ← maturity market.val
      require (state.now < matures) .predictionProposalUnavailable
    else
      require ((market.val.status = .opened ∨ market.val.status = .frozen) ∧
        market.val.proposal.isNone) .predictionProposalUnavailable)
  require (evidenceUri.length ≤ predictionUriMaxLength ∧ evidenceUri.all asciiGraphic ∧
    ((uriTarget evidenceUri).any fun target => !target.isEmpty) ∧ evidenceHash ≠ 0)
    .invalidPredictionEvidence
  let proposed := { market.val with
    proposal := some ⟨outcome, state.now, evidenceUri, evidenceHash⟩ }
  let _ ← maturity proposed
  pure { state with
    prediction := { state.prediction with
      markets := state.prediction.markets.set market.key { proposed with status := .proposed } } }

def handleClosePredictionTrading (state : State) (resolver : Wallet) (market : Pubkey) :
    Result State := do
  let market ← loadPredictionMarket state.prediction market
  state.protocol.loadActiveAdmin resolver
  require (market.val.authority = resolver.key) .unauthorizedPredictionAuthority
  require (market.val.status = .opened) .predictionResolutionUnavailable
  pure { state with
    prediction := { state.prediction with
      markets := state.prediction.markets.set market.key { market.val with status := .frozen } } }

/-- One permissionless step towards the final outcome, selected by its action code. -/
def PredictionMarket.advance (market : PredictionMarket) (now : Int) :
    Nat → Result PredictionMarket
  | 0 => do
      require (market.status = .opened ∧ now ≥ market.closeTs) .predictionResolutionUnavailable
      pure { market with status := .frozen }
  | 1 => do
      let fallback ← okOr market.fallback .predictionFallbackUnavailable
      require ((market.status = .opened ∨ market.status = .frozen) ∧ market.proposal.isNone ∧
        market.resolutionPhase = .primary ∧ now ≥ fallback.availableTs ∧
        ∀ deadline ∈ fallback.deadlineTs, now < deadline) .predictionFallbackUnavailable
      pure { market with status := .frozen, resolutionPhase := .fallback }
  | 2 => do
      require (market.status = .proposed) .predictionProposalUnavailable
      let matures ← maturity market
      require (now ≥ matures) .predictionProposalUnavailable
      let proposal ← okOr market.proposal .predictionProposalUnavailable
      pure { market with finalOutcome := some proposal.outcome, status := .resolved }
  | 3 => do
      let deadline ← okOr (market.fallback.bind PredictionFallback.deadlineTs)
        .predictionFallbackUnavailable
      require ((market.status = .opened ∨ market.status = .frozen) ∧ market.proposal.isNone ∧
        now ≥ deadline) .predictionFallbackUnavailable
      pure { market with
        resolutionPhase := .fallback, finalOutcome := some .invalid, status := .resolved }
  | _ => throw .predictionResolutionUnavailable

def handleAdvancePrediction (prediction : Prediction) (now : Int) (market : Pubkey)
    (action : Nat) : Result Prediction := do
  let market ← loadPredictionMarket prediction market
  require (market.val.finalOutcome = none) .predictionResolutionUnavailable
  let advanced ← market.val.advance now action
  pure { prediction with markets := prediction.markets.set market.key advanced }

end Tidebook.Program
