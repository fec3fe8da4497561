import Tidebook.Program.SharedCustody
import Tidebook.Program.SpotMatch

/-! # Runs

One instruction of the program on its decoded arguments, and runs in which instructions of any
wallets alternate with what key holders do in the token program and with the passing of time. A
failed instruction leaves every account as it was.
-/

namespace Tidebook.Program
open Tidebook.Library

inductive Instruction where
  | initializeProtocol (deployer : Wallet)
  | addAdmin (superAdmin : Wallet) (newAdmin : Pubkey)
  | disableAdmin (superAdmin : Wallet) (target : Pubkey)
  | enableAdmin (superAdmin : Wallet) (target : Pubkey)
  | removeAdmin (superAdmin : Wallet) (target : Pubkey)
  | setTakerFee (superAdmin : Wallet) (takerFeeBps : UInt16)
  | initializeMarket (authority : Wallet) (baseMint quoteMint : Pubkey)
      (priceTickSize quantityLotSize : UInt64)
  | pauseMarket (authority : Wallet) (market : Pubkey)
  | unpauseMarket (authority : Wallet) (market : Pubkey)
  | closeMarket (authority : Wallet) (market : Pubkey) (faucetEmpty : Bool)
  | initializeTraderBalance (owner : Wallet) (market : Pubkey)
  | deposit (owner : Wallet) (market mint token : Pubkey) (amount : UInt64)
  | withdraw (owner : Wallet) (market mint token : Pubkey) (amount : UInt64)
  | withdrawProtocolFees (superAdmin : Wallet) (market destination : Pubkey) (amount : UInt64)
  | insertLimitOrder (trader : Wallet) (market : Pubkey) (betterLevel worseLevel : Option Pubkey)
      (side : OrderSide) (price quantity : UInt64)
  | appendLimitOrder (trader : Wallet) (market previousOrder : Pubkey) (side : OrderSide)
      (price quantity : UInt64)
  | cancelLimitOrder (accounts : CancelLimitOrder) (orderId : UInt64)
  | matchLimitOrder (accounts : MatchLimitOrder) (takerSide : OrderSide)
      (limitPrice quantity : UInt64)
  | initializePredictionMarket (authority : Wallet) (marketId : Nat) (collateralMint : Pubkey)
      (config : PredictionMarketConfig)
  | initializePredictionPosition (owner : Wallet) (market : Pubkey)
  | openPredictionMarket (authority : Wallet) (market : Pubkey)
  | depositPredictionCollateral (owner : Wallet) (market token : Pubkey) (amount : UInt64)
  | withdrawPredictionCollateral (owner : Wallet) (market token : Pubkey) (amount : UInt64)
  | splitPredictionCompleteSet (owner : Wallet) (market : Pubkey) (quantity : UInt64)
  | mergePredictionCompleteSet (owner : Wallet) (market : Pubkey) (quantity : UInt64)
  | placePredictionOrder (owner : Wallet) (market : Pubkey) (orderId : UInt64)
      (outcome : PredictionOutcome) (side : OrderSide) (price quantity : UInt64)
  | insertPredictionOrder (owner : Wallet) (market : Pubkey)
      (betterLevel worseLevel : Option Pubkey) (orderId : UInt64) (outcome : PredictionOutcome)
      (side : OrderSide) (price quantity : UInt64)
  | appendPredictionOrder (owner : Wallet) (market tailOrder : Pubkey) (orderId : UInt64)
      (outcome : PredictionOutcome) (side : OrderSide) (price quantity : UInt64)
  | cancelPredictionOrder (accounts : CancelPredictionOrder) (orderId : UInt64)
  | matchPredictionOrder (accounts : MatchPredictionOrder) (outcome : PredictionOutcome)
      (takerSide : OrderSide) (limitPrice quantity : UInt64)
  | proposePrediction (resolver : Wallet) (market : Pubkey) (outcome : PredictionResolution)
      (evidenceUri : List Char) (evidenceHash : Nat) (correction : Bool)
  | closePredictionTrading (resolver : Wallet) (market : Pubkey)
  | advancePrediction (market : Pubkey) (action : UInt8)
  | initializeAssetBalance (owner : Wallet) (mint : Pubkey)
  | depositAsset (owner : Wallet) (mint token : Pubkey) (amount : UInt64)
  | withdrawAsset (owner : Wallet) (mint token : Pubkey) (amount : UInt64)
  | migrateSpotAsset (owner : Wallet) (market mint : Pubkey) (amount : UInt64)
  | migratePredictionAsset (owner : Wallet) (market : Pubkey) (amount : UInt64)
  | sharedCompleteSet (owner : Wallet) (market : Pubkey) (quantity : UInt64) (split : Bool)
  | redeemPrediction (owner : Wallet) (market : Pubkey) (yes no : UInt64)
  | initializeSharedBook (authority : Wallet) (market : Pubkey) (kind : MarketKind)
  | withdrawSharedFees (superAdmin : Wallet) (book destination : Pubkey) (amount : UInt64)
  | closeSharedBook (authority : Wallet) (market : Pubkey)
  | placeSharedOrder (accounts : PlaceSharedOrder) (outcome : SharedOutcome) (side : OrderSide)
      (price quantity orderId : UInt64)
  | cancelSharedOrder (accounts : CancelSharedOrder)
  | matchSharedOrder (accounts : MatchSharedOrder) (outcome : SharedOutcome)
      (takerSide : OrderSide) (limitPrice quantity : UInt64)

section Lifting

variable (state : State)

def onProtocol (result : Result Protocol) : Result State := do
  let protocol ← result
  pure { state with protocol := protocol }

def onSpot (result : Result Spot) : Result State := do
  let spot ← result
  pure { state with spot := spot }

def onPrediction (result : Result Prediction) : Result State := do
  let prediction ← result
  pure { state with prediction := prediction }

end Lifting

def execute (state : State) : Instruction → Result State
  | .initializeProtocol deployer =>
      onProtocol state (state.protocol.handleInitializeProtocol deployer)
  | .addAdmin superAdmin newAdmin =>
      onProtocol state (state.protocol.handleAddAdmin superAdmin newAdmin)
  | .disableAdmin superAdmin target =>
      onProtocol state (state.protocol.handleDisableAdmin superAdmin target)
  | .enableAdmin superAdmin target =>
      onProtocol state (state.protocol.handleEnableAdmin superAdmin target)
  | .removeAdmin superAdmin target =>
      onProtocol state (state.protocol.handleRemoveAdmin superAdmin target)
  | .setTakerFee superAdmin takerFeeBps =>
      onProtocol state (state.protocol.handleSetTakerFee superAdmin takerFeeBps.toNat)
  | .initializeMarket authority baseMint quoteMint priceTickSize quantityLotSize =>
      handleInitializeMarket state authority baseMint quoteMint priceTickSize.toNat
        quantityLotSize.toNat
  | .pauseMarket authority market => onSpot state (handlePauseMarket state.spot authority market)
  | .unpauseMarket authority market =>
      onSpot state (handleUnpauseMarket state.spot authority market)
  | .closeMarket authority market faucetEmpty =>
      handleCloseMarket state authority market faucetEmpty
  | .initializeTraderBalance owner market =>
      onSpot state (handleInitializeTraderBalance state.spot owner market)
  | .deposit owner market mint token amount =>
      handleDeposit state owner market mint token amount.toNat
  | .withdraw owner market mint token amount =>
      handleWithdraw state owner market mint token amount.toNat
  | .withdrawProtocolFees superAdmin market destination amount =>
      handleWithdrawProtocolFees state superAdmin market destination amount.toNat
  | .insertLimitOrder trader market betterLevel worseLevel side price quantity =>
      onSpot state (handleInsertLimitOrder state.spot trader market betterLevel worseLevel side
        price.toNat quantity.toNat)
  | .appendLimitOrder trader market previousOrder side price quantity =>
      onSpot state (handleAppendLimitOrder state.spot trader market previousOrder side price.toNat
        quantity.toNat)
  | .cancelLimitOrder accounts orderId =>
      onSpot state (handleCancelLimitOrder state.spot accounts orderId.toNat)
  | .matchLimitOrder accounts takerSide limitPrice quantity => do
      let config ← state.protocol.loadConfig
      onSpot state (handleMatchLimitOrder state.spot config accounts takerSide limitPrice.toNat
        quantity.toNat)
  | .initializePredictionMarket authority marketId collateralMint config =>
      handleInitializePredictionMarket state authority marketId collateralMint config
  | .initializePredictionPosition owner market =>
      onPrediction state (handleInitializePredictionPosition state.prediction owner market)
  | .openPredictionMarket authority market => handleOpenPredictionMarket state authority market
  | .depositPredictionCollateral owner market token amount =>
      handleDepositPredictionCollateral state owner market token amount.toNat
  | .withdrawPredictionCollateral owner market token amount =>
      handleWithdrawPredictionCollateral state owner market token amount.toNat
  | .splitPredictionCompleteSet owner market quantity =>
      onPrediction state (handleSplitPredictionCompleteSet state.prediction state.now owner market
        quantity.toNat)
  | .mergePredictionCompleteSet owner market quantity =>
      onPrediction state (handleMergePredictionCompleteSet state.prediction owner market
        quantity.toNat)
  | .placePredictionOrder owner market orderId outcome side price quantity =>
      onPrediction state (handlePlacePredictionOrder state.prediction state.now owner market
        orderId.toNat outcome side price.toNat quantity.toNat)
  | .insertPredictionOrder owner market betterLevel worseLevel orderId outcome side price
      quantity =>
      onPrediction state (handleInsertPredictionOrder state.prediction state.now owner market
        betterLevel worseLevel orderId.toNat outcome side price.toNat quantity.toNat)
  | .appendPredictionOrder owner market tailOrder orderId outcome side price quantity =>
      onPrediction state (handleAppendPredictionOrder state.prediction state.now owner market
        tailOrder orderId.toNat outcome side price.toNat quantity.toNat)
  | .cancelPredictionOrder accounts orderId =>
      onPrediction state (handleCancelPredictionOrder state.prediction accounts orderId.toNat)
  | .matchPredictionOrder accounts outcome takerSide limitPrice quantity => do
      let config ← state.protocol.loadConfig
      onPrediction state (handleMatchPredictionOrder state.prediction state.now config accounts
        outcome takerSide limitPrice.toNat quantity.toNat)
  | .proposePrediction resolver market outcome evidenceUri evidenceHash correction =>
      handleProposePrediction state resolver market outcome evidenceUri evidenceHash correction
  | .closePredictionTrading resolver market => handleClosePredictionTrading state resolver market
  | .advancePrediction market action =>
      onPrediction state (handleAdvancePrediction state.prediction state.now market action.toNat)
  | .initializeAssetBalance owner mint => handleInitializeAssetBalance state owner mint
  | .depositAsset owner mint token amount =>
      handleDepositAsset state owner mint token amount.toNat
  | .withdrawAsset owner mint token amount =>
      handleWithdrawAsset state owner mint token amount.toNat
  | .migrateSpotAsset owner market mint amount =>
      handleMigrateSpotAsset state owner market mint amount.toNat
  | .migratePredictionAsset owner market amount =>
      handleMigratePredictionAsset state owner market amount.toNat
  | .sharedCompleteSet owner market quantity split =>
      handleSharedCompleteSet state owner market quantity.toNat split
  | .redeemPrediction owner market yes no =>
      handleRedeemPrediction state owner market yes.toNat no.toNat
  | .initializeSharedBook authority market kind =>
      handleInitializeSharedBook state authority market kind
  | .withdrawSharedFees superAdmin book destination amount =>
      handleWithdrawSharedFees state superAdmin book destination amount.toNat
  | .closeSharedBook authority market => handleCloseSharedBook state authority market
  | .placeSharedOrder accounts outcome side price quantity orderId =>
      handlePlaceSharedOrder state accounts outcome side price.toNat quantity.toNat orderId.toNat
  | .cancelSharedOrder accounts => handleCancelSharedOrder state accounts
  | .matchSharedOrder accounts outcome takerSide limitPrice quantity =>
      handleMatchSharedOrder state accounts outcome takerSide limitPrice.toNat quantity.toNat

/-! ## What happens outside the program -/

/-- Moves of key holders in the token program, and the clock. The test faucet's claims are
`mintTo` moves. -/
inductive Outside where
  | createMint (id : Nat) (decimals : UInt8)
  | createAccount (id : Nat) (mint owner : Pubkey)
  | mintTo (mint destination : Pubkey) (amount : UInt64)
  | burn (holder : Wallet) (source : Pubkey) (amount : UInt64)
  | transfer (holder : Wallet) (source mint destination : Pubkey) (amount : UInt64)
  | wait (seconds : Nat)

section Outside

variable (state : State)

def onTokens (result : Result Tokens) : Result State := do
  let tokens ← result
  pure { state with tokens := tokens }

def occur : Outside → Result State
  | .createMint id decimals => onTokens state (state.tokens.initializeMint (.key id) decimals.toNat)
  | .createAccount id mint owner => do
      let _ ← load state.tokens.mints mint
      onTokens state (state.tokens.initializeAccount (.key id) mint owner)
  | .mintTo mint destination amount =>
      onTokens state (state.tokens.mintTo mint destination amount.toNat)
  | .burn holder source amount => onTokens state (state.tokens.burn source holder.key amount.toNat)
  | .transfer holder source mint destination amount =>
      onTokens state (state.tokens.transferChecked source mint destination holder.key amount.toNat)
  | .wait seconds => pure { state with now := state.now + seconds }

end Outside

/-! ## Runs -/

inductive Event where
  | instruction (sent : Instruction)
  | outside (happened : Outside)

/-- The state with the tokens each address received from outside the crediting instructions, a
record that no instruction reads. -/
structure World where
  state : State
  unsolicited : Pubkey → Nat

/-- Where an event sends tokens without crediting a claim. -/
def Event.uncredited : Event → Option (Pubkey × Nat)
  | .instruction (.withdrawProtocolFees _ _ destination amount) => some (destination, amount.toNat)
  | .instruction _ => none
  | .outside (.mintTo _ destination amount) => some (destination, amount.toNat)
  | .outside (.transfer _ _ _ destination amount) => some (destination, amount.toNat)
  | .outside _ => none

def Event.apply (state : State) : Event → Result State
  | .instruction sent => execute state sent
  | .outside happened => occur state happened

def World.step (world : World) (event : Event) : World :=
  match event.apply world.state with
  | .error _ => world
  | .ok state => ⟨state, match event.uncredited with
      | none => world.unsolicited
      | some (destination, amount) =>
          Function.update world.unsolicited destination
            (world.unsolicited destination + amount)⟩

def World.run (world : World) (events : List Event) : World := events.foldl World.step world

/-- A ledger on which nothing has happened yet. -/
structure Genesis where
  upgradeAuthority : Option Pubkey
  now : Int

def Genesis.state (genesis : Genesis) : State where
  now := genesis.now
  protocol := ⟨genesis.upgradeAuthority, none, .empty⟩
  tokens := ⟨.empty, .empty⟩
  spot := ⟨.empty, .empty, .empty, .empty, .empty⟩
  prediction := ⟨.empty, .empty, .empty, .empty, .empty, .empty⟩
  shared := ⟨.empty, .empty, .empty, .empty⟩

def Genesis.world (genesis : Genesis) : World := ⟨genesis.state, fun _ => 0⟩

/-- What a run reaches. -/
def Genesis.after (genesis : Genesis) (events : List Event) : World := genesis.world.run events

end Tidebook.Program
