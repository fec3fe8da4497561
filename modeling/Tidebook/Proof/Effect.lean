import Tidebook.Proof.SharedLifecycle
import Tidebook.Proof.TokenLaws

/-! # What an instruction can do

Every successful instruction, with everything its checks established. What holds along a run is
proved from these effects, never from the handlers.
-/

namespace Tidebook.Proof
open Library Program

theorem uint64_fits (value : UInt64) : value.toNat ≤ u64Max :=
  Nat.le_pred_of_lt value.toNat_lt

/-- No protocol configuration charges more than the highest fee. -/
def FeeCapped (protocol : Protocol) : Prop :=
  ∀ config, protocol.config = some config → config.takerFeeBps ≤ maxTakerFeeBps

section Results

variable {state : State}

def MarketOpening.result {authority : Wallet} {baseMint quoteMint : Pubkey} {tick lot : Nat}
    (opening : MarketOpening state authority baseMint quoteMint tick lot) : State :=
  { state with
    tokens := opening.tokens
    spot := { state.spot with
      markets := state.spot.markets.set (.market baseMint quoteMint) opening.market
      fees := state.spot.fees.set (.marketFees (.market baseMint quoteMint))
        ⟨.market baseMint quoteMint, quoteMint, 0⟩ } }

def MarketClosing.result {key : Pubkey} (closing : MarketClosing state key) : State :=
  { state with
    tokens := closing.tokens
    spot := { state.spot with
      markets := state.spot.markets.erase key
      fees := state.spot.fees.erase (.marketFees key) } }

end Results

def resolves : Instruction → Option Pubkey
  | .openPredictionMarket _ market => some market
  | .proposePrediction _ market _ _ _ _ => some market
  | .closePredictionTrading _ market => some market
  | .advancePrediction market _ => some market
  | _ => none

inductive Effect (state : State) : Instruction → State → Prop where
  | governed {instruction : Instruction} {protocol : Protocol}
      (silent : (Event.instruction instruction).uncredited = none)
      (capped : FeeCapped state.protocol → FeeCapped protocol) :
      Effect state instruction { state with protocol := protocol }
  | initializeMarket {authority : Wallet} {baseMint quoteMint : Pubkey} {tick lot : UInt64}
      (opening : MarketOpening state authority baseMint quoteMint tick.toNat lot.toNat) :
      Effect state (.initializeMarket authority baseMint quoteMint tick lot) opening.result
  | restatus {instruction : Instruction} {key : Pubkey} {market : Market} (status : MarketStatus)
      (silent : (Event.instruction instruction).uncredited = none)
      (stored : state.spot.markets.get key = some market) :
      Effect state instruction { state with
        spot := { state.spot with
          markets := state.spot.markets.set key { market with status := status } } }
  | closeMarket {authority : Wallet} {key : Pubkey} {faucetEmpty : Bool}
      (closing : MarketClosing state key) :
      Effect state (.closeMarket authority key faucetEmpty) closing.result
  | initializeTraderBalance {owner : Wallet} {market : Pubkey}
      (fresh : state.spot.balances.get (spotLedger.file (market, owner.key)) = none) :
      Effect state (.initializeTraderBalance owner market) { state with
        spot := { state.spot with
          balances := state.spot.balances.set (spotLedger.file (market, owner.key))
            ⟨market, owner.key, 0, 0, 0, 0⟩ } }
  | deposit {owner : Wallet} {market mint token : Pubkey} {amount : UInt64} {tokens : Tokens}
      (crossing : SpotCrossing state.spot market owner.key mint 0 amount.toNat)
      (transferred : state.tokens.transferChecked token mint (.vault market mint) owner.key
        amount.toNat = .ok tokens) :
      Effect state (.deposit owner market mint token amount)
        { state with tokens := tokens, spot := crossing.result }
  | withdraw {owner : Wallet} {market mint token : Pubkey} {amount : UInt64} {tokens : Tokens}
      {account : TokenAccount}
      (crossing : SpotCrossing state.spot market owner.key mint amount.toNat 0)
      (held : state.tokens.accounts.get token = some account) (owned : account.owner = owner.key)
      (transferred : state.tokens.transferChecked (.vault market mint) mint token
        (.vaultAuthority market) amount.toNat = .ok tokens) :
      Effect state (.withdraw owner market mint token amount)
        { state with tokens := tokens, spot := crossing.result }
  | withdrawProtocolFees {superAdmin : Wallet} {market destination : Pubkey} {amount : UInt64}
      {record : Market} {fees : MarketFees} {tokens : Tokens}
      (stored : state.spot.markets.get market = some record)
      (feesStored : state.spot.fees.get (.marketFees market) = some fees)
      (enough : amount.toNat ≤ fees.accruedQuoteFees)
      (transferred : state.tokens.transferChecked (.vault market record.quoteMint)
        record.quoteMint destination (.vaultAuthority market) amount.toNat = .ok tokens) :
      Effect state (.withdrawProtocolFees superAdmin market destination amount) { state with
        tokens := tokens
        spot := { state.spot with
          fees := state.spot.fees.set (.marketFees market)
            { fees with accruedQuoteFees := fees.accruedQuoteFees - amount.toNat } } }
  | insertLimitOrder {trader : Wallet} {market : Pubkey} {better worse : Option Pubkey}
      {side : OrderSide} {price quantity : UInt64}
      (placed : Insertion state.spot trader market side price.toNat quantity.toNat) :
      Effect state (.insertLimitOrder trader market better worse side price quantity)
        { state with spot := placed.result }
  | appendLimitOrder {trader : Wallet} {market previous : Pubkey} {side : OrderSide}
      {price quantity : UInt64}
      (placed : Appending state.spot trader market side price.toNat quantity.toNat) :
      Effect state (.appendLimitOrder trader market previous side price quantity)
        { state with spot := placed.result }
  | cancelLimitOrder {accounts : CancelLimitOrder} {orderId : UInt64}
      (leaving : Cancellation state.spot accounts.owner accounts.market orderId.toNat) :
      Effect state (.cancelLimitOrder accounts orderId) { state with spot := leaving.result }
  | matchLimitOrder {accounts : MatchLimitOrder} {takerSide : OrderSide} {limit quantity : UInt64}
      {config : ProtocolConfig} (configured : state.protocol.loadConfig = .ok config)
      (fill : Fill state.spot config accounts.taker accounts.market accounts.makerOrder takerSide
        limit.toNat quantity.toNat) :
      Effect state (.matchLimitOrder accounts takerSide limit quantity)
        { state with spot := fill.result }
  | initializePredictionMarket {authority : Wallet} {marketId : Nat} {collateralMint : Pubkey}
      {config : PredictionMarketConfig}
      (opening : QuestionOpening state marketId collateralMint config) :
      Effect state (.initializePredictionMarket authority marketId collateralMint config)
        (opening.result authority)
  | initializePredictionPosition {owner : Wallet} {key : Pubkey} {market : PredictionMarket}
      (stored : state.prediction.markets.get key = some market)
      (fresh : state.prediction.positions.get (positionLedger.file (key, owner.key)) = none) :
      Effect state (.initializePredictionPosition owner key) { state with
        prediction := { state.prediction with
          positions := state.prediction.positions.set (positionLedger.file (key, owner.key))
            ⟨key, owner.key, 0, 0, 0, 0, 0, 0⟩ } }
  | restate {instruction : Instruction} {key : Pubkey} {prediction : Prediction}
      (silent : (Event.instruction instruction).uncredited = none)
      (named : resolves instruction = some key)
      (restates : Restates state.prediction prediction key)
      (done : execute state instruction = .ok { state with prediction := prediction }) :
      Effect state instruction { state with prediction := prediction }
  | depositPredictionCollateral {owner : Wallet} {market token : Pubkey} {amount : UInt64}
      {tokens : Tokens}
      (crossing : PositionCrossing state.prediction market owner.key 0 amount.toNat)
      (transferred : state.tokens.transferChecked token crossing.record.collateralMint
        (.vault market crossing.record.collateralMint) owner.key amount.toNat = .ok tokens) :
      Effect state (.depositPredictionCollateral owner market token amount)
        { state with tokens := tokens, prediction := crossing.result }
  | withdrawPredictionCollateral {owner : Wallet} {market token : Pubkey} {amount : UInt64}
      {tokens : Tokens} {account : TokenAccount}
      (crossing : PositionCrossing state.prediction market owner.key amount.toNat 0)
      (held : state.tokens.accounts.get token = some account) (owned : account.owner = owner.key)
      (transferred : state.tokens.transferChecked (.vault market crossing.record.collateralMint)
        crossing.record.collateralMint token (.vaultAuthority market) amount.toNat = .ok tokens) :
      Effect state (.withdrawPredictionCollateral owner market token amount)
        { state with tokens := tokens, prediction := crossing.result }
  | splitPredictionCompleteSet {owner : Wallet} {market : Pubkey} {quantity : UInt64} {cost : Nat}
      (crossing : SetCrossing state.prediction market owner.key (pairs cost 0)
        (pairs 0 quantity.toNat) 0 cost) :
      Effect state (.splitPredictionCompleteSet owner market quantity)
        { state with prediction := crossing.result }
  | mergePredictionCompleteSet {owner : Wallet} {market : Pubkey} {quantity : UInt64}
      {refund : Nat}
      (crossing : SetCrossing state.prediction market owner.key (pairs 0 quantity.toNat)
        (pairs refund 0) refund 0) :
      Effect state (.mergePredictionCompleteSet owner market quantity)
        { state with prediction := crossing.result }
  | insertPredictionOrder {owner : Wallet} {market : Pubkey} {better worse : Option Pubkey}
      {orderId : UInt64} {outcome : PredictionOutcome} {side : OrderSide} {price quantity : UInt64}
      (placed : PredictionInsertion state.prediction state.now owner market orderId.toNat outcome
        side price.toNat quantity.toNat) :
      Effect state
        (.insertPredictionOrder owner market better worse orderId outcome side price quantity)
        { state with prediction := placed.result }
  | placePredictionOrder {owner : Wallet} {market : Pubkey} {orderId : UInt64}
      {outcome : PredictionOutcome} {side : OrderSide} {price quantity : UInt64}
      (placed : PredictionInsertion state.prediction state.now owner market orderId.toNat outcome
        side price.toNat quantity.toNat) :
      Effect state (.placePredictionOrder owner market orderId outcome side price quantity)
        { state with prediction := placed.result }
  | appendPredictionOrder {owner : Wallet} {market tail : Pubkey} {orderId : UInt64}
      {outcome : PredictionOutcome} {side : OrderSide} {price quantity : UInt64}
      (placed : PredictionAppending state.prediction state.now owner market orderId.toNat outcome
        side price.toNat quantity.toNat) :
      Effect state (.appendPredictionOrder owner market tail orderId outcome side price quantity)
        { state with prediction := placed.result }
  | cancelPredictionOrder {accounts : CancelPredictionOrder} {orderId : UInt64}
      (leaving : PredictionCancellation state.prediction accounts.owner accounts.market
        orderId.toNat) :
      Effect state (.cancelPredictionOrder accounts orderId)
        { state with prediction := leaving.result }
  | matchPredictionOrder {accounts : MatchPredictionOrder} {outcome : PredictionOutcome}
      {takerSide : OrderSide} {limit quantity : UInt64} {config : ProtocolConfig}
      (configured : state.protocol.loadConfig = .ok config)
      (fill : PredictionFill state.prediction state.now config accounts.taker accounts.market
        accounts.makerOrder outcome takerSide limit.toNat quantity.toNat) :
      Effect state (.matchPredictionOrder accounts outcome takerSide limit quantity)
        { state with prediction := fill.result }
  | initializeAssetBalance {owner : Wallet} {mint : Pubkey} {record : Mint} {tokens : Tokens}
      (mintStored : state.tokens.mints.get mint = some record)
      (fresh : state.shared.assets.get (assetLedger.file (owner.key, mint)) = none)
      (vault : state.tokens.initializeAccount (.assetVault mint) mint (.assetAuthority mint) =
        .ok tokens ∨ state.tokens.accounts.get (.assetVault mint) ≠ none ∧ tokens = state.tokens) :
      Effect state (.initializeAssetBalance owner mint) { state with
        tokens := tokens
        shared := { state.shared with
          assets := state.shared.assets.set (assetLedger.file (owner.key, mint))
            ⟨owner.key, mint, 0, 0⟩ } }
  | depositAsset {owner : Wallet} {mint token : Pubkey} {amount : UInt64} {tokens : Tokens}
      (crossing : AssetCrossing state.shared.assets owner.key mint 0 amount.toNat)
      (transferred : state.tokens.transferChecked token mint (.assetVault mint) owner.key
        amount.toNat = .ok tokens) :
      Effect state (.depositAsset owner mint token amount) { state with
        tokens := tokens, shared := { state.shared with assets := crossing.result } }
  | withdrawAsset {owner : Wallet} {mint token : Pubkey} {amount : UInt64} {tokens : Tokens}
      {account : TokenAccount}
      (crossing : AssetCrossing state.shared.assets owner.key mint amount.toNat 0)
      (held : state.tokens.accounts.get token = some account) (owned : account.owner = owner.key)
      (transferred : state.tokens.transferChecked (.assetVault mint) mint token
        (.assetAuthority mint) amount.toNat = .ok tokens) :
      Effect state (.withdrawAsset owner mint token amount) { state with
        tokens := tokens, shared := { state.shared with assets := crossing.result } }
  | migrateSpotAsset {owner : Wallet} {market mint : Pubkey} {amount : UInt64} {tokens : Tokens}
      (spot : SpotCrossing state.spot market owner.key mint amount.toNat 0)
      (crossing : AssetCrossing state.shared.assets owner.key mint 0 amount.toNat)
      (transferred : state.tokens.transferChecked (.vault market mint) mint (.assetVault mint)
        (.vaultAuthority market) amount.toNat = .ok tokens) :
      Effect state (.migrateSpotAsset owner market mint amount) { state with
        tokens := tokens
        spot := spot.result
        shared := { state.shared with assets := crossing.result } }
  | migratePredictionAsset {owner : Wallet} {market : Pubkey} {amount : UInt64} {tokens : Tokens}
      (position : PositionCrossing state.prediction market owner.key amount.toNat 0)
      (crossing : AssetCrossing state.shared.assets owner.key position.record.collateralMint 0
        amount.toNat)
      (transferred : state.tokens.transferChecked (.vault market position.record.collateralMint)
        position.record.collateralMint (.assetVault position.record.collateralMint)
        (.vaultAuthority market) amount.toNat = .ok tokens) :
      Effect state (.migratePredictionAsset owner market amount) { state with
        tokens := tokens
        prediction := position.result
        shared := { state.shared with assets := crossing.result } }
  | sharedSplit {owner : Wallet} {market : Pubkey} {quantity : UInt64} {split : Bool}
      {funded : Nat}
      (crossing : ReserveCrossing state market owner.key 0 (pairs 0 quantity.toNat) 0 funded) :
      Effect state (.sharedCompleteSet owner market quantity split) crossing.settled
  | sharedMerge {owner : Wallet} {market : Pubkey} {quantity : UInt64} {split : Bool}
      {paid : Nat}
      (crossing : ReserveCrossing state market owner.key (pairs 0 quantity.toNat) 0 paid 0) :
      Effect state (.sharedCompleteSet owner market quantity split) crossing.settled
  | redeemPrediction {owner : Wallet} {market : Pubkey} {yes no : UInt64}
      {outcome : PredictionResolution} {paid : Nat}
      (crossing : ReserveCrossing state market owner.key (contractPair yes.toNat no.toNat) 0 paid 0)
      (final : crossing.record.finalOutcome = some outcome)
      (worth : paid = redemption outcome crossing.record.payoutPerContract yes.toNat no.toNat) :
      Effect state (.redeemPrediction owner market yes no) crossing.settled
  | initializeSharedBook {authority : Wallet} {market : Pubkey} {kind : MarketKind}
      (opening : BookOpening state market kind) :
      Effect state (.initializeSharedBook authority market kind) { state with
        shared := { state.shared with
          books := state.shared.books.set (.sharedBook market) opening.opened } }
  | withdrawSharedFees {superAdmin : Wallet} {key destination : Pubkey} {amount : UInt64}
      {book : SharedBook} {tokens : Tokens} {account : TokenAccount}
      (stored : state.shared.books.get key = some book)
      (enough : amount.toNat ≤ book.accruedQuoteFees)
      (held : state.tokens.accounts.get destination = some account)
      (owned : account.owner = superAdmin.key)
      (transferred : state.tokens.transferChecked (.assetVault book.quoteMint) book.quoteMint
        destination (.assetAuthority book.quoteMint) amount.toNat = .ok tokens) :
      Effect state (.withdrawSharedFees superAdmin key destination amount) { state with
        tokens := tokens
        shared := { state.shared with
          books := state.shared.books.set key
            { book with accruedQuoteFees := book.accruedQuoteFees - amount.toNat } } }
  | closeSharedBook {authority : Wallet} {market : Pubkey} {book : SharedBook}
      (stored : state.shared.books.get (.sharedBook market) = some book)
      (count : book.openOrderCount = 0) (fees : book.accruedQuoteFees = 0)
      (empty : ∀ slot, book.bestPrices slot = none) :
      Effect state (.closeSharedBook authority market) { state with
        shared := { state.shared with books := state.shared.books.erase (.sharedBook market) } }
  | insertSharedOrder {accounts : PlaceSharedOrder} {outcome : SharedOutcome} {side : OrderSide}
      {price quantity orderId : UInt64}
      (placed : SharedInsertion state accounts.owner accounts.market orderId.toNat outcome side
        price.toNat quantity.toNat) :
      Effect state (.placeSharedOrder accounts outcome side price quantity orderId) placed.result
  | appendSharedOrder {accounts : PlaceSharedOrder} {outcome : SharedOutcome} {side : OrderSide}
      {price quantity orderId : UInt64}
      (placed : SharedAppending state accounts.owner accounts.market orderId.toNat outcome side
        price.toNat quantity.toNat) :
      Effect state (.placeSharedOrder accounts outcome side price quantity orderId) placed.result
  | cancelSharedOrder {accounts : CancelSharedOrder}
      (leaving : SharedCancellation state accounts.owner accounts.order) :
      Effect state (.cancelSharedOrder accounts) leaving.result
  | matchSharedOrder {accounts : MatchSharedOrder} {outcome : SharedOutcome}
      {takerSide : OrderSide} {limit quantity : UInt64} {config : ProtocolConfig}
      (configured : state.protocol.loadConfig = .ok config)
      (fill : SharedFill state config accounts.taker accounts.market accounts.makerOrder outcome
        takerSide limit.toNat quantity.toNat) :
      Effect state (.matchSharedOrder accounts outcome takerSide limit quantity) fill.result

/-! ## Every instruction has its effect -/

section Governance

variable {protocol after : Protocol} {wallet : Wallet} {target : Pubkey}

theorem FeeCapped.admins (admins : Store Pubkey AdminRecord) (capped : FeeCapped protocol) :
    FeeCapped { protocol with admins := admins } := capped

theorem handleInitializeProtocol_capped
    (done : protocol.handleInitializeProtocol wallet = .ok after) :
    FeeCapped protocol → FeeCapped after := by
  simp only [Protocol.handleInitializeProtocol, bind_eq_ok, require_eq_ok, vacant_eq_ok,
    pure_eq_ok] at done
  obtain ⟨_, -, _, -, _, -, rfl⟩ := done
  rintro - config same
  cases same
  exact Nat.zero_le _

theorem handleSetTakerFee_capped {takerFeeBps : Nat}
    (done : protocol.handleSetTakerFee wallet takerFeeBps = .ok after) :
    FeeCapped protocol → FeeCapped after := by
  simp only [Protocol.handleSetTakerFee, bind_eq_ok, require_eq_ok, pure_eq_ok] at done
  obtain ⟨_, -, _, capped, rfl⟩ := done
  rintro - config same
  cases same
  exact capped

theorem handleAddAdmin_admins (done : protocol.handleAddAdmin wallet target = .ok after) :
    ∃ admins, after = { protocol with admins := admins } := by
  simp only [Protocol.handleAddAdmin, bind_eq_ok, require_eq_ok, vacant_eq_ok, pure_eq_ok] at done
  obtain ⟨_, -, _, -, _, -, rfl⟩ := done
  exact ⟨_, rfl⟩

theorem handleDisableAdmin_admins (done : protocol.handleDisableAdmin wallet target = .ok after) :
    ∃ admins, after = { protocol with admins := admins } := by
  simp only [Protocol.handleDisableAdmin, bind_eq_ok, require_eq_ok, pure_eq_ok] at done
  obtain ⟨_, -, _, -, rfl⟩ := done
  exact ⟨_, rfl⟩

theorem handleEnableAdmin_admins (done : protocol.handleEnableAdmin wallet target = .ok after) :
    ∃ admins, after = { protocol with admins := admins } := by
  simp only [Protocol.handleEnableAdmin, bind_eq_ok, require_eq_ok, pure_eq_ok] at done
  obtain ⟨_, -, _, -, rfl⟩ := done
  exact ⟨_, rfl⟩

theorem handleRemoveAdmin_admins (done : protocol.handleRemoveAdmin wallet target = .ok after) :
    ∃ admins, after = { protocol with admins := admins } := by
  simp only [Protocol.handleRemoveAdmin, bind_eq_ok, require_eq_ok, pure_eq_ok] at done
  obtain ⟨_, -, _, -, rfl⟩ := done
  exact ⟨_, rfl⟩

end Governance

section Execution

variable {state after : State} {instruction : Instruction}

theorem onProtocol_ok {result : Result Protocol} (done : onProtocol state result = .ok after) :
    ∃ protocol, result = .ok protocol ∧ after = { state with protocol := protocol } := by
  simp only [onProtocol, bind_eq_ok, pure_eq_ok] at done
  obtain ⟨protocol, changed, rfl⟩ := done
  exact ⟨protocol, changed, rfl⟩

theorem onSpot_ok {result : Result Spot} (done : onSpot state result = .ok after) :
    ∃ spot, result = .ok spot ∧ after = { state with spot := spot } := by
  simp only [onSpot, bind_eq_ok, pure_eq_ok] at done
  obtain ⟨spot, changed, rfl⟩ := done
  exact ⟨spot, changed, rfl⟩

theorem onPrediction_ok {result : Result Prediction}
    (done : onPrediction state result = .ok after) :
    ∃ prediction, result = .ok prediction ∧ after = { state with prediction := prediction } := by
  simp only [onPrediction, bind_eq_ok, pure_eq_ok] at done
  obtain ⟨prediction, changed, rfl⟩ := done
  exact ⟨prediction, changed, rfl⟩

theorem execute_matchLimitOrder {accounts : MatchLimitOrder} {takerSide : OrderSide}
    {limit quantity : UInt64} (holds : SpotInvariant state.spot)
    (done : execute state (.matchLimitOrder accounts takerSide limit quantity) = .ok after) :
    ∃ config, state.protocol.loadConfig = .ok config ∧
      ∃ fill : Fill state.spot config accounts.taker accounts.market accounts.makerOrder takerSide
        limit.toNat quantity.toNat, after = { state with spot := fill.result } := by
  obtain ⟨config, configured, sent⟩ := bind_eq_ok.mp done
  obtain ⟨_, changed, rfl⟩ := onSpot_ok sent
  obtain ⟨fill, rfl⟩ := handleMatchLimitOrder_ok holds changed
  exact ⟨config, configured, fill, rfl⟩

theorem execute_matchPredictionOrder {accounts : MatchPredictionOrder}
    {outcome : PredictionOutcome} {takerSide : OrderSide} {limit quantity : UInt64}
    (holds : PredictionInvariant state.prediction)
    (done : execute state (.matchPredictionOrder accounts outcome takerSide limit quantity) =
      .ok after) :
    ∃ config, state.protocol.loadConfig = .ok config ∧
      ∃ fill : PredictionFill state.prediction state.now config accounts.taker accounts.market
        accounts.makerOrder outcome takerSide limit.toNat quantity.toNat,
        after = { state with prediction := fill.result } := by
  obtain ⟨config, configured, sent⟩ := bind_eq_ok.mp done
  obtain ⟨_, changed, rfl⟩ := onPrediction_ok sent
  obtain ⟨fill, rfl⟩ := handleMatchPredictionOrder_ok holds changed
  exact ⟨config, configured, fill, rfl⟩

theorem Effect.of_protocol {sent : Result Protocol} (done : onProtocol state sent = .ok after)
    (silent : (Event.instruction instruction).uncredited = none)
    (capped : ∀ protocol, sent = .ok protocol → FeeCapped state.protocol → FeeCapped protocol) :
    Effect state instruction after := by
  obtain ⟨protocol, changed, rfl⟩ := onProtocol_ok done
  exact .governed silent (capped protocol changed)

theorem Effect.of_admins {sent : Result Protocol} (done : onProtocol state sent = .ok after)
    (silent : (Event.instruction instruction).uncredited = none)
    (changed : ∀ protocol, sent = .ok protocol →
      ∃ admins, protocol = { state.protocol with admins := admins }) :
    Effect state instruction after := by
  refine Effect.of_protocol done silent fun protocol accepted => ?_
  obtain ⟨admins, rfl⟩ := changed protocol accepted
  exact FeeCapped.admins admins

theorem Effect.of_status {sent : Result Spot} {key : Pubkey} {status : MarketStatus}
    (done : onSpot state sent = .ok after)
    (silent : (Event.instruction instruction).uncredited = none)
    (changed : ∀ spot, sent = .ok spot → ∃ market, state.spot.markets.get key = some market ∧
      spot = { state.spot with
        markets := state.spot.markets.set key { market with status := status } }) :
    Effect state instruction after := by
  obtain ⟨spot, accepted, rfl⟩ := onSpot_ok done
  obtain ⟨market, stored, rfl⟩ := changed spot accepted
  exact .restatus status silent stored

theorem execute_effect (spot : SpotInvariant state.spot)
    (prediction : PredictionInvariant state.prediction) (shared : SharedInvariant state.shared)
    (done : execute state instruction = .ok after) : Effect state instruction after := by
  have run := done
  cases instruction with
  | initializeProtocol deployer =>
      exact .of_protocol done rfl fun _ changed => handleInitializeProtocol_capped changed
  | addAdmin superAdmin newAdmin =>
      exact .of_admins done rfl fun _ changed => handleAddAdmin_admins changed
  | disableAdmin superAdmin target =>
      exact .of_admins done rfl fun _ changed => handleDisableAdmin_admins changed
  | enableAdmin superAdmin target =>
      exact .of_admins done rfl fun _ changed => handleEnableAdmin_admins changed
  | removeAdmin superAdmin target =>
      exact .of_admins done rfl fun _ changed => handleRemoveAdmin_admins changed
  | setTakerFee superAdmin takerFeeBps =>
      exact .of_protocol done rfl fun _ changed => handleSetTakerFee_capped changed
  | initializeMarket authority baseMint quoteMint tick lot =>
      obtain ⟨opening, rfl⟩ := handleInitializeMarket_ok done
      exact .initializeMarket opening
  | pauseMarket authority market =>
      exact .of_status done rfl fun _ changed => handlePauseMarket_ok changed
  | unpauseMarket authority market =>
      exact .of_status done rfl fun _ changed => handleUnpauseMarket_ok changed
  | closeMarket authority market faucetEmpty =>
      obtain ⟨closing, rfl⟩ := handleCloseMarket_ok done
      exact .closeMarket closing
  | initializeTraderBalance owner market =>
      obtain ⟨_, changed, rfl⟩ := onSpot_ok done
      obtain ⟨fresh, rfl⟩ := handleInitializeTraderBalance_ok changed
      exact .initializeTraderBalance fresh
  | deposit owner market mint token amount =>
      obtain ⟨crossing, tokens, transferred, rfl⟩ := handleDeposit_ok done
      exact .deposit crossing transferred
  | withdraw owner market mint token amount =>
      obtain ⟨crossing, tokens, account, held, owned, transferred, rfl⟩ := handleWithdraw_ok done
      exact .withdraw crossing held owned transferred
  | withdrawProtocolFees superAdmin market destination amount =>
      obtain ⟨record, fees, tokens, stored, -, feesStored, enough, transferred, rfl⟩ :=
        handleWithdrawProtocolFees_ok done
      exact .withdrawProtocolFees stored feesStored enough transferred
  | insertLimitOrder trader market better worse side price quantity =>
      obtain ⟨_, changed, rfl⟩ := onSpot_ok done
      obtain ⟨placed, rfl⟩ := handleInsertLimitOrder_ok changed
      exact .insertLimitOrder placed
  | appendLimitOrder trader market previous side price quantity =>
      obtain ⟨_, changed, rfl⟩ := onSpot_ok done
      obtain ⟨placed, rfl⟩ := handleAppendLimitOrder_ok changed
      exact .appendLimitOrder placed
  | cancelLimitOrder accounts orderId =>
      obtain ⟨_, changed, rfl⟩ := onSpot_ok done
      obtain ⟨leaving, rfl⟩ := handleCancelLimitOrder_ok spot changed
      exact .cancelLimitOrder leaving
  | matchLimitOrder accounts takerSide limit quantity =>
      obtain ⟨config, configured, fill, rfl⟩ := execute_matchLimitOrder spot done
      exact .matchLimitOrder configured fill
  | initializePredictionMarket authority marketId collateralMint config =>
      obtain ⟨opening, rfl⟩ := handleInitializePredictionMarket_ok done
      exact .initializePredictionMarket opening
  | initializePredictionPosition owner market =>
      obtain ⟨_, changed, rfl⟩ := onPrediction_ok done
      obtain ⟨record, stored, fresh, rfl⟩ := handleInitializePredictionPosition_ok changed
      exact .initializePredictionPosition stored fresh
  | openPredictionMarket authority market =>
      obtain ⟨_, restates, rfl⟩ := handleOpenPredictionMarket_ok done
      exact .restate rfl rfl restates run
  | depositPredictionCollateral owner market token amount =>
      obtain ⟨crossing, tokens, transferred, rfl⟩ := handleDepositPredictionCollateral_ok done
      exact .depositPredictionCollateral crossing transferred
  | withdrawPredictionCollateral owner market token amount =>
      obtain ⟨crossing, tokens, account, held, owned, transferred, rfl⟩ :=
        handleWithdrawPredictionCollateral_ok done
      exact .withdrawPredictionCollateral crossing held owned transferred
  | splitPredictionCompleteSet owner market quantity =>
      obtain ⟨_, changed, rfl⟩ := onPrediction_ok done
      obtain ⟨cost, crossing, rfl⟩ := handleSplitPredictionCompleteSet_ok changed
      exact .splitPredictionCompleteSet crossing
  | mergePredictionCompleteSet owner market quantity =>
      obtain ⟨_, changed, rfl⟩ := onPrediction_ok done
      obtain ⟨refund, crossing, rfl⟩ := handleMergePredictionCompleteSet_ok changed
      exact .mergePredictionCompleteSet crossing
  | placePredictionOrder owner market orderId outcome side price quantity =>
      obtain ⟨_, changed, rfl⟩ := onPrediction_ok done
      obtain ⟨placed, rfl⟩ := handlePlacePredictionOrder_ok changed
      exact .placePredictionOrder placed
  | insertPredictionOrder owner market better worse orderId outcome side price quantity =>
      obtain ⟨_, changed, rfl⟩ := onPrediction_ok done
      obtain ⟨placed, rfl⟩ := handleInsertPredictionOrder_ok changed
      exact .insertPredictionOrder placed
  | appendPredictionOrder owner market tail orderId outcome side price quantity =>
      obtain ⟨_, changed, rfl⟩ := onPrediction_ok done
      obtain ⟨placed, rfl⟩ := handleAppendPredictionOrder_ok changed
      exact .appendPredictionOrder placed
  | cancelPredictionOrder accounts orderId =>
      obtain ⟨_, changed, rfl⟩ := onPrediction_ok done
      obtain ⟨leaving, rfl⟩ := handleCancelPredictionOrder_ok prediction changed
      exact .cancelPredictionOrder leaving
  | matchPredictionOrder accounts outcome takerSide limit quantity =>
      obtain ⟨config, configured, fill, rfl⟩ := execute_matchPredictionOrder prediction done
      exact .matchPredictionOrder configured fill
  | proposePrediction resolver market outcome uri hash correction =>
      obtain ⟨_, restates, rfl⟩ := handleProposePrediction_ok done
      exact .restate rfl rfl restates run
  | closePredictionTrading resolver market =>
      obtain ⟨_, restates, rfl⟩ := handleClosePredictionTrading_ok done
      exact .restate rfl rfl restates run
  | advancePrediction market action =>
      obtain ⟨_, changed, rfl⟩ := onPrediction_ok done
      exact .restate rfl rfl (handleAdvancePrediction_ok changed) run
  | initializeAssetBalance owner mint =>
      obtain ⟨record, tokens, mintStored, fresh, vault, rfl⟩ := handleInitializeAssetBalance_ok done
      exact .initializeAssetBalance mintStored fresh vault
  | depositAsset owner mint token amount =>
      obtain ⟨crossing, tokens, transferred, rfl⟩ := handleDepositAsset_ok done
      exact .depositAsset crossing transferred
  | withdrawAsset owner mint token amount =>
      obtain ⟨crossing, tokens, account, held, owned, transferred, rfl⟩ :=
        handleWithdrawAsset_ok done
      exact .withdrawAsset crossing held owned transferred
  | migrateSpotAsset owner market mint amount =>
      obtain ⟨leaving, crossing, tokens, transferred, rfl⟩ := handleMigrateSpotAsset_ok done
      exact .migrateSpotAsset leaving crossing transferred
  | migratePredictionAsset owner market amount =>
      obtain ⟨leaving, crossing, tokens, transferred, rfl⟩ := handleMigratePredictionAsset_ok done
      exact .migratePredictionAsset leaving crossing transferred
  | sharedCompleteSet owner market quantity split =>
      obtain ⟨amount, ⟨crossing, rfl⟩ | ⟨crossing, rfl⟩⟩ := handleSharedCompleteSet_ok done
      · exact .sharedSplit crossing
      · exact .sharedMerge crossing
  | redeemPrediction owner market yes no =>
      obtain ⟨record, outcome, crossing, same, final, rfl⟩ := handleRedeemPrediction_ok done
      refine .redeemPrediction crossing (?_ : _ = some outcome) ?_
      · rw [same, final]
      · rw [same]
  | initializeSharedBook authority market kind =>
      obtain ⟨opening, rfl⟩ := handleInitializeSharedBook_ok done
      exact .initializeSharedBook opening
  | withdrawSharedFees superAdmin book destination amount =>
      obtain ⟨record, tokens, account, stored, enough, held, owned, transferred, rfl⟩ :=
        handleWithdrawSharedFees_ok done
      exact .withdrawSharedFees stored enough held owned transferred
  | closeSharedBook authority market =>
      obtain ⟨book, stored, count, fees, empty, rfl⟩ := handleCloseSharedBook_ok done
      exact .closeSharedBook stored count fees empty
  | placeSharedOrder accounts outcome side price quantity orderId =>
      obtain ⟨placed, rfl⟩ | ⟨placed, rfl⟩ := handlePlaceSharedOrder_ok shared done
      · exact .insertSharedOrder placed
      · exact .appendSharedOrder placed
  | cancelSharedOrder accounts =>
      obtain ⟨leaving, rfl⟩ := handleCancelSharedOrder_ok shared done
      exact .cancelSharedOrder leaving
  | matchSharedOrder accounts outcome takerSide limit quantity =>
      obtain ⟨config, configured, fill, rfl⟩ := handleMatchSharedOrder_ok shared done
      exact .matchSharedOrder configured fill

end Execution
end Tidebook.Proof
