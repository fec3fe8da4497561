import Tidebook.Program.Protocol

/-! # Spot markets and trader balances

Market lifecycle, the internal balance ledger, and custody in the two vaults of a market. Signers,
program-derived addresses and stored bumps are checked by the account contexts; here an account
whose address the seeds fix is looked up at that address.
-/

namespace Tidebook.Program
open Tidebook.Library

/-! ## Lifecycle -/

def handleInitializeMarket (state : State) (authority : Wallet) (baseMint quoteMint : Pubkey)
    (priceTickSize quantityLotSize : Nat) : Result State := do
  state.protocol.loadActiveAdmin authority
  let market := Pubkey.market baseMint quoteMint
  vacant state.spot.markets market
  vacant state.spot.fees (.marketFees market)
  let baseMintAccount ← load state.tokens.mints baseMint
  let quoteMintAccount ← load state.tokens.mints quoteMint
  require (baseMint ≠ quoteMint) .identicalMints
  let tokens ← state.tokens.initializeAccount (.vault market baseMint) baseMint
    (.vaultAuthority market)
  let tokens ← tokens.initializeAccount (.vault market quoteMint) quoteMint
    (.vaultAuthority market)
  require (priceTickSize > 0) .invalidPriceTickSize
  require (quantityLotSize > 0) .invalidQuantityLotSize
  pure { state with
    tokens := tokens
    spot := { state.spot with
      markets := state.spot.markets.set market
        { authority := authority.key
          baseMint := baseMint
          quoteMint := quoteMint
          status := .active
          nextOrderId := 1
          baseDecimals := baseMintAccount.val.decimals
          quoteDecimals := quoteMintAccount.val.decimals
          priceTickSize := priceTickSize
          quantityLotSize := quantityLotSize
          bestBid := none
          bestAsk := none
          openOrderCount := 0 }
      fees := state.spot.fees.set (.marketFees market) ⟨market, quoteMint, 0⟩ } }

def handlePauseMarket (spot : Spot) (authority : Wallet) (market : Pubkey) : Result Spot := do
  let market ← load spot.markets market
  require (market.val.authority = authority.key) .constraintHasOne
  require (market.val.status = .active) .marketAlreadyPaused
  pure { spot with markets := spot.markets.set market.key { market.val with status := .paused } }

def handleUnpauseMarket (spot : Spot) (authority : Wallet) (market : Pubkey) : Result Spot := do
  let market ← load spot.markets market
  require (market.val.authority = authority.key) .constraintHasOne
  require (market.val.status = .paused) .marketAlreadyActive
  pure { spot with markets := spot.markets.set market.key { market.val with status := .active } }

/-- A spot vault, with the mint and authority its context asserts. -/
def loadVault (tokens : Tokens) (market mint : Pubkey) : Result (Account TokenAccount) := do
  let vault ← load tokens.accounts (.vault market mint)
  require (vault.val.mint = mint) .constraintTokenMint
  require (vault.val.owner = .vaultAuthority market) .constraintTokenOwner
  pure vault

def loadMarketFees (spot : Spot) (market : Account Market) : Result (Account MarketFees) := do
  let fees ← load spot.fees (.marketFees market.key)
  require (fees.val.market = market.key) .marketFeesMarketMismatch
  require (fees.val.quoteMint = market.val.quoteMint) .marketFeesQuoteMintMismatch
  pure fees

/-- `faucetEmpty` is the emptiness of the market's faucet account, which no modelled instruction
creates. -/
def handleCloseMarket (state : State) (authority : Wallet) (market : Pubkey)
    (faucetEmpty : Bool) : Result State := do
  let market ← load state.spot.markets market
  require (market.val.authority = authority.key) .constraintHasOne
  require (market.val.status = .paused) .marketMustBePaused
  let fees ← loadMarketFees state.spot market
  let baseVault ← load state.tokens.accounts (.vault market.key market.val.baseMint)
  require (baseVault.val.mint = market.val.baseMint) .invalidCollateralMint
  require (baseVault.val.owner = .vaultAuthority market.key) .invalidVaultAuthority
  let quoteVault ← load state.tokens.accounts (.vault market.key market.val.quoteMint)
  require (quoteVault.val.mint = market.val.quoteMint) .invalidCollateralMint
  require (quoteVault.val.owner = .vaultAuthority market.key) .invalidVaultAuthority
  require (market.val.openOrderCount = 0) .marketHasOpenOrders
  require (fees.val.accruedQuoteFees = 0) .marketFeesNotEmpty
  require (baseVault.val.amount = 0 ∧ quoteVault.val.amount = 0) .marketVaultNotEmpty
  require faucetEmpty .faucetMustBeClosed
  require (state.shared.books.get (.sharedBook market.key) = none) .sharedBookMustBeClosed
  let tokens ← state.tokens.closeAccount baseVault.key (.vaultAuthority market.key)
  let tokens ← tokens.closeAccount quoteVault.key (.vaultAuthority market.key)
  pure { state with
    tokens := tokens
    spot := { state.spot with
      markets := state.spot.markets.erase market.key
      fees := state.spot.fees.erase fees.key } }

/-! ## Trader balances -/

def handleInitializeTraderBalance (spot : Spot) (owner : Wallet) (market : Pubkey) :
    Result Spot := do
  let market ← load spot.markets market
  vacant spot.balances (.traderBalance market.key owner.key)
  pure { spot with
    balances := spot.balances.set (.traderBalance market.key owner.key)
      ⟨market.key, owner.key, 0, 0, 0, 0⟩ }

def loadTraderBalance (spot : Spot) (market owner : Pubkey) : Result (Account TraderBalance) := do
  let balance ← load spot.balances (.traderBalance market owner)
  require (balance.val.market = market) .traderBalanceMarketMismatch
  require (balance.val.owner = owner) .traderBalanceOwnerMismatch
  pure balance

def TraderBalance.deposit (balance : TraderBalance) (market : Market) (mint : Pubkey)
    (amount : Nat) : Result TraderBalance :=
  if mint = market.baseMint then do
    let free ← checkedAdd balance.baseFree amount .freeBalanceOverflow
    pure { balance with baseFree := free }
  else if mint = market.quoteMint then do
    let free ← checkedAdd balance.quoteFree amount .freeBalanceOverflow
    pure { balance with quoteFree := free }
  else throw .invalidDepositMint

def TraderBalance.withdraw (balance : TraderBalance) (market : Market) (mint : Pubkey)
    (amount : Nat) (unknownMint : TidebookError) : Result TraderBalance :=
  if mint = market.baseMint then do
    let free ← checkedSub balance.baseFree amount .insufficientFreeBalance
    pure { balance with baseFree := free }
  else if mint = market.quoteMint then do
    let free ← checkedSub balance.quoteFree amount .insufficientFreeBalance
    pure { balance with quoteFree := free }
  else throw unknownMint

def handleDeposit (state : State) (owner : Wallet) (market mint traderToken : Pubkey)
    (amount : Nat) : Result State := do
  let market ← load state.spot.markets market
  let balance ← loadTraderBalance state.spot market.key owner.key
  let _ ← load state.tokens.mints mint
  let source ← load state.tokens.accounts traderToken
  require (source.val.owner = owner.key) .traderBalanceOwnerMismatch
  require (source.val.mint = mint) .invalidDepositMint
  let vault ← loadVault state.tokens market.key mint
  require (amount > 0) .invalidDepositAmount
  require (source.val.amount ≥ amount) .insufficientDepositFunds
  let credited ← balance.val.deposit market.val mint amount
  let tokens ← state.tokens.transferChecked source.key mint vault.key owner.key amount
  pure { state with
    tokens := tokens
    spot := { state.spot with balances := state.spot.balances.set balance.key credited } }

def handleWithdraw (state : State) (owner : Wallet) (market mint ownerToken : Pubkey)
    (amount : Nat) : Result State := do
  let market ← load state.spot.markets market
  let balance ← loadTraderBalance state.spot market.key owner.key
  let _ ← load state.tokens.mints mint
  let destination ← load state.tokens.accounts ownerToken
  require (destination.val.owner = owner.key) .invalidWithdrawalDestinationOwner
  require (destination.val.mint = mint) .invalidWithdrawalMint
  let vault ← loadVault state.tokens market.key mint
  require (amount > 0) .invalidWithdrawalAmount
  let debited ← balance.val.withdraw market.val mint amount .invalidWithdrawalMint
  require (vault.val.amount ≥ amount) .insufficientVaultFunds
  let tokens ← state.tokens.transferChecked vault.key mint destination.key
    (.vaultAuthority market.key) amount
  pure { state with
    tokens := tokens
    spot := { state.spot with balances := state.spot.balances.set balance.key debited } }

def handleWithdrawProtocolFees (state : State) (superAdmin : Wallet)
    (market destination : Pubkey) (amount : Nat) : Result State := do
  let _ ← state.protocol.loadConfigAs superAdmin
  let market ← load state.spot.markets market
  require (market.key = .market market.val.baseMint market.val.quoteMint) .constraintSeeds
  let fees ← loadMarketFees state.spot market
  let quoteMint := market.val.quoteMint
  let _ ← load state.tokens.mints quoteMint
  let destination ← load state.tokens.accounts destination
  require (destination.val.mint = quoteMint) .invalidFeeDestinationMint
  let vault ← loadVault state.tokens market.key quoteMint
  require (amount > 0) .invalidFeeWithdrawalAmount
  let accrued ← checkedSub fees.val.accruedQuoteFees amount .insufficientAccruedFees
  require (vault.val.amount ≥ amount) .insufficientVaultFunds
  let tokens ← state.tokens.transferChecked vault.key quoteMint destination.key
    (.vaultAuthority market.key) amount
  pure { state with
    tokens := tokens
    spot := { state.spot with
      fees := state.spot.fees.set fees.key { fees.val with accruedQuoteFees := accrued } } }

end Tidebook.Program
