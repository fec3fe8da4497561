import Tidebook.Library.Store
import Tidebook.Program.Error

/-! # Accounts

The program's account layouts. Amounts, prices and identifiers are natural numbers that the
handlers keep inside the width of their field; timestamps are integers. Bumps, labels and rent
are not represented.
-/

namespace Tidebook.Program
open Tidebook.Library

inductive MarketStatus where
  | active
  | paused
  deriving DecidableEq

inductive MarketKind where
  | spot
  | prediction
  | other
  deriving DecidableEq

inductive OrderStatus where
  | opened
  | filled
  | canceled
  deriving DecidableEq

inductive AdminStatus where
  | active
  | disabled
  deriving DecidableEq

inductive PredictionResolution where
  | yes
  | no
  | invalid
  deriving DecidableEq

inductive PredictionStatus where
  | draft
  | opened
  | frozen
  | proposed
  | resolved
  deriving DecidableEq

inductive PredictionResolutionPhase where
  | primary
  | fallback
  deriving DecidableEq

/-! ## Governance -/

structure ProtocolConfig where
  superAdmin : Pubkey
  takerFeeBps : Nat

structure AdminRecord where
  authority : Pubkey
  addedBy : Pubkey
  status : AdminStatus

/-! ## Spot markets -/

structure Market where
  authority : Pubkey
  baseMint : Pubkey
  quoteMint : Pubkey
  status : MarketStatus
  nextOrderId : Nat
  baseDecimals : Nat
  quoteDecimals : Nat
  priceTickSize : Nat
  quantityLotSize : Nat
  bestBid : Option Nat
  bestAsk : Option Nat
  openOrderCount : Nat

structure MarketFees where
  market : Pubkey
  quoteMint : Pubkey
  accruedQuoteFees : Nat

structure TraderBalance where
  market : Pubkey
  owner : Pubkey
  baseFree : Nat
  baseLocked : Nat
  quoteFree : Nat
  quoteLocked : Nat

structure Order where
  owner : Pubkey
  market : Pubkey
  orderId : Nat
  side : OrderSide
  price : Nat
  priceLevel : Pubkey
  previousOrder : Option Pubkey
  nextOrder : Option Pubkey
  quantity : Nat
  remainingQuantity : Nat
  lockedCollateral : Nat
  status : OrderStatus

structure PriceLevel where
  market : Pubkey
  side : OrderSide
  price : Nat
  betterPrice : Option Nat
  worsePrice : Option Nat
  firstOrder : Option Pubkey
  lastOrder : Option Pubkey
  totalRemainingQuantity : Nat
  orderCount : Nat
  rentPayer : Pubkey

/-! ## Prediction markets -/

structure PredictionFallback where
  resolver : Pubkey
  availableTs : Int
  deadlineTs : Option Int

structure PredictionProposal where
  outcome : PredictionResolution
  proposedAt : Int
  evidenceUri : List Char
  evidenceHash : Nat

structure PredictionMarket where
  marketId : Nat
  authority : Pubkey
  resolver : Pubkey
  fallback : Option PredictionFallback
  collateralMint : Pubkey
  collateralVault : Pubkey
  questionHash : Nat
  rulesHash : Nat
  rulesUri : List Char
  closeTs : Int
  earliestResolutionTs : Option Int
  resolutionDelaySeconds : Nat
  resolutionPhase : PredictionResolutionPhase
  status : PredictionStatus
  proposal : Option PredictionProposal
  finalOutcome : Option PredictionResolution
  payoutPerContract : Nat
  priceTick : Nat
  yesSupply : Nat
  noSupply : Nat
  backingReserve : Nat
  openOrderCount : Nat

structure PredictionPosition where
  market : Pubkey
  owner : Pubkey
  collateralFree : Nat
  collateralLocked : Nat
  yesFree : Nat
  yesLocked : Nat
  noFree : Nat
  noLocked : Nat

structure PredictionOrderBook where
  market : Pubkey
  nextOrderId : Nat
  yesBestBid : Option Nat
  yesBestAsk : Option Nat
  noBestBid : Option Nat
  noBestAsk : Option Nat

structure PredictionPriceLevel where
  market : Pubkey
  outcome : PredictionOutcome
  side : OrderSide
  price : Nat
  betterPrice : Option Nat
  worsePrice : Option Nat
  firstOrder : Option Pubkey
  lastOrder : Option Pubkey
  totalRemainingQuantity : Nat
  orderCount : Nat
  rentPayer : Pubkey

structure PredictionOrder where
  owner : Pubkey
  market : Pubkey
  orderId : Nat
  outcome : PredictionOutcome
  side : OrderSide
  price : Nat
  priceLevel : Pubkey
  previousOrder : Option Pubkey
  nextOrder : Option Pubkey
  quantity : Nat
  remainingQuantity : Nat
  lockedCollateral : Nat
  status : OrderStatus

/-! ## Shared wallets and books -/

structure AssetBalance where
  owner : Pubkey
  mint : Pubkey
  free : Nat
  locked : Nat

/-- A book has a list for each side of each outcome. -/
instance fourLists : NeZero 4 := Nat.instNeZeroSucc

structure SharedBook where
  market : Pubkey
  authority : Pubkey
  kind : MarketKind
  baseMint : Pubkey
  quoteMint : Pubkey
  baseDecimals : Nat
  quoteDecimals : Nat
  priceTick : Nat
  quantityLot : Nat
  payoutPerContract : Nat
  bestPrices : Fin 4 → Option Nat
  nextOrderId : Nat
  openOrderCount : Nat
  accruedQuoteFees : Nat

structure SharedOrder where
  owner : Pubkey
  market : Pubkey
  book : Pubkey
  orderId : Nat
  outcome : SharedOutcome
  side : OrderSide
  price : Nat
  priceLevel : Pubkey
  previousOrder : Option Pubkey
  nextOrder : Option Pubkey
  quantity : Nat
  remainingQuantity : Nat
  lockedCollateral : Nat
  status : OrderStatus

structure SharedPriceLevel where
  book : Pubkey
  market : Pubkey
  outcome : SharedOutcome
  side : OrderSide
  price : Nat
  betterPrice : Option Nat
  worsePrice : Option Nat
  firstOrder : Option Pubkey
  lastOrder : Option Pubkey
  totalRemainingQuantity : Nat
  orderCount : Nat
  rentPayer : Pubkey

/-! ## Tokens -/

structure Mint where
  decimals : Nat
  supply : Nat

structure TokenAccount where
  mint : Pubkey
  owner : Pubkey
  amount : Nat

/-! ## The ledger -/

structure Protocol where
  upgradeAuthority : Option Pubkey
  config : Option ProtocolConfig
  admins : Store Pubkey AdminRecord

structure Tokens where
  mints : Store Pubkey Mint
  accounts : Store Pubkey TokenAccount

structure Spot where
  markets : Store Pubkey Market
  fees : Store Pubkey MarketFees
  balances : Store Pubkey TraderBalance
  orders : Store Pubkey Order
  levels : Store Pubkey PriceLevel

structure Prediction where
  markets : Store Pubkey PredictionMarket
  fees : Store Pubkey MarketFees
  books : Store Pubkey PredictionOrderBook
  positions : Store Pubkey PredictionPosition
  orders : Store Pubkey PredictionOrder
  levels : Store Pubkey PredictionPriceLevel

structure Shared where
  assets : Store Pubkey AssetBalance
  books : Store Pubkey SharedBook
  orders : Store Pubkey SharedOrder
  levels : Store Pubkey SharedPriceLevel

structure State where
  now : Int
  protocol : Protocol
  tokens : Tokens
  spot : Spot
  prediction : Prediction
  shared : Shared

/-! ## Loading and saving -/

/-- A loaded account: its address beside the record a handler edits. -/
structure Account (α : Type) where
  key : Pubkey
  val : α

section Accounts

variable {α : Type}

def Account.map (change : α → α) (account : Account α) : Account α :=
  { account with val := change account.val }

def load (store : Store Pubkey α) (key : Pubkey) : Result (Account α) :=
  match store.get key with
  | some val => .ok ⟨key, val⟩
  | none => .error .accountNotInitialized

def loadOption (store : Store Pubkey α) : Option Pubkey → Result (Option (Account α))
  | some key => match load store key with
      | .ok account => .ok (some account)
      | .error failure => .error failure
  | none => .ok none

/-- An `init` account must not exist yet. -/
def vacant (store : Store Pubkey α) (key : Pubkey) : Result Unit :=
  require (store.get key = none) .accountAlreadyInUse

def save (store : Store Pubkey α) (account : Account α) : Store Pubkey α :=
  store.set account.key account.val

def saveOption (store : Store Pubkey α) : Option (Account α) → Store Pubkey α
  | some account => save store account
  | none => store

@[simp] theorem load_eq_ok {store : Store Pubkey α} {key : Pubkey} {account : Account α} :
    load store key = .ok account ↔ account.key = key ∧ store.get key = some account.val := by
  unfold load
  cases store.get key with
  | none => simp
  | some val => cases account; simp [eq_comm]

@[simp] theorem load_eq_error {store : Store Pubkey α} {key : Pubkey} {failure : TidebookError} :
    load store key = .error failure ↔ store.get key = none ∧ failure = .accountNotInitialized := by
  unfold load
  cases store.get key with
  | none => simp [eq_comm]
  | some val => simp

@[simp] theorem loadOption_eq_ok {store : Store Pubkey α} {key : Option Pubkey}
    {account : Option (Account α)} :
    loadOption store key = .ok account ↔ key = account.map Account.key ∧
      ∀ loaded ∈ account, store.get loaded.key = some loaded.val := by
  cases key with
  | none => cases account <;> simp [loadOption]
  | some key =>
      cases found : load store key with
      | error failure =>
          cases account with
          | none => simp [loadOption, found]
          | some account =>
              simp only [loadOption, found, Option.map_some, Option.some.injEq, Option.mem_some_iff,
                forall_eq', false_iff, reduceCtorEq]
              rintro ⟨rfl, stored⟩
              have loaded := load_eq_ok.mpr ⟨rfl, stored⟩
              rw [found] at loaded
              cases loaded
      | ok loaded =>
          obtain ⟨rfl, stored⟩ := load_eq_ok.mp found
          cases account with
          | none => simp [loadOption, found]
          | some account =>
              simp only [loadOption, found, Except.ok.injEq, Option.some.injEq, Option.map_some,
                Option.mem_some_iff, forall_eq']
              constructor
              · rintro rfl
                exact ⟨rfl, stored⟩
              · rintro ⟨same, also⟩
                rw [← same, stored, Option.some.injEq] at also
                cases loaded
                cases account
                simp_all

@[simp] theorem vacant_eq_ok {store : Store Pubkey α} {key : Pubkey} {done : Unit} :
    vacant store key = .ok done ↔ store.get key = none := require_eq_ok

end Accounts
end Tidebook.Program
