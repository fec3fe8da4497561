import Tidebook.Library.Checked

/-! # Addresses

A program-derived address is the constructor named after its seed namespace, applied to the
remaining seeds. Distinct seeds therefore give distinct addresses, and no derived address has a
key pair: only `Pubkey.key` addresses sign transactions.
-/

namespace Tidebook.Program

inductive OrderSide where
  | bid
  | ask
  deriving DecidableEq

inductive PredictionOutcome where
  | yes
  | no
  deriving DecidableEq

inductive SharedOutcome where
  | spot
  | yes
  | no
  deriving DecidableEq

inductive Pubkey where
  | key (id : Nat)
  | protocolConfig
  | admin (authority : Pubkey)
  | market (baseMint quoteMint : Pubkey)
  | marketFees (market : Pubkey)
  | vaultAuthority (market : Pubkey)
  | vault (market mint : Pubkey)
  | order (market : Pubkey) (orderId : Nat)
  | priceLevel (market : Pubkey) (side : OrderSide) (price : Nat)
  | traderBalance (market owner : Pubkey)
  | predictionMarket (marketId : Nat)
  | predictionPosition (market owner : Pubkey)
  | predictionBook (market : Pubkey)
  | predictionLevel (market : Pubkey) (outcome : PredictionOutcome) (side : OrderSide) (price : Nat)
  | predictionOrder (market : Pubkey) (orderId : Nat)
  | assetBalance (owner mint : Pubkey)
  | assetVault (mint : Pubkey)
  | assetAuthority (mint : Pubkey)
  | sharedBook (market : Pubkey)
  | sharedOrder (book : Pubkey) (orderId : Nat)
  | sharedLevel (book : Pubkey) (outcome : SharedOutcome) (side : OrderSide) (price : Nat)
  deriving DecidableEq

/-- The all-zero address, which also marks a freshly allocated account. -/
def Pubkey.default : Pubkey := .key 0

/-- A signer: the owner of a key pair. -/
structure Wallet where
  id : Nat
  deriving DecidableEq

def Wallet.key (wallet : Wallet) : Pubkey := .key wallet.id

theorem Wallet.key_inj {first second : Wallet} (same : first.key = second.key) :
    first = second := by
  cases first
  cases second
  simpa [Wallet.key] using same

end Tidebook.Program
