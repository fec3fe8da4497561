import Tidebook.Program.Matching

/-! # Token program

The operations of the token program that the handlers invoke, and those with which key holders
reach token accounts from outside: minting, burning and transfers. No account is ever frozen.
-/

namespace Tidebook.Program
open Tidebook.Library

namespace Tokens

/-- `transfer_checked`. A transfer to its own source is checked and then changes nothing. -/
def transferChecked (tokens : Tokens) (source mint destination authority : Pubkey) (amount : Nat) :
    Result Tokens := do
  let sourceAccount ← load tokens.accounts source
  let destinationAccount ← load tokens.accounts destination
  require (amount ≤ sourceAccount.val.amount) .tokenInsufficientFunds
  require (sourceAccount.val.mint = destinationAccount.val.mint) .tokenMintMismatch
  require (sourceAccount.val.mint = mint) .tokenMintMismatch
  require (authority = sourceAccount.val.owner) .tokenOwnerMismatch
  if source = destination then pure tokens
  else do
    let credited ← checkedAdd destinationAccount.val.amount amount .tokenOverflow
    let debited := { sourceAccount with
      val := { sourceAccount.val with amount := sourceAccount.val.amount - amount } }
    let credited := { destinationAccount with
      val := { destinationAccount.val with amount := credited } }
    pure { tokens with accounts := save (save tokens.accounts debited) credited }

def initializeAccount (tokens : Tokens) (key mint owner : Pubkey) : Result Tokens := do
  vacant tokens.accounts key
  pure { tokens with accounts := tokens.accounts.set key ⟨mint, owner, 0⟩ }

def closeAccount (tokens : Tokens) (key authority : Pubkey) : Result Tokens := do
  let account ← load tokens.accounts key
  require (account.val.amount = 0) .tokenNonNativeHasBalance
  require (authority = account.val.owner) .tokenOwnerMismatch
  pure { tokens with accounts := tokens.accounts.erase key }

def initializeMint (tokens : Tokens) (key : Pubkey) (decimals : Nat) : Result Tokens := do
  vacant tokens.mints key
  pure { tokens with mints := tokens.mints.set key ⟨decimals, 0⟩ }

def mintTo (tokens : Tokens) (mint destination : Pubkey) (amount : Nat) : Result Tokens := do
  let mintAccount ← load tokens.mints mint
  let account ← load tokens.accounts destination
  require (account.val.mint = mint) .tokenMintMismatch
  let supply ← checkedAdd mintAccount.val.supply amount .tokenOverflow
  let credited ← checkedAdd account.val.amount amount .tokenOverflow
  pure { mints := tokens.mints.set mint { mintAccount.val with supply := supply }
         accounts := tokens.accounts.set destination { account.val with amount := credited } }

def burn (tokens : Tokens) (source authority : Pubkey) (amount : Nat) : Result Tokens := do
  let account ← load tokens.accounts source
  let mintAccount ← load tokens.mints account.val.mint
  require (authority = account.val.owner) .tokenOwnerMismatch
  let debited ← checkedSub account.val.amount amount .tokenInsufficientFunds
  let supply ← checkedSub mintAccount.val.supply amount .tokenOverflow
  pure { mints := tokens.mints.set mintAccount.key { mintAccount.val with supply := supply }
         accounts := tokens.accounts.set source { account.val with amount := debited } }

/-- Tokens held at an address, none when there is no account. -/
def held (tokens : Tokens) (key : Pubkey) : Nat :=
  ((tokens.accounts.get key).map TokenAccount.amount).getD 0

end Tokens

section Transfer

variable {before : Tokens} {source mint destination authority : Pubkey} {amount : Nat}

theorem transferChecked_total (apart : source ≠ destination) {sender receiver : TokenAccount}
    (hasSource : before.accounts.get source = some sender)
    (hasDestination : before.accounts.get destination = some receiver)
    (sourceMint : sender.mint = mint) (destinationMint : receiver.mint = mint)
    (owned : sender.owner = authority) (enough : amount ≤ sender.amount)
    (fits : receiver.amount + amount ≤ u64Max) :
    ∃ after, before.transferChecked source mint destination authority amount = .ok after := by
  simp only [Tokens.transferChecked, bind_eq_ok, load_eq_ok, require_eq_ok, if_neg apart,
    checkedAdd_eq_ok, pure_eq_ok]
  exact ⟨_, ⟨source, sender⟩, ⟨rfl, hasSource⟩, ⟨destination, receiver⟩, ⟨rfl, hasDestination⟩, (),
    enough, (), sourceMint.trans destinationMint.symm, (), sourceMint, (), owned.symm, _,
    ⟨fits, rfl⟩, rfl⟩

end Transfer
end Tidebook.Program
