import Tidebook.Program.Step

/-! # Tokens are conserved

What each operation of the token program does to the amount held at every address, and the
invariant of all token accounts: no mint circulates more than its supply, and the accounts that the
program opens keep their authority and mint.
-/

namespace Tidebook.Proof
open Library Program

/-- The authority and the mint of a token account that the program opens at an address. -/
def guardOf : Pubkey → Option (Pubkey × Pubkey)
  | .vault market mint => some (.vaultAuthority market, mint)
  | .assetVault mint => some (.assetAuthority mint, mint)
  | _ => none

def mintedAs (mint : Pubkey) (_ : Pubkey) (account : TokenAccount) : Nat :=
  if account.mint = mint then account.amount else 0

def circulation (tokens : Tokens) (mint : Pubkey) : Nat := tokens.accounts.total (mintedAs mint)

def supplyOn (tokens : Tokens) (mint : Pubkey) : Nat :=
  ((tokens.mints.get mint).map Mint.supply).getD 0

structure TokenInvariant (tokens : Tokens) : Prop where
  guarded : ∀ key account authority mint, tokens.accounts.get key = some account →
    guardOf key = some (authority, mint) → account.owner = authority ∧ account.mint = mint
  circulates : ∀ mint, circulation tokens mint ≤ supplyOn tokens mint
  fits : ∀ mint, supplyOn tokens mint ≤ u64Max

namespace TokenInvariant

variable {tokens : Tokens} {key other : Pubkey} {account : TokenAccount}

theorem amount_fits (holds : TokenInvariant tokens)
    (stored : tokens.accounts.get key = some account) : account.amount ≤ u64Max := by
  have bound := Store.le_total (f := mintedAs account.mint) stored
  rw [mintedAs, if_pos rfl] at bound
  exact le_trans bound (le_trans (holds.circulates account.mint) (holds.fits account.mint))

theorem pair_fits (holds : TokenInvariant tokens) {second : TokenAccount}
    (stored : tokens.accounts.get key = some account)
    (also : tokens.accounts.get other = some second) (different : key ≠ other)
    (same : second.mint = account.mint) : account.amount + second.amount ≤ u64Max := by
  have bound := Store.pair_le_total (f := mintedAs account.mint) stored also different
  rw [mintedAs, if_pos rfl, mintedAs, if_pos same] at bound
  exact le_trans bound (le_trans (holds.circulates account.mint) (holds.fits account.mint))

theorem unguarded (holds : TokenInvariant tokens)
    (stored : tokens.accounts.get key = some account) {wallet : Wallet}
    (owned : account.owner = wallet.key) : guardOf key = none := by
  cases guard : guardOf key with
  | none => rfl
  | some pair =>
      obtain ⟨authority, mint⟩ := pair
      obtain ⟨owner, -⟩ := holds.guarded key account authority mint stored guard
      rw [owned] at owner
      cases key <;> simp only [guardOf, reduceCtorEq, Option.some.injEq, Prod.mk.injEq] at guard
      all_goals
        obtain ⟨rfl, -⟩ := guard
        cases owner

end TokenInvariant

/-! ## Transfers -/

/-- A transfer as the amounts held at every address. -/
structure Shift (before after : Tokens) (source destination : Pubkey) (amount : Nat) : Prop where
  mints : after.mints = before.mints
  identities : ∀ key, (after.accounts.get key).map (fun account => (account.mint, account.owner)) =
    (before.accounts.get key).map fun account => (account.mint, account.owner)
  held : ∀ key, after.held key + (if key = source then amount else 0) =
    before.held key + if key = destination then amount else 0
  circulation : ∀ mint, circulation after mint = circulation before mint

theorem transferChecked_shift {before after : Tokens}
    {source mint destination authority : Pubkey} {amount : Nat}
    (done : before.transferChecked source mint destination authority amount = .ok after) :
    Shift before after source destination amount ∧ ∃ account,
      before.accounts.get source = some account ∧ account.owner = authority ∧
        account.mint = mint := by
  simp only [Tokens.transferChecked, bind_eq_ok, load_eq_ok, require_eq_ok] at done
  obtain ⟨⟨source, giver⟩, ⟨rfl, hasSource⟩, ⟨destination, taker⟩, ⟨rfl, hasDestination⟩, _, enough, _, same, _,
    isMint, _, owned, done⟩ := done
  dsimp only at *
  refine ⟨?_, giver, hasSource, owned.symm, isMint⟩
  by_cases apart : source = destination
  · rw [if_pos apart, pure_eq_ok] at done
    subst done apart
    exact ⟨rfl, fun _ => rfl, fun _ => rfl, fun _ => rfl⟩
  simp only [if_neg apart, bind_eq_ok, checkedAdd_eq_ok, pure_eq_ok, save] at done
  obtain ⟨_, ⟨_, rfl⟩, rfl⟩ := done
  refine ⟨rfl, fun key => ?_, fun key => ?_, fun other => ?_⟩
  · simp only [Store.get_set]
    split
    · next home =>
        rw [home, hasDestination]
        rfl
    · split
      · next home =>
          rw [home, hasSource]
          rfl
      · rfl
  · simp only [Tokens.held, Store.get_set]
    by_cases first : key = source
    · subst first
      rw [if_pos rfl, if_neg apart, if_neg apart, if_pos rfl, hasSource]
      simp only [Option.map_some, Option.getD_some]
      omega
    · simp only [if_neg first]
      by_cases second : key = destination
      · subst second
        rw [if_pos rfl, if_pos rfl, hasDestination]
        rfl
      · rw [if_neg second, if_neg second]
  · have debited := Store.total_set_old (f := mintedAs other) hasSource
      { giver with amount := giver.amount - amount }
    have stays : (before.accounts.set source { giver with amount := giver.amount - amount }).get
        destination = some taker := by
      rw [Store.get_set_ne _ _ (Ne.symm apart), hasDestination]
    have credited := Store.total_set_old (f := mintedAs other) stays
      { taker with amount := taker.amount + amount }
    simp only [mintedAs, same] at debited credited
    simp only [circulation]
    split at credited <;> simp_all only [if_true, if_false] <;> omega

theorem TokenInvariant.shift {before after : Tokens} {source destination : Pubkey} {amount : Nat}
    (holds : TokenInvariant before) (shift : Shift before after source destination amount) :
    TokenInvariant after where
  guarded key account authority mint stored guard := by
    have same := shift.identities key
    rw [stored, Option.map_some, eq_comm, Option.map_eq_some_iff] at same
    obtain ⟨old, present, identity⟩ := same
    obtain ⟨mints, owners⟩ := Prod.mk.inj identity
    rw [← mints, ← owners]
    exact holds.guarded key old authority mint present guard
  circulates mint := by
    rw [shift.circulation, supplyOn, shift.mints]
    exact holds.circulates mint
  fits mint := by
    rw [supplyOn, shift.mints]
    exact holds.fits mint

/-! ## Accounts and mints -/

section Accounts

variable {before after : Tokens} {key mint owner : Pubkey}

theorem initializeAccount_ok (done : before.initializeAccount key mint owner = .ok after) :
    before.accounts.get key = none ∧
      after = { before with accounts := before.accounts.set key ⟨mint, owner, 0⟩ } := by
  simp only [Tokens.initializeAccount, bind_eq_ok, vacant_eq_ok, pure_eq_ok] at done
  obtain ⟨_, fresh, rfl⟩ := done
  exact ⟨fresh, rfl⟩

theorem initializeAccount_held (done : before.initializeAccount key mint owner = .ok after)
    (other : Pubkey) : after.held other = before.held other := by
  obtain ⟨fresh, rfl⟩ := initializeAccount_ok done
  simp only [Tokens.held, Store.get_set]
  split
  · next same => simp [same, fresh]
  · rfl

theorem TokenInvariant.open_account (holds : TokenInvariant before)
    (done : before.initializeAccount key mint owner = .ok after)
    (guard : guardOf key = none ∨ guardOf key = some (owner, mint)) : TokenInvariant after := by
  obtain ⟨fresh, rfl⟩ := initializeAccount_ok done
  refine ⟨fun found account authority other stored guarded => ?_, fun other => ?_, holds.fits⟩
  · rw [Store.get_set] at stored
    split at stored
    · next same =>
        cases stored
        rw [same] at guarded
        rcases guard with unguarded | guard
        · rw [unguarded] at guarded
          cases guarded
        · rw [guard, Option.some.injEq, Prod.mk.injEq] at guarded
          exact guarded
    · exact holds.guarded found account authority other stored guarded
  · have bound := holds.circulates other
    rw [circulation, Store.total_set_new fresh, mintedAs, ite_self, Nat.add_zero]
    exact bound

theorem closeAccount_ok (done : before.closeAccount key owner = .ok after) :
    ∃ account, before.accounts.get key = some account ∧ account.amount = 0 ∧
      after = { before with accounts := before.accounts.erase key } := by
  simp only [Tokens.closeAccount, bind_eq_ok, load_eq_ok, require_eq_ok, pure_eq_ok] at done
  obtain ⟨⟨_, account⟩, ⟨rfl, stored⟩, _, empty, _, -, rfl⟩ := done
  exact ⟨account, stored, empty, rfl⟩

theorem closeAccount_held (done : before.closeAccount key owner = .ok after) (other : Pubkey) :
    after.held other = before.held other := by
  obtain ⟨account, stored, empty, rfl⟩ := closeAccount_ok done
  simp only [Tokens.held, Store.get_erase]
  split
  · next same => simp [same, stored, empty]
  · rfl

theorem TokenInvariant.close_account (holds : TokenInvariant before)
    (done : before.closeAccount key owner = .ok after) : TokenInvariant after := by
  obtain ⟨account, stored, empty, rfl⟩ := closeAccount_ok done
  refine ⟨fun found other authority asset present guarded => ?_, fun asset => ?_, holds.fits⟩
  · rw [Store.get_erase] at present
    split at present
    · cases present
    · exact holds.guarded found other authority asset present guarded
  · have erased := Store.total_erase_old (f := mintedAs asset) stored
    have bound := holds.circulates asset
    simp only [circulation, supplyOn] at *
    omega

end Accounts

/-! ## Issue and destruction -/

section Supply

variable {before after : Tokens} {mint key authority : Pubkey} {amount decimals : Nat}

theorem initializeMint_ok (done : before.initializeMint key decimals = .ok after) :
    before.mints.get key = none ∧
      after = { before with mints := before.mints.set key ⟨decimals, 0⟩ } := by
  simp only [Tokens.initializeMint, bind_eq_ok, vacant_eq_ok, pure_eq_ok] at done
  obtain ⟨_, fresh, rfl⟩ := done
  exact ⟨fresh, rfl⟩

theorem supplyOn_set (tokens : Tokens) (mint : Pubkey) (record : Mint) (other : Pubkey) :
    supplyOn { tokens with mints := tokens.mints.set mint record } other =
      if other = mint then record.supply else supplyOn tokens other := by
  simp only [supplyOn, Store.get_set]
  split <;> simp

theorem TokenInvariant.open_mint (holds : TokenInvariant before)
    (done : before.initializeMint key decimals = .ok after) : TokenInvariant after := by
  obtain ⟨fresh, rfl⟩ := initializeMint_ok done
  have none_yet : supplyOn before key = 0 := by simp [supplyOn, fresh]
  refine ⟨holds.guarded, fun mint => ?_, fun mint => ?_⟩
  · have bound := holds.circulates mint
    rw [supplyOn_set]
    split
    · next same =>
        rw [same, none_yet] at bound
        rw [same]
        exact bound
    · exact bound
  · rw [supplyOn_set]
    split
    · exact Nat.zero_le _
    · exact holds.fits mint

theorem mintTo_ok (done : before.mintTo mint key amount = .ok after) :
    ∃ record account, before.mints.get mint = some record ∧
      before.accounts.get key = some account ∧ account.mint = mint ∧
      record.supply + amount ≤ u64Max ∧
      after = {
        mints := before.mints.set mint { record with supply := record.supply + amount }
        accounts := before.accounts.set key { account with amount := account.amount + amount } } := by
  simp only [Tokens.mintTo, bind_eq_ok, load_eq_ok, require_eq_ok, checkedAdd_eq_ok,
    pure_eq_ok] at done
  obtain ⟨⟨mint, record⟩, ⟨rfl, known⟩, ⟨key, account⟩, ⟨rfl, stored⟩, _, same, _, ⟨fits, rfl⟩, _,
    ⟨_, rfl⟩, rfl⟩ := done
  exact ⟨record, account, known, stored, same, fits, rfl⟩

theorem mintTo_held (done : before.mintTo mint key amount = .ok after) (other : Pubkey) :
    after.held other = before.held other + if other = key then amount else 0 := by
  obtain ⟨record, account, -, stored, -, -, rfl⟩ := mintTo_ok done
  simp only [Tokens.held, Store.get_set]
  split
  · next same =>
      rw [same, stored]
      rfl
  · rfl

theorem burn_ok (done : before.burn key authority amount = .ok after) :
    ∃ record account, before.accounts.get key = some account ∧
      before.mints.get account.mint = some record ∧ account.owner = authority ∧
      amount ≤ account.amount ∧ amount ≤ record.supply ∧
      after = {
        mints := before.mints.set account.mint { record with supply := record.supply - amount }
        accounts := before.accounts.set key { account with amount := account.amount - amount } } := by
  simp only [Tokens.burn, bind_eq_ok, load_eq_ok, require_eq_ok, checkedSub_eq_ok,
    pure_eq_ok] at done
  obtain ⟨⟨key, account⟩, ⟨rfl, stored⟩, ⟨_, record⟩, ⟨rfl, known⟩, _, owned, _, ⟨enough, rfl⟩, _,
    ⟨supplied, rfl⟩, rfl⟩ := done
  exact ⟨record, account, stored, known, owned.symm, enough, supplied, rfl⟩

theorem burn_held (done : before.burn key authority amount = .ok after) {other : Pubkey}
    (different : other ≠ key) : after.held other = before.held other := by
  obtain ⟨record, account, -, -, -, -, -, rfl⟩ := burn_ok done
  simp only [Tokens.held, Store.get_set_ne _ _ different]

theorem TokenInvariant.resupply {account : TokenAccount} {record : Mint} {left supply : Nat}
    (holds : TokenInvariant before) (stored : before.accounts.get key = some account)
    (known : before.mints.get account.mint = some record)
    (moved : left + record.supply = account.amount + supply) (fits : supply ≤ u64Max) :
    TokenInvariant ⟨before.mints.set account.mint { record with supply := supply },
      before.accounts.set key { account with amount := left }⟩ where
  guarded found other owner asset present guard := by
    rw [Store.get_set] at present
    split at present
    · next same =>
        cases present
        exact holds.guarded key account owner asset stored (same ▸ guard)
    · exact holds.guarded found other owner asset present guard
  circulates asset := by
    have changed := Store.total_set_old (f := mintedAs asset) stored { account with amount := left }
    have bound := holds.circulates asset
    have before := supplyOn_set before account.mint { record with supply := supply } asset
    simp only [supplyOn, circulation, mintedAs] at changed bound before ⊢
    rw [before]
    by_cases same : asset = account.mint
    · subst same
      rw [known] at bound
      simp only [if_true, Option.map_some, Option.getD_some] at changed bound ⊢
      omega
    · rw [if_neg same]
      rw [if_neg (Ne.symm same), if_neg (Ne.symm same)] at changed
      omega
  fits asset := by
    have before := supplyOn_set before account.mint { record with supply := supply } asset
    simp only [supplyOn] at before ⊢
    rw [before]
    split
    · exact fits
    · exact holds.fits asset

theorem TokenInvariant.mint_to (holds : TokenInvariant before)
    (done : before.mintTo mint key amount = .ok after) : TokenInvariant after := by
  obtain ⟨record, account, known, stored, rfl, fits, rfl⟩ := mintTo_ok done
  exact holds.resupply stored known (by omega) fits

theorem TokenInvariant.burn (holds : TokenInvariant before)
    (done : before.burn key authority amount = .ok after) : TokenInvariant after := by
  obtain ⟨record, account, stored, known, -, enough, supplied, rfl⟩ := burn_ok done
  have bound := holds.fits account.mint
  simp only [supplyOn, known, Option.map_some, Option.getD_some] at bound
  exact holds.resupply stored known (by omega) (by omega)

end Supply
end Tidebook.Proof
