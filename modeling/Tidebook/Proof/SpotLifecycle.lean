import Tidebook.Proof.SpotFill

/-! # Spot markets and balances preserve the invariant

Everything that touches the spot ledger outside the order handlers: the lifecycle of a market,
new trader balances, and custody.
-/

namespace Tidebook.Proof
open Library Program

def mintOf (market : Market) : OrderSide → Pubkey
  | .bid => market.quoteMint
  | .ask => market.baseMint

/-! ## Markets -/

section Markets

variable {spot : Spot} {key : Pubkey} {market record : Market}

theorem SpotInvariant.absent (holds : SpotInvariant spot) (absent : spot.markets.get key = none)
    (found : Pubkey) (order : Order) (present : spot.orders.get found = some order)
    (home : order.market = key) : order.status ≠ .opened := by
  intro live
  obtain ⟨market, stored, _⟩ := holds.resting found order present live
  rw [home, absent] at stored
  cases stored

theorem SpotInvariant.uncounted (holds : SpotInvariant spot)
    (stored : spot.markets.get key = some market) (none_open : market.openOrderCount = 0)
    (found : Pubkey) (order : Order) (present : spot.orders.get found = some order)
    (home : order.market = key) : order.status ≠ .opened := by
  intro live
  have counted := holds.counts key market stored
  rw [none_open, eq_comm, Store.total_eq_zero] at counted
  have one := counted found order present
  simp [openIn, home, live] at one

theorem count_closed {orders : Store Pubkey Order}
    (closed : ∀ found order, orders.get found = some order → order.market = key →
      order.status ≠ .opened) : orders.total (openIn key) = 0 := by
  rw [Store.total_eq_zero]
  intro found order present
  simp only [openIn]
  rw [if_neg fun both => closed found order present both.1 both.2]

theorem SpotInvariant.retag (holds : SpotInvariant spot)
    (stored : spot.markets.get key = some market) (same : SameTerms market record)
    (best : record.best = market.best) (count : record.openOrderCount = market.openOrderCount) :
    SpotInvariant { spot with markets := spot.markets.set key record } where
  markets := keyed_market holds.markets stored same
  orders := holds.orders
  levels := holds.levels
  balances := holds.balances
  books := by
    refine holds.books.congr ?_
    rw [spotHeads_set, best, ← spotHeads_stored stored, Function.update_eq_self]
  resting found order present := (holds.resting found order present).update stored same
  counts found other present := by
    rw [Store.get_set] at present
    split at present
    · next same =>
        cases present
        rw [count, same]
        exact holds.counts key market stored
    · exact holds.counts found other present
  locks := holds.locks

theorem handlePauseMarket_ok {after : Spot} {authority : Wallet}
    (done : handlePauseMarket spot authority key = .ok after) :
    ∃ market, spot.markets.get key = some market ∧
      after = { spot with markets := spot.markets.set key { market with status := .paused } } := by
  simp only [handlePauseMarket, bind_eq_ok, load_eq_ok, require_eq_ok, pure_eq_ok] at done
  obtain ⟨⟨_, market⟩, ⟨rfl, stored⟩, _, -, _, -, rfl⟩ := done
  exact ⟨market, stored, rfl⟩

theorem handleUnpauseMarket_ok {after : Spot} {authority : Wallet}
    (done : handleUnpauseMarket spot authority key = .ok after) :
    ∃ market, spot.markets.get key = some market ∧
      after = { spot with markets := spot.markets.set key { market with status := .active } } := by
  simp only [handleUnpauseMarket, bind_eq_ok, load_eq_ok, require_eq_ok, pure_eq_ok] at done
  obtain ⟨⟨_, market⟩, ⟨rfl, stored⟩, _, -, _, -, rfl⟩ := done
  exact ⟨market, stored, rfl⟩

theorem SpotInvariant.restatus (holds : SpotInvariant spot)
    (stored : spot.markets.get key = some market) (status : MarketStatus) :
    SpotInvariant { spot with
      markets := spot.markets.set key { market with status := status } } :=
  holds.retag stored ⟨rfl, rfl, rfl, rfl, rfl, le_refl _⟩ (by funext side; cases side <;> rfl) rfl

theorem SpotInvariant.open_market {fees : Store Pubkey MarketFees} (holds : SpotInvariant spot)
    (absent : spot.markets.get (.market record.baseMint record.quoteMint) = none)
    (bid : record.bestBid = none) (ask : record.bestAsk = none)
    (count : record.openOrderCount = 0) :
    SpotInvariant { spot with
      markets := spot.markets.set (.market record.baseMint record.quoteMint) record
      fees := fees } where
  markets := holds.markets.set rfl
  orders := holds.orders
  levels := holds.levels
  balances := holds.balances
  books := by
    refine holds.books.congr ?_
    have before : spotHeads spot.markets (.market record.baseMint record.quoteMint) =
        record.best := by
      funext side
      cases side <;> simp [spotHeads, absent, Market.best, bid, ask]
    rw [spotHeads_set, ← before, Function.update_eq_self]
  resting found order present live := by
    obtain ⟨market, stored, rest⟩ := holds.resting found order present live
    refine ⟨market, ?_, rest⟩
    rw [Store.get_set_ne _ _ fun same => ?_, stored]
    rw [same, absent] at stored
    cases stored
  counts found other present := by
    rw [Store.get_set] at present
    split at present
    · next same =>
        cases present
        rw [count, same]
        exact (count_closed (holds.absent absent)).symm
    · exact holds.counts found other present
  locks := holds.locks

/-- A market is closed only without open orders, so no order loses its market. -/
theorem SpotInvariant.close_market {fees : Store Pubkey MarketFees} (holds : SpotInvariant spot)
    (stored : spot.markets.get key = some market) (none_open : market.openOrderCount = 0) :
    SpotInvariant { spot with markets := spot.markets.erase key, fees := fees } where
  markets := holds.markets.erase key
  orders := holds.orders
  levels := holds.levels
  balances := holds.balances
  books := by
    have closed := holds.uncounted stored none_open
    refine holds.books.congr ?_
    funext found side
    by_cases same : found = key
    · subst same
      have before := holds.books.no_heads (fun other order present home =>
        spotShelf_closed (closed other order present home)) side
      rw [before]
      simp [spotHeads]
    · simp [spotHeads, Store.get_erase, same]
  resting found order present live := by
    obtain ⟨home, known, rest⟩ := holds.resting found order present live
    refine ⟨home, ?_, rest⟩
    rw [Store.get_erase, if_neg fun same => ?_, known]
    exact holds.uncounted stored none_open found order present same live
  counts found other present := by
    rw [Store.get_erase] at present
    split at present
    · cases present
    · exact holds.counts found other present
  locks := holds.locks

end Markets

structure MarketOpening (state : State) (authority : Wallet) (baseMint quoteMint : Pubkey)
    (tick lot : Nat) where
  baseRecord : Mint
  quoteRecord : Mint
  middle : Tokens
  tokens : Tokens
  baseStored : state.tokens.mints.get baseMint = some baseRecord
  quoteStored : state.tokens.mints.get quoteMint = some quoteRecord
  absent : state.spot.markets.get (.market baseMint quoteMint) = none
  noFees : state.spot.fees.get (.marketFees (.market baseMint quoteMint)) = none
  different : baseMint ≠ quoteMint
  tick_pos : 0 < tick
  lot_pos : 0 < lot
  baseVault : state.tokens.initializeAccount (.vault (.market baseMint quoteMint) baseMint) baseMint
    (.vaultAuthority (.market baseMint quoteMint)) = .ok middle
  quoteVault : middle.initializeAccount (.vault (.market baseMint quoteMint) quoteMint) quoteMint
    (.vaultAuthority (.market baseMint quoteMint)) = .ok tokens

def MarketOpening.market {state : State} {authority : Wallet} {baseMint quoteMint : Pubkey}
    {tick lot : Nat} (opening : MarketOpening state authority baseMint quoteMint tick lot) :
    Market where
  authority := authority.key
  baseMint := baseMint
  quoteMint := quoteMint
  status := .active
  nextOrderId := 1
  baseDecimals := opening.baseRecord.decimals
  quoteDecimals := opening.quoteRecord.decimals
  priceTickSize := tick
  quantityLotSize := lot
  bestBid := none
  bestAsk := none
  openOrderCount := 0

theorem handleInitializeMarket_ok {state after : State} {authority : Wallet}
    {baseMint quoteMint : Pubkey} {tick lot : Nat}
    (done : handleInitializeMarket state authority baseMint quoteMint tick lot = .ok after) :
    ∃ opening : MarketOpening state authority baseMint quoteMint tick lot,
      after = { state with
        tokens := opening.tokens
        spot := { state.spot with
          markets := state.spot.markets.set (.market baseMint quoteMint) opening.market
          fees := state.spot.fees.set (.marketFees (.market baseMint quoteMint))
            ⟨.market baseMint quoteMint, quoteMint, 0⟩ } } := by
  simp only [handleInitializeMarket, bind_eq_ok, load_eq_ok, require_eq_ok, vacant_eq_ok,
    pure_eq_ok] at done
  obtain ⟨_, -, _, absent, _, noFees, ⟨_, base⟩, ⟨rfl, baseStored⟩, ⟨_, quote⟩, ⟨rfl, quoteStored⟩,
    _, different, middle, baseVault, tokens, quoteVault, _, tick, _, lot, rfl⟩ := done
  exact ⟨⟨base, quote, middle, tokens, baseStored, quoteStored, absent, noFees, different, tick, lot,
    baseVault, quoteVault⟩, rfl⟩

/-- A successful closing, with everything its checks established. -/
structure MarketClosing (state : State) (key : Pubkey) where
  market : Market
  fees : MarketFees
  baseVault : TokenAccount
  quoteVault : TokenAccount
  middle : Tokens
  tokens : Tokens
  stored : state.spot.markets.get key = some market
  paused : market.status = .paused
  feesStored : state.spot.fees.get (.marketFees key) = some fees
  baseStored : state.tokens.accounts.get (.vault key market.baseMint) = some baseVault
  quoteStored : state.tokens.accounts.get (.vault key market.quoteMint) = some quoteVault
  none_open : market.openOrderCount = 0
  no_fees : fees.accruedQuoteFees = 0
  base_empty : baseVault.amount = 0
  quote_empty : quoteVault.amount = 0
  unshared : state.shared.books.get (.sharedBook key) = none
  baseClosed : state.tokens.closeAccount (.vault key market.baseMint) (.vaultAuthority key) =
    .ok middle
  quoteClosed : middle.closeAccount (.vault key market.quoteMint) (.vaultAuthority key) = .ok tokens

theorem handleCloseMarket_ok {state after : State} {authority : Wallet} {key : Pubkey}
    {faucetEmpty : Bool} (done : handleCloseMarket state authority key faucetEmpty = .ok after) :
    ∃ closing : MarketClosing state key, after = { state with
      tokens := closing.tokens
      spot := { state.spot with
        markets := state.spot.markets.erase key
        fees := state.spot.fees.erase (.marketFees key) } } := by
  simp only [handleCloseMarket, bind_eq_ok, load_eq_ok, require_eq_ok, pure_eq_ok] at done
  obtain ⟨⟨_, market⟩, ⟨rfl, stored⟩, _, -, _, paused, fees, ownFees, ⟨_, baseVault⟩,
    ⟨rfl, baseStored⟩, _, -, _, -, ⟨_, quoteVault⟩, ⟨rfl, quoteStored⟩, _, -, _, -, _, none_open, _,
    no_fees, _, ⟨base_empty, quote_empty⟩, _, -, _, unshared, middle, baseClosed, tokens,
    quoteClosed, rfl⟩ := done
  obtain ⟨filed, feesStored⟩ := loadMarketFees_ok ownFees
  refine ⟨⟨market, fees.val, baseVault, quoteVault, middle, tokens, stored, paused, feesStored,
    baseStored, quoteStored, none_open, no_fees, base_empty, quote_empty, unshared, baseClosed,
    quoteClosed⟩, ?_⟩
  simp only [filed]

/-! ## Balances -/

section Balances

variable {spot : Spot} {state after : State}

/-- Custody changes what balances hold, never what their orders lock. -/
theorem SpotInvariant.rebalance {balances : Store Pubkey TraderBalance}
    {fees : Store Pubkey MarketFees} {out into : Pubkey → OrderSide → Nat}
    (holds : SpotInvariant spot) (edit : spotLedger.Edit spot.balances balances 0 0 out into) :
    SpotInvariant { spot with balances := balances, fees := fees } where
  markets := holds.markets
  orders := holds.orders
  levels := holds.levels
  balances := edit.filed holds.balances
  books := holds.books
  resting := holds.resting
  counts := holds.counts
  locks holder side := by
    have same := edit.locked holder side
    rw [Pi.zero_apply, Pi.zero_apply, Nat.add_zero, Nat.add_zero] at same
    rw [same]
    exact holds.locks holder side

theorem handleInitializeTraderBalance_ok {result : Spot} {owner : Wallet} {market : Pubkey}
    (done : handleInitializeTraderBalance spot owner market = .ok result) :
    spot.balances.get (spotLedger.file (market, owner.key)) = none ∧
      result = { spot with
        balances := spot.balances.set (spotLedger.file (market, owner.key))
          ⟨market, owner.key, 0, 0, 0, 0⟩ } := by
  simp only [handleInitializeTraderBalance, bind_eq_ok, load_eq_ok, vacant_eq_ok,
    pure_eq_ok] at done
  obtain ⟨⟨_, _⟩, ⟨rfl, _⟩, _, fresh, rfl⟩ := done
  exact ⟨fresh, rfl⟩

theorem SpotInvariant.open_balance {market owner : Pubkey} (holds : SpotInvariant spot)
    (fresh : spot.balances.get (spotLedger.file (market, owner)) = none) :
    SpotInvariant { spot with
      balances := spot.balances.set (spotLedger.file (market, owner))
        ⟨market, owner, 0, 0, 0, 0⟩ } where
  markets := holds.markets
  orders := holds.orders
  levels := holds.levels
  balances := by
    refine Store.Keyed.set holds.balances ?_
    rfl
  books := holds.books
  resting := holds.resting
  counts := holds.counts
  locks holder side := by
    have same := (Ledger.Edit.opened (⟨market, owner, 0, 0, 0, 0⟩ : TraderBalance) fresh
      (by rintro (_ | _) <;> rfl) (by rintro (_ | _) <;> rfl)).1 holder side
    rw [same]
    exact holds.locks holder side

theorem deposit_ok {balance credited : TraderBalance} {market : Market} {mint : Pubkey}
    {amount : Nat} (passed : balance.deposit market mint amount = .ok credited) :
    ∃ side, mint = mintOf market side ∧
      spotLedger.Move balance credited 0 0 0 (Pi.single side amount) := by
  simp only [TraderBalance.deposit, ite_eq_ok, bind_eq_ok, checkedAdd_eq_ok, pure_eq_ok,
    throw_ne_ok, and_false, or_false] at passed
  obtain ⟨isBase, _, ⟨_, rfl⟩, rfl⟩ | ⟨_, isQuote, _, ⟨_, rfl⟩, rfl⟩ := passed
  · refine ⟨.ask, isBase, rfl, fun side => ?_, fun side => ?_⟩ <;>
      cases side <;> simp [spotLedger, Nat.add_right_comm]
  · refine ⟨.bid, isQuote, rfl, fun side => ?_, fun side => ?_⟩ <;>
      cases side <;> simp [spotLedger, Nat.add_right_comm]

theorem withdraw_ok {balance debited : TraderBalance} {market : Market} {mint : Pubkey}
    {amount : Nat} {unknownMint : TidebookError}
    (passed : balance.withdraw market mint amount unknownMint = .ok debited) :
    ∃ side, mint = mintOf market side ∧
      spotLedger.Move balance debited 0 0 (Pi.single side amount) 0 := by
  simp only [TraderBalance.withdraw, ite_eq_ok, bind_eq_ok, checkedSub_eq_ok, pure_eq_ok,
    throw_ne_ok, and_false, or_false] at passed
  obtain ⟨isBase, _, ⟨enough, rfl⟩, rfl⟩ | ⟨_, isQuote, _, ⟨enough, rfl⟩, rfl⟩ := passed
  · refine ⟨.ask, isBase, rfl, fun side => ?_, fun side => ?_⟩ <;>
      cases side <;> simp [spotLedger]
    omega
  · refine ⟨.bid, isQuote, rfl, fun side => ?_, fun side => ?_⟩ <;>
      cases side <;> simp [spotLedger]
    omega

theorem loadVault_ok {tokens : Tokens} {market mint : Pubkey} {vault : Account TokenAccount}
    (passed : loadVault tokens market mint = .ok vault) : vault.key = .vault market mint := by
  simp only [loadVault, bind_eq_ok, load_eq_ok, require_eq_ok, pure_eq_ok] at passed
  obtain ⟨_, ⟨filed, _⟩, _, -, _, -, rfl⟩ := passed
  exact filed

/-- A trader's balance of one mint changes by what crosses the market's vault. -/
structure SpotCrossing (spot : Spot) (market owner mint : Pubkey) (out into : Nat) where
  record : Market
  side : OrderSide
  balance : TraderBalance
  changed : TraderBalance
  stored : spot.markets.get market = some record
  isMint : mint = mintOf record side
  balanceStored : spot.balances.get (.traderBalance market owner) = some balance
  move : spotLedger.Move balance changed 0 0 (Pi.single side out) (Pi.single side into)

variable {market owner mint : Pubkey} {out into : Nat}

def SpotCrossing.result (crossing : SpotCrossing spot market owner mint out into) : Spot :=
  { spot with balances := spot.balances.set (.traderBalance market owner) crossing.changed }

theorem SpotCrossing.ledger (crossing : SpotCrossing spot market owner mint out into)
    (holds : SpotInvariant spot) :
    spotLedger.Edit spot.balances crossing.result.balances 0 0
      (Ledger.single market (Pi.single crossing.side out))
      (Ledger.single market (Pi.single crossing.side into)) := by
  have written := balance_write holds.balances crossing.balanceStored crossing.move
  simp only [Ledger.single_zero] at written
  exact written

theorem handleDeposit_ok {wallet : Wallet} {token : Pubkey} {amount : Nat}
    (done : handleDeposit state wallet market mint token amount = .ok after) :
    ∃ (crossing : SpotCrossing state.spot market wallet.key mint 0 amount) (tokens : Tokens),
      state.tokens.transferChecked token mint (.vault market mint) wallet.key amount = .ok tokens ∧
        after = { state with tokens := tokens, spot := crossing.result } := by
  simp only [handleDeposit, bind_eq_ok, load_eq_ok, require_eq_ok, pure_eq_ok] at done
  obtain ⟨⟨_, record⟩, ⟨rfl, stored⟩, balance, ownBalance, _, -, ⟨_, source⟩, ⟨rfl, _⟩, _, -, _, -,
    vault, ownVault, _, -, _, -, credited, credit, tokens, transferred, rfl⟩ := done
  obtain ⟨filed, balanceStored, _, _⟩ := loadTraderBalance_ok ownBalance
  obtain ⟨side, isMint, move⟩ := deposit_ok credit
  have there := loadVault_ok ownVault
  dsimp only at *
  rw [there] at transferred
  refine ⟨⟨record, side, balance.val, credited, stored, isMint, balanceStored, ?_⟩, tokens,
    transferred, ?_⟩
  · rwa [Pi.single_zero]
  · simp only [SpotCrossing.result, filed]

theorem handleWithdraw_ok {wallet : Wallet} {token : Pubkey} {amount : Nat}
    (done : handleWithdraw state wallet market mint token amount = .ok after) :
    ∃ (crossing : SpotCrossing state.spot market wallet.key mint amount 0) (tokens : Tokens)
      (account : TokenAccount), state.tokens.accounts.get token = some account ∧
        account.owner = wallet.key ∧
        state.tokens.transferChecked (.vault market mint) mint token (.vaultAuthority market)
          amount = .ok tokens ∧
        after = { state with tokens := tokens, spot := crossing.result } := by
  simp only [handleWithdraw, bind_eq_ok, load_eq_ok, require_eq_ok, pure_eq_ok] at done
  obtain ⟨⟨_, record⟩, ⟨rfl, stored⟩, balance, ownBalance, _, -, ⟨_, account⟩, ⟨rfl, held⟩, _, owned,
    _, -, vault, ownVault, _, -, debited, debit, _, -, tokens, transferred, rfl⟩ := done
  obtain ⟨filed, balanceStored, _, _⟩ := loadTraderBalance_ok ownBalance
  obtain ⟨side, isMint, move⟩ := withdraw_ok debit
  have there := loadVault_ok ownVault
  dsimp only at *
  rw [there] at transferred
  refine ⟨⟨record, side, balance.val, debited, stored, isMint, balanceStored, ?_⟩, tokens, account,
    held, owned, transferred, ?_⟩
  · rwa [Pi.single_zero]
  · simp only [SpotCrossing.result, filed]

theorem handleWithdrawProtocolFees_ok {superAdmin : Wallet} {token : Pubkey} {amount : Nat}
    (done : handleWithdrawProtocolFees state superAdmin market token amount = .ok after) :
    ∃ record fees tokens, state.spot.markets.get market = some record ∧
      market = .market record.baseMint record.quoteMint ∧
      state.spot.fees.get (.marketFees market) = some fees ∧ amount ≤ fees.accruedQuoteFees ∧
      state.tokens.transferChecked (.vault market record.quoteMint) record.quoteMint token
        (.vaultAuthority market) amount = .ok tokens ∧
      after = { state with
        tokens := tokens
        spot := { state.spot with
          fees := state.spot.fees.set (.marketFees market)
            { fees with accruedQuoteFees := fees.accruedQuoteFees - amount } } } := by
  simp only [handleWithdrawProtocolFees, bind_eq_ok, load_eq_ok, require_eq_ok, checkedSub_eq_ok,
    pure_eq_ok] at done
  obtain ⟨_, -, ⟨_, record⟩, ⟨rfl, stored⟩, _, canonical, fees, ownFees, _, -, ⟨_, account⟩,
    ⟨rfl, _⟩, _, -, vault, ownVault, _, -, _, ⟨enough, rfl⟩, _, -, tokens, transferred, rfl⟩ := done
  obtain ⟨filed, feesStored⟩ := loadMarketFees_ok ownFees
  have there := loadVault_ok ownVault
  dsimp only at *
  rw [there] at transferred
  exact ⟨record, fees.val, tokens, stored, canonical, feesStored, enough, transferred,
    by simp only [filed]⟩

end Balances
end Tidebook.Proof
