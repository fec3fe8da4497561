import Tidebook.Library.Drain
import Tidebook.Proof.Consent
import Tidebook.Proof.Reachable

/-! # Leaving a spot market

Whatever the others did, a trader gets all claims on a spot market back into its own token accounts
by instructions that it alone signs.
-/

namespace Tidebook.Proof
open Library Program

/-! ## Cancelling everything -/

def openOf (market owner : Pubkey) (_ : Pubkey) (order : Order) : Nat :=
  if order.market = market ∧ order.owner = owner ∧ order.status = .opened then 1 else 0

theorem Cancellation.open_left {spot : Spot} {owner : Wallet} {key : Pubkey} {orderId : Nat}
    (leaving : Cancellation spot owner key orderId) :
    leaving.result.orders.total (openOf key owner.key) + 1 =
      spot.orders.total (openOf key owner.key) := by
  have relinked : leaving.result.orders.total (openOf key owner.key) =
      (spot.orders.set (.order key orderId) (canceled leaving.order)).total
        (openOf key owner.key) :=
    Shelf.relink_total (fun _ _ _ => rfl) (fun _ _ _ => rfl)
  have written := Store.total_set_old (f := openOf key owner.key) leaving.orderStored
    (canceled leaving.order)
  have counted : openOf key owner.key (.order key orderId) leaving.order = 1 :=
    if_pos ⟨leaving.home, leaving.own, leaving.live⟩
  have gone : openOf key owner.key (.order key orderId) (canceled leaving.order) = 0 := by
    apply if_neg
    intro open_
    cases open_.2.2
  omega

/-- How far a trader has come on its way out of a market: the market stands, no token has moved,
and what its balance holds on each side is what it held at first. -/
structure Departing (first : State) (held : OrderSide → Nat) (market owner : Pubkey)
    (state : State) : Prop where
  reachable : Reachable state
  stands : state.spot.markets.get market ≠ none
  tokens : state.tokens = first.tokens
  holding : ∃ balance, state.spot.balances.get (.traderBalance market owner) = some balance ∧
    ∀ side, spotLedger.free balance side + spotLedger.locked balance side = held side

theorem Departing.cancel {first state : State} {held : OrderSide → Nat} {market : Pubkey}
    {owner : Wallet} (departing : Departing first held market owner.key state)
    (left : state.spot.orders.total (openOf market owner.key) ≠ 0) :
    ∃ exit after, signer exit = some owner ∧ execute state exit = .ok after ∧
      Departing first held market owner.key after ∧
      after.spot.orders.total (openOf market owner.key) <
        state.spot.orders.total (openOf market owner.key) := by
  obtain ⟨reachable, known, tokens, balance, stored, sum⟩ := departing
  have holds := reachable.invariant
  have some_open : ∃ key order, state.spot.orders.get key = some order ∧ order.market = market ∧
      order.owner = owner.key ∧ order.status = .opened := by
    by_contra none_open
    apply left
    rw [Store.total_eq_zero]
    intro key order present
    apply if_neg
    rintro ⟨home, own, live⟩
    exact none_open ⟨key, order, present, home, own, live⟩
  obtain ⟨key, order, present, rfl, own, live⟩ := some_open
  obtain ⟨level, after, orderId, -, -, done, -⟩ :=
    spot_exit holds reachable.solvent reachable.entered present live own
  obtain ⟨spot, canceled, rfl⟩ := onSpot_ok done
  obtain ⟨leaving, rfl⟩ := handleCancelLimitOrder_ok holds.spot canceled
  have fewer := leaving.open_left
  refine ⟨_, _, rfl, done, ⟨reachable.execute done, Store.set_ne_none known, tokens,
    leaving.released, Store.get_set_self _ _ _, fun side => ?_⟩, ?_⟩
  · have same : leaving.balance = balance :=
      Option.some.inj (leaving.balanceStored.symm.trans stored)
    obtain ⟨-, enough, released⟩ := unlock_eq_ok.mp leaving.unlock
    rw [← sum side, ← same, released]
    cases leaves : leaving.order.side <;> rw [leaves] at enough <;> cases side <;>
      simp only [spotLedger, TraderBalance.refunded] at enough ⊢ <;> omega
  · exact Nat.lt_of_succ_le fewer.le

/-! ## Withdrawing everything -/

def TokenAt (tokens : Tokens) (key mint owner : Pubkey) : Prop :=
  (tokens.accounts.get key).map (fun account => (account.mint, account.owner)) = some (mint, owner)

theorem TokenAt.stored {tokens : Tokens} {key mint owner : Pubkey}
    (found : TokenAt tokens key mint owner) : ∃ account,
      tokens.accounts.get key = some account ∧ account.mint = mint ∧ account.owner = owner := by
  obtain ⟨account, stored, same⟩ := Option.map_eq_some_iff.mp found
  exact ⟨account, stored, (Prod.mk.inj same).1, (Prod.mk.inj same).2⟩

theorem TokenAt.shift {before after : Tokens} {source destination key mint owner : Pubkey}
    {amount : Nat} (found : TokenAt before key mint owner)
    (shift : Shift before after source destination amount) : TokenAt after key mint owner :=
  (shift.identities key).trans found

theorem TokenInvariant.has_mint {tokens : Tokens} (holds : TokenInvariant tokens) {key : Pubkey}
    {account : TokenAccount} (stored : tokens.accounts.get key = some account)
    (funded : 0 < account.amount) : ∃ mint, tokens.mints.get account.mint = some mint := by
  have bound := Store.le_total (f := mintedAs account.mint) stored
  have circulates := holds.circulates account.mint
  rw [mintedAs, if_pos rfl] at bound
  rw [circulation, supplyOn] at circulates
  cases found : tokens.mints.get account.mint with
  | none =>
      rw [found, Option.map_none, Option.getD_none] at circulates
      omega
  | some mint => exact ⟨mint, rfl⟩

def emptied (balance : TraderBalance) : OrderSide → TraderBalance
  | .bid => { balance with quoteFree := 0 }
  | .ask => { balance with baseFree := 0 }

theorem withdraw_emptied {balance : TraderBalance} {market : Market} {unknownMint : TidebookError}
    (different : market.baseMint ≠ market.quoteMint) (side : OrderSide) :
    balance.withdraw market (mintOf market side) (spotLedger.free balance side) unknownMint =
      .ok (emptied balance side) := by
  cases side with
  | bid =>
      simp only [TraderBalance.withdraw, mintOf, if_neg different.symm, if_true, bind_eq_ok,
        checkedSub_eq_ok, pure_eq_ok, emptied]
      exact ⟨0, ⟨le_rfl, (Nat.sub_self _).symm⟩, rfl⟩
  | ask =>
      simp only [TraderBalance.withdraw, mintOf, if_true, bind_eq_ok, checkedSub_eq_ok, pure_eq_ok,
        emptied]
      exact ⟨0, ⟨le_rfl, (Nat.sub_self _).symm⟩, rfl⟩

section Withdraw

variable {state : State} {market : Pubkey} {record : Market} {owner : Wallet}
variable {balance : TraderBalance} {token : Pubkey} {side : OrderSide}

theorem handleWithdraw_total (holds : Invariant state) (solvent : Solvent state)
    (marketStored : state.spot.markets.get market = some record)
    (held : state.spot.balances.get (.traderBalance market owner.key) = some balance)
    (own : TokenAt state.tokens token (mintOf record side) owner.key)
    (free : 0 < spotLedger.free balance side) : ∃ tokens,
      handleWithdraw state owner market (mintOf record side) token (spotLedger.free balance side) =
        .ok { state with
          tokens := tokens
          spot := { state.spot with
            balances := state.spot.balances.set (.traderBalance market owner.key)
              (emptied balance side) } } ∧
      Shift state.tokens tokens (.vault market (mintOf record side)) token
        (spotLedger.free balance side) := by
  obtain ⟨destination, destinationStored, destinationMint, owned⟩ := own.stored
  obtain ⟨balanceHome, balanceOwner⟩ :=
    Pubkey.traderBalance.inj (holds.spot.balances _ balance held)
  have covered : spotLedger.free balance side ≤ owed state (.vault market (mintOf record side)) := by
    have bound := spotLedger.held_le held side
    have home : spotLedger.pool (spotLedger.holder balance) = market := balanceHome.symm
    obtain ⟨rfl, -⟩ := holds.canonical market record marketStored
    rw [home] at bound
    cases side <;> simp only [owed, spotOwed, mintOf, if_true] at bound ⊢ <;> omega
  have solid := solvent (.vault market (mintOf record side)) (by simp [guardOf])
  cases vaultStored : state.tokens.accounts.get (.vault market (mintOf record side)) with
  | none =>
      simp only [Tokens.held, vaultStored, Option.map_none, Option.getD_none] at solid
      omega
  | some vault =>
      simp only [Tokens.held, vaultStored, Option.map_some, Option.getD_some] at solid
      obtain ⟨authority, vaultMint⟩ := holds.tokens.guarded _ vault _ _ vaultStored rfl
      obtain ⟨mint, mintStored⟩ := holds.tokens.has_mint vaultStored (by omega)
      have apart : Pubkey.vault market (mintOf record side) ≠ token := by
        intro same
        have open_ := holds.tokens.unguarded destinationStored owned
        rw [← same] at open_
        cases open_
      have together := holds.tokens.pair_fits vaultStored destinationStored apart
        (destinationMint.trans vaultMint.symm)
      have moves : ∃ tokens, state.tokens.transferChecked (.vault market (mintOf record side))
          (mintOf record side) token (.vaultAuthority market) (spotLedger.free balance side) =
            .ok tokens := by
        apply transferChecked_total apart vaultStored destinationStored vaultMint destinationMint
          authority
        · exact covered.trans solid
        · omega
      obtain ⟨tokens, moved⟩ := moves
      refine ⟨tokens, ?_, (transferChecked_shift moved).1⟩
      simp only [handleWithdraw, loadTraderBalance, bind_eq_ok, load_eq_ok, require_eq_ok,
        pure_eq_ok]
      exact ⟨⟨market, record⟩, ⟨rfl, marketStored⟩, _,
        ⟨⟨.traderBalance market owner.key, balance⟩, ⟨rfl, held⟩, (), balanceHome.symm, (),
          balanceOwner.symm, rfl⟩, ⟨_, mint⟩, ⟨rfl, vaultMint ▸ mintStored⟩, ⟨token, destination⟩,
        ⟨rfl, destinationStored⟩, (), owned, (), destinationMint, _,
        loadVault_total holds vaultStored, (), free, _,
        withdraw_emptied (holds.canonical market record marketStored).2 side, (),
        covered.trans solid, tokens, moved, rfl⟩

/-- One side of a balance has gone to a token account of its owner; the market and the orders are as
they were. -/
structure Withdrawn (state after : State) (market owner token : Pubkey) (balance : TraderBalance)
    (side : OrderSide) : Prop where
  reachable : Reachable after
  markets : after.spot.markets = state.spot.markets
  orders : after.spot.orders = state.spot.orders
  left : after.spot.balances.get (.traderBalance market owner) = some (emptied balance side)
  accounts : ∀ key mint owner, TokenAt state.tokens key mint owner →
    TokenAt after.tokens key mint owner
  paid : ∀ key, guardOf key = none → after.tokens.held key =
    state.tokens.held key + if key = token then spotLedger.free balance side else 0

theorem withdraw_side (reachable : Reachable state)
    (marketStored : state.spot.markets.get market = some record)
    (held : state.spot.balances.get (.traderBalance market owner.key) = some balance)
    (own : TokenAt state.tokens token (mintOf record side) owner.key) :
    ∃ (exits : List Instruction) (after : State),
      (∀ exit ∈ exits, signer exit = some owner) ∧ exits.foldlM execute state = .ok after ∧
      Withdrawn state after market owner.key token balance side := by
  by_cases free : spotLedger.free balance side = 0
  · have same : emptied balance side = balance := by
      cases side
      all_goals
        simp only [spotLedger] at free
        simp only [emptied, ← free]
    refine ⟨[], state, by simp, rfl, reachable, rfl, rfl, by rw [same, held], fun _ _ _ => id, ?_⟩
    intro key _
    rw [free, ite_self, Nat.add_zero]
  · obtain ⟨tokens, done, shift⟩ := handleWithdraw_total reachable.invariant reachable.solvent
      marketStored held own (Nat.pos_of_ne_zero free)
    have fits : spotLedger.free balance side ≤ u64Max := (Nat.le_add_right _ _).trans
      (balance_fits reachable.invariant reachable.solvent marketStored held side)
    obtain ⟨amount, number⟩ := fits_uint64 fits
    have executed : execute state (.withdraw owner market (mintOf record side) token amount) =
        .ok { state with
          tokens := tokens
          spot := { state.spot with
            balances := state.spot.balances.set (.traderBalance market owner.key)
              (emptied balance side) } } := by
      rw [← number] at done
      exact done
    refine ⟨[_], _, by simp [signer], foldlM_singleton_ok executed, reachable.execute executed, rfl,
      rfl, Store.get_set_self _ _ _, fun key mint owner found => found.shift shift, ?_⟩
    intro key unguarded
    have elsewhere : key ≠ .vault market (mintOf record side) := by
      rintro rfl
      cases unguarded
    have moved := shift.held key
    rwa [if_neg elsewhere, Nat.add_zero] at moved

end Withdraw

/-! ## Leaving -/

section Leave

variable {state : State} {market : Pubkey} {record : Market} {owner : Wallet}
variable {balance : TraderBalance}

/-- A trader can cancel all its orders on a market; its balance is then free, and otherwise what it
was. -/
theorem cancel_all (reachable : Reachable state)
    (stands : state.spot.markets.get market ≠ none)
    (held : state.spot.balances.get (.traderBalance market owner.key) = some balance) :
    ∃ (exits : List Instruction) (after : State), (∀ exit ∈ exits, signer exit = some owner) ∧
      exits.foldlM execute state = .ok after ∧ Reachable after ∧
      after.spot.markets.get market ≠ none ∧ after.tokens = state.tokens ∧
      after.spot.orders.total (openOf market owner.key) = 0 ∧
      after.spot.balances.get (.traderBalance market owner.key) =
        some ⟨market, owner.key, balance.baseFree + balance.baseLocked, 0,
          balance.quoteFree + balance.quoteLocked, 0⟩ := by
  have start : Departing state
      (fun side => spotLedger.free balance side + spotLedger.locked balance side) market owner.key
      state := ⟨reachable, stands, rfl, balance, held, fun _ => rfl⟩
  obtain ⟨exits, after, signed, ran, ⟨reached, stays, tokens, later, stored, sum⟩, none_left⟩ :=
    drain (fun state => state.spot.orders.total (openOf market owner.key))
      (fun _ departing left => departing.cancel left) start
  have holds := reached.invariant
  have unlocked (side : OrderSide) : spotLedger.locked later side = 0 := by
    have filed : after.spot.balances.get (spotLedger.file (market, owner.key)) = some later := stored
    rw [← Ledger.lockedOf_stored filed, holds.spot.locks, Store.total_eq_zero]
    intro key order present
    have closed := Store.total_eq_zero.mp none_left key order present
    rw [openOf, ite_eq_right_iff] at closed
    apply if_neg
    rintro ⟨live, same, -⟩
    obtain ⟨home, own⟩ := Prod.mk.inj same
    cases closed ⟨home, own, live⟩
  refine ⟨exits, after, signed, ran, reached, stays, tokens, none_left, ?_⟩
  obtain ⟨home, own⟩ := Pubkey.traderBalance.inj (holds.spot.balances _ later stored)
  have base := sum .ask
  have quote := sum .bid
  have baseUnlocked := unlocked .ask
  have quoteUnlocked := unlocked .bid
  simp only [spotLedger] at base quote baseUnlocked quoteUnlocked
  rw [stored, Option.some.injEq, TraderBalance.mk.injEq]
  exact ⟨home.symm, own.symm, by omega, baseUnlocked, by omega, quoteUnlocked⟩

end Leave

/-- After any run, and whatever the others do not do, a trader gets everything it has on a spot
market back into token accounts of its own, as long as these are not frozen, by instructions that
it alone signs. -/
theorem spot_trader_can_leave (genesis : Genesis) (events : List Event) {state : State}
    (reached : (genesis.after events).state = state) {market : Pubkey} {record : Market}
    {owner : Wallet} {balance : TraderBalance} {baseToken quoteToken : Pubkey}
    (stands : state.spot.markets.get market = some record)
    (held : state.spot.balances.get (.traderBalance market owner.key) = some balance)
    (base : TokenAt state.tokens baseToken record.baseMint owner.key)
    (quote : TokenAt state.tokens quoteToken record.quoteMint owner.key) :
    ∃ (exits : List Instruction) (after : State), (∀ exit ∈ exits, signer exit = some owner) ∧
      exits.foldlM execute state = .ok after ∧
      (∀ key order, after.spot.orders.get key = some order → order.market = market →
        order.owner = owner.key → order.status ≠ .opened) ∧
      after.spot.balances.get (.traderBalance market owner.key) =
        some ⟨market, owner.key, 0, 0, 0, 0⟩ ∧
      after.tokens.held baseToken =
        state.tokens.held baseToken + (balance.baseFree + balance.baseLocked) ∧
      after.tokens.held quoteToken =
        state.tokens.held quoteToken + (balance.quoteFree + balance.quoteLocked) := by
  have reachable : Reachable state := ⟨genesis, events, reached⟩
  have known : state.spot.markets.get market ≠ none := by simp [stands]
  obtain ⟨cancels, idle, cancelSigned, canceled, idleReached, idleStands, sameTokens, none_left,
    idleHeld⟩ := cancel_all reachable known held
  obtain ⟨present, idleStored⟩ := Option.ne_none_iff_exists'.mp idleStands
  -- The address of a market names its mints, so they are still the same.
  obtain ⟨rfl, different⟩ := reachable.invariant.canonical market record stands
  obtain ⟨baseMint, quoteMint⟩ :=
    Pubkey.market.inj (idleReached.invariant.canonical _ present idleStored).1
  have baseOwn : TokenAt idle.tokens baseToken (mintOf present .ask) owner.key := by
    rw [sameTokens, mintOf, ← baseMint]
    exact base
  have quoteOwn : TokenAt idle.tokens quoteToken (mintOf present .bid) owner.key := by
    rw [sameTokens, mintOf, ← quoteMint]
    exact quote
  obtain ⟨baseExits, half, baseSigned, baseRan, baseOut⟩ :=
    withdraw_side idleReached idleStored idleHeld baseOwn
  have halfStored := (congrArg (Store.get · _) baseOut.markets).trans idleStored
  obtain ⟨quoteExits, after, quoteSigned, quoteRan, quoteOut⟩ := withdraw_side baseOut.reachable
    halfStored baseOut.left (baseOut.accounts _ _ _ quoteOwn)
  have unguarded {token mint : Pubkey} (found : TokenAt state.tokens token mint owner.key) :
      guardOf token = none := by
    obtain ⟨account, stored, -, owned⟩ := found.stored
    exact reachable.invariant.tokens.unguarded stored owned
  have apart : baseToken ≠ quoteToken := by
    rintro rfl
    exact different (Prod.mk.inj (Option.some.inj (base.symm.trans quote))).1
  refine ⟨cancels ++ (baseExits ++ quoteExits), after, ?_,
    foldlM_append_ok canceled (foldlM_append_ok baseRan quoteRan), ?_, quoteOut.left, ?_, ?_⟩
  · intro exit member
    simp only [List.mem_append] at member
    rcases member with first | second | third
    · exact cancelSigned exit first
    · exact baseSigned exit second
    · exact quoteSigned exit third
  · intro key order stored home own live
    rw [quoteOut.orders, baseOut.orders] at stored
    have gone := Store.total_eq_zero.mp none_left key order stored
    rw [openOf, if_pos ⟨home, own, live⟩] at gone
    cases gone
  · rw [quoteOut.paid _ (unguarded base), if_neg apart, Nat.add_zero,
      baseOut.paid _ (unguarded base), if_pos rfl, sameTokens]
    rfl
  · rw [quoteOut.paid _ (unguarded quote), if_pos rfl, baseOut.paid _ (unguarded quote),
      if_neg apart.symm, Nat.add_zero, sameTokens]
    rfl

set_option maxRecDepth 4096 in
/-- Alice leaves with her hundred base atoms, ten of which were locked in an ask. -/
theorem spot_trader_can_leave_traded : ∃ (exits : List Instruction) (after : State),
    (∀ exit ∈ exits, signer exit = some Sample.alice) ∧
      exits.foldlM execute Sample.traded = .ok after ∧
      after.tokens.held (.key 21) = Sample.traded.tokens.held (.key 21) + (90 + 10) := by
  have facts : (Sample.traded.spot.markets.get Sample.spot).map
        (fun market => (market.baseMint, market.quoteMint)) = some (Sample.base, Sample.quote) ∧
      (Sample.traded.spot.balances.get (.traderBalance Sample.spot Sample.alice.key)).map
        (fun balance => (balance.baseFree, balance.baseLocked)) = some (90, 10) ∧
      TokenAt Sample.traded.tokens (.key 21) Sample.base Sample.alice.key ∧
      TokenAt Sample.traded.tokens (.key 20) Sample.quote Sample.alice.key := by
    simp only [TokenAt]
    decide +kernel
  obtain ⟨market, balance, base, quote⟩ := facts
  obtain ⟨record, stands, mints⟩ := Option.map_eq_some_iff.mp market
  obtain ⟨stored, held, amounts⟩ := Option.map_eq_some_iff.mp balance
  obtain ⟨isBase, isQuote⟩ := Prod.mk.inj mints
  obtain ⟨isFree, isLocked⟩ := Prod.mk.inj amounts
  rw [← isBase] at base
  rw [← isQuote] at quote
  obtain ⟨exits, after, signed, ran, -, -, paid, -⟩ := spot_trader_can_leave Sample.start
    (Sample.funding ++ Sample.opening ++ Sample.trading) rfl stands held base quote
  rw [isFree, isLocked] at paid
  exact ⟨exits, after, signed, ran, paid⟩

end Tidebook.Proof
