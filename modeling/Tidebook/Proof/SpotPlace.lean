import Tidebook.Proof.SpotInvariant

/-! # Spot placements -/

namespace Tidebook.Proof
open Library Program

section Collateral

variable {market record : Market} {side : OrderSide} {price quantity amount : Nat}

theorem checkGrid_ok {done : Unit} (passed : market.checkGrid price quantity = .ok done) :
    0 < price ∧ 0 < quantity ∧ market.priceTickSize ∣ price ∧
      market.quantityLotSize ∣ quantity := by
  simpa [Market.checkGrid, bind_eq_ok] using passed

theorem collateral_ok (passed : market.collateral side price quantity = .ok amount) :
    10 ^ market.baseDecimals ≤ u128Max ∧ 0 < price * quantity / 10 ^ market.baseDecimals ∧
      (side = .bid → amount = price * quantity / 10 ^ market.baseDecimals) ∧
      (side = .ask → amount = quantity) := by
  simp only [Market.collateral, bind_eq_ok, notional_eq_ok, require_eq_ok] at passed
  obtain ⟨_, ⟨scale, _, rfl⟩, _, some_quote, passed⟩ := passed
  cases side with
  | bid =>
      rw [toU64_eq_ok] at passed
      exact ⟨scale, some_quote, fun _ => passed.2, fun other => by cases other⟩
  | ask =>
      rw [pure_eq_ok] at passed
      exact ⟨scale, some_quote, fun other => (by cases other), fun _ => passed.symm⟩

def submitted (market : Market) : Market :=
  { market with
    nextOrderId := market.nextOrderId + 1, openOrderCount := market.openOrderCount + 1 }

theorem submit_ok (passed : market.submit = .ok record) : record = submitted market := by
  simp only [Market.submit, bind_eq_ok, checkedAdd_eq_ok, pure_eq_ok] at passed
  obtain ⟨_, ⟨_, rfl⟩, _, ⟨_, rfl⟩, rfl⟩ := passed
  rfl

theorem submitted_terms (market : Market) : SameTerms market (submitted market) :=
  ⟨rfl, rfl, rfl, rfl, rfl, Nat.le_succ _⟩

theorem newOrder_rests {trader key : Pubkey} {previous : Option Pubkey}
    (gridded : market.checkGrid price quantity = .ok ())
    (backed : market.collateral side price quantity = .ok amount) (priceFits : price ≤ u64Max)
    (quantityFits : quantity ≤ u64Max) (terms : SameTerms market record)
    (later : market.nextOrderId < record.nextOrderId) :
    Resting record (newOrder trader key market.nextOrderId side price quantity amount previous) := by
  obtain ⟨price_pos, quantity_pos, tick, lot⟩ := checkGrid_ok gridded
  obtain ⟨scale, _, bid, ask⟩ := collateral_ok backed
  refine ⟨price_pos, priceFits, ?_, quantity_pos, le_refl _, quantityFits, ?_, ?_, fun isBid => ?_,
    ask, rfl, later⟩
  · exact terms.tick ▸ tick
  · exact terms.lot ▸ lot
  · rw [terms.decimals]
    exact scale
  · rw [terms.decimals]
    exact (bid isBid).ge

end Collateral

section Balance

variable {balance changed : TraderBalance} {side : OrderSide} {amount : Nat}

theorem lock_ok (passed : balance.lock side amount = .ok changed) :
    spotLedger.Move balance changed 0 (Pi.single side amount) 0 0 := by
  cases side <;>
  · simp only [TraderBalance.lock, bind_eq_ok, checkedSub_eq_ok, checkedAdd_eq_ok,
      pure_eq_ok] at passed
    obtain ⟨_, ⟨enough, rfl⟩, _, ⟨_, rfl⟩, rfl⟩ := passed
    refine ⟨rfl, fun other => ?_, fun other => ?_⟩
    · cases other <;> simp [spotLedger]
    · cases other <;> simp only [spotLedger, Pi.zero_apply]
      omega

theorem unlock_ok (passed : balance.unlock side amount = .ok changed) :
    spotLedger.Move balance changed (Pi.single side amount) 0 0 0 := by
  cases side <;>
  · simp only [TraderBalance.unlock, bind_eq_ok, checkedSub_eq_ok, checkedAdd_eq_ok,
      pure_eq_ok] at passed
    obtain ⟨_, ⟨_, rfl⟩, _, ⟨enough, rfl⟩, rfl⟩ := passed
    refine ⟨rfl, fun other => ?_, fun other => ?_⟩
    · cases other <;> simp [spotLedger, enough]
    · cases other <;> simp only [spotLedger, Pi.zero_apply]
      omega

theorem loadTraderBalance_ok {spot : Spot} {market owner : Pubkey} {account : Account TraderBalance}
    (passed : loadTraderBalance spot market owner = .ok account) :
    account.key = .traderBalance market owner ∧
      spot.balances.get (.traderBalance market owner) = some account.val ∧
      account.val.market = market ∧ account.val.owner = owner := by
  simp only [loadTraderBalance, bind_eq_ok, load_eq_ok, require_eq_ok, pure_eq_ok] at passed
  obtain ⟨_, ⟨filed, stored⟩, _, ofMarket, _, ofOwner, rfl⟩ := passed
  exact ⟨filed, stored, ofMarket, ofOwner⟩

theorem balance_write {balances : Store Pubkey TraderBalance} {market owner : Pubkey}
    {lost gained out into : OrderSide → Nat} (filed : spotLedger.Filed balances)
    (stored : balances.get (.traderBalance market owner) = some balance)
    (move : spotLedger.Move balance changed lost gained out into) :
    spotLedger.Edit balances (balances.set (.traderBalance market owner) changed)
      (Ledger.single (market, owner) lost) (Ledger.single (market, owner) gained)
      (Ledger.single market out) (Ledger.single market into) := by
  have there : balances.get (spotLedger.file (market, owner)) = some balance := stored
  exact Ledger.Edit.write filed there move

end Balance

theorem newOrder_openIn {trader key : Pubkey} {orderId price quantity amount : Nat}
    {side : OrderSide} {previous : Option Pubkey} (orderKey : Pubkey) :
    openIn key orderKey (newOrder trader key orderId side price quantity amount previous) = 1 := by
  simp [openIn, newOrder]

theorem SpotInvariant.earlier {spot : Spot} (holds : SpotInvariant spot) {key : Pubkey}
    {market : Market} (stored : spot.markets.get key = some market) (other : Pubkey)
    (order : Order) (present : spot.orders.get other = some order) (home : order.market = key)
    (live : spotShelf.live order) : order.orderId < market.nextOrderId := by
  obtain ⟨found, homeStored, rest⟩ := holds.resting other order present (spotShelf_live.mp live)
  rw [home, stored] at homeStored
  cases homeStored
  exact rest.earlier

/-! ## Insertion -/

/-- An insertion that passed every check of its handler. -/
structure Insertion (spot : Spot) (trader : Wallet) (key : Pubkey) (side : OrderSide)
    (price quantity : Nat) where
  market : Market
  balance : TraderBalance
  locked : TraderBalance
  amount : Nat
  better : Option Nat
  worse : Option Nat
  stored : spot.markets.get key = some market
  active : market.status = .active
  freshOrder : spot.orders.get (.order key market.nextOrderId) = none
  freshLevel : spot.levels.get (.priceLevel key side price) = none
  balanceStored : spot.balances.get (.traderBalance key trader.key) = some balance
  gridded : market.checkGrid price quantity = .ok ()
  adjacent : Adjacent OrderSide.Precedes
    (spotShelf.book (spotHeads spot.markets) spot.orders spot.levels key) (side, price) better worse
  backed : market.collateral side price quantity = .ok amount
  lock : balance.lock side amount = .ok locked

def Insertion.result {spot : Spot} {trader : Wallet} {key : Pubkey} {side : OrderSide}
    {price quantity : Nat} (placed : Insertion spot trader key side price quantity) : Spot :=
  { spot with
    markets := spot.markets.set key
      (if placed.better = none then (submitted placed.market).setBest side (some price)
        else submitted placed.market)
    orders := spot.orders.set (.order key placed.market.nextOrderId)
      (newOrder trader.key key placed.market.nextOrderId side price quantity placed.amount none)
    levels := spotShelf.relevel key side (spot.levels.set (.priceLevel key side price)
      (newLevel trader.key key side price quantity (.order key placed.market.nextOrderId)
        placed.better placed.worse)) placed.better placed.worse (some price) (some price)
    balances := spot.balances.set (.traderBalance key trader.key) placed.locked }

theorem validateLevel_ok {level : Account PriceLevel} {market : Pubkey} {side : OrderSide}
    {done : Unit} (passed : validateLevel level market side = .ok done) :
    level.val.market = market ∧ level.val.side = side ∧
      level.key = .priceLevel market side level.val.price := by
  simpa [validateLevel, bind_eq_ok] using passed

/-- What the hint checks leave of the two supplied levels. -/
structure Hints (market : Pubkey) (side : OrderSide) (price : Nat) (best : Option Nat)
    (better worse : Option (Account PriceLevel)) : Prop where
  betterKey : ∀ level ∈ better, level.key = .priceLevel market side level.val.price
  worseKey : ∀ level ∈ worse, level.key = .priceLevel market side level.val.price
  above : ∀ level ∈ better, side.Precedes level.val.price price ∧
    level.val.worsePrice = worse.map fun value => value.val.price
  below : ∀ level ∈ worse, side.Precedes price level.val.price
  first : better = none → (worse.map fun value => value.val.price) = best

theorem checkAdjacency_ok {market : Pubkey} {side : OrderSide} {price : Nat} {best : Option Nat}
    {better worse : Option (Account PriceLevel)} {done : Unit}
    (passed : checkAdjacency market side price best better worse = .ok done) :
    Hints market side price best better worse := by
  cases better with
  | none =>
      cases worse with
      | none =>
          cases best with
          | none => exact ⟨by simp, by simp, by simp, by simp, fun _ => rfl⟩
          | some best => simp [checkAdjacency] at passed
      | some worse =>
          cases best with
          | none => simp [checkAdjacency] at passed
          | some best =>
              simp only [checkAdjacency, bind_eq_ok, require_eq_ok] at passed
              obtain ⟨_, valid, _, isBest, _, -, ordered⟩ := passed
              have canonical := (validateLevel_ok valid).2.2
              refine ⟨by simp, ?_, by simp, ?_, fun _ => ?_⟩
              · simpa using canonical
              · simpa using ordered
              · simpa using isBest
  | some better =>
      cases best with
      | none => cases worse <;> simp [checkAdjacency] at passed
      | some best =>
          cases worse with
          | none =>
              simp only [checkAdjacency, bind_eq_ok, require_eq_ok] at passed
              obtain ⟨_, valid, _, last, ordered⟩ := passed
              have canonical := (validateLevel_ok valid).2.2
              refine ⟨?_, by simp, ?_, by simp, by simp⟩
              · simpa using canonical
              · simpa using ⟨ordered, last⟩
          | some worse =>
              simp only [checkAdjacency, bind_eq_ok, require_eq_ok] at passed
              obtain ⟨_, valid, _, also, _, next, _, -, ordered⟩ := passed
              have canonical := (validateLevel_ok valid).2.2
              have canonicalWorse := (validateLevel_ok also).2.2
              refine ⟨?_, ?_, ?_, ?_, by simp⟩
              · simpa using canonical
              · simpa using canonicalWorse
              · simpa using ⟨ordered.1, next⟩
              · simpa using ordered.2

theorem Hints.adjacent {spot : Spot} {key : Pubkey} {market : Market} {side : OrderSide}
    {price : Nat} {better worse : Option (Account PriceLevel)}
    (stored : spot.markets.get key = some market)
    (hasBetter : ∀ level ∈ better, spot.levels.get level.key = some level.val)
    (hints : Hints key side price (market.best side) better worse) :
    Adjacent OrderSide.Precedes
      (spotShelf.book (spotHeads spot.markets) spot.orders spot.levels key) (side, price)
      (better.map fun level => level.val.price) (worse.map fun level => level.val.price) where
  above found named := by
    obtain ⟨level, member, rfl⟩ := Option.map_eq_some_iff.mp named
    obtain ⟨ordered, next⟩ := hints.above level member
    refine ⟨ordered, _, Shelf.book_level.mpr ⟨level.val, ?_, rfl⟩, next⟩
    have loaded := hasBetter level member
    rwa [hints.betterKey level member] at loaded
  below found named := by
    obtain ⟨level, member, rfl⟩ := Option.map_eq_some_iff.mp named
    exact hints.below level member
  first none := by
    have best : (spotShelf.book (spotHeads spot.markets) spot.orders spot.levels key).best side =
        market.best side := congrFun (spotHeads_stored stored) side
    exact (hints.first (Option.map_eq_none_iff.mp none)).trans best.symm

theorem Hints.keys {key : Pubkey} {side : OrderSide} {price : Nat} {best : Option Nat}
    {better worse : Option (Account PriceLevel)} (hints : Hints key side price best better worse) :
    (better.map Account.key = (better.map fun level => level.val.price).map
        fun price => spotShelf.file key (side, price)) ∧
      worse.map Account.key = (worse.map fun level => level.val.price).map
        fun price => spotShelf.file key (side, price) := by
  constructor
  · cases better with
    | none => rfl
    | some better => exact congrArg some (hints.betterKey better rfl)
  · cases worse with
    | none => rfl
    | some worse => exact congrArg some (hints.worseKey worse rfl)

theorem handleInsertLimitOrder_ok {spot after : Spot} {trader : Wallet} {market : Pubkey}
    {betterLevel worseLevel : Option Pubkey} {side : OrderSide} {price quantity : Nat}
    (done : handleInsertLimitOrder spot trader market betterLevel worseLevel side price quantity =
      .ok after) :
    ∃ placed : Insertion spot trader market side price quantity, placed.result = after := by
  simp only [handleInsertLimitOrder, bind_eq_ok, load_eq_ok, require_eq_ok, vacant_eq_ok,
    loadOption_eq_ok, pure_eq_ok] at done
  obtain ⟨⟨key, record⟩, ⟨rfl, stored⟩, _, active, _, freshOrder, _, freshLevel, balance, ownBalance,
    better, ⟨_, hasBetter⟩, worse, ⟨_, hasWorse⟩, _, gridded, _, adjacency, amount, backed, locked,
    lock, _, submit, rfl⟩ := done
  obtain ⟨filed, balanceStored, _, _⟩ := loadTraderBalance_ok ownBalance
  have hints := checkAdjacency_ok adjacency
  dsimp only at *
  have adjacent := hints.adjacent stored hasBetter
  refine ⟨⟨record, balance.val, locked, amount, better.map fun level => level.val.price,
    worse.map fun level => level.val.price, stored, active, freshOrder, freshLevel, balanceStored,
    gridded, adjacent, backed, lock⟩, ?_⟩
  have vacant : spot.levels.get (spotShelf.file key (side, price)) = none := freshLevel
  have saved := save_opened vacant hints.keys.1 hints.keys.2 hasBetter hasWorse adjacent
  simp only [Insertion.result, submit_ok submit, filed, Option.map_eq_none_iff,
    Option.isNone_iff_eq_none]
  congr 1
  exact (saved _).symm

theorem Insertion.ledger {spot : Spot} {trader : Wallet} {key : Pubkey} {side : OrderSide}
    {price quantity : Nat} (placed : Insertion spot trader key side price quantity)
    (holds : SpotInvariant spot) :
    spotLedger.Edit spot.balances placed.result.balances 0
      (Ledger.single (key, trader.key) (Pi.single side placed.amount)) 0 0 := by
  have written := balance_write holds.balances placed.balanceStored (lock_ok placed.lock)
  simp only [Ledger.single_zero] at written
  exact written

theorem Insertion.edit {spot : Spot} {trader : Wallet} {key : Pubkey} {side : OrderSide}
    {price quantity : Nat} (placed : Insertion spot trader key side price quantity)
    (holds : SpotInvariant spot) (priceFits : price ≤ u64Max) (quantityFits : quantity ≤ u64Max) :
    SpotEdit spot placed.result key (.order key placed.market.nextOrderId) placed.market
      (if placed.better = none then (submitted placed.market).setBest side (some price)
        else submitted placed.market)
      (newOrder trader.key key placed.market.nextOrderId side price quantity placed.amount none)
      none none none none := by
  have terms : SameTerms placed.market (if placed.better = none then
      (submitted placed.market).setBest side (some price) else submitted placed.market) := by
    split
    · exact (submitted_terms _).setBest side _
    · exact submitted_terms _
  have later : placed.market.nextOrderId < (if placed.better = none then
      (submitted placed.market).setBest side (some price)
        else submitted placed.market).nextOrderId := by
    split
    · cases side <;> exact Nat.lt_succ_self _
    · exact Nat.lt_succ_self _
  exact
    { stored := placed.stored
      terms := terms
      named := rfl
      home := rfl
      rests := fun _ => newOrder_rests placed.gridded placed.backed priceFits quantityFits terms later
      markets := rfl
      orders := rfl
      levels := relevel_keyed (holds.levels.set rfl)
      balances := (placed.ledger holds).filed holds.balances
      books := by
        refine holds.books.insert (newOrder trader.key key placed.market.nextOrderId side price
          quantity placed.amount none) _ _ placed.freshOrder placed.freshLevel
          (spotShelf_live.mpr rfl) rfl rfl placed.adjacent (holds.earlier placed.stored)
          (checkGrid_ok placed.gridded).2.1 ?_ fun other different => ?_
        · simp only [Insertion.result, spotHeads_set, newOrder, spotShelf, Function.update_self,
            spotHeads_stored placed.stored]
          split
          · rw [best_setBest]
            rfl
          · rfl
        · simp only [Insertion.result, spotHeads_set]
          exact Function.update_of_ne different _ _
      counted := by
        rw [placed.freshOrder, newOrder_openIn]
        split <;> simp [submitted]
      locked := fun holder other => by
        rw [placed.freshOrder, lockedBy_live rfl]
        exact (placed.ledger holds).locked holder other }

/-! ## Append -/

structure Appending (spot : Spot) (trader : Wallet) (key : Pubkey) (side : OrderSide)
    (price quantity : Nat) where
  market : Market
  balance : TraderBalance
  locked : TraderBalance
  amount : Nat
  level : PriceLevel
  tail : Pubkey
  stored : spot.markets.get key = some market
  active : market.status = .active
  freshOrder : spot.orders.get (.order key market.nextOrderId) = none
  levelStored : spot.levels.get (.priceLevel key side price) = some level
  last : level.lastOrder = some tail
  balanceStored : spot.balances.get (.traderBalance key trader.key) = some balance
  gridded : market.checkGrid price quantity = .ok ()
  backed : market.collateral side price quantity = .ok amount
  lock : balance.lock side amount = .ok locked

def pushed (level : PriceLevel) (order : Pubkey) (quantity : Nat) : PriceLevel :=
  { level with
    lastOrder := some order
    totalRemainingQuantity := level.totalRemainingQuantity + quantity
    orderCount := level.orderCount + 1 }

def Appending.result {spot : Spot} {trader : Wallet} {key : Pubkey} {side : OrderSide}
    {price quantity : Nat} (placed : Appending spot trader key side price quantity) : Spot :=
  { spot with
    markets := spot.markets.set key (submitted placed.market)
    orders := spotShelf.relink (spot.orders.set (.order key placed.market.nextOrderId)
      (newOrder trader.key key placed.market.nextOrderId side price quantity placed.amount
        (some placed.tail))) (some placed.tail) none
      (some (.order key placed.market.nextOrderId)) none
    levels := spot.levels.set (.priceLevel key side price)
      (pushed placed.level (.order key placed.market.nextOrderId) quantity)
    balances := spot.balances.set (.traderBalance key trader.key) placed.locked }

theorem append_ok {level appended : PriceLevel} {order : Pubkey} {quantity : Nat}
    (passed : level.append order quantity = .ok appended) :
    appended = pushed level order quantity := by
  simp only [PriceLevel.append, bind_eq_ok, checkedAdd_eq_ok, pure_eq_ok] at passed
  obtain ⟨_, ⟨_, rfl⟩, _, ⟨_, rfl⟩, rfl⟩ := passed
  rfl

theorem loadPriceLevel_ok {spot : Spot} {market : Pubkey} {side : OrderSide} {price : Nat}
    {level : Account PriceLevel} (passed : loadPriceLevel spot market side price = .ok level) :
    level.key = .priceLevel market side price ∧
      spot.levels.get (.priceLevel market side price) = some level.val ∧
      level.val.market = market ∧ level.val.side = side ∧ level.val.price = price := by
  simp only [loadPriceLevel, bind_eq_ok, load_eq_ok, require_eq_ok, pure_eq_ok] at passed
  obtain ⟨_, ⟨filed, stored⟩, _, ofMarket, _, ofSide, _, ofPrice, rfl⟩ := passed
  exact ⟨filed, stored, ofMarket, ofSide, ofPrice⟩

theorem handleAppendLimitOrder_ok {spot after : Spot} {trader : Wallet}
    {market previousOrder : Pubkey} {side : OrderSide} {price quantity : Nat}
    (done : handleAppendLimitOrder spot trader market previousOrder side price quantity =
      .ok after) :
    ∃ placed : Appending spot trader market side price quantity, placed.result = after := by
  simp only [handleAppendLimitOrder, bind_eq_ok, load_eq_ok, require_eq_ok, vacant_eq_ok,
    pure_eq_ok] at done
  obtain ⟨⟨key, record⟩, ⟨rfl, stored⟩, _, active, _, freshOrder, level, ownLevel, ⟨tail, order⟩,
    ⟨rfl, tailStored⟩, _, last, _, -, _, -, _, -, balance, ownBalance, _, gridded, amount, backed,
    locked, lock, _, submit, _, append, rfl⟩ := done
  obtain ⟨filed, balanceStored, _, _⟩ := loadTraderBalance_ok ownBalance
  obtain ⟨levelFiled, levelStored, _, _, _⟩ := loadPriceLevel_ok ownLevel
  dsimp only at *
  refine ⟨⟨record, balance.val, locked, amount, level.val, tail, stored, active, freshOrder,
    levelStored, last, balanceStored, gridded, backed, lock⟩, ?_⟩
  simp only [Appending.result, submit_ok submit, append_ok append, filed, levelFiled]
  congr 1
  exact (save_appended spotShelf freshOrder tailStored _).symm

theorem Appending.ledger {spot : Spot} {trader : Wallet} {key : Pubkey} {side : OrderSide}
    {price quantity : Nat} (placed : Appending spot trader key side price quantity)
    (holds : SpotInvariant spot) :
    spotLedger.Edit spot.balances placed.result.balances 0
      (Ledger.single (key, trader.key) (Pi.single side placed.amount)) 0 0 := by
  have written := balance_write holds.balances placed.balanceStored (lock_ok placed.lock)
  simp only [Ledger.single_zero] at written
  exact written

theorem Appending.edit {spot : Spot} {trader : Wallet} {key : Pubkey} {side : OrderSide}
    {price quantity : Nat} (placed : Appending spot trader key side price quantity)
    (holds : SpotInvariant spot) (priceFits : price ≤ u64Max) (quantityFits : quantity ≤ u64Max) :
    SpotEdit spot placed.result key (.order key placed.market.nextOrderId) placed.market
      (submitted placed.market)
      (newOrder trader.key key placed.market.nextOrderId side price quantity placed.amount
        (some placed.tail)) (some placed.tail) none (some (.order key placed.market.nextOrderId))
      none where
  stored := placed.stored
  terms := submitted_terms _
  named := rfl
  home := rfl
  rests _ := newOrder_rests placed.gridded placed.backed priceFits quantityFits
    (submitted_terms _) (Nat.lt_succ_self _)
  markets := rfl
  orders := rfl
  levels := by
    refine holds.levels.set ?_
    have keyed := holds.levels _ _ placed.levelStored
    exact keyed
  balances := (placed.ledger holds).filed holds.balances
  books := by
    refine holds.books.append (newOrder trader.key key placed.market.nextOrderId side price
      quantity placed.amount (some placed.tail)) _ placed.freshOrder placed.levelStored
      placed.last (spotShelf_live.mpr rfl) rfl rfl (holds.earlier placed.stored)
      (checkGrid_ok placed.gridded).2.1 ?_
    have same : (submitted placed.market).best = spotHeads spot.markets key := by
      rw [spotHeads_stored placed.stored]
      funext side
      cases side <;> rfl
    simp only [Appending.result, spotHeads_set, same, Function.update_eq_self]
  counted := by
    rw [placed.freshOrder, newOrder_openIn]
    rfl
  locked holder other := by
    rw [placed.freshOrder, lockedBy_live rfl]
    exact (placed.ledger holds).locked holder other

end Tidebook.Proof
