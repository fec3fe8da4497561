import Tidebook.Proof.Conservation

/-! # Consent

A wallet that does not sign an instruction keeps every account it has, unless the instruction fills
one of its resting orders; and then it receives in full what its order asked for.
-/

namespace Tidebook.Proof
open Library Program

/-- The wallet that signs an instruction. Anyone may advance a resolution. -/
def signer : Instruction → Option Wallet
  | .initializeProtocol wallet | .addAdmin wallet _ | .disableAdmin wallet _
  | .enableAdmin wallet _ | .removeAdmin wallet _ | .setTakerFee wallet _
  | .initializeMarket wallet _ _ _ _ | .pauseMarket wallet _ | .unpauseMarket wallet _
  | .closeMarket wallet _ _ | .initializeTraderBalance wallet _ | .deposit wallet _ _ _ _
  | .withdraw wallet _ _ _ _ | .withdrawProtocolFees wallet _ _ _
  | .insertLimitOrder wallet _ _ _ _ _ _ | .appendLimitOrder wallet _ _ _ _ _
  | .initializePredictionMarket wallet _ _ _ | .initializePredictionPosition wallet _
  | .openPredictionMarket wallet _ | .depositPredictionCollateral wallet _ _ _
  | .withdrawPredictionCollateral wallet _ _ _ | .splitPredictionCompleteSet wallet _ _
  | .mergePredictionCompleteSet wallet _ _ | .placePredictionOrder wallet _ _ _ _ _ _
  | .insertPredictionOrder wallet _ _ _ _ _ _ _ _ | .appendPredictionOrder wallet _ _ _ _ _ _ _
  | .proposePrediction wallet _ _ _ _ _ | .closePredictionTrading wallet _
  | .initializeAssetBalance wallet _ | .depositAsset wallet _ _ _ | .withdrawAsset wallet _ _ _
  | .migrateSpotAsset wallet _ _ _ | .migratePredictionAsset wallet _ _
  | .sharedCompleteSet wallet _ _ _ | .redeemPrediction wallet _ _ _
  | .initializeSharedBook wallet _ _ | .withdrawSharedFees wallet _ _ _
  | .closeSharedBook wallet _ => some wallet
  | .cancelLimitOrder accounts _ => some accounts.owner
  | .matchLimitOrder accounts _ _ _ => some accounts.taker
  | .cancelPredictionOrder accounts _ => some accounts.owner
  | .matchPredictionOrder accounts _ _ _ _ => some accounts.taker
  | .placeSharedOrder accounts _ _ _ _ _ => some accounts.owner
  | .cancelSharedOrder accounts => some accounts.owner
  | .matchSharedOrder accounts _ _ _ _ => some accounts.taker
  | .advancePrediction _ _ => none

/-! ## Accounts that do not move -/

section Unmoved

variable (state after : State) (wallet : Pubkey)

def SpotUnmoved : Prop := ∀ market,
  after.spot.balances.get (.traderBalance market wallet) =
    state.spot.balances.get (.traderBalance market wallet)

def PositionsUnmoved : Prop := ∀ market,
  after.prediction.positions.get (.predictionPosition market wallet) =
    state.prediction.positions.get (.predictionPosition market wallet)

def AssetsUnmoved : Prop := ∀ mint,
  after.shared.assets.get (.assetBalance wallet mint) =
    state.shared.assets.get (.assetBalance wallet mint)

/-- Every account of a wallet stays as it was. -/
structure Unmoved : Prop where
  spot : SpotUnmoved state after wallet
  positions : PositionsUnmoved state after wallet
  assets : AssetsUnmoved state after wallet

end Unmoved

section Apart

variable {wallet owner : Pubkey} (different : wallet ≠ owner)
include different

theorem balance_apart {balances : Store Pubkey TraderBalance} (market home : Pubkey)
    (balance : TraderBalance) :
    (balances.set (.traderBalance home owner) balance).get (.traderBalance market wallet) =
      balances.get (.traderBalance market wallet) :=
  Store.get_set_ne _ _ fun same => different (Pubkey.traderBalance.inj same).2

theorem position_apart {positions : Store Pubkey PredictionPosition} (market home : Pubkey)
    (position : PredictionPosition) :
    (positions.set (.predictionPosition home owner) position).get
        (.predictionPosition market wallet) = positions.get (.predictionPosition market wallet) :=
  Store.get_set_ne _ _ fun same => different (Pubkey.predictionPosition.inj same).2

theorem asset_apart {assets : Store Pubkey AssetBalance} (mint other : Pubkey)
    (balance : AssetBalance) :
    (assets.set (.assetBalance owner other) balance).get (.assetBalance wallet mint) =
      assets.get (.assetBalance wallet mint) :=
  Store.get_set_ne _ _ fun same => different (Pubkey.assetBalance.inj same).1

theorem saveClaims_apart {state : State} {book : SharedBook} {before later : Claims}
    {outcome : SharedOutcome} {quote base : Flow} (held : ClaimsHeld state book owner before)
    (move : ClaimsMove outcome before later quote base) :
    Unmoved state (saveClaims state later) wallet := by
  have quoteKey := move.quoteKey.trans held.quoteKey
  refine ⟨fun _ => rfl, fun market => ?_, fun mint => ?_⟩
  · simp only [saveClaims]
    by_cases isSpot : book.kind = .spot
    · rw [move.positionNone (held.spot isSpot).1]
      rfl
    · obtain ⟨-, position, isPosition, -⟩ := held.contracts isSpot
      obtain ⟨new, isNew, -⟩ := move.positionMove _ _ isPosition
      rw [isNew]
      exact position_apart different market _ _
  · simp only [saveClaims, save, quoteKey]
    rw [asset_apart different]
    by_cases isSpot : book.kind = .spot
    · obtain ⟨-, balance, isBase, -⟩ := held.spot isSpot
      obtain ⟨new, isNew, -⟩ := move.baseMove _ _ isBase
      rw [isNew]
      exact asset_apart different mint _ _
    · rw [move.baseNone (held.contracts isSpot).1]
      rfl

end Apart

theorem Unmoved.trans {state middle after : State} {wallet : Pubkey}
    (first : Unmoved state middle wallet) (second : Unmoved middle after wallet) :
    Unmoved state after wallet where
  spot market := (second.spot market).trans (first.spot market)
  positions market := (second.positions market).trans (first.positions market)
  assets mint := (second.assets mint).trans (first.assets mint)

/-! ## What a filled maker receives -/

/-- A lock shrinks, something is received, and nothing else moves. -/
structure Settles {K V I P β : Type} (ledger : Ledger K V I P β) (before after : V)
    (lost gained : β → Nat) : Prop where
  holder : ledger.holder after = ledger.holder before
  locked : ∀ bucket, ledger.locked after bucket + lost bucket = ledger.locked before bucket
  free : ∀ bucket, ledger.free after bucket = ledger.free before bucket + gained bucket

theorem Settles.of_move {K V I P β : Type} {ledger : Ledger K V I P β} {before after : V}
    {lost out into gained : β → Nat} (move : ledger.Move before after lost 0 out into)
    (net : ∀ bucket, gained bucket + out bucket = lost bucket + into bucket) :
    Settles ledger before after lost gained := by
  refine ⟨move.holder, fun bucket => by simpa using move.locked bucket, fun bucket => ?_⟩
  have locked := move.locked bucket
  have held := move.held bucket
  have balanced := net bucket
  simp only [Pi.zero_apply] at locked
  omega

/-- A fill of an order at its own price: what is filled, its worth rounded down, and what the fill
takes from the order's lock. -/
structure Sale (side : OrderSide) (price remaining locked decimals base quote debit : Nat) :
    Prop where
  base_pos : 0 < base
  base_le : base ≤ remaining
  worth : quote = price * base / 10 ^ decimals
  quote_pos : 0 < quote
  ask : side = .ask → debit = base
  bid : side = .bid → quote ≤ debit ∧ debit ≤ locked

/-- What the fill adds to the maker's free base (`.ask`) and free quote (`.bid`): a buyer keeps what
its lock held beyond the price. -/
def proceeds (side : OrderSide) (base quote debit : Nat) : OrderSide → Nat
  | .ask => if side = .bid then base else 0
  | .bid => if side = .bid then debit - quote else quote

theorem settlement_sale {takerSide side : OrderSide} {limit taker price remaining locked : Nat}
    {decimals : Nat} {plan : SettlementPlan} (facts : SettlementFacts takerSide limit taker side price
      remaining locked decimals plan) :
    Sale side price remaining locked decimals plan.fill.baseQuantity plan.fill.quoteQuantity
      plan.makerLockedDebit where
  base_pos := facts.base ▸ facts.base_pos
  base_le := facts.base ▸ min_le_right _ _
  worth := by rw [facts.quote, facts.base]
  quote_pos := facts.quote ▸ facts.quote_pos
  ask isAsk := by rw [facts.debit, isAsk, makerDebit]
  bid isBid := ⟨(facts.bid_lock isBid).1, (facts.bid_lock isBid).2.1⟩

theorem settleBalances_maker {takerSide side : OrderSide} {limit quantity price remaining : Nat}
    {locked decimals fee : Nat} {plan : SettlementPlan}
    {maker taker makerSettled takerSettled : TraderBalance}
    (facts : SettlementFacts takerSide limit quantity side price remaining locked decimals plan)
    (passed : settleBalances takerSide plan fee maker taker = .ok (makerSettled, takerSettled)) :
    Settles spotLedger maker makerSettled (Pi.single side plan.makerLockedDebit)
      (proceeds side plan.fill.baseQuantity plan.fill.quoteQuantity plan.makerLockedDebit) := by
  have sides := facts.sides
  cases takerSide with
  | bid =>
      obtain rfl : side = .ask := by
        cases side
        · exact absurd rfl sides
        · rfl
      simp only [settleBalances, bind_eq_ok, checkedAdd_eq_ok, checkedSub_eq_ok, pure_eq_ok,
        Prod.mk.injEq] at passed
      obtain ⟨_, -, _, -, _, -, _, ⟨held, rfl⟩, _, ⟨_, rfl⟩, rfl, -⟩ := passed
      refine ⟨rfl, fun bucket => ?_, fun bucket => ?_⟩
      all_goals cases bucket <;> simp [spotLedger, proceeds]
      all_goals omega
  | ask =>
      obtain rfl : side = .bid := by
        cases side
        · rfl
        · exact absurd rfl sides
      obtain ⟨enough, _, refund⟩ := facts.bid_lock rfl
      simp only [settleBalances, bind_eq_ok, checkedAdd_eq_ok, checkedSub_eq_ok, pure_eq_ok,
        Prod.mk.injEq] at passed
      obtain ⟨_, -, _, -, _, -, _, ⟨held, rfl⟩, _, ⟨_, rfl⟩, _, ⟨_, rfl⟩, rfl, -⟩ := passed
      refine ⟨rfl, fun bucket => ?_, fun bucket => ?_⟩
      all_goals cases bucket <;> simp [spotLedger, proceeds]
      all_goals omega

/-- Base and quote as buckets of a position. -/
def onPosition (outcome : PredictionOutcome) (amounts : OrderSide → Nat) : Bucket → Nat
  | .collateral => amounts .bid
  | .contracts traded => if traded = outcome then amounts .ask else 0

theorem settlePositions_maker {outcome : PredictionOutcome} {takerSide side : OrderSide}
    {backing fill notional fee : Nat} {maker taker makerSettled takerSettled : PredictionPosition}
    (sides : side ≠ takerSide)
    (passed : settlePositions outcome takerSide backing fill notional fee maker taker =
      .ok (makerSettled, takerSettled)) :
    Settles positionLedger maker makerSettled
      (onPosition outcome (Pi.single side (fillDebit side fill notional)))
      (onPosition outcome (proceeds side fill notional (fillDebit side fill notional))) := by
  cases takerSide with
  | bid =>
      obtain rfl : side = .ask := by
        cases side
        · exact absurd rfl sides
        · rfl
      simp only [settlePositions, bind_eq_ok, require_eq_ok, checkedAdd_eq_ok, checkedSub_eq_ok,
        pure_eq_ok, Prod.mk.injEq] at passed
      obtain ⟨_, -, _, -, _, -, _, ⟨_, rfl⟩, _, ⟨held, rfl⟩, _, -, rfl, -⟩ := passed
      refine ⟨?_, fun bucket => ?_, fun bucket => ?_⟩
      all_goals cases outcome
      all_goals try rcases bucket with _ | (_ | _)
      all_goals simp [positionLedger, PredictionPosition.setContractsLocked, onPosition, proceeds,
        PredictionPosition.contractsLocked, fillDebit] at held ⊢
      all_goals omega
  | ask =>
      obtain rfl : side = .bid := by
        cases side
        · rfl
        · exact absurd rfl sides
      simp only [settlePositions, bind_eq_ok, require_eq_ok, checkedAdd_eq_ok, checkedSub_eq_ok,
        pure_eq_ok, Prod.mk.injEq] at passed
      obtain ⟨_, -, _, -, _, -, _, -, _, ⟨paid, rfl⟩, _, ⟨_, rfl⟩, rfl, -⟩ := passed
      refine ⟨?_, fun bucket => ?_, fun bucket => ?_⟩
      all_goals cases outcome
      all_goals try rcases bucket with _ | (_ | _)
      all_goals simp [positionLedger, PredictionPosition.setContractsFree, onPosition, proceeds,
        PredictionPosition.contractsFree, fillDebit] at paid ⊢
      all_goals omega

/-- The instruction fills an order of the wallet, whose accounts move by that sale and nothing
else. -/
inductive Served (state after : State) (wallet : Pubkey) : Instruction → Prop where
  | spot {accounts : MatchLimitOrder} {takerSide : OrderSide} {limit quantity : UInt64}
      {order : Order} {market : Market} {before later : TraderBalance} {base quote debit : Nat}
      (stored : state.spot.orders.get accounts.makerOrder = some order)
      (live : order.status = .opened) (own : order.owner = wallet)
      (terms : state.spot.markets.get order.market = some market)
      (sale : Sale order.side order.price order.remainingQuantity order.lockedCollateral
        market.baseDecimals base quote debit)
      (held : state.spot.balances.get (.traderBalance order.market wallet) = some before)
      (paid : after.spot.balances.get (.traderBalance order.market wallet) = some later)
      (settles : Settles spotLedger before later (Pi.single order.side debit)
        (proceeds order.side base quote debit))
      (elsewhere : ∀ market, market ≠ order.market →
        after.spot.balances.get (.traderBalance market wallet) =
          state.spot.balances.get (.traderBalance market wallet))
      (positions : PositionsUnmoved state after wallet) (assets : AssetsUnmoved state after wallet) :
      Served state after wallet (.matchLimitOrder accounts takerSide limit quantity)
  | prediction {accounts : MatchPredictionOrder} {outcome : PredictionOutcome}
      {takerSide : OrderSide} {limit quantity : UInt64} {order : PredictionOrder}
      {before later : PredictionPosition} {base quote debit : Nat}
      (stored : state.prediction.orders.get accounts.makerOrder = some order)
      (live : order.status = .opened) (own : order.owner = wallet)
      (sale : Sale order.side order.price order.remainingQuantity order.lockedCollateral 0 base quote
        debit) (exact : order.side = .bid → debit = quote)
      (held : state.prediction.positions.get (.predictionPosition order.market wallet) = some before)
      (paid : after.prediction.positions.get (.predictionPosition order.market wallet) = some later)
      (settles : Settles positionLedger before later
        (onPosition order.outcome (Pi.single order.side debit))
        (onPosition order.outcome (proceeds order.side base quote debit)))
      (elsewhere : ∀ market, market ≠ order.market →
        after.prediction.positions.get (.predictionPosition market wallet) =
          state.prediction.positions.get (.predictionPosition market wallet))
      (spot : SpotUnmoved state after wallet) (assets : AssetsUnmoved state after wallet) :
      Served state after wallet (.matchPredictionOrder accounts outcome takerSide limit quantity)
  | shared {accounts : MatchSharedOrder} {outcome : SharedOutcome} {takerSide : OrderSide}
      {limit quantity : UInt64} {order : SharedOrder} {book : SharedBook}
      {before later : AssetBalance} {base quote debit : Nat}
      (stored : state.shared.orders.get accounts.makerOrder = some order)
      (live : order.status = .opened) (own : order.owner = wallet)
      (terms : state.shared.books.get order.book = some book)
      (sale : Sale order.side order.price order.remainingQuantity order.lockedCollateral
        book.baseDecimals base quote debit)
      (held : state.shared.assets.get (.assetBalance wallet book.quoteMint) = some before)
      (paid : after.shared.assets.get (.assetBalance wallet book.quoteMint) = some later)
      (settles : Settles assetLedger before later
        (fun _ => (Pi.single order.side debit : OrderSide → Nat) .bid)
        fun _ => proceeds order.side base quote debit .bid)
      (spotBase : book.kind = .spot → PositionsUnmoved state after wallet ∧ ∃ before later,
        state.shared.assets.get (.assetBalance wallet book.baseMint) = some before ∧
        after.shared.assets.get (.assetBalance wallet book.baseMint) = some later ∧
        Settles assetLedger before later
          (fun _ => (Pi.single order.side debit : OrderSide → Nat) .ask)
          fun _ => proceeds order.side base quote debit .ask)
      (contracts : book.kind ≠ .spot → ∃ before later,
        state.prediction.positions.get (.predictionPosition book.market wallet) = some before ∧
        after.prediction.positions.get (.predictionPosition book.market wallet) = some later ∧
        Settles positionLedger before later
          (Shared.traded order.outcome ((Pi.single order.side debit : OrderSide → Nat) .ask))
          (Shared.traded order.outcome (proceeds order.side base quote debit .ask)))
      (otherMints : ∀ mint, mint ≠ book.quoteMint → (book.kind = .spot → mint ≠ book.baseMint) →
        after.shared.assets.get (.assetBalance wallet mint) =
          state.shared.assets.get (.assetBalance wallet mint))
      (otherMarkets : ∀ market, market ≠ book.market →
        after.prediction.positions.get (.predictionPosition market wallet) =
          state.prediction.positions.get (.predictionPosition market wallet))
      (spot : SpotUnmoved state after wallet) :
      Served state after wallet (.matchSharedOrder accounts outcome takerSide limit quantity)

section Serving

variable {state : State} {config : ProtocolConfig} {takerSide : OrderSide} {limit quantity : UInt64}

theorem Fill.served {accounts : MatchLimitOrder} (fill : Fill state.spot config accounts.taker
      accounts.market accounts.makerOrder takerSide limit.toNat quantity.toNat) :
    Served state { state with spot := fill.result } fill.order.owner
      (.matchLimitOrder accounts takerSide limit quantity) := by
  have home := fill.home
  have facts := calculateSettlement_facts fill.settled
  have paid (market : Pubkey) : fill.result.balances.get (.traderBalance market fill.order.owner) =
      (state.spot.balances.set (.traderBalance accounts.market fill.order.owner)
        fill.makerSettled).get (.traderBalance market fill.order.owner) :=
    balance_apart fill.own market _ _
  refine .spot fill.orderStored fill.live rfl fill.stored (settlement_sale facts) ?_ ?_
    (settleBalances_maker facts fill.balanced) (fun market other => ?_) (fun _ => rfl) fun _ => rfl
  · rw [home]
    exact fill.makerStored
  · rw [home, paid, Store.get_set_self]
  · rw [paid]
    exact Store.get_set_ne _ _ fun same =>
      other ((Pubkey.traderBalance.inj same).1.trans home.symm)

theorem PredictionFill.served {accounts : MatchPredictionOrder} {outcome : PredictionOutcome}
    (holds : PredictionInvariant state.prediction)
    (fill : PredictionFill state.prediction state.now config accounts.taker accounts.market
      accounts.makerOrder outcome takerSide limit.toNat quantity.toNat) :
    Served state { state with prediction := fill.result } fill.order.owner
      (.matchPredictionOrder accounts outcome takerSide limit quantity) := by
  have home := fill.home
  have rest := fill.rests holds
  have filled_pos : 0 < fill.filled := lt_min fill.quantity_pos rest.remaining_pos
  have paid (market : Pubkey) :
      fill.result.positions.get (.predictionPosition market fill.order.owner) =
      (state.prediction.positions.set (.predictionPosition accounts.market fill.order.owner)
        fill.makerSettled).get (.predictionPosition market fill.order.owner) :=
    position_apart fill.own market _ _
  have bid (isBid : fill.order.side = .bid) : fill.debit = fill.order.price * fill.filled :=
    if_pos isBid
  have sale : Sale fill.order.side fill.order.price fill.order.remainingQuantity
      fill.order.lockedCollateral 0 fill.filled (fill.order.price * fill.filled) fill.debit :=
    { base_pos := filled_pos
      base_le := min_le_right _ _
      worth := by rw [pow_zero, Nat.div_one]
      quote_pos := Nat.mul_pos rest.price_pos filled_pos
      ask := fun isAsk => if_neg (by simp [isAsk])
      bid := fun isBid => ⟨(bid isBid).ge, fill.debit_le holds⟩ }
  have settles : Settles positionLedger fill.makerPosition fill.makerSettled
      (onPosition fill.order.outcome (Pi.single fill.order.side fill.debit))
      (onPosition fill.order.outcome
        (proceeds fill.order.side fill.filled (fill.order.price * fill.filled) fill.debit)) := by
    rw [fill.isOutcome]
    exact settlePositions_maker fill.sides fill.settled
  refine .prediction fill.orderStored fill.live rfl sale bid ?_ ?_ settles
    (fun market other => ?_) (fun _ => rfl) fun _ => rfl
  · rw [home]
    exact fill.makerStored
  · rw [home, paid, Store.get_set_self]
  · rw [paid]
    exact Store.get_set_ne _ _ fun same =>
      other ((Pubkey.predictionPosition.inj same).1.trans home.symm)

theorem saveClaims_own {book : SharedBook} {owner : Pubkey} {before later : Claims}
    {outcome : SharedOutcome} {quote base : Flow} (terms : Shared.Terms book)
    (held : ClaimsHeld state book owner before) (move : ClaimsMove outcome before later quote base) :
    (saveClaims state later).shared.assets.get (.assetBalance owner book.quoteMint) =
      some later.quote.val ∧
    (book.kind = .spot → ∃ old new,
      state.shared.assets.get (.assetBalance owner book.baseMint) = some old ∧
      (saveClaims state later).shared.assets.get (.assetBalance owner book.baseMint) = some new ∧
      AssetMove old new (spotFlow outcome base)) ∧
    (book.kind ≠ .spot → ∃ old new,
      state.prediction.positions.get (.predictionPosition book.market owner) = some old ∧
      (saveClaims state later).prediction.positions.get (.predictionPosition book.market owner) =
        some new ∧ PositionMove outcome old new base) ∧
    (book.kind = .spot → (saveClaims state later).prediction = state.prediction) ∧
    (∀ mint, mint ≠ book.quoteMint → (book.kind = .spot → mint ≠ book.baseMint) →
      (saveClaims state later).shared.assets.get (.assetBalance owner mint) =
        state.shared.assets.get (.assetBalance owner mint)) ∧
    ∀ market, market ≠ book.market →
      (saveClaims state later).prediction.positions.get (.predictionPosition market owner) =
        state.prediction.positions.get (.predictionPosition market owner) := by
  have quoteKey := move.quoteKey.trans held.quoteKey
  simp only [saveClaims, save, quoteKey]
  by_cases isSpot : book.kind = .spot
  · obtain ⟨none, balance, isBase, stored⟩ := held.spot isSpot
    obtain ⟨new, isNew, moved⟩ := move.baseMove _ _ isBase
    have apart : Pubkey.assetBalance owner book.baseMint ≠ .assetBalance owner book.quoteMint :=
      fun same => terms.mints isSpot (Pubkey.assetBalance.inj same).2
    rw [isNew, move.positionNone none]
    refine ⟨Store.get_set_self _ _ _, fun _ => ⟨balance, new, stored, ?_, moved⟩,
      fun other => absurd isSpot other, fun _ => rfl, fun mint notQuote notBase => ?_, fun _ _ => rfl⟩
    · rw [Store.get_set_ne _ _ apart]
      exact Store.get_set_self _ _ _
    · rw [Store.get_set_ne _ _ fun same => notQuote (Pubkey.assetBalance.inj same).2]
      exact Store.get_set_ne _ _ fun same => notBase isSpot (Pubkey.assetBalance.inj same).2
  · obtain ⟨none, position, isPosition, stored⟩ := held.contracts isSpot
    obtain ⟨new, isNew, moved⟩ := move.positionMove _ _ isPosition
    rw [isNew, move.baseNone none]
    refine ⟨Store.get_set_self _ _ _, fun other => absurd other isSpot,
      fun _ => ⟨position, new, stored, Store.get_set_self _ _ _, moved⟩,
      fun other => absurd other isSpot, fun mint notQuote _ => ?_, fun market other => ?_⟩
    · exact Store.get_set_ne _ _ fun same => notQuote (Pubkey.assetBalance.inj same).2
    · exact Store.get_set_ne _ _ fun same => other (Pubkey.predictionPosition.inj same).1

theorem maker_flows {side : OrderSide} {price remaining locked decimals : Nat} {plan : SettlementPlan}
    (sale : Sale side price remaining locked decimals plan.fill.baseQuantity
      plan.fill.quoteQuantity plan.makerLockedDebit) :
    ((makerQuote plan side).lost = (Pi.single side plan.makerLockedDebit : OrderSide → Nat) .bid ∧
      (makerQuote plan side).gained = 0 ∧
      proceeds side plan.fill.baseQuantity plan.fill.quoteQuantity plan.makerLockedDebit .bid +
        (makerQuote plan side).out = (makerQuote plan side).lost + (makerQuote plan side).into) ∧
    (makerBase plan side).lost = (Pi.single side plan.makerLockedDebit : OrderSide → Nat) .ask ∧
      (makerBase plan side).gained = 0 ∧
      proceeds side plan.fill.baseQuantity plan.fill.quoteQuantity plan.makerLockedDebit .ask +
        (makerBase plan side).out = (makerBase plan side).lost + (makerBase plan side).into := by
  cases side with
  | bid =>
      obtain ⟨enough, -⟩ := sale.bid rfl
      simp [makerQuote, makerBase, proceeds]
      omega
  | ask =>
      have debit := sale.ask rfl
      simp [makerQuote, makerBase, proceeds, debit]

theorem AssetMove.settles {before later : AssetBalance} {flow : Flow} {lost gained : Nat}
    (move : AssetMove before later flow) (isLost : flow.lost = lost) (none : flow.gained = 0)
    (net : gained + flow.out = flow.lost + flow.into) :
    Settles assetLedger before later (fun _ => lost) fun _ => gained := by
  obtain ⟨owner, mint, locked, held⟩ := assetMove_iff.mp move
  refine ⟨Prod.ext owner mint, fun _ => ?_, fun _ => ?_⟩ <;> simp only [assetLedger] <;> omega

theorem PositionMove.settles {outcome : SharedOutcome} {before later : PredictionPosition}
    {flow : Flow} {lost gained : Nat} (move : PositionMove outcome before later flow)
    (isLost : flow.lost = lost) (none : flow.gained = 0)
    (net : gained + flow.out = flow.lost + flow.into) :
    Settles positionLedger before later (Shared.traded outcome lost)
      (Shared.traded outcome gained) := by
  unfold PositionMove at move
  rw [none, traded_zero] at move
  rw [← isLost]
  refine .of_move move fun bucket => ?_
  have balanced : Shared.traded outcome (gained + flow.out) bucket =
    Shared.traded outcome (flow.lost + flow.into) bucket := by rw [net]
  rwa [traded_add, traded_add] at balanced

theorem SharedFill.served {accounts : MatchSharedOrder} {outcome : SharedOutcome}
    (holds : SharedInvariant state.shared)
    (fill : SharedFill state config accounts.taker accounts.market accounts.makerOrder outcome
      takerSide limit.toNat quantity.toNat) :
    Served state fill.result fill.order.owner
      (.matchSharedOrder accounts outcome takerSide limit quantity) := by
  have terms := holds.terms _ _ fill.stored
  have sale := settlement_sale fill.facts
  obtain ⟨⟨quoteLost, quoteGained, quoteNet⟩, baseLost, baseGained, baseNet⟩ := maker_flows sale
  obtain ⟨quoted, spot, contracts, untraded, mints, markets⟩ :=
    saveClaims_own terms fill.makerHeld fill.moves.1
  -- Saving the taker's claims afterwards leaves the maker's.
  have apart : Unmoved (saveClaims state fill.makerSettled) fill.result fill.order.owner := by
    have taker := saveClaims_apart fill.own fill.taker_kept fill.moves.2
    exact ⟨taker.spot, taker.positions, taker.assets⟩
  refine .shared fill.orderStored fill.live rfl fill.stored sale fill.makerHeld.quoteStored
    ((apart.assets _).trans quoted)
    (AssetMove.settles fill.moves.1.quoteMove quoteLost quoteGained quoteNet) (fun isSpot => ?_)
    (fun notSpot => ?_) (fun mint notQuote notBase => ?_) (fun market other => ?_) apart.spot
  · obtain ⟨old, new, stored, saved, moved⟩ := spot isSpot
    refine ⟨fun market => (apart.positions market).trans (by rw [untraded isSpot]), old, new, stored,
      (apart.assets _).trans saved, ?_⟩
    have trades := fill.trades
    rw [isSpot] at trades
    obtain rfl : outcome = .spot := trades
    exact moved.settles baseLost baseGained baseNet
  · obtain ⟨old, new, stored, saved, moved⟩ := contracts notSpot
    refine ⟨old, new, stored, (apart.positions _).trans saved, ?_⟩
    rw [fill.isOutcome]
    exact moved.settles baseLost baseGained baseNet
  · exact (apart.assets mint).trans (mints mint notQuote notBase)
  · exact (apart.positions market).trans (markets market other)

end Serving

/-! ## Token accounts -/

/-- No token account of a wallet is closed, handed over or debited. -/
def Undebited (before after : Tokens) (wallet : Wallet) : Prop :=
  ∀ key account, before.accounts.get key = some account → account.owner = wallet.key →
    ∃ later, after.accounts.get key = some later ∧ later.mint = account.mint ∧
      later.owner = account.owner ∧ account.amount ≤ later.amount

namespace Undebited

variable {before middle after : Tokens} {wallet : Wallet}

theorem refl (tokens : Tokens) (wallet : Wallet) : Undebited tokens tokens wallet :=
  fun _ account stored _ => ⟨account, stored, rfl, rfl, le_rfl⟩

theorem trans (first : Undebited before middle wallet) (second : Undebited middle after wallet) :
    Undebited before after wallet := by
  intro key account stored owned
  obtain ⟨between, present, mint, owner, less⟩ := first key account stored owned
  obtain ⟨later, last, mint', owner', less'⟩ := second key between present (owner.trans owned)
  exact ⟨later, last, mint'.trans mint, owner'.trans owner, le_trans less less'⟩

theorem transfer {source mint destination authority : Pubkey} {amount : Nat}
    (unsigned : wallet.key ≠ authority)
    (done : before.transferChecked source mint destination authority amount = .ok after) :
    Undebited before after wallet := by
  intro key account stored owned
  obtain ⟨shift, payer, paying, signed, -⟩ := transferChecked_shift done
  have apart : key ≠ source := by
    rintro rfl
    rw [paying] at stored
    cases stored
    exact unsigned (owned.symm.trans signed)
  have kept := shift.identities key
  have held := shift.held key
  cases later : after.accounts.get key with
  | none => simp [later, stored] at kept
  | some found =>
      simp only [later, stored, Option.map_some, Option.some.injEq, Prod.mk.injEq] at kept
      simp only [Tokens.held, later, stored, Option.map_some, Option.getD_some, if_neg apart] at held
      exact ⟨found, rfl, kept.1, kept.2, by omega⟩

theorem opened {key mint owner : Pubkey}
    (done : before.initializeAccount key mint owner = .ok after) : Undebited before after wallet := by
  obtain ⟨fresh, rfl⟩ := initializeAccount_ok done
  intro other account stored _
  refine ⟨account, ?_, rfl, rfl, le_rfl⟩
  rw [← stored]
  refine Store.get_set_ne _ _ fun same => ?_
  rw [same, fresh] at stored
  cases stored

theorem closed {key owner : Pubkey} (holds : TokenInvariant before) (guarded : guardOf key ≠ none)
    (done : before.closeAccount key owner = .ok after) : Undebited before after wallet := by
  obtain ⟨_, -, -, rfl⟩ := closeAccount_ok done
  intro other account stored owned
  refine ⟨account, ?_, rfl, rfl, le_rfl⟩
  have apart : other ≠ key := by
    rintro rfl
    exact guarded (holds.unguarded stored owned)
  rw [Store.get_erase, if_neg apart, stored]

end Undebited

/-! ## Instructions -/

section Effects

variable {state after : State} {instruction : Instruction} {wallet : Pubkey}

theorem Effect.consent (effect : Effect state instruction after) (holds : Invariant state)
    (unsigned : ∀ signed, signer instruction = some signed → wallet ≠ signed.key) :
    Unmoved state after wallet ∨ Served state after wallet instruction := by
  cases effect with
  | governed silent capped => exact .inl ⟨fun _ => rfl, fun _ => rfl, fun _ => rfl⟩
  | initializeMarket opening => exact .inl ⟨fun _ => rfl, fun _ => rfl, fun _ => rfl⟩
  | restatus status silent stored => exact .inl ⟨fun _ => rfl, fun _ => rfl, fun _ => rfl⟩
  | closeMarket closing => exact .inl ⟨fun _ => rfl, fun _ => rfl, fun _ => rfl⟩
  | withdrawProtocolFees stored feesStored enough transferred =>
      exact .inl ⟨fun _ => rfl, fun _ => rfl, fun _ => rfl⟩
  | initializePredictionMarket opening => exact .inl ⟨fun _ => rfl, fun _ => rfl, fun _ => rfl⟩
  | restate silent named restates done =>
      obtain ⟨market, restated, -, -, rfl⟩ := restates
      exact .inl ⟨fun _ => rfl, fun _ => rfl, fun _ => rfl⟩
  | initializeSharedBook opening => exact .inl ⟨fun _ => rfl, fun _ => rfl, fun _ => rfl⟩
  | withdrawSharedFees stored enough held owned transferred =>
      exact .inl ⟨fun _ => rfl, fun _ => rfl, fun _ => rfl⟩
  | closeSharedBook stored count fees empty =>
      exact .inl ⟨fun _ => rfl, fun _ => rfl, fun _ => rfl⟩
  | initializeTraderBalance fresh =>
      exact .inl ⟨fun market => balance_apart (unsigned _ rfl) market _ _, fun _ => rfl, fun _ => rfl⟩
  | deposit crossing transferred =>
      exact .inl ⟨fun market => balance_apart (unsigned _ rfl) market _ _, fun _ => rfl, fun _ => rfl⟩
  | withdraw crossing held owned transferred =>
      exact .inl ⟨fun market => balance_apart (unsigned _ rfl) market _ _, fun _ => rfl, fun _ => rfl⟩
  | insertLimitOrder placed =>
      exact .inl ⟨fun market => balance_apart (unsigned _ rfl) market _ _, fun _ => rfl, fun _ => rfl⟩
  | appendLimitOrder placed =>
      exact .inl ⟨fun market => balance_apart (unsigned _ rfl) market _ _, fun _ => rfl, fun _ => rfl⟩
  | cancelLimitOrder leaving =>
      exact .inl ⟨fun market => balance_apart (unsigned _ rfl) market _ _, fun _ => rfl, fun _ => rfl⟩
  | matchLimitOrder configured fill =>
      by_cases made : wallet = fill.order.owner
      · exact .inr (made ▸ fill.served)
      · refine .inl ⟨fun market => ?_, fun _ => rfl, fun _ => rfl⟩
        exact (balance_apart (unsigned _ rfl) market _ _).trans (balance_apart made market _ _)
  | initializePredictionPosition stored fresh =>
      exact .inl ⟨fun _ => rfl, fun market => position_apart (unsigned _ rfl) market _ _, fun _ => rfl⟩
  | depositPredictionCollateral crossing transferred =>
      exact .inl ⟨fun _ => rfl, fun market => position_apart (unsigned _ rfl) market _ _, fun _ => rfl⟩
  | withdrawPredictionCollateral crossing held owned transferred =>
      exact .inl ⟨fun _ => rfl, fun market => position_apart (unsigned _ rfl) market _ _, fun _ => rfl⟩
  | splitPredictionCompleteSet crossing =>
      exact .inl ⟨fun _ => rfl, fun market => position_apart (unsigned _ rfl) market _ _, fun _ => rfl⟩
  | mergePredictionCompleteSet crossing =>
      exact .inl ⟨fun _ => rfl, fun market => position_apart (unsigned _ rfl) market _ _, fun _ => rfl⟩
  | insertPredictionOrder placed =>
      exact .inl ⟨fun _ => rfl, fun market => position_apart (unsigned _ rfl) market _ _, fun _ => rfl⟩
  | placePredictionOrder placed =>
      exact .inl ⟨fun _ => rfl, fun market => position_apart (unsigned _ rfl) market _ _, fun _ => rfl⟩
  | appendPredictionOrder placed =>
      exact .inl ⟨fun _ => rfl, fun market => position_apart (unsigned _ rfl) market _ _, fun _ => rfl⟩
  | cancelPredictionOrder leaving =>
      exact .inl ⟨fun _ => rfl, fun market => position_apart (unsigned _ rfl) market _ _, fun _ => rfl⟩
  | matchPredictionOrder configured fill =>
      by_cases made : wallet = fill.order.owner
      · exact .inr (made ▸ fill.served holds.prediction)
      · refine .inl ⟨fun _ => rfl, fun market => ?_, fun _ => rfl⟩
        exact (position_apart (unsigned _ rfl) market _ _).trans (position_apart made market _ _)
  | initializeAssetBalance mintStored fresh vault =>
      exact .inl ⟨fun _ => rfl, fun _ => rfl, fun mint => asset_apart (unsigned _ rfl) mint _ _⟩
  | depositAsset crossing transferred =>
      exact .inl ⟨fun _ => rfl, fun _ => rfl, fun mint => asset_apart (unsigned _ rfl) mint _ _⟩
  | withdrawAsset crossing held owned transferred =>
      exact .inl ⟨fun _ => rfl, fun _ => rfl, fun mint => asset_apart (unsigned _ rfl) mint _ _⟩
  | migrateSpotAsset spot crossing transferred =>
      exact .inl ⟨fun market => balance_apart (unsigned _ rfl) market _ _, fun _ => rfl,
        fun mint => asset_apart (unsigned _ rfl) mint _ _⟩
  | migratePredictionAsset position crossing transferred =>
      exact .inl ⟨fun _ => rfl, fun market => position_apart (unsigned _ rfl) market _ _,
        fun mint => asset_apart (unsigned _ rfl) mint _ _⟩
  | sharedSplit crossing =>
      exact .inl ⟨fun _ => rfl, fun market => position_apart (unsigned _ rfl) market _ _,
        fun mint => asset_apart (unsigned _ rfl) mint _ _⟩
  | sharedMerge crossing =>
      exact .inl ⟨fun _ => rfl, fun market => position_apart (unsigned _ rfl) market _ _,
        fun mint => asset_apart (unsigned _ rfl) mint _ _⟩
  | redeemPrediction crossing final worth =>
      exact .inl ⟨fun _ => rfl, fun market => position_apart (unsigned _ rfl) market _ _,
        fun mint => asset_apart (unsigned _ rfl) mint _ _⟩
  | insertSharedOrder placed =>
      have apart := saveClaims_apart (unsigned _ rfl) placed.held (lockClaims_ok placed.lock)
      exact .inl ⟨apart.spot, apart.positions, apart.assets⟩
  | appendSharedOrder placed =>
      have apart := saveClaims_apart (unsigned _ rfl) placed.held (lockClaims_ok placed.lock)
      exact .inl ⟨apart.spot, apart.positions, apart.assets⟩
  | cancelSharedOrder leaving =>
      have apart := saveClaims_apart (unsigned _ rfl) leaving.held (unlockClaims_ok leaving.unlock)
      exact .inl ⟨apart.spot, apart.positions, apart.assets⟩
  | matchSharedOrder configured fill =>
      by_cases made : wallet = fill.order.owner
      · exact .inr (made ▸ fill.served holds.shared)
      · have maker := saveClaims_apart made fill.makerHeld fill.moves.1
        have taker := saveClaims_apart (unsigned _ rfl) fill.taker_kept fill.moves.2
        have apart := maker.trans taker
        exact .inl ⟨apart.spot, apart.positions, apart.assets⟩

theorem ReserveCrossing.undebited {market owner : Pubkey} {out into : Bucket → Nat}
    {paid funded : Nat} (crossing : ReserveCrossing state market owner out into paid funded)
    (wallet : Wallet) : Undebited state.tokens crossing.tokens wallet := by
  by_cases sends : funded = 0
  · by_cases takes : paid = 0
    · rw [crossing.still sends takes]
      exact .refl _ _
    · exact .transfer (by simp [Wallet.key]) (crossing.fromReserve takes).2
  · exact .transfer (by simp [Wallet.key]) (crossing.toReserve sends).2

theorem Effect.undebited {wallet : Wallet} (effect : Effect state instruction after)
    (holds : Invariant state) (unsigned : signer instruction ≠ some wallet) :
    Undebited state.tokens after.tokens wallet := by
  have other {signed : Wallet} (signs : signer instruction = some signed) :
      wallet.key ≠ signed.key := by
    intro same
    exact unsigned (signs.trans (congrArg some (Wallet.key_inj same).symm))
  cases effect with
  | initializeMarket opening => exact .trans (.opened opening.baseVault) (.opened opening.quoteVault)
  | closeMarket closing =>
      exact .trans (.closed holds.tokens (by simp [guardOf]) closing.baseClosed)
        (.closed (holds.tokens.close_account closing.baseClosed) (by simp [guardOf])
          closing.quoteClosed)
  | initializePredictionMarket opening => exact .opened opening.vault
  | initializeAssetBalance mintStored fresh vault =>
      rcases vault with opened | ⟨-, rfl⟩
      · exact .opened opened
      · exact .refl _ _
  | deposit crossing transferred => exact .transfer (other rfl) transferred
  | depositPredictionCollateral crossing transferred => exact .transfer (other rfl) transferred
  | depositAsset crossing transferred => exact .transfer (other rfl) transferred
  | withdraw crossing held owned transferred => exact .transfer (by simp [Wallet.key]) transferred
  | withdrawProtocolFees stored feesStored enough transferred =>
      exact .transfer (by simp [Wallet.key]) transferred
  | withdrawPredictionCollateral crossing held owned transferred =>
      exact .transfer (by simp [Wallet.key]) transferred
  | withdrawAsset crossing held owned transferred =>
      exact .transfer (by simp [Wallet.key]) transferred
  | migrateSpotAsset spot crossing transferred =>
      exact .transfer (by simp [Wallet.key]) transferred
  | migratePredictionAsset position crossing transferred =>
      exact .transfer (by simp [Wallet.key]) transferred
  | withdrawSharedFees stored enough held owned transferred =>
      exact .transfer (by simp [Wallet.key]) transferred
  | sharedSplit crossing => exact crossing.undebited wallet
  | sharedMerge crossing => exact crossing.undebited wallet
  | redeemPrediction crossing final worth => exact crossing.undebited wallet
  | _ => exact .refl _ _

end Effects

/-- In every reachable state, an instruction that a wallet does not sign leaves all its accounts as
they are, or fills its resting order and pays it in full; and it debits none of its tokens. -/
theorem value_needs_consent (genesis : Genesis) (events : List Event) {state : State}
    (reached : (genesis.after events).state = state) {instruction : Instruction} {after : State}
    (done : execute state instruction = .ok after) {wallet : Wallet}
    (unsigned : signer instruction ≠ some wallet) :
    (Unmoved state after wallet.key ∨ Served state after wallet.key instruction) ∧
      Undebited state.tokens after.tokens wallet := by
  have holds : Invariant state := reached ▸ run_invariant genesis events
  have effect := execute_effect holds.spot holds.prediction holds.shared done
  refine ⟨effect.consent holds fun signed signs same => ?_, effect.undebited holds unsigned⟩
  exact unsigned (signs.trans (congrArg some (Wallet.key_inj same).symm))

/-- Bob buys four of the ten atoms that Alice offers on the shared book. -/
def Sample.purchase : Instruction :=
  .matchSharedOrder ⟨bob, spot, .sharedOrder (.sharedBook spot) 1,
    .sharedLevel (.sharedBook spot) .spot .ask 20, spotClaims alice, spotClaims bob, none, none,
    none⟩ .spot .bid 20 4

set_option maxRecDepth 4096 in
/-- Alice is served without signing. -/
theorem value_needs_consent_traded : ∃ after,
    execute Sample.traded Sample.purchase = .ok after ∧
    (Unmoved Sample.traded after Sample.alice.key ∨
      Served Sample.traded after Sample.alice.key Sample.purchase) ∧
      Undebited Sample.traded.tokens after.tokens Sample.alice := by
  obtain ⟨after, done⟩ : ∃ after, execute Sample.traded Sample.purchase = .ok after := by
    have accepted : (execute Sample.traded Sample.purchase).toOption.isSome := by decide +kernel
    cases done : execute Sample.traded Sample.purchase with
    | ok after => exact ⟨after, rfl⟩
    | error failure =>
        rw [done] at accepted
        cases accepted
  exact ⟨after, done, value_needs_consent Sample.start
    (Sample.funding ++ Sample.opening ++ Sample.trading) rfl done (by decide)⟩

end Tidebook.Proof
