import Tidebook.Library.Rounding
import Tidebook.Proof.Conservation

/-! # Taker laws

What one match does to the two traders and to the fee claim, the same on every venue, and what
follows for a request that is executed by any number of matches.
-/

namespace Tidebook.Proof
open Library Program

/-! ## Fees -/

theorem takerFee_ceil (gross feeBps : Nat) :
    takerFee gross feeBps = gross * feeBps ⌈/⌉ basisPointsDenominator := by
  rw [Nat.ceilDiv_eq_add_pred_div]
  rfl

/-! ## Venues -/

inductive Venue where
  | spot (market : Pubkey)
  | prediction (market : Pubkey) (outcome : PredictionOutcome)
  | shared (market : Pubkey) (outcome : SharedOutcome)

/-- What a trader has of a venue's two currencies, free and locked. -/
structure Purse where
  base : Nat
  quote : Nat

section Reading
variable (state : State)

def assetHeld (owner mint : Pubkey) : Nat :=
  ((state.shared.assets.get (.assetBalance owner mint)).map fun balance =>
    balance.free + balance.locked).getD 0

def contractsHeld (market owner : Pubkey) (outcome : PredictionOutcome) : Nat :=
  ((state.prediction.positions.get (.predictionPosition market owner)).map fun position =>
    match outcome with
    | .yes => position.yesFree + position.yesLocked
    | .no => position.noFree + position.noLocked).getD 0

def Venue.purse (owner : Pubkey) : Venue → Purse
  | .spot market => {
      base := ((state.spot.balances.get (.traderBalance market owner)).map fun balance =>
        balance.baseFree + balance.baseLocked).getD 0
      quote := ((state.spot.balances.get (.traderBalance market owner)).map fun balance =>
        balance.quoteFree + balance.quoteLocked).getD 0 }
  | .prediction market outcome => {
      base := contractsHeld state market owner outcome
      quote := ((state.prediction.positions.get (.predictionPosition market owner)).map
        fun position => position.collateralFree + position.collateralLocked).getD 0 }
  | .shared market outcome =>
      match state.shared.books.get (.sharedBook market) with
      | none => ⟨0, 0⟩
      | some book => {
          base := match outcome with
            | .spot => assetHeld state owner book.baseMint
            | .yes => contractsHeld state market owner .yes
            | .no => contractsHeld state market owner .no
          quote := assetHeld state owner book.quoteMint }

def Venue.accrued : Venue → Nat
  | .spot market => ((state.spot.fees.get (.marketFees market)).map
      MarketFees.accruedQuoteFees).getD 0
  | .prediction market _ => ((state.prediction.fees.get (.marketFees market)).map
      MarketFees.accruedQuoteFees).getD 0
  | .shared market _ => ((state.shared.books.get (.sharedBook market)).map
      SharedBook.accruedQuoteFees).getD 0

def Venue.scale : Venue → Nat
  | .spot market => ((state.spot.markets.get market).map fun record => 10 ^ record.baseDecimals).getD 1
  | .prediction _ _ => 1
  | .shared market _ => ((state.shared.books.get (.sharedBook market)).map fun book =>
      10 ^ book.baseDecimals).getD 1

end Reading

/-- A match of some venue, with the keys of its two traders. -/
inductive Matching (state : State) :
    Venue → Instruction → (taker maker : Pubkey) → OrderSide → (limit : Nat) → Prop where
  | spot {accounts : MatchLimitOrder} {side : OrderSide} {limit quantity : UInt64} {order : Order}
      (stored : state.spot.orders.get accounts.makerOrder = some order) :
      Matching state (.spot accounts.market) (.matchLimitOrder accounts side limit quantity)
        accounts.taker.key order.owner side limit.toNat
  | prediction {accounts : MatchPredictionOrder} {outcome : PredictionOutcome} {side : OrderSide}
      {limit quantity : UInt64} {order : PredictionOrder}
      (stored : state.prediction.orders.get accounts.makerOrder = some order) :
      Matching state (.prediction accounts.market outcome)
        (.matchPredictionOrder accounts outcome side limit quantity) accounts.taker.key order.owner
        side limit.toNat
  | shared {accounts : MatchSharedOrder} {outcome : SharedOutcome} {side : OrderSide}
      {limit quantity : UInt64} {order : SharedOrder}
      (stored : state.shared.orders.get accounts.makerOrder = some order) :
      Matching state (.shared accounts.market outcome)
        (.matchSharedOrder accounts outcome side limit quantity) accounts.taker.key order.owner
        side limit.toNat

/-! ## One match -/

structure Traded (side : OrderSide) (base gross fee : Nat)
    (maker makerAfter taker takerAfter : Purse) : Prop where
  maker : match side with
    | .bid => makerAfter.base + base = maker.base ∧ makerAfter.quote = maker.quote + gross
    | .ask => makerAfter.base = maker.base + base ∧ makerAfter.quote + gross = maker.quote
  taker : match side with
    | .bid => takerAfter.base = taker.base + base ∧ takerAfter.quote + gross + fee = taker.quote
    | .ask => takerAfter.base + base = taker.base ∧ takerAfter.quote + fee = taker.quote + gross

/-! ### Spot books -/

theorem settleBalances_held {takerSide makerSide : OrderSide}
    {limit quantity price remaining locked decimals fee : Nat} {plan : SettlementPlan}
    {maker taker makerSettled takerSettled : TraderBalance}
    (facts : SettlementFacts takerSide limit quantity makerSide price remaining locked decimals plan)
    (passed : settleBalances takerSide plan fee maker taker = .ok (makerSettled, takerSettled)) :
    Traded takerSide plan.fill.baseQuantity plan.fill.quoteQuantity fee
      ⟨maker.baseFree + maker.baseLocked, maker.quoteFree + maker.quoteLocked⟩
      ⟨makerSettled.baseFree + makerSettled.baseLocked,
        makerSettled.quoteFree + makerSettled.quoteLocked⟩
      ⟨taker.baseFree + taker.baseLocked, taker.quoteFree + taker.quoteLocked⟩
      ⟨takerSettled.baseFree + takerSettled.baseLocked,
        takerSettled.quoteFree + takerSettled.quoteLocked⟩ := by
  have sides := facts.sides
  have debit := facts.debit
  cases takerSide <;> cases makerSide <;>
    simp only [ne_eq, not_true_eq_false, reduceCtorEq, not_false_eq_true] at sides
  · simp only [makerDebit] at debit
    simp only [settleBalances, bind_eq_ok, checkedAdd_eq_ok, checkedSub_eq_ok, pure_eq_ok,
      Prod.mk.injEq] at passed
    obtain ⟨_, ⟨_, rfl⟩, _, ⟨_, rfl⟩, _, ⟨_, rfl⟩, _, ⟨_, rfl⟩, _, ⟨_, rfl⟩, rfl, rfl⟩ := passed
    refine ⟨⟨?_, ?_⟩, ?_, ?_⟩ <;> simp only <;> omega
  · obtain ⟨_, _, refund⟩ := facts.bid_lock rfl
    simp only [settleBalances, bind_eq_ok, checkedAdd_eq_ok, checkedSub_eq_ok, pure_eq_ok,
      Prod.mk.injEq] at passed
    obtain ⟨_, ⟨_, rfl⟩, _, ⟨_, rfl⟩, _, ⟨_, rfl⟩, _, ⟨_, rfl⟩, _, ⟨_, rfl⟩, _, ⟨_, rfl⟩, rfl,
      rfl⟩ := passed
    refine ⟨⟨?_, ?_⟩, ?_, ?_⟩ <;> simp only <;> omega

/-! ### Question books -/

theorem settlePositions_held {outcome : PredictionOutcome} {takerSide : OrderSide}
    {backing base gross fee : Nat} {maker taker makerSettled takerSettled : PredictionPosition}
    (passed : settlePositions outcome takerSide backing base gross fee maker taker =
      .ok (makerSettled, takerSettled)) :
    Traded takerSide base gross fee
      ⟨maker.contractsFree outcome + maker.contractsLocked outcome,
        maker.collateralFree + maker.collateralLocked⟩
      ⟨makerSettled.contractsFree outcome + makerSettled.contractsLocked outcome,
        makerSettled.collateralFree + makerSettled.collateralLocked⟩
      ⟨taker.contractsFree outcome + taker.contractsLocked outcome,
        taker.collateralFree + taker.collateralLocked⟩
      ⟨takerSettled.contractsFree outcome + takerSettled.contractsLocked outcome,
        takerSettled.collateralFree + takerSettled.collateralLocked⟩ := by
  cases takerSide with
  | bid =>
      simp only [settlePositions, bind_eq_ok, require_eq_ok, checkedAdd_eq_ok, checkedSub_eq_ok,
        pure_eq_ok, Prod.mk.injEq] at passed
      obtain ⟨_, _, _, ⟨_, rfl⟩, _, ⟨paid, rfl⟩, _, ⟨_, rfl⟩, _, ⟨held, rfl⟩, _, ⟨_, rfl⟩, rfl,
        rfl⟩ := passed
      cases outcome
      all_goals simp only [PredictionPosition.setContractsLocked,
        PredictionPosition.setContractsFree, PredictionPosition.contractsLocked,
        PredictionPosition.contractsFree] at held ⊢
      all_goals refine ⟨⟨?_, ?_⟩, ?_, ?_⟩ <;> simp only <;> omega
  | ask =>
      simp only [settlePositions, bind_eq_ok, require_eq_ok, checkedAdd_eq_ok, checkedSub_eq_ok,
        pure_eq_ok, Prod.mk.injEq] at passed
      obtain ⟨_, _, _, ⟨held, rfl⟩, _, ⟨feePaid, rfl⟩, _, ⟨_, rfl⟩, _, ⟨paid, rfl⟩, _, ⟨_, rfl⟩,
        rfl, rfl⟩ := passed
      cases outcome
      all_goals simp only [PredictionPosition.setContractsFree, PredictionPosition.contractsFree,
        PredictionPosition.contractsLocked] at held ⊢
      all_goals refine ⟨⟨?_, ?_⟩, ?_, ?_⟩ <;> simp only <;> omega

theorem contractsHeld_stored {state : State} {market owner : Pubkey} {position : PredictionPosition}
    (stored : state.prediction.positions.get (.predictionPosition market owner) = some position)
    (outcome : PredictionOutcome) : contractsHeld state market owner outcome =
      position.contractsFree outcome + position.contractsLocked outcome := by
  rw [contractsHeld, stored]
  cases outcome <;> rfl

/-! ### The law -/

def Within (side : OrderSide) (limit price : Nat) : Prop :=
  match side with
  | .bid => price ≤ limit
  | .ask => limit ≤ price

theorem within_of_cross {side : OrderSide} {limit price : Nat}
    (cross : pricesCross side limit price) : Within side limit price := by
  cases side <;> simpa [pricesCross, Within] using cross

/-- One match of a venue: a quantity at the maker's price, and the fee on its notional. -/
structure MatchLaw (state after : State) (venue : Venue) (taker maker : Pubkey) (side : OrderSide)
    (limit base price feeBps : Nat) : Prop where
  configured : ∃ config, state.protocol.loadConfig = .ok config ∧ config.takerFeeBps = feeBps
  capped : feeBps ≤ maxTakerFeeBps
  base_pos : 0 < base
  within : Within side limit price
  charged : calculateTakerFee (price * base / venue.scale state) feeBps =
    .ok (takerFee (price * base / venue.scale state) feeBps)
  traded : Traded side base (price * base / venue.scale state)
    (takerFee (price * base / venue.scale state) feeBps) (venue.purse state maker)
    (venue.purse after maker) (venue.purse state taker) (venue.purse after taker)
  accrued : venue.accrued after =
    venue.accrued state + takerFee (price * base / venue.scale state) feeBps

section Laws
variable {state : State} {config : ProtocolConfig} {taker : Wallet} {market makerKey : Pubkey}
  {takerSide : OrderSide} {limit quantity : Nat}

theorem Fill.law (configured : state.protocol.loadConfig = .ok config)
    (fill : Fill state.spot config taker market makerKey takerSide limit quantity) :
    MatchLaw state { state with spot := fill.result } (.spot market) taker.key fill.order.owner
      takerSide limit fill.plan.fill.baseQuantity fill.order.price config.takerFeeBps := by
  have facts := fill.facts
  have stored := fill.stored
  rw [fill.home] at stored
  have scale : (Venue.spot market).scale state = 10 ^ fill.market.baseDecimals := by
    rw [Venue.scale, stored]
    rfl
  have gross : fill.order.price * fill.plan.fill.baseQuantity / (Venue.spot market).scale state =
      fill.plan.fill.quoteQuantity := by
    rw [scale, facts.quote, facts.base]
  obtain ⟨capped, fee, -⟩ := calculateTakerFee_ok fill.charged
  have apart : Pubkey.traderBalance market fill.order.owner ≠ .traderBalance market taker.key :=
    fun same => fill.own (Pubkey.traderBalance.inj same).2
  have held := settleBalances_held facts fill.balanced
  refine ⟨⟨config, configured, rfl⟩, capped, facts.base ▸ facts.base_pos,
    within_of_cross facts.cross, ?_, ?_, ?_⟩
  · rw [gross, ← fee]
    exact fill.charged
  · rw [gross, ← fee]
    simp only [Venue.purse, Fill.result, Store.get_set_self, Store.get_set_ne _ _ apart,
      fill.makerStored, fill.takerStored, Option.map_some, Option.getD_some]
    exact held
  · rw [gross, ← fee]
    simp only [Venue.accrued, Fill.result, Store.get_set_self, fill.feesStored, Option.map_some,
      Option.getD_some]

theorem PredictionFill.law {outcome : PredictionOutcome}
    (configured : state.protocol.loadConfig = .ok config)
    (fill : PredictionFill state.prediction state.now config taker market makerKey outcome
      takerSide limit quantity) (remains : 0 < fill.order.remainingQuantity) :
    MatchLaw state { state with prediction := fill.result } (.prediction market outcome) taker.key
      fill.order.owner takerSide limit (min quantity fill.order.remainingQuantity) fill.order.price
      config.takerFeeBps := by
  have gross : fill.order.price * min quantity fill.order.remainingQuantity /
      (Venue.prediction market outcome).scale state =
        fill.order.price * min quantity fill.order.remainingQuantity := Nat.div_one _
  obtain ⟨capped, fee, -⟩ := calculateTakerFee_ok fill.charged
  have apart : Pubkey.predictionPosition market fill.order.owner ≠
      .predictionPosition market taker.key :=
    fun same => fill.own (Pubkey.predictionPosition.inj same).2
  have held := settlePositions_held fill.settled
  have maker : fill.result.positions.get (.predictionPosition market fill.order.owner) =
      some fill.makerSettled := by
    rw [PredictionFill.result, Store.get_set_ne _ _ apart, Store.get_set_self]
  have settled : fill.result.positions.get (.predictionPosition market taker.key) =
      some fill.takerSettled := by
    rw [PredictionFill.result, Store.get_set_self]
  have makerHeld : contractsHeld { state with prediction := fill.result } market fill.order.owner
      outcome = _ := contractsHeld_stored maker outcome
  have takerHeld : contractsHeld { state with prediction := fill.result } market taker.key
      outcome = _ := contractsHeld_stored settled outcome
  refine ⟨⟨config, configured, rfl⟩, capped, lt_min fill.quantity_pos remains, ?_, ?_, ?_, ?_⟩
  · have cross := fill.cross
    cases takerSide <;> exact cross
  · rw [gross, ← fee]
    exact fill.charged
  · rw [gross, ← fee]
    simp only [Venue.purse, contractsHeld_stored fill.makerStored, fill.makerStored,
      contractsHeld_stored fill.takerStored, fill.takerStored, Option.map_some, Option.getD_some]
    rw [makerHeld, takerHeld, maker, settled]
    exact held
  · rw [gross, ← fee]
    simp only [Venue.accrued, PredictionFill.result, Store.get_set_self, fill.feesStored,
      Option.map_some, Option.getD_some]

end Laws

/-! ### Shared books -/

section Saved
variable {state : State} {book : SharedBook} {owner : Pubkey} {before after : Claims}
  {outcome : SharedOutcome} {quote base : Flow}

theorem ClaimsHeld.saved (terms : Shared.Terms book) (claims : ClaimsHeld state book owner before)
    (move : ClaimsMove outcome before after quote base) :
    ClaimsHeld (saveClaims state after) book owner after := by
  have quoteKey := move.quoteKey.trans claims.quoteKey
  refine ⟨quoteKey, ?_, fun isSpot => ?_, fun notSpot => ?_⟩
  · simp only [saveClaims, save, quoteKey, Store.get_set_self]
  · obtain ⟨none, balance, isBase, -⟩ := claims.spot isSpot
    obtain ⟨new, isNew, -⟩ := move.baseMove _ _ isBase
    refine ⟨move.positionNone none, new, isNew, ?_⟩
    have apart : Pubkey.assetBalance owner book.baseMint ≠ .assetBalance owner book.quoteMint :=
      fun same => terms.mints isSpot (Pubkey.assetBalance.inj same).2
    simp only [saveClaims, save, quoteKey, isNew, saveOption]
    rw [Store.get_set_ne _ _ apart, Store.get_set_self]
  · obtain ⟨none, position, isPosition, -⟩ := claims.contracts notSpot
    obtain ⟨new, isNew, -⟩ := move.positionMove _ _ isPosition
    refine ⟨move.baseNone none, new, isNew, ?_⟩
    simp only [saveClaims, isNew, saveOption, save, Store.get_set_self]

/-- What the claims of a trader come to in a book's two currencies. -/
def Claims.purse (outcome : SharedOutcome) (claims : Claims) : Purse where
  base := match outcome with
    | .spot => (claims.base.map fun base => base.val.free + base.val.locked).getD 0
    | .yes => (claims.position.map fun position =>
        position.val.yesFree + position.val.yesLocked).getD 0
    | .no => (claims.position.map fun position =>
        position.val.noFree + position.val.noLocked).getD 0
  quote := claims.quote.val.free + claims.quote.val.locked

theorem ClaimsHeld.purse {market : Pubkey} (trades : Trades book.kind outcome)
    (stored : state.shared.books.get (.sharedBook market) = some book)
    (home : book.market = market) (claims : ClaimsHeld state book owner before) :
    (Venue.shared market outcome).purse state owner = Claims.purse outcome before := by
  subst home
  simp only [Venue.purse, stored]
  have quote : assetHeld state owner book.quoteMint =
      before.quote.val.free + before.quote.val.locked := by
    rw [assetHeld, claims.quoteStored]
    rfl
  rw [quote]
  by_cases isSpot : book.kind = .spot
  · obtain ⟨-, balance, isBase, held⟩ := claims.spot isSpot
    rw [isSpot] at trades
    obtain rfl : outcome = .spot := trades
    simp only [Claims.purse, assetHeld, isBase, held, Option.map_some, Option.getD_some]
  · obtain ⟨-, position, isPosition, held⟩ := claims.contracts isSpot
    cases outcome with
    | spot => cases kind : book.kind <;> simp_all [Trades]
    | yes =>
        simp only [Claims.purse, contractsHeld, isPosition, held, Option.map_some,
          Option.getD_some]
    | no =>
        simp only [Claims.purse, contractsHeld, isPosition, held, Option.map_some,
          Option.getD_some]

theorem ClaimsMove.purse (trades : Trades book.kind outcome)
    (claims : ClaimsHeld state book owner before)
    (move : ClaimsMove outcome before after quote base) :
    (Claims.purse outcome after).quote + quote.out =
      (Claims.purse outcome before).quote + quote.into ∧
    (Claims.purse outcome after).base + base.out =
      (Claims.purse outcome before).base + base.into := by
  have moved := (assetMove_iff.mp move.quoteMove).2.2.2
  refine ⟨moved, ?_⟩
  by_cases isSpot : book.kind = .spot
  · obtain ⟨-, balance, isBase, -⟩ := claims.spot isSpot
    obtain ⟨new, isNew, baseMove⟩ := move.baseMove _ _ isBase
    rw [isSpot] at trades
    obtain rfl : outcome = .spot := trades
    have held := (assetMove_iff.mp baseMove).2.2.2
    simp only [spotFlow, if_true] at held
    simpa only [Claims.purse, isBase, isNew, Option.map_some, Option.getD_some] using held
  · obtain ⟨-, position, isPosition, -⟩ := claims.contracts isSpot
    obtain ⟨new, isNew, contracts⟩ := move.positionMove _ _ isPosition
    cases outcome with
    | spot => cases kind : book.kind <;> simp_all [Trades]
    | yes =>
        have held := contracts.held (.contracts .yes)
        simpa [Claims.purse, isPosition, isNew, Shared.traded, positionLedger] using held
    | no =>
        have held := contracts.held (.contracts .no)
        simpa [Claims.purse, isPosition, isNew, Shared.traded, positionLedger] using held

end Saved

theorem SharedFill.law {state : State} {config : ProtocolConfig} {taker : Wallet}
    {market makerKey : Pubkey} {outcome : SharedOutcome} {takerSide : OrderSide}
    {limit quantity : Nat} (holds : SharedInvariant state.shared)
    (configured : state.protocol.loadConfig = .ok config)
    (fill : SharedFill state config taker market makerKey outcome takerSide limit quantity) :
    MatchLaw state fill.result (.shared market outcome) taker.key fill.order.owner takerSide limit
      fill.plan.fill.baseQuantity fill.order.price config.takerFeeBps := by
  have facts := fill.facts
  have terms := holds.terms _ _ fill.stored
  have stored := fill.stored
  rw [fill.home] at stored
  have scale : (Venue.shared market outcome).scale state = 10 ^ fill.book.baseDecimals := by
    rw [Venue.scale, stored]
    rfl
  have gross : fill.order.price * fill.plan.fill.baseQuantity /
      (Venue.shared market outcome).scale state = fill.plan.fill.quoteQuantity := by
    rw [scale, facts.quote, facts.base]
  obtain ⟨capped, fee, -⟩ := calculateTakerFee_ok fill.charged
  have same : Shared.SameTerms fill.book fill.charging := by
    cases full : fill.plan.makerFullyFilled with
    | true => exact (fill.edit_full holds full).same
    | false => exact (fill.edit_partial holds full).same
  have record : fill.result.shared.books.get (.sharedBook market) = some fill.charging :=
    Store.get_set_self _ _ _
  have trades : Trades fill.charging.kind outcome := same.kind.symm ▸ fill.trades
  have home : fill.charging.market = market := same.market.trans fill.ofMarket
  obtain ⟨makerMove, takerMove⟩ := fill.moves
  have kept := ClaimsHeld.keep fill.own fill.taker_kept takerMove
    (fill.makerHeld.saved terms makerMove)
  have assets : fill.result.shared.assets =
      (saveClaims (saveClaims state fill.makerSettled) fill.takerSettled).shared.assets := rfl
  have positions : fill.result.prediction.positions =
      (saveClaims (saveClaims state fill.makerSettled) fill.takerSettled).prediction.positions := rfl
  have makerSaved : ClaimsHeld fill.result fill.charging fill.order.owner fill.makerSettled :=
    kept.congr same assets positions
  have takerSaved : ClaimsHeld fill.result fill.charging taker.key fill.takerSettled :=
    (fill.taker_kept.saved terms takerMove).congr same assets positions
  have makerMoved := makerMove.purse fill.trades fill.makerHeld
  have takerMoved := takerMove.purse fill.trades fill.takerHeld
  have feePaid := (settleClaims_ok fill.facts fill.balanced).2.2
  refine ⟨⟨config, configured, rfl⟩, capped, facts.base ▸ facts.base_pos,
    within_of_cross facts.cross, ?_, ?_, ?_⟩
  · rw [gross, ← fee]
    exact fill.charged
  · rw [gross, ← fee, fill.makerHeld.purse fill.trades stored fill.ofMarket,
      fill.takerHeld.purse fill.trades stored fill.ofMarket, makerSaved.purse trades record home,
      takerSaved.purse trades record home]
    have sides := facts.sides
    have debit := facts.debit
    cases takerSide <;> cases makerSide : fill.order.side <;>
      simp only [makerSide, ne_eq, not_true_eq_false, reduceCtorEq, not_false_eq_true] at sides
    · simp only [makerSide, makerQuote, makerBase, takerQuote, takerBase] at makerMoved takerMoved
      refine ⟨⟨?_, ?_⟩, ?_, ?_⟩ <;> omega
    · have paid := feePaid rfl
      simp only [makerSide, makerQuote, makerBase, takerQuote, takerBase] at makerMoved takerMoved
      refine ⟨⟨?_, ?_⟩, ?_, ?_⟩ <;> omega
  · rw [gross, ← fee]
    have charging : fill.charging.accruedQuoteFees = fill.book.accruedQuoteFees + fill.fee := by
      rw [SharedFill.charging]
      split <;> rfl
    simp only [Venue.accrued, record, stored, Option.map_some, Option.getD_some, charging]

theorem match_law {state after : State} {venue : Venue} {instruction : Instruction}
    {taker maker : Pubkey} {side : OrderSide} {limit : Nat} (holds : Invariant state)
    (matching : Matching state venue instruction taker maker side limit)
    (done : execute state instruction = .ok after) :
    ∃ base price feeBps, MatchLaw state after venue taker maker side limit base price feeBps := by
  cases matching with
  | spot stored =>
      obtain ⟨config, configured, fill, rfl⟩ := execute_matchLimitOrder holds.spot done
      rw [fill.orderStored, Option.some.injEq] at stored
      exact ⟨_, _, _, stored ▸ fill.law configured⟩
  | prediction stored =>
      obtain ⟨config, configured, fill, rfl⟩ := execute_matchPredictionOrder holds.prediction done
      rw [fill.orderStored, Option.some.injEq] at stored
      have remains := (fill.rests holds.prediction).remaining_pos
      exact ⟨_, _, _, stored ▸ fill.law configured remains⟩
  | shared stored =>
      obtain ⟨config, configured, fill, rfl⟩ := handleMatchSharedOrder_ok holds.shared done
      rw [fill.orderStored, Option.some.injEq] at stored
      exact ⟨_, _, _, stored ▸ fill.law holds.shared configured⟩

/-! ## Requests -/

/-- A match that executes part of a request, in a state that some run reaches. -/
structure Part (venue : Venue) (taker : Pubkey) (side : OrderSide) (limit scale : Nat) where
  genesis : Genesis
  events : List Event
  instruction : Instruction
  maker : Pubkey
  after : State
  matching : Matching (genesis.after events).state venue instruction taker maker side limit
  done : execute (genesis.after events).state instruction = .ok after
  scaled : venue.scale (genesis.after events).state = scale

section Part
variable {venue : Venue} {taker : Pubkey} {side : OrderSide} {limit scale : Nat}

def Part.before (part : Part venue taker side limit scale) : State :=
  (part.genesis.after part.events).state

def Part.base (part : Part venue taker side limit scale) : Nat :=
  match side with
  | .bid => (venue.purse part.after taker).base - (venue.purse part.before taker).base
  | .ask => (venue.purse part.before taker).base - (venue.purse part.after taker).base

def Part.fee (part : Part venue taker side limit scale) : Nat :=
  venue.accrued part.after - venue.accrued part.before

def Part.spent (part : Part venue taker side limit scale) : Nat :=
  (venue.purse part.before taker).quote - (venue.purse part.after taker).quote

def Part.received (part : Part venue taker side limit scale) : Nat :=
  (venue.purse part.after taker).quote - (venue.purse part.before taker).quote

theorem Part.law (part : Part venue taker side limit scale) : ∃ config price gross,
    part.before.protocol.loadConfig = .ok config ∧ config.takerFeeBps ≤ maxTakerFeeBps ∧
    calculateTakerFee gross config.takerFeeBps = .ok part.fee ∧
    part.fee = takerFee gross config.takerFeeBps ∧ Within side limit price ∧ 0 < part.base ∧
    gross = price * part.base / scale ∧
    (venue.purse part.after part.maker).quote + (venue.purse part.after taker).quote +
        venue.accrued part.after =
      (venue.purse part.before part.maker).quote + (venue.purse part.before taker).quote +
        venue.accrued part.before ∧
    (side = .bid → part.spent = gross + part.fee) ∧
    (side = .ask → part.received + part.fee = gross) := by
  have holds : Invariant part.before := run_invariant part.genesis part.events
  obtain ⟨base, price, feeBps, law⟩ := match_law holds part.matching part.done
  obtain ⟨config, configured, rfl⟩ := law.configured
  have scaled : venue.scale part.before = scale := part.scaled
  have accrued := law.accrued
  have charged := law.charged
  have traded := law.traded
  rw [scaled] at accrued charged traded
  have fee : part.fee = takerFee (price * base / scale) config.takerFeeBps := by
    simp only [Part.fee]
    omega
  have bounded : part.fee ≤ price * base / scale := fee ▸ takerFee_le _ law.capped
  rw [← fee] at accrued charged traded
  obtain ⟨maker, bought⟩ := traded
  cases side with
  | bid =>
      simp only at maker bought
      obtain rfl : part.base = base := by
        simp only [Part.base]
        omega
      refine ⟨config, price, _, configured, law.capped, charged, fee, law.within, law.base_pos, rfl,
        ?_, fun _ => ?_, nofun⟩
      · omega
      · simp only [Part.spent]
        omega
  | ask =>
      simp only at maker bought
      obtain rfl : part.base = base := by
        simp only [Part.base]
        omega
      refine ⟨config, price, _, configured, law.capped, charged, fee, law.within, law.base_pos, rfl,
        ?_, nofun, fun _ => ?_⟩
      · omega
      · simp only [Part.received]
        omega

end Part

theorem spent_le {venue : Venue} {taker : Pubkey} {limit scale : Nat}
    (part : Part venue taker .bid limit scale) :
    part.spent ≤ limit * part.base / scale + part.fee := by
  obtain ⟨config, price, gross, -, -, -, -, within, -, rfl, -, spent, -⟩ := part.law
  rw [spent rfl]
  exact Nat.add_le_add_right (Nat.div_le_div_right (Nat.mul_le_mul_right _ within)) _

/-- However a request is executed: a buyer pays no more than its limit on the whole and the fees, a
seller receives no less than its limit on each fill but the fee. Fees are rounded up fill by fill,
and no quote is made or lost. -/
theorem taker_protection :
    (∀ venue taker limit scale, ∀ parts : List (Part venue taker .bid limit scale),
      (parts.map Part.spent).sum ≤
        limit * (parts.map Part.base).sum / scale + (parts.map Part.fee).sum) ∧
    (∀ venue taker limit scale, ∀ part : Part venue taker .ask limit scale,
      limit * part.base / scale - part.fee ≤ part.received) ∧
    (∀ venue taker side limit scale, ∀ part : Part venue taker side limit scale,
      ∃ config gross, part.before.protocol.loadConfig = .ok config ∧
        part.fee = gross * config.takerFeeBps ⌈/⌉ 10000 ∧ part.fee ≤ gross ∧
        (side = .bid → part.spent = gross + part.fee) ∧
        (side = .ask → part.received + part.fee = gross) ∧
        (venue.purse part.after part.maker).quote + (venue.purse part.after taker).quote +
            venue.accrued part.after =
          (venue.purse part.before part.maker).quote + (venue.purse part.before taker).quote +
            venue.accrued part.before) ∧
    (∀ gross feeBps, gross ≤ u64Max → feeBps ≤ 1000 →
      calculateTakerFee gross feeBps = .ok (gross * feeBps ⌈/⌉ 10000) ∧
        gross * feeBps ⌈/⌉ 10000 ≤ gross) ∧
    ∀ feeBps parts, parts ≠ [] →
      parts.sum * feeBps ⌈/⌉ 10000 ≤ ceilShares feeBps 10000 parts ∧
        ceilShares feeBps 10000 parts < parts.sum * feeBps ⌈/⌉ 10000 + parts.length := by
  refine ⟨fun venue taker limit scale parts => ?_, fun venue taker limit scale part => ?_,
    fun venue taker side limit scale part => ?_, fun gross feeBps fits capped => ?_,
    fun feeBps parts some_part => ⟨ceil_le_ceilShares (by decide) parts,
      ceilShares_lt_ceil (by decide) some_part⟩⟩
  · calc (parts.map Part.spent).sum ≤
          (parts.map fun part => limit * part.base / scale + part.fee).sum :=
        List.sum_le_sum fun part _ => spent_le part
      _ = floorShares limit scale (parts.map Part.base) + (parts.map Part.fee).sum := by
        rw [List.sum_map_add, floorShares, List.map_map]
        rfl
      _ ≤ _ := Nat.add_le_add_right (floorShares_le _) _
  · obtain ⟨config, price, gross, -, -, -, -, within, -, rfl, -, -, received⟩ := part.law
    have limited : limit * part.base / scale ≤ price * part.base / scale :=
      Nat.div_le_div_right (Nat.mul_le_mul_right _ within)
    have net := received rfl
    omega
  · obtain ⟨config, price, gross, configured, capped, -, fee, -, -, -, net, spent, received⟩ :=
      part.law
    refine ⟨config, gross, configured, fee.trans (takerFee_ceil _ _), ?_, spent, received, net⟩
    exact fee ▸ takerFee_le _ capped
  · have total := calculateTakerFee_total fits capped
    have bound : takerFee gross feeBps ≤ gross := takerFee_le gross capped
    rw [takerFee_ceil] at total bound
    exact ⟨total, bound⟩

/-! Bob takes four of the ten tenths that Alice sells at twenty. -/

def Sample.crossing : MatchLimitOrder := ⟨bob, spot, .order spot 1, none, none, none⟩

def Sample.take : Instruction := .matchLimitOrder crossing .bid 25 4

set_option maxRecDepth 4096 in
theorem taker_protection_traded : ∃ part : Part (.spot Sample.spot) Sample.bob.key .bid 25 10,
    part.base = 4 ∧ part.spent ≤ 25 * part.base / 10 + part.fee := by
  have facts : (Sample.traded.spot.orders.get (.order Sample.spot 1)).isSome ∧
      (Venue.spot Sample.spot).scale Sample.traded = 10 ∧
      (execute Sample.traded Sample.take).toOption.map (fun after =>
        ((Venue.spot Sample.spot).purse after Sample.bob.key).base -
          ((Venue.spot Sample.spot).purse Sample.traded Sample.bob.key).base) = some 4 := by
    decide +kernel
  obtain ⟨some_order, scaled, moved⟩ := facts
  obtain ⟨order, stored⟩ := Option.isSome_iff_exists.mp some_order
  obtain ⟨after, ran, moved⟩ := Option.map_eq_some_iff.mp moved
  cases done : execute Sample.traded Sample.take with
  | error failure =>
      rw [done] at ran
      cases ran
  | ok result =>
      rw [done] at ran
      cases ran
      have matching : Matching Sample.traded (.spot Sample.spot) Sample.take Sample.bob.key
          order.owner .bid 25 :=
        @Matching.spot Sample.traded Sample.crossing .bid 25 4 order stored
      let part : Part (.spot Sample.spot) Sample.bob.key .bid 25 10 :=
        ⟨Sample.start, Sample.funding ++ Sample.opening ++ Sample.trading, Sample.take, order.owner,
          after, matching, done, scaled⟩
      have paid := taker_protection.1 (.spot Sample.spot) Sample.bob.key 25 10 [part]
      simp only [List.map_cons, List.map_nil, List.sum_singleton] at paid
      exact ⟨part, moved, paid⟩

end Tidebook.Proof
