import Tidebook.Proof.Invariant

/-! # Every step keeps the invariant -/

namespace Tidebook.Proof
open Library Program

/-! ## Terms that stay -/

theorem SameQuestion.refl (market : PredictionMarket) : SameQuestion market market :=
  ⟨rfl, rfl, rfl, rfl, rfl⟩

theorem SameQuestion.recount (market : PredictionMarket) (count : Nat) :
    SameQuestion market { market with openOrderCount := count } := ⟨rfl, rfl, rfl, rfl, rfl⟩

theorem question_set {markets : Store Pubkey PredictionMarket} {key : Pubkey}
    {market record : PredictionMarket} (stored : markets.get key = some market)
    (same : SameQuestion market record) (found : Pubkey) (other : PredictionMarket)
    (present : (markets.set key record).get found = some other) :
    ∃ old, markets.get found = some old ∧ SameQuestion old other := by
  rw [Store.get_set] at present
  split at present
  · next home =>
      cases present
      exact ⟨market, home ▸ stored, same⟩
  · exact ⟨other, present, .refl other⟩

theorem Canonical.update {markets : Store Pubkey Market} {key : Pubkey} {market record : Market}
    (holds : Canonical markets) (stored : markets.get key = some market)
    (same : SameTerms market record) : Canonical (markets.set key record) := by
  intro found other present
  rw [Store.get_set] at present
  split at present
  · next home =>
      cases present
      rw [home, same.baseMint, same.quoteMint]
      exact holds key market stored
  · exact holds found other present

theorem Backing.recount {market : PredictionMarket} {count : Nat} (backing : Backing market) :
    Backing { market with openOrderCount := count } :=
  ⟨backing.payout_pos, backing.even, backing.resolved, backing.before, backing.after,
    backing.reserve_fits, backing.supply_fits⟩

section Vaults

variable {state : State} (holds : Vaulted state)
include holds

theorem Vaulted.tokens {tokens : Tokens} {spot : Spot} {protocol : Protocol}
    (keyed : state.prediction.markets.Keyed fun market => .predictionMarket market.marketId)
    (persists : Persists state.tokens tokens) :
    Vaulted { state with tokens := tokens, spot := spot, protocol := protocol } :=
  holds.keep persists keyed (fun _ market stored => ⟨market, stored, .refl market⟩)
    fun key balance stored => ⟨key, balance, stored, rfl⟩

end Vaults

/-! ## Locks -/

section Locks

variable {state : State} (holds : Invariant state)
include holds

theorem Invariant.positions_unlocked {positions : Store Pubkey PredictionPosition}
    {out into : Pubkey → Bucket → Nat}
    (edit : positionLedger.Edit state.prediction.positions positions 0 0 out into)
    (holder : Pubkey × Pubkey) (bucket : Bucket) :
    positionLedger.lockedOf positions holder bucket =
      state.prediction.orders.total (Predicted.lockedBy holder bucket) +
        state.shared.orders.total (Shared.contractLocked holder bucket) := by
  have locked := edit.locked holder bucket
  rw [Pi.zero_apply, Pi.zero_apply] at locked
  exact locked.trans (holds.positionLocks holder bucket)

theorem Invariant.assets_unlocked {assets : Store Pubkey AssetBalance}
    {out into : Pubkey → Unit → Nat}
    (edit : assetLedger.Edit state.shared.assets assets 0 0 out into) (holder : Pubkey × Pubkey) :
    assetLedger.lockedOf assets holder () =
      state.shared.orders.total (Shared.assetLocked state.shared.books holder) := by
  have locked := edit.locked holder ()
  rw [Pi.zero_apply, Pi.zero_apply] at locked
  exact locked.trans (holds.assetLocks holder)

end Locks

/-! ## Order operations -/

section Orders

variable {state : State} (holds : Invariant state)
include holds

theorem Invariant.spotEdit {after : Spot} {key orderKey : Pubkey} {market record : Market}
    {written : Order} {previous next ahead behind : Option Pubkey}
    (edit : SpotEdit state.spot after key orderKey market record written previous next ahead behind)
    (fees : Charged Market.quoteMint state.spot.markets after.fees) :
    Invariant { state with spot := after } :=
  { holds with
    spot := holds.spot.edit edit
    vaulted := holds.vaulted.tokens holds.prediction.markets (.refl _)
    canonical := by
      rw [edit.markets]
      exact holds.canonical.update edit.stored edit.terms
    charged := by
      rw [edit.markets]
      exact fees.update edit.stored edit.terms.quoteMint }

theorem Invariant.predictionEdit {after : Prediction} {key orderKey : Pubkey}
    {market : PredictionMarket} {count : Nat} {book headed : PredictionOrderBook}
    {written : PredictionOrder} {previous next ahead behind : Option Pubkey}
    {lost gained : Pubkey × Pubkey → Bucket → Nat} {out into : Pubkey → Bucket → Nat}
    (edit : PredictionEdit state.prediction after key orderKey market count book headed written
      previous next ahead behind)
    (ledger : positionLedger.Edit state.prediction.positions after.positions lost gained out into)
    (contracts : ∀ key outcome, out key (.contracts outcome) = into key (.contracts outcome))
    (claimed : ∀ holder bucket, Predicted.lockedBy holder bucket orderKey written +
        lost holder bucket =
      (state.prediction.orders.get orderKey).elim 0 (Predicted.lockedBy holder bucket orderKey) +
        gained holder bucket)
    (fees : Charged PredictionMarket.collateralMint state.prediction.markets after.fees) :
    Invariant { state with prediction := after } :=
  { holds with
    prediction := holds.prediction.edit edit
    vaulted := by
      refine holds.vaulted.keep (.refl _) holds.prediction.markets (fun found other stored => ?_)
        fun found balance stored => ⟨found, balance, stored, rfl⟩
      rw [edit.markets] at stored
      exact question_set edit.stored (.recount market count) found other stored
    accounts := holds.accounts.update edit.stored edit.markets Backing.recount ledger
      (fun outcome => by
        rw [contracts]
        rfl)
      fun other _ outcome => contracts other outcome
    questions := by
      rw [edit.markets]
      exact fees.update edit.stored rfl
    positionLocks := fun holder bucket => by
      have moved := ledger.locked holder bucket
      have orders := edit.locks holder bucket
      have before := holds.positionLocks holder bucket
      have net := claimed holder bucket
      dsimp only
      omega }

variable {owner : Wallet} {key makerKey : Pubkey} {orderId : Nat} {outcome : PredictionOutcome}
variable {side takerSide : OrderSide} {price quantity limit : Nat} {config : ProtocolConfig}

theorem Invariant.predictionInsertion
    (placed : PredictionInsertion state.prediction state.now owner key orderId outcome side price
      quantity) : Invariant { state with prediction := placed.result } := by
  refine holds.predictionEdit (placed.edit holds.prediction)
    (placed.ledger holds.accounts.filed) (fun _ _ => rfl) (fun holder bucket => ?_) holds.questions
  rw [placed.freshOrder, Predicted.lockedBy_live rfl]
  exact Nat.add_comm _ _

theorem Invariant.predictionAppending
    (placed : PredictionAppending state.prediction state.now owner key orderId outcome side price
      quantity) : Invariant { state with prediction := placed.result } := by
  refine holds.predictionEdit (placed.edit holds.prediction)
    (placed.ledger holds.accounts.filed) (fun _ _ => rfl) (fun holder bucket => ?_) holds.questions
  rw [placed.freshOrder, Predicted.lockedBy_live rfl]
  exact Nat.add_comm _ _

theorem Invariant.predictionCancellation
    (leaving : PredictionCancellation state.prediction owner key orderId) :
    Invariant { state with prediction := leaving.result } := by
  refine holds.predictionEdit (leaving.edit holds.prediction)
    (leaving.ledger holds.accounts.filed) (fun _ _ => rfl) (fun holder bucket => ?_) holds.questions
  rw [leaving.orderStored, Option.elim_some, Predicted.lockedBy_live leaving.live,
    Predicted.lockedBy_closed (by simp [PredictionOrder.canceled])]
  exact Nat.add_comm _ _

theorem PredictionFill.claimed
    (fill : PredictionFill state.prediction state.now config owner key makerKey outcome takerSide
      limit quantity) (holder : Pubkey × Pubkey) (bucket : Bucket) :
    Predicted.lockedBy holder bucket makerKey
        (fill.reduced (fill.order.remainingQuantity ≤ quantity)) +
        Ledger.single (fill.order.market, fill.order.owner)
          (Pi.single (.of fill.order.outcome fill.order.side) fill.debit) holder bucket =
      Predicted.lockedBy holder bucket makerKey fill.order := by
  have bound := fill.debit_le holds.prediction
  rw [Predicted.lockedBy_live fill.live]
  by_cases full : fill.order.remainingQuantity ≤ quantity
  · rw [decide_eq_true full, Predicted.lockedBy_closed
      (by simp [PredictionFill.reduced, PredictionOrder.fill]), fill.debit_full holds.prediction full,
      Nat.zero_add]
  · have live : (fill.reduced false).status = .opened := fill.live
    have same : (fill.reduced false).lockedCollateral =
        fill.order.lockedCollateral - fill.debit := rfl
    rw [decide_eq_false full, Predicted.lockedBy_live live, same]
    simp only [Ledger.single, Pi.single_apply, PredictionFill.reduced, PredictionOrder.fill,
      Bool.false_eq_true, if_false]
    split
    · split
      · exact Nat.sub_add_cancel bound
      · rfl
    · rfl

theorem Invariant.predictionFill
    (fill : PredictionFill state.prediction state.now config owner key makerKey outcome takerSide
      limit quantity) : Invariant { state with prediction := fill.result } := by
  obtain ⟨_, _, _, _, _, _, edit⟩ := fill.edit holds.prediction
  refine holds.predictionEdit edit (fill.ledger holds.accounts.filed) (fun market outcome => ?_)
    (fun holder bucket => ?_) (holds.questions.charge fill.feesStored)
  · simp [Ledger.single]
  · rw [fill.orderStored, Option.elim_some, fill.claimed holds]
    rfl

end Orders

theorem SharedOperation.preserves {state after : State} (operation : SharedOperation state after)
    (holds : Invariant state) : Invariant after where
  capped := operation.same_protocol ▸ holds.capped
  tokens := operation.same_tokens ▸ holds.tokens
  vaulted := by
    refine holds.vaulted.keep (operation.same_tokens ▸ .refl _) holds.prediction.markets
      (fun key market stored => ⟨market, operation.same_markets ▸ stored, .refl market⟩)
      fun key balance stored => ?_
    obtain ⟨old, present, same⟩ := operation.assets.holders key balance stored
    exact ⟨key, old, present, (Prod.mk.inj same).2⟩
  spot := operation.same_spot ▸ holds.spot
  canonical := operation.same_spot ▸ holds.canonical
  charged := operation.same_spot ▸ holds.charged
  prediction := by
    rw [operation.same_prediction]
    exact holds.prediction.reposition _ _
  accounts := holds.accounts.reposition operation.same_markets operation.contracts fun _ _ => rfl
  questions := by
    rw [operation.same_markets, operation.same_fees]
    exact holds.questions
  shared := holds.shared.edit operation.edit
  assets := operation.assets.filed holds.assets
  assetLocks holder := by
    have moved := operation.assets.locked holder ()
    have changed := operation.edit.assets holder
    have before := holds.assetLocks holder
    have net := operation.claimed holder
    omega
  positionLocks holder bucket := by
    have moved := operation.contracts.locked holder bucket
    have changed := operation.edit.contracts holder bucket
    have before := holds.positionLocks holder bucket
    have net := operation.claimedContracts holder bucket
    rw [operation.same_orders]
    omega

/-! ## Custody instructions -/

section Crossings

variable {state : State} (holds : Invariant state)
include holds

theorem Invariant.vaulted_tokens {tokens : Tokens} {spot : Spot}
    (persists : Persists state.tokens tokens) :
    Vaulted { state with tokens := tokens, spot := spot } :=
  holds.vaulted.tokens holds.prediction.markets persists

theorem Invariant.spotCrossing {tokens : Tokens} {market owner mint source destination : Pubkey}
    {out into amount : Nat} (crossing : SpotCrossing state.spot market owner mint out into)
    (shift : Shift state.tokens tokens source destination amount) :
    Invariant { state with tokens := tokens, spot := crossing.result } :=
  { holds with
    tokens := holds.tokens.shift shift
    vaulted := holds.vaulted_tokens (.shift shift)
    spot := holds.spot.rebalance (crossing.ledger holds.spot) }

theorem Invariant.positionCrossing {tokens : Tokens}
    {market owner source destination : Pubkey} {out into amount : Nat}
    (crossing : PositionCrossing state.prediction market owner out into)
    (shift : Shift state.tokens tokens source destination amount) :
    Invariant { state with tokens := tokens, prediction := crossing.result } :=
  { holds with
    tokens := holds.tokens.shift shift
    vaulted := holds.vaulted.keep (.shift shift) holds.prediction.markets
      (fun _ market stored => ⟨market, stored, .refl market⟩)
      fun key balance stored => ⟨key, balance, stored, rfl⟩
    prediction := holds.prediction.reposition _ _
    accounts := by
      refine holds.accounts.reposition rfl (crossing.ledger holds.accounts.filed)
        fun key outcome => ?_
      simp [Ledger.single]
    positionLocks := holds.positions_unlocked (crossing.ledger holds.accounts.filed) }

theorem Invariant.vaulted_assets {tokens : Tokens} {spot : Spot} {prediction : Prediction}
    {assets : Store Pubkey AssetBalance} {out into : Pubkey → Unit → Nat}
    (persists : Persists state.tokens tokens)
    (markets : ∀ key market, prediction.markets.get key = some market →
      ∃ old, state.prediction.markets.get key = some old ∧ SameQuestion old market)
    (edit : assetLedger.Edit state.shared.assets assets 0 0 out into) :
    Vaulted { state with
      tokens := tokens, spot := spot, prediction := prediction
      shared := { state.shared with assets := assets } } := by
  refine holds.vaulted.keep persists holds.prediction.markets markets fun key balance stored => ?_
  obtain ⟨old, present, same⟩ := edit.holders key balance stored
  exact ⟨key, old, present, (Prod.mk.inj same).2⟩

omit holds in
theorem SharedInvariant.reasset {shared : Shared} (holds : SharedInvariant shared)
    (assets : Store Pubkey AssetBalance) : SharedInvariant { shared with assets := assets } :=
  ⟨holds.books, holds.orders, holds.levels, holds.orderHome, holds.levelHome, holds.terms,
    holds.sound, holds.resting, holds.counts⟩

theorem Invariant.assetCrossing {tokens : Tokens} {owner mint source destination : Pubkey}
    {out into amount : Nat} (crossing : AssetCrossing state.shared.assets owner mint out into)
    (shift : Shift state.tokens tokens source destination amount) :
    Invariant { state with
      tokens := tokens, shared := { state.shared with assets := crossing.result } } :=
  { holds with
    tokens := holds.tokens.shift shift
    vaulted := holds.vaulted_assets (.shift shift)
      (fun _ market stored => ⟨market, stored, .refl market⟩) (crossing.ledger holds.assets)
    shared := holds.shared.reasset _
    assets := (crossing.ledger holds.assets).filed holds.assets
    assetLocks := holds.assets_unlocked (crossing.ledger holds.assets) }

theorem Invariant.setCrossing {market owner : Pubkey} {out into : Bucket → Nat} {paid funded : Nat}
    (crossing : SetCrossing state.prediction market owner out into paid funded) :
    Invariant { state with prediction := crossing.result } :=
  { holds with
    vaulted := holds.vaulted.keep (.refl _) holds.prediction.markets
      (question_set crossing.stored crossing.question)
      fun key balance stored => ⟨key, balance, stored, rfl⟩
    prediction := holds.prediction.retag crossing.stored crossing.question crossing.count
    accounts := by
      refine holds.accounts.update crossing.stored rfl crossing.backing
        (crossing.ledger holds.accounts.filed) (fun outcome => ?_) fun other different outcome => ?_
      · simpa only [single_here] using crossing.supply outcome
      · rw [single_away different, single_away different]
    questions := holds.questions.update crossing.stored crossing.question.collateralMint
    positionLocks := holds.positions_unlocked (crossing.ledger holds.accounts.filed) }

theorem Invariant.restates {prediction : Prediction} {key : Pubkey}
    (restates : Restates state.prediction prediction key) :
    Invariant { state with prediction := prediction } := by
  obtain ⟨market, record, stored, restated, rfl⟩ := restates
  have step := restated (holds.accounts.backing key market stored)
  exact { holds with
    vaulted := holds.vaulted.keep (.refl _) holds.prediction.markets
      (question_set stored step.question) fun key balance stored => ⟨key, balance, stored, rfl⟩
    prediction := holds.prediction.retag stored step.question step.count
    accounts := by
      refine holds.accounts.update stored rfl step.backing (Ledger.Edit.refl _) (fun outcome => ?_)
        fun _ _ _ => rfl
      cases outcome with
      | yes => exact congrArg (· + 0) step.yes
      | no => exact congrArg (· + 0) step.no
    questions := holds.questions.update stored step.question.collateralMint }

end Crossings

theorem ReserveCrossing.shift {state : State} {market owner : Pubkey} {out into : Bucket → Nat}
    {paid funded : Nat} (crossing : ReserveCrossing state market owner out into paid funded) :
    (funded ≠ 0 ∧ paid = 0 ∧ Shift state.tokens crossing.tokens
        (.assetVault crossing.record.collateralMint)
        (.vault market crossing.record.collateralMint) funded) ∨
      (paid ≠ 0 ∧ funded = 0 ∧ Shift state.tokens crossing.tokens
        (.vault market crossing.record.collateralMint)
        (.assetVault crossing.record.collateralMint) paid) ∨
      funded = 0 ∧ paid = 0 ∧ crossing.tokens = state.tokens := by
  by_cases hasFunded : funded = 0
  · by_cases hasPaid : paid = 0
    · exact .inr (.inr ⟨hasFunded, hasPaid, crossing.still hasFunded hasPaid⟩)
    · obtain ⟨none_funded, transferred⟩ := crossing.fromReserve hasPaid
      exact .inr (.inl ⟨hasPaid, none_funded, (transferChecked_shift transferred).1⟩)
  · obtain ⟨none_paid, transferred⟩ := crossing.toReserve hasFunded
    exact .inl ⟨hasFunded, none_paid, (transferChecked_shift transferred).1⟩

theorem Invariant.reserveCrossing {state : State} (holds : Invariant state)
    {market owner : Pubkey} {out into : Bucket → Nat} {paid funded : Nat}
    (crossing : ReserveCrossing state market owner out into paid funded) :
    Invariant crossing.settled := by
  have tokens : TokenInvariant crossing.tokens ∧ Persists state.tokens crossing.tokens := by
    obtain ⟨-, -, shift⟩ | ⟨-, -, shift⟩ | ⟨-, -, same⟩ := crossing.shift
    · exact ⟨holds.tokens.shift shift, .shift shift⟩
    · exact ⟨holds.tokens.shift shift, .shift shift⟩
    · rw [same]
      exact ⟨holds.tokens, .refl _⟩
  exact { holds.setCrossing crossing.toSetCrossing with
    tokens := tokens.1
    vaulted := holds.vaulted_assets tokens.2 (question_set crossing.stored crossing.question)
      (crossing.asset.ledger holds.assets)
    shared := holds.shared.reasset _
    assets := (crossing.asset.ledger holds.assets).filed holds.assets
    assetLocks := holds.assets_unlocked (crossing.asset.ledger holds.assets) }

/-! ## Openings and closings -/

section Markets

variable {state : State} (holds : Invariant state)
include holds

theorem Invariant.marketOpening {authority : Wallet} {baseMint quoteMint : Pubkey} {tick lot : Nat}
    (opening : MarketOpening state authority baseMint quoteMint tick lot) :
    Invariant opening.result := by
  have absent : state.spot.markets.get
      (.market opening.market.baseMint opening.market.quoteMint) = none := opening.absent
  have count : opening.market.openOrderCount = 0 := rfl
  exact { holds with
    tokens := (holds.tokens.open_account opening.baseVault (.inr rfl)).open_account
      opening.quoteVault (.inr rfl)
    vaulted := holds.vaulted_tokens
      ((Persists.open_account opening.baseVault).trans (.open_account opening.quoteVault))
    spot := holds.spot.open_market absent rfl rfl count
    canonical := fun key record present => by
      rw [MarketOpening.result, Store.get_set] at present
      split at present
      · next home =>
          cases present
          exact ⟨home, opening.different⟩
      · exact holds.canonical key record present
    charged := holds.charged.opened opening.market 0 }

theorem Invariant.marketClosing {key : Pubkey} (closing : MarketClosing state key) :
    Invariant closing.result := by
  have address := (holds.canonical key closing.market closing.stored).1
  have persists : Persists state.tokens closing.tokens :=
    (Persists.close_account (congrArg (Pubkey.vault · _) address) closing.baseClosed).trans
      (.close_account (congrArg (Pubkey.vault · _) address) closing.quoteClosed)
  exact { holds with
    tokens := (holds.tokens.close_account closing.baseClosed).close_account closing.quoteClosed
    vaulted := holds.vaulted_tokens persists
    spot := holds.spot.close_market closing.stored closing.none_open
    canonical := fun found record present => by
      rw [MarketClosing.result, Store.get_erase] at present
      split at present
      · cases present
      · exact holds.canonical found record present
    charged := holds.charged.closed key }

end Markets

section Questions

variable {state : State}

theorem PredictionAccounts.opened {prediction : Prediction} {key : Pubkey}
    {market : PredictionMarket} {fees : Store Pubkey MarketFees}
    {books : Store Pubkey PredictionOrderBook} (holds : PredictionAccounts prediction)
    (absent : prediction.markets.get key = none) (backing : Backing market)
    (unsupplied : ∀ outcome, supplyOf market outcome = 0) :
    PredictionAccounts { prediction with
      markets := prediction.markets.set key market, fees := fees, books := books } where
  filed := holds.filed
  housed found position stored := by
    rw [Store.get_set]
    split
    · simp
    · exact holds.housed found position stored
  backing found other present := by
    rw [Store.get_set] at present
    split at present
    · cases present
      exact backing
    · exact holds.backing found other present
  supply found other outcome present := by
    rw [Store.get_set] at present
    split at present
    · next home =>
        cases present
        rw [unsupplied, eq_comm, Store.total_eq_zero]
        intro positionKey position stored
        rw [Ledger.held, if_neg]
        intro same
        refine holds.housed positionKey position stored ?_
        rw [show position.market = key from same.trans home, absent]
    · exact holds.supply found other outcome present

theorem newPredictionMarket_backing {marketId : Nat} {authority collateralMint : Pubkey}
    {config : PredictionMarketConfig} {now : Int}
    (valid : validatePredictionMarketConfig config now = .ok ()) :
    Backing (newPredictionMarket marketId authority collateralMint config) where
  payout_pos := (validatePredictionMarketConfig_ok valid).1
  even := (validatePredictionMarketConfig_ok valid).2.1
  resolved := by simp [newPredictionMarket]
  before _ := by simp [newPredictionMarket]
  after _ final := nomatch final
  reserve_fits := Nat.zero_le _
  supply_fits outcome := by cases outcome <;> exact Nat.zero_le _

theorem Invariant.questionOpening (holds : Invariant state) {marketId : Nat}
    {collateralMint : Pubkey} {config : PredictionMarketConfig}
    (opening : QuestionOpening state marketId collateralMint config) (authority : Wallet) :
    Invariant (opening.result authority) := by
  have unbooked : state.prediction.books.get (.predictionBook (.predictionMarket
      (newPredictionMarket marketId authority.key collateralMint config).marketId)) = none :=
    opening.unbooked
  exact { holds with
    tokens := holds.tokens.open_account opening.vault (.inr rfl)
    vaulted := by
      have persists := Persists.open_account opening.vault
      refine ⟨fun key market stored => ?_, fun key balance stored => ?_⟩
      · have stored : (state.prediction.markets.set (.predictionMarket marketId)
          (newPredictionMarket marketId authority.key collateralMint config)).get key =
            some market := stored
        rw [Store.get_set] at stored
        split at stored
        · next home =>
            cases stored
            obtain ⟨_, tokens⟩ := initializeAccount_ok opening.vault
            rw [home]
            simp only [QuestionOpening.result, tokens, newPredictionMarket]
            refine ⟨by simp, ?_, trivial⟩
            rw [opening.mintStored]
            simp
        · obtain ⟨vault, mint, address⟩ := holds.vaulted.question key market stored
          refine ⟨persists.accounts _ (fun base quote asset => ?_) vault, persists.mints _ mint,
            address⟩
          rw [holds.prediction.markets key market stored]
          exact fun same => nomatch (Pubkey.vault.inj same).1
      · obtain ⟨vault, mint⟩ := holds.vaulted.asset key balance stored
        exact ⟨persists.accounts _ (fun _ _ _ => nofun) vault, persists.mints _ mint⟩
    prediction := holds.prediction.open_market unbooked rfl
    accounts := holds.accounts.opened opening.absent (newPredictionMarket_backing opening.valid)
      (by rintro (_ | _) <;> rfl)
    questions := holds.questions.opened
      (newPredictionMarket marketId authority.key collateralMint config) 0 }

theorem emptyPosition_free (market owner : Pubkey) (bucket : Bucket) :
    positionLedger.free ⟨market, owner, 0, 0, 0, 0, 0, 0⟩ bucket = 0 := by
  rcases bucket with _ | (_ | _) <;> rfl

theorem emptyPosition_locked (market owner : Pubkey) (bucket : Bucket) :
    positionLedger.locked ⟨market, owner, 0, 0, 0, 0, 0, 0⟩ bucket = 0 := by
  rcases bucket with _ | (_ | _) <;> rfl

theorem Invariant.open_position (holds : Invariant state) {key owner : Pubkey}
    {market : PredictionMarket} (stored : state.prediction.markets.get key = some market)
    (fresh : state.prediction.positions.get (positionLedger.file (key, owner)) = none) :
    Invariant { state with
      prediction := { state.prediction with
        positions := state.prediction.positions.set (positionLedger.file (key, owner))
          ⟨key, owner, 0, 0, 0, 0, 0, 0⟩ } } := by
  obtain ⟨locked, held⟩ := Ledger.Edit.opened ⟨key, owner, 0, 0, 0, 0, 0, 0⟩ fresh
    (emptyPosition_free key owner) (emptyPosition_locked key owner)
  exact { holds with
    vaulted := ⟨holds.vaulted.question, holds.vaulted.asset⟩
    prediction := holds.prediction.reposition _ _
    accounts := {
      filed := Store.Keyed.set holds.accounts.filed rfl
      housed := fun found position present => by
        rw [Store.get_set] at present
        split at present
        · cases present
          rw [stored]
          simp
        · exact holds.accounts.housed found position present
      backing := holds.accounts.backing
      supply := fun found other outcome present => by
        rw [held]
        exact holds.accounts.supply found other outcome present }
    positionLocks := fun holder bucket => by
      rw [locked]
      exact holds.positionLocks holder bucket }

end Questions

section Books

variable {state : State} (holds : Invariant state)
include holds

theorem Invariant.open_asset {owner mint : Pubkey} {record : Mint} {tokens : Tokens}
    (mintStored : state.tokens.mints.get mint = some record)
    (fresh : state.shared.assets.get (assetLedger.file (owner, mint)) = none)
    (vault : state.tokens.initializeAccount (.assetVault mint) mint (.assetAuthority mint) =
      .ok tokens ∨ state.tokens.accounts.get (.assetVault mint) ≠ none ∧ tokens = state.tokens) :
    Invariant { state with
      tokens := tokens
      shared := { state.shared with
        assets := state.shared.assets.set (assetLedger.file (owner, mint))
          ⟨owner, mint, 0, 0⟩ } } := by
  obtain ⟨locked, held⟩ := Ledger.Edit.opened ⟨owner, mint, 0, 0⟩ fresh (fun _ => rfl) fun _ => rfl
  have moved : TokenInvariant tokens ∧ Persists state.tokens tokens ∧
      tokens.accounts.get (.assetVault mint) ≠ none := by
    obtain done | ⟨present, rfl⟩ := vault
    · refine ⟨holds.tokens.open_account done (.inr rfl), .open_account done, ?_⟩
      obtain ⟨_, rfl⟩ := initializeAccount_ok done
      simp
    · exact ⟨holds.tokens, .refl _, present⟩
  obtain ⟨invariant, persists, present⟩ := moved
  have before : Vaulted { state with tokens := tokens, spot := state.spot } :=
    holds.vaulted_tokens persists
  exact { holds with
    tokens := invariant
    vaulted := {
      question := before.question
      asset := fun key balance stored => by
        have stored : (state.shared.assets.set (assetLedger.file (owner, mint))
          ⟨owner, mint, 0, 0⟩).get key = some balance := stored
        rw [Store.get_set] at stored
        split at stored
        · cases stored
          exact ⟨present, persists.mints _ (by simp [mintStored])⟩
        · exact before.asset key balance stored }
    shared := holds.shared.reasset _
    assets := Store.Keyed.set holds.assets rfl
    assetLocks := fun holder => by
      rw [locked]
      exact holds.assetLocks holder }

omit holds in
theorem assetLocks_rebook {books : Store Pubkey SharedBook} {key : Pubkey}
    (elsewhere : ∀ other, other ≠ key → books.get other = state.shared.books.get other)
    (closed : ∀ found order, state.shared.orders.get found = some order → order.book = key →
      order.status ≠ .opened) (holder : Pubkey × Pubkey) :
    state.shared.orders.total (Shared.assetLocked books holder) =
      state.shared.orders.total (Shared.assetLocked state.shared.books holder) := by
  refine Store.total_congr fun found order stored => ?_
  simp only [Shared.assetLocked]
  split
  · next live =>
      rw [elsewhere _ fun home => closed found order stored home live]
  · rfl

theorem Invariant.bookOpening {market : Pubkey} {kind : MarketKind}
    (opening : BookOpening state market kind) : Invariant { state with
      shared := { state.shared with
        books := state.shared.books.set (.sharedBook market) opening.opened } } :=
  { holds with
    vaulted := ⟨holds.vaulted.question, holds.vaulted.asset⟩
    shared := holds.shared.open_book opening.absent rfl
      (opening.valid fun key record stored => (holds.canonical key record stored).2)
      (fun _ => rfl) rfl
    assetLocks := fun holder => by
      refine (holds.assetLocks holder).trans (assetLocks_rebook (fun other different => ?_)
        (holds.shared.absent opening.absent) holder).symm
      exact Store.get_set_ne _ _ different }

theorem Invariant.bookClosing {key : Pubkey} {book : SharedBook}
    (stored : state.shared.books.get key = some book) (count : book.openOrderCount = 0)
    (empty : ∀ slot, book.bestPrices slot = none) : Invariant { state with
      shared := { state.shared with books := state.shared.books.erase key } } :=
  { holds with
    vaulted := ⟨holds.vaulted.question, holds.vaulted.asset⟩
    shared := holds.shared.close_book stored empty count
    assetLocks := fun holder => by
      refine (holds.assetLocks holder).trans (assetLocks_rebook (fun other different => ?_)
        (holds.shared.uncounted stored count) holder).symm
      rw [Store.get_erase, if_neg different] }

theorem Invariant.bookFees {tokens : Tokens} {key source destination : Pubkey} {book : SharedBook}
    {fees amount : Nat} (stored : state.shared.books.get key = some book)
    (shift : Shift state.tokens tokens source destination amount) : Invariant { state with
      tokens := tokens
      shared := { state.shared with
        books := state.shared.books.set key { book with accruedQuoteFees := fees } } } := by
  have same : Shared.SameTerms book { book with accruedQuoteFees := fees } :=
    ⟨rfl, rfl, rfl, le_refl _⟩
  have before : Vaulted { state with tokens := tokens, spot := state.spot } :=
    holds.vaulted_tokens (.shift shift)
  exact { holds with
    tokens := holds.tokens.shift shift
    vaulted := ⟨before.question, before.asset⟩
    shared := holds.shared.retag stored same rfl rfl
    assetLocks := fun holder => by
      refine (holds.assetLocks holder).trans ?_
      dsimp only
      rw [assetLocked_set stored same] }

end Books

/-! ## The step -/

theorem Effect.preserves {state after : State} {instruction : Instruction}
    (effect : Effect state instruction after) (holds : Invariant state) : Invariant after := by
  cases effect with
  | governed silent capped =>
      exact { holds with
        capped := capped holds.capped
        vaulted := ⟨holds.vaulted.question, holds.vaulted.asset⟩ }
  | initializeMarket opening => exact holds.marketOpening opening
  | restatus status silent stored =>
      exact { holds with
        vaulted := ⟨holds.vaulted.question, holds.vaulted.asset⟩
        spot := holds.spot.restatus stored status
        canonical := holds.canonical.update stored ⟨rfl, rfl, rfl, rfl, rfl, le_refl _⟩
        charged := holds.charged.update stored rfl }
  | closeMarket closing => exact holds.marketClosing closing
  | initializeTraderBalance fresh =>
      exact { holds with
        vaulted := ⟨holds.vaulted.question, holds.vaulted.asset⟩
        spot := holds.spot.open_balance fresh }
  | deposit crossing transferred =>
      exact holds.spotCrossing crossing (transferChecked_shift transferred).1
  | withdraw crossing held owned transferred =>
      exact holds.spotCrossing crossing (transferChecked_shift transferred).1
  | withdrawProtocolFees stored feesStored enough transferred =>
      have shift := (transferChecked_shift transferred).1
      exact { holds with
        tokens := holds.tokens.shift shift
        vaulted := holds.vaulted_tokens (.shift shift)
        spot := holds.spot.rebalance (.refl _)
        charged := holds.charged.charge feesStored }
  | insertLimitOrder placed =>
      exact holds.spotEdit (placed.edit holds.spot (uint64_fits _) (uint64_fits _)) holds.charged
  | appendLimitOrder placed =>
      exact holds.spotEdit (placed.edit holds.spot (uint64_fits _) (uint64_fits _)) holds.charged
  | cancelLimitOrder leaving => exact holds.spotEdit (leaving.edit holds.spot) holds.charged
  | matchLimitOrder configured fill =>
      obtain ⟨_, _, _, _, _, edit⟩ := fill.edit holds.spot
      exact holds.spotEdit edit (holds.charged.charge fill.feesStored)
  | initializePredictionMarket opening => exact holds.questionOpening opening _
  | initializePredictionPosition stored fresh => exact holds.open_position stored fresh
  | restate silent named restates done => exact holds.restates restates
  | depositPredictionCollateral crossing transferred =>
      exact holds.positionCrossing crossing (transferChecked_shift transferred).1
  | withdrawPredictionCollateral crossing held owned transferred =>
      exact holds.positionCrossing crossing (transferChecked_shift transferred).1
  | splitPredictionCompleteSet crossing => exact holds.setCrossing crossing
  | mergePredictionCompleteSet crossing => exact holds.setCrossing crossing
  | insertPredictionOrder placed => exact holds.predictionInsertion placed
  | placePredictionOrder placed => exact holds.predictionInsertion placed
  | appendPredictionOrder placed => exact holds.predictionAppending placed
  | cancelPredictionOrder leaving => exact holds.predictionCancellation leaving
  | matchPredictionOrder configured fill => exact holds.predictionFill fill
  | initializeAssetBalance mintStored fresh vault => exact holds.open_asset mintStored fresh vault
  | depositAsset crossing transferred =>
      exact holds.assetCrossing crossing (transferChecked_shift transferred).1
  | withdrawAsset crossing held owned transferred =>
      exact holds.assetCrossing crossing (transferChecked_shift transferred).1
  | migrateSpotAsset leaving crossing transferred =>
      have shift := (transferChecked_shift transferred).1
      exact { holds.spotCrossing leaving shift with
        vaulted := holds.vaulted_assets (.shift shift)
          (fun _ market stored => ⟨market, stored, .refl market⟩) (crossing.ledger holds.assets)
        shared := holds.shared.reasset _
        assets := (crossing.ledger holds.assets).filed holds.assets
        assetLocks := holds.assets_unlocked (crossing.ledger holds.assets) }
  | migratePredictionAsset leaving crossing transferred =>
      have shift := (transferChecked_shift transferred).1
      exact { holds.positionCrossing leaving shift with
        vaulted := holds.vaulted_assets (.shift shift)
          (fun _ market stored => ⟨market, stored, .refl market⟩) (crossing.ledger holds.assets)
        shared := holds.shared.reasset _
        assets := (crossing.ledger holds.assets).filed holds.assets
        assetLocks := holds.assets_unlocked (crossing.ledger holds.assets) }
  | sharedSplit crossing => exact holds.reserveCrossing crossing
  | sharedMerge crossing => exact holds.reserveCrossing crossing
  | redeemPrediction crossing final worth => exact holds.reserveCrossing crossing
  | initializeSharedBook opening => exact holds.bookOpening opening
  | withdrawSharedFees stored enough held owned transferred =>
      exact holds.bookFees stored (transferChecked_shift transferred).1
  | closeSharedBook stored count fees empty => exact holds.bookClosing stored count empty
  | insertSharedOrder placed =>
      exact (placed.operation holds.shared holds.assets holds.accounts.filed (uint64_fits _)
        (uint64_fits _)).preserves holds
  | appendSharedOrder placed =>
      exact (placed.operation holds.shared holds.assets holds.accounts.filed (uint64_fits _)
        (uint64_fits _)).preserves holds
  | cancelSharedOrder leaving =>
      exact (leaving.operation holds.shared holds.assets holds.accounts.filed).preserves holds
  | matchSharedOrder configured fill =>
      exact (fill.operation holds.shared holds.assets holds.accounts.filed).preserves holds

end Tidebook.Proof
