import Tidebook.Proof.Effect

/-! # Custody

What the program owes at each of its vaults, and how every effect moves it together with the tokens
the vault holds.
-/

namespace Tidebook.Proof
open Library Program

/-! ## Obligations -/

def accrued (fees : Store Pubkey MarketFees) (market : Pubkey) : Nat :=
  ((fees.get (.marketFees market)).map MarketFees.accruedQuoteFees).getD 0

/-- What a spot market owes in one of its mints. -/
def spotOwed (spot : Spot) (market mint : Pubkey) : Nat :=
  match market with
  | .market base quote =>
      (if mint = quote then
        spot.balances.total (spotLedger.held market .bid) + accrued spot.fees market else 0) +
      if mint = base then spot.balances.total (spotLedger.held market .ask) else 0
  | _ => 0

/-- What a question owes in its collateral. -/
def questionOwed (prediction : Prediction) (market mint : Pubkey) : Nat :=
  (prediction.markets.get market).elim 0 fun record =>
    if record.collateralMint = mint then
      prediction.positions.total (positionLedger.held market .collateral) +
        accrued prediction.fees market + record.backingReserve else 0

def feesIn (mint : Pubkey) (_ : Pubkey) (book : SharedBook) : Nat :=
  if book.quoteMint = mint then book.accruedQuoteFees else 0

/-- What asset balances and shared books claim in a mint. -/
def assetOwed (shared : Shared) (mint : Pubkey) : Nat :=
  shared.assets.total (assetLedger.held mint ()) + shared.books.total (feesIn mint)

def owed (state : State) : Pubkey → Nat
  | .vault market mint => spotOwed state.spot market mint + questionOwed state.prediction market mint
  | .assetVault mint => assetOwed state.shared mint
  | _ => 0

def received (event : Event) (address : Pubkey) : Nat :=
  match event.uncredited with
  | none => 0
  | some (destination, amount) => if address = destination then amount else 0

theorem accrued_set (fees : Store Pubkey MarketFees) (key market : Pubkey) (record : MarketFees) :
    accrued (fees.set (.marketFees key) record) market =
      if market = key then record.accruedQuoteFees else accrued fees market := by
  simp only [accrued, Store.get_set, Pubkey.marketFees.injEq]
  split <;> simp

theorem accrued_stored {fees : Store Pubkey MarketFees} {market : Pubkey} {record : MarketFees}
    (stored : fees.get (.marketFees market) = some record) :
    accrued fees market = record.accruedQuoteFees := by
  simp [accrued, stored]

/-! ## Spot markets -/

section Spot

variable {spot after : Spot} {lost gained : Pubkey × Pubkey → OrderSide → Nat}
variable {out into : Pubkey → OrderSide → Nat} {market mint : Pubkey}

/-- What a market's claims in one mint gain from its two sides and its fees. -/
def marketFlow (market mint : Pubkey) (sides : OrderSide → Nat) (fee : Nat) : Nat :=
  match market with
  | .market base quote =>
      (if mint = quote then sides .bid + fee else 0) + if mint = base then sides .ask else 0
  | _ => 0

theorem spotOwed_edit {paid charged : Nat}
    (edit : spotLedger.Edit spot.balances after.balances lost gained out into)
    (fees : accrued after.fees market + paid = accrued spot.fees market + charged) (mint : Pubkey) :
    spotOwed after market mint + marketFlow market mint (out market) paid =
      spotOwed spot market mint + marketFlow market mint (into market) charged := by
  have bids := edit.held market .bid
  have asks := edit.held market .ask
  cases market with
  | market base quote =>
      simp only [spotOwed, marketFlow]
      split <;> split <;> omega
  | _ => rfl

theorem marketFlow_zero (market mint : Pubkey) : marketFlow market mint 0 0 = 0 := by
  cases market <;> simp [marketFlow]

/-- A stored market's two mints differ and its address names them. -/
def Canonical (markets : Store Pubkey Market) : Prop :=
  ∀ key record, markets.get key = some record →
    key = .market record.baseMint record.quoteMint ∧ record.baseMint ≠ record.quoteMint

theorem marketFlow_single {markets : Store Pubkey Market} {key : Pubkey} {record : Market}
    (canonical : Canonical markets) (stored : markets.get key = some record) (side : OrderSide)
    (amount : Nat) (market mint : Pubkey) :
    marketFlow market mint (Ledger.single key (Pi.single side amount) market) 0 =
      if market = key ∧ mint = mintOf record side then amount else 0 := by
  obtain ⟨rfl, different⟩ := canonical key record stored
  by_cases home : market = .market record.baseMint record.quoteMint
  · subst home
    cases side with
    | bid =>
        by_cases isQuote : mint = record.quoteMint
        · simp [marketFlow, Ledger.single, mintOf, isQuote, different.symm]
        · simp [marketFlow, Ledger.single, mintOf, isQuote]
    | ask =>
        by_cases isBase : mint = record.baseMint
        · simp [marketFlow, Ledger.single, mintOf, isBase, different]
        · simp [marketFlow, Ledger.single, mintOf, isBase]
  · rw [if_neg fun both => home both.1]
    have nothing : Ledger.single (.market record.baseMint record.quoteMint)
        (Pi.single side amount) market = (0 : OrderSide → Nat) := by
      funext other
      simp [Ledger.single, home]
    rw [nothing, marketFlow_zero]

theorem SpotCrossing.owed {owner : Pubkey} {out into : Nat}
    (crossing : SpotCrossing spot market owner mint out into) (holds : SpotInvariant spot)
    (canonical : Canonical spot.markets) (other asset : Pubkey) :
    spotOwed crossing.result other asset + (if other = market ∧ asset = mint then out else 0) =
      spotOwed spot other asset + if other = market ∧ asset = mint then into else 0 := by
  have fees : accrued crossing.result.fees other + 0 = accrued spot.fees other + 0 := rfl
  have moved := spotOwed_edit (crossing.ledger holds) fees asset
  rw [marketFlow_single canonical crossing.stored, marketFlow_single canonical crossing.stored,
    ← crossing.isMint] at moved
  exact moved

theorem spotOwed_congr
    (held : ∀ side, after.balances.total (spotLedger.held market side) =
      spot.balances.total (spotLedger.held market side))
    (fees : accrued after.fees market = accrued spot.fees market) (mint : Pubkey) :
    spotOwed after market mint = spotOwed spot market mint := by
  cases market with
  | market base quote => simp only [spotOwed, held, fees]
  | _ => rfl

theorem spotOwed_fees {key : Pubkey} {record : Market} {amount : Nat}
    (canonical : Canonical spot.markets) (stored : spot.markets.get key = some record)
    (balances : after.balances = spot.balances)
    (fees : ∀ market, accrued after.fees market + (if market = key then amount else 0) =
      accrued spot.fees market) (market mint : Pubkey) :
    spotOwed after market mint + (if market = key ∧ mint = record.quoteMint then amount else 0) =
      spotOwed spot market mint := by
  obtain ⟨rfl, -⟩ := canonical key record stored
  have left := fees market
  cases market with
  | market base quote =>
      simp only [spotOwed, balances]
      by_cases home : Pubkey.market base quote = .market record.baseMint record.quoteMint
      · obtain ⟨rfl, rfl⟩ := Pubkey.market.inj home
        simp only [if_true, true_and] at left ⊢
        split <;> omega
      · simp only [home, false_and, if_false, Nat.add_zero] at left ⊢
        rw [left]
  | _ => simp [spotOwed]

theorem spotOwed_still
    (edit : spotLedger.Edit spot.balances after.balances lost gained 0 0)
    (fees : after.fees = spot.fees) (market mint : Pubkey) :
    spotOwed after market mint = spotOwed spot market mint := by
  have same : accrued after.fees market + 0 = accrued spot.fees market + 0 := by rw [fees]
  have moved := spotOwed_edit edit same mint
  rw [Pi.zero_apply, marketFlow_zero] at moved
  exact moved

theorem Fill.owed {config : ProtocolConfig} {taker : Wallet} {key makerKey : Pubkey}
    {takerSide : OrderSide} {limit quantity : Nat}
    (fill : Fill spot config taker key makerKey takerSide limit quantity)
    (holds : SpotInvariant spot) (market mint : Pubkey) :
    spotOwed fill.result market mint = spotOwed spot market mint := by
  have fees : accrued fill.result.fees market + 0 =
      accrued spot.fees market + if market = key then fill.fee else 0 := by
    rw [Fill.result, accrued_set]
    split
    · next home => rw [home, accrued_stored fill.feesStored, Nat.add_zero]
    · rfl
  have moved := spotOwed_edit (fill.ledger holds) fees mint
  rw [fill.home] at moved
  have same : marketFlow market mint (Ledger.single key (Pi.single .bid fill.fee) market) 0 =
      marketFlow market mint ((0 : Pubkey → OrderSide → Nat) market)
        (if market = key then fill.fee else 0) := by
    cases market with
    | market base quote =>
        by_cases home : Pubkey.market base quote = key <;>
          simp [marketFlow, Ledger.single, home]
    | _ => rfl
  omega

end Spot

/-! ## Questions -/

section Questions

variable {prediction after : Prediction} {lost gained : Pubkey × Pubkey → Bucket → Nat}
variable {out into : Pubkey → Bucket → Nat} {key : Pubkey} {market record : PredictionMarket}

theorem questionOwed_edit {paid funded : Nat} (stored : prediction.markets.get key = some market)
    (markets : ∀ other, after.markets.get other =
      if other = key then some record else prediction.markets.get other)
    (mint : record.collateralMint = market.collateralMint)
    (edit : positionLedger.Edit prediction.positions after.positions lost gained out into)
    (elsewhere : ∀ other, other ≠ key →
      out other .collateral = into other .collateral ∧
        accrued after.fees other = accrued prediction.fees other)
    (net : accrued after.fees key + record.backingReserve + into key .collateral + paid =
      accrued prediction.fees key + market.backingReserve + out key .collateral + funded)
    (other asset : Pubkey) :
    questionOwed after other asset +
        (if other = key ∧ asset = market.collateralMint then paid else 0) =
      questionOwed prediction other asset +
        if other = key ∧ asset = market.collateralMint then funded else 0 := by
  have held := edit.held other .collateral
  simp only [questionOwed, markets]
  by_cases home : other = key
  · subst home
    simp only [if_true, stored, Option.elim_some, mint, true_and, eq_comm (a := asset)]
    split
    · omega
    · rfl
  · obtain ⟨same, fees⟩ := elsewhere other home
    simp only [home, false_and, if_false, fees]
    rw [same] at held
    rw [Nat.add_right_cancel held]

theorem questionOwed_kept {paid funded : Nat} (stored : prediction.markets.get key = some market)
    (markets : after.markets = prediction.markets)
    (edit : positionLedger.Edit prediction.positions after.positions lost gained out into)
    (elsewhere : ∀ other, other ≠ key → out other .collateral = into other .collateral)
    (fees : after.fees = prediction.fees)
    (net : into key .collateral + paid = out key .collateral + funded) (other asset : Pubkey) :
    questionOwed after other asset +
        (if other = key ∧ asset = market.collateralMint then paid else 0) =
      questionOwed prediction other asset +
        if other = key ∧ asset = market.collateralMint then funded else 0 := by
  refine questionOwed_edit stored (fun found => ?_) rfl edit
    (fun found different => ⟨elsewhere found different, by rw [fees]⟩) ?_ other asset
  · rw [markets]
    split
    · next home => rw [home, stored]
    · rfl
  · rw [fees]
    omega

theorem single_away {amounts : Bucket → Nat} {other : Pubkey} (different : other ≠ key)
    (bucket : Bucket) : Ledger.single key amounts other bucket = 0 := by
  simp [Ledger.single, different]

theorem single_here {amounts : Bucket → Nat} (bucket : Bucket) :
    Ledger.single key amounts key bucket = amounts bucket := by
  simp [Ledger.single]

theorem PositionCrossing.owed {owner : Pubkey} {out into : Nat}
    (crossing : PositionCrossing prediction key owner out into)
    (filed : positionLedger.Filed prediction.positions) (other asset : Pubkey) :
    questionOwed crossing.result other asset +
        (if other = key ∧ asset = crossing.record.collateralMint then out else 0) =
      questionOwed prediction other asset +
        if other = key ∧ asset = crossing.record.collateralMint then into else 0 := by
  have markets : crossing.result.markets = prediction.markets := rfl
  refine questionOwed_kept crossing.stored markets (crossing.ledger filed)
    (fun found different => ?_) rfl ?_ other asset
  · rw [single_away different, single_away different]
  · rw [single_here, single_here, Pi.single_eq_same, Pi.single_eq_same, Nat.add_comm]

theorem SetCrossing.owed {owner : Pubkey} {out into : Bucket → Nat} {paid funded : Nat}
    (crossing : SetCrossing prediction key owner out into paid funded)
    (filed : positionLedger.Filed prediction.positions) {spent received : Nat}
    (net : crossing.changed.backingReserve + into .collateral + spent =
      crossing.record.backingReserve + out .collateral + received) (other asset : Pubkey) :
    questionOwed crossing.result other asset +
        (if other = key ∧ asset = crossing.record.collateralMint then spent else 0) =
      questionOwed prediction other asset +
        if other = key ∧ asset = crossing.record.collateralMint then received else 0 := by
  refine questionOwed_edit crossing.stored (Store.get_set _ _ · _) crossing.question.collateralMint
    (crossing.ledger filed) (fun found different => ⟨?_, rfl⟩) ?_ other asset
  · rw [single_away different, single_away different]
  · rw [single_here, single_here]
    have fees : accrued crossing.result.fees key = accrued prediction.fees key := rfl
    omega

theorem questionOwed_still
    (stored : prediction.markets.get key = some market)
    (markets : after.markets = prediction.markets.set key record)
    (mint : record.collateralMint = market.collateralMint)
    (reserve : record.backingReserve = market.backingReserve)
    (edit : positionLedger.Edit prediction.positions after.positions lost gained out into)
    (elsewhere : ∀ other, other ≠ key →
      out other .collateral = into other .collateral ∧
        accrued after.fees other = accrued prediction.fees other)
    (net : accrued after.fees key + into key .collateral =
      accrued prediction.fees key + out key .collateral) (other asset : Pubkey) :
    questionOwed after other asset = questionOwed prediction other asset := by
  have even : accrued after.fees key + record.backingReserve + into key .collateral + 0 =
      accrued prediction.fees key + market.backingReserve + out key .collateral + 0 := by omega
  have moved := questionOwed_edit stored (by simp [markets, Store.get_set]) mint edit elsewhere
    even other asset
  simpa using moved

theorem questionOwed_restated (stored : prediction.markets.get key = some market)
    (mint : record.collateralMint = market.collateralMint)
    (reserve : record.backingReserve = market.backingReserve) (other asset : Pubkey) :
    questionOwed { prediction with markets := prediction.markets.set key record } other asset =
      questionOwed prediction other asset := by
  simp only [questionOwed, Store.get_set]
  split
  · next home => simp [home, stored, mint, reserve]
  · rfl

theorem questionOwed_congr (markets : after.markets = prediction.markets)
    (held : after.positions.total (positionLedger.held key .collateral) =
      prediction.positions.total (positionLedger.held key .collateral))
    (fees : after.fees = prediction.fees) (mint : Pubkey) :
    questionOwed after key mint = questionOwed prediction key mint := by
  simp only [questionOwed, markets, held, fees]

section Orders

variable {orderKey : Pubkey} {count : Nat} {book headed : PredictionOrderBook}
variable {written : PredictionOrder} {previous next ahead behind : Option Pubkey}

theorem PredictionEdit.owed
    (edit : PredictionEdit prediction after key orderKey market count book headed written previous
      next ahead behind)
    (ledger : positionLedger.Edit prediction.positions after.positions lost gained 0 0)
    (fees : after.fees = prediction.fees) (other asset : Pubkey) :
    questionOwed after other asset = questionOwed prediction other asset :=
  questionOwed_still edit.stored edit.markets rfl rfl ledger
    (fun _ _ => ⟨rfl, congrArg (accrued · _) fees⟩) (congrArg (accrued · _ + 0) fees) other asset

end Orders

theorem PredictionFill.owed {now : Int} {config : ProtocolConfig} {taker : Wallet}
    {makerKey : Pubkey} {outcome : PredictionOutcome} {takerSide : OrderSide} {limit quantity : Nat}
    (fill : PredictionFill prediction now config taker key makerKey outcome takerSide limit quantity)
    (holds : PredictionInvariant prediction) (filed : positionLedger.Filed prediction.positions)
    (other asset : Pubkey) :
    questionOwed fill.result other asset = questionOwed prediction other asset := by
  obtain ⟨_, _, _, _, _, _, edit⟩ := fill.edit holds
  have ledger := fill.ledger filed
  refine questionOwed_still edit.stored edit.markets rfl rfl ledger (fun found away => ⟨?_, ?_⟩) ?_
    other asset
  · rw [single_away away]
    rfl
  · rw [fill.home] at away
    rw [PredictionFill.result, accrued_set, if_neg away]
  · rw [single_here, fill.home, PredictionFill.result, accrued_set, if_pos rfl,
      accrued_stored fill.feesStored, Pi.single_eq_same]
    rfl

end Questions

/-! ## Shared books -/

section Shared

variable {state after : State} {shared : Shared}

theorem AssetCrossing.owed {owner mint : Pubkey} {out into : Nat}
    (crossing : AssetCrossing shared.assets owner mint out into)
    (filed : assetLedger.Filed shared.assets) (other : Pubkey) :
    assetOwed { shared with assets := crossing.result } other + (if other = mint then out else 0) =
      assetOwed shared other + if other = mint then into else 0 := by
  have held := (crossing.ledger filed).held other ()
  simp only [Ledger.single] at held
  simp only [assetOwed]
  omega

/-- Only the fees of one book and the balances of its quote mint change, against each other. -/
theorem SharedOperation.assetOwed (operation : SharedOperation state after) (mint : Pubkey) :
    assetOwed after.shared mint = Proof.assetOwed state.shared mint := by
  have held := operation.assets.held mint ()
  have changed := Store.total_set_old (f := feesIn mint) operation.edit.stored operation.record
  simp only [feesIn, operation.edit.same.quoteMint, operation.fees, ← operation.edit.books]
    at changed
  simp only [Ledger.single, Pi.zero_apply, eq_comm (a := mint)] at held
  simp only [Proof.assetOwed]
  split at changed <;> simp_all only [if_true, if_false] <;> omega

theorem SharedOperation.questionOwed (operation : SharedOperation state after)
    (market mint : Pubkey) :
    questionOwed after.prediction market mint =
      Proof.questionOwed state.prediction market mint := by
  have held := operation.contracts.held market .collateral
  simp only [Pi.zero_apply, Nat.add_zero] at held
  rw [operation.same_prediction]
  simp only [Proof.questionOwed]
  rw [held]

end Shared
end Tidebook.Proof
