import Tidebook.Proof.Orders
import Tidebook.Proof.Solvency

/-! # Conservation

What every vault holds, what every lock backs and what every contract is worth, in the state that
any run reaches.
-/

namespace Tidebook.Proof
open Library Program

/-! ## Claims by account -/

def assetClaims (mint : Pubkey) (_ : Pubkey) (balance : AssetBalance) : Nat :=
  if balance.mint = mint then balance.free + balance.locked else 0

def baseClaims (market : Pubkey) (_ : Pubkey) (balance : TraderBalance) : Nat :=
  if balance.market = market then balance.baseFree + balance.baseLocked else 0

def quoteClaims (market : Pubkey) (_ : Pubkey) (balance : TraderBalance) : Nat :=
  if balance.market = market then balance.quoteFree + balance.quoteLocked else 0

def collateralClaims (market : Pubkey) (_ : Pubkey) (position : PredictionPosition) : Nat :=
  if position.market = market then position.collateralFree + position.collateralLocked else 0

def yesClaims (market : Pubkey) (_ : Pubkey) (position : PredictionPosition) : Nat :=
  if position.market = market then position.yesFree + position.yesLocked else 0

def noClaims (market : Pubkey) (_ : Pubkey) (position : PredictionPosition) : Nat :=
  if position.market = market then position.noFree + position.noLocked else 0

/-! ## A run

Two wallets trade on a spot market and on a question, each with its own and with its shared book.
-/

namespace Sample

def admin : Wallet := ⟨1⟩
def alice : Wallet := ⟨2⟩
def bob : Wallet := ⟨3⟩
def quote : Pubkey := .key 10
def base : Pubkey := .key 11
def spot : Pubkey := .market base quote
def question : Pubkey := .predictionMarket 7

def start : Genesis := ⟨some admin.key, 0⟩

def config : PredictionMarketConfig where
  resolver := admin.key
  fallback := none
  closeTs := 100
  earliestResolutionTs := none
  resolutionDelaySeconds := 10
  payoutPerContract := 10
  priceTick := 1
  rulesUri := "ar://rules".toList
  questionHash := 1
  rulesHash := 1

def funding : List Event := List.map .outside
  [.createMint 10 1, .createMint 11 1,
    .createAccount 20 quote alice.key, .createAccount 21 base alice.key,
    .createAccount 22 quote bob.key, .createAccount 23 base bob.key,
    .mintTo quote (.key 20) 1000, .mintTo base (.key 21) 1000,
    .mintTo quote (.key 22) 1000, .mintTo base (.key 23) 1000]

def opening : List Event := List.map .instruction
  [.initializeProtocol admin, .initializeMarket admin base quote 1 1,
    .initializePredictionMarket admin 7 quote config, .openPredictionMarket admin question,
    .initializeSharedBook admin spot .spot, .initializeSharedBook admin question .prediction,
    .initializeTraderBalance alice spot, .initializeTraderBalance bob spot,
    .initializePredictionPosition alice question, .initializePredictionPosition bob question,
    .initializeAssetBalance alice quote, .initializeAssetBalance alice base,
    .initializeAssetBalance bob quote, .initializeAssetBalance bob base]

def spotClaims (owner : Wallet) : ClaimKeys :=
  ⟨some (.assetBalance owner.key base), .assetBalance owner.key quote, none⟩

def questionClaims (owner : Wallet) : ClaimKeys :=
  ⟨none, .assetBalance owner.key quote, some (.predictionPosition question owner.key)⟩

def trading : List Event := List.map .instruction
  [.deposit alice spot base (.key 21) 100, .deposit bob spot quote (.key 22) 100,
    .depositAsset alice quote (.key 20) 200, .depositAsset alice base (.key 21) 100,
    .depositAsset bob quote (.key 22) 200, .depositAsset bob base (.key 23) 100,
    .depositPredictionCollateral alice question (.key 20) 100,
    .splitPredictionCompleteSet alice question 5, .sharedCompleteSet bob question 3 true,
    .insertLimitOrder alice spot none none .ask 20 10,
    .placePredictionOrder alice question 1 .yes .ask 6 3,
    .insertLimitOrder bob spot none none .bid 10 10,
    .depositPredictionCollateral bob question (.key 22) 50,
    .placePredictionOrder bob question 2 .yes .bid 4 2,
    .placeSharedOrder ⟨alice, spot, spotClaims alice, none, none, none⟩ .spot .ask 20 10 1,
    .placeSharedOrder ⟨bob, spot, spotClaims bob, none, none, none⟩ .spot .bid 10 10 2,
    .placeSharedOrder ⟨alice, question, questionClaims alice, none, none, none⟩ .no .ask 6 1 1,
    .placeSharedOrder ⟨bob, question, questionClaims bob, none, none, none⟩ .no .bid 4 2 2]

/-- The resolver proposes YES after the close, and the proposal matures. -/
def resolution : List Event :=
  [.outside (.wait 100),
    .instruction (.proposePrediction admin question .yes "ar://proof".toList 1 false),
    .outside (.wait 10), .instruction (.advancePrediction question 2)]

def traded : State := (start.after (funding ++ opening ++ trading)).state

def resolved : State := (start.after (funding ++ opening ++ trading ++ resolution)).state

end Sample

/-! ## Shared wallets -/

/-- Every asset vault holds the asset balances of its mint, the fees that shared books accrued in
it and what arrived unasked. -/
theorem asset_vault_custody (genesis : Genesis) (events : List Event) (mint : Pubkey) :
    (genesis.after events).state.tokens.held (.assetVault mint) =
      (genesis.after events).state.shared.assets.total (assetClaims mint) +
        (genesis.after events).state.shared.books.total (feesIn mint) +
        (genesis.after events).unsolicited (.assetVault mint) :=
  run_custody genesis events (.assetVault mint) (by simp [guardOf])

/-! ## Questions -/

/-- The worth of a supply at resolution. -/
def liability (market : PredictionMarket) : PredictionResolution → Nat
  | .yes => market.yesSupply * market.payoutPerContract
  | .no => market.noSupply * market.payoutPerContract
  | .invalid => (market.yesSupply + market.noSupply) * (market.payoutPerContract / 2)

theorem prediction_solvency (genesis : Genesis) (events : List Event) {state : State}
    (reached : (genesis.after events).state = state) {key : Pubkey} {market : PredictionMarket}
    (stored : state.prediction.markets.get key = some market) :
    (market.yesSupply = state.prediction.positions.total (yesClaims key) ∧
      market.noSupply = state.prediction.positions.total (noClaims key)) ∧
    (market.status ≠ .resolved →
      market.backingReserve = market.yesSupply * market.payoutPerContract ∧
        market.backingReserve = market.noSupply * market.payoutPerContract) ∧
    (market.status = .resolved → ∃ outcome, market.finalOutcome = some outcome ∧
      market.backingReserve = liability market outcome) ∧
    state.tokens.held (.vault key market.collateralMint) =
      state.prediction.positions.total (collateralClaims key) +
        accrued state.prediction.fees key + market.backingReserve +
        (genesis.after events).unsolicited (.vault key market.collateralMint) ∧
    ∀ (owner : Wallet) (position : PredictionPosition) (balance : AssetBalance) (yes no : UInt64)
      (outcome : PredictionResolution),
      state.prediction.positions.get (.predictionPosition key owner.key) = some position →
      state.shared.assets.get (.assetBalance owner.key market.collateralMint) = some balance →
      market.finalOutcome = some outcome → 0 < yes ∨ 0 < no →
      yes.toNat ≤ position.yesFree → no.toNat ≤ position.noFree →
      ∃ after, execute state (.redeemPrediction owner key yes no) = .ok after ∧
        after.shared.assets.get (.assetBalance owner.key market.collateralMint) =
          some { balance with
            free := balance.free +
              redemption outcome market.payoutPerContract yes.toNat no.toNat } := by
  have holds : Invariant state := reached ▸ run_invariant genesis events
  have solvent : Solvent state := reached ▸ run_solvent genesis events
  have backing := holds.accounts.backing key market stored
  refine ⟨⟨holds.accounts.supply key market .yes stored, holds.accounts.supply key market .no stored⟩,
    fun unresolved => ?_, fun resolved => ?_, ?_, ?_⟩
  · exact backing.before (backing.open_outcome unresolved)
  · obtain ⟨outcome, final⟩ := Option.ne_none_iff_exists'.mp (backing.resolved.mp resolved)
    refine ⟨outcome, final, (backing.after outcome final).trans ?_⟩
    cases outcome <;> rfl
  · have paid := run_custody genesis events (.vault key market.collateralMint) (by simp [guardOf])
    rw [reached] at paid
    have address := holds.prediction.markets key market stored
    simp only [owed, questionOwed, stored, Option.elim_some, if_true] at paid
    rw [address] at paid ⊢
    simp only [spotOwed, Nat.zero_add] at paid
    exact paid
  · intro owner position balance yes no outcome held funded final some_ yesFree noFree
    refine redeem_total holds solvent stored held funded final ?_ yesFree noFree
    simpa [UInt64.lt_iff_toNat_lt] using some_

set_option maxRecDepth 4096 in
/-- Bob redeems his winning contracts and his losing ones. -/
theorem prediction_solvency_redeems : ∃ after,
    execute Sample.resolved (.redeemPrediction Sample.bob Sample.question 3 3) = .ok after := by
  obtain ⟨market, stored, known⟩ := (Option.any_eq_true (fun market : PredictionMarket =>
    market.collateralMint = Sample.quote ∧ market.finalOutcome = some .yes)
    (Sample.resolved.prediction.markets.get Sample.question)).mp (by decide +kernel)
  obtain ⟨position, held, free⟩ := (Option.any_eq_true (fun position : PredictionPosition =>
    position.yesFree = 3 ∧ position.noFree = 3) (Sample.resolved.prediction.positions.get
      (.predictionPosition Sample.question Sample.bob.key))).mp (by decide +kernel)
  obtain ⟨balance, funded⟩ := Option.isSome_iff_exists.mp
    (show (Sample.resolved.shared.assets.get (.assetBalance Sample.bob.key Sample.quote)).isSome by
      decide +kernel)
  obtain ⟨mint, final⟩ := of_decide_eq_true known
  obtain ⟨yes, no⟩ := of_decide_eq_true free
  obtain ⟨after, done, -⟩ := (prediction_solvency Sample.start
    (Sample.funding ++ Sample.opening ++ Sample.trading ++ Sample.resolution) rfl stored).2.2.2.2
    Sample.bob position balance 3 3 .yes held (mint ▸ funded) final (.inl (by decide))
    (le_of_eq yes.symm) (le_of_eq no.symm)
  exact ⟨after, done⟩

/-! ## Locks -/

/-- A shared order that locks an asset: a bid in a book quoted in it or a spot ask in a book based
on it. -/
def locksMint (books : Store Pubkey SharedBook) (mint : Pubkey) (order : SharedOrder) : Bool :=
  (books.get order.book).any fun book => match order.side with
    | .bid => book.quoteMint = mint
    | .ask => order.outcome = .spot ∧ book.baseMint = mint

def assetLock (books : Store Pubkey SharedBook) (owner mint : Pubkey) (_ : Pubkey)
    (order : SharedOrder) : Nat :=
  if order.status = .opened ∧ order.owner = owner ∧ locksMint books mint order then
    order.lockedCollateral else 0

def sharedOf : PredictionOutcome → SharedOutcome
  | .yes => .yes
  | .no => .no

/-- Contracts that an open ask of a shared book still sells. -/
def sharedAsk (market owner : Pubkey) (outcome : PredictionOutcome) (_ : Pubkey)
    (order : SharedOrder) : Nat :=
  if order.status = .opened ∧ order.market = market ∧ order.owner = owner ∧
    order.outcome = sharedOf outcome ∧ order.side = .ask then order.remainingQuantity else 0

/-- Contracts that an open ask of a question's own book still sells. -/
def predictionAsk (market owner : Pubkey) (outcome : PredictionOutcome) (_ : Pubkey)
    (order : PredictionOrder) : Nat :=
  if order.status = .opened ∧ order.market = market ∧ order.owner = owner ∧
    order.outcome = outcome ∧ order.side = .ask then order.remainingQuantity else 0

def predictionBid (market owner : Pubkey) (_ : Pubkey) (order : PredictionOrder) : Nat :=
  if order.status = .opened ∧ order.market = market ∧ order.owner = owner ∧ order.side = .bid then
    order.lockedCollateral else 0

def spotLock (market owner : Pubkey) (side : OrderSide) (_ : Pubkey) (order : Order) : Nat :=
  if order.status = .opened ∧ order.market = market ∧ order.owner = owner ∧ order.side = side then
    order.lockedCollateral else 0

theorem assetLocked_eq (books : Store Pubkey SharedBook) (owner mint key : Pubkey)
    (order : SharedOrder) :
    Shared.assetLocked books (owner, mint) key order = assetLock books owner mint key order := by
  unfold Shared.assetLocked assetLock locksMint
  cases books.get order.book with
  | none => simp
  | some book =>
      by_cases live : order.status = .opened
      · cases side : order.side <;> cases outcome : order.outcome <;>
          simp [live, side, outcome, Shared.assetShare, Shared.assetPart, Shared.quoteShare,
            Shared.baseShare, Ledger.single, Prod.ext_iff, eq_comm]
      · simp [live]

theorem contractLocked_eq {shared : Shared} (holds : SharedInvariant shared) {key : Pubkey}
    {order : SharedOrder} (stored : shared.orders.get key = some order) (market owner : Pubkey)
    (outcome : PredictionOutcome) :
    Shared.contractLocked (market, owner) (.contracts outcome) key order =
      sharedAsk market owner outcome key order := by
  unfold Shared.contractLocked sharedAsk
  by_cases live : order.status = .opened
  · obtain ⟨book, -, rest⟩ := holds.resting key order stored live
    have locked := rest.ask_lock
    simp only [Shared.contractShare, Shared.contractPart, Shared.baseShare, Ledger.single,
      Prod.mk.injEq, eq_comm (a := market), eq_comm (a := owner), live, true_and]
    cases side : order.side <;> cases traded : order.outcome <;> cases outcome <;>
      simp [Shared.traded, sharedOf, side, locked]
  · simp [live]

theorem predictionLocked_eq {prediction : Prediction} (holds : PredictionInvariant prediction)
    {key : Pubkey} {order : PredictionOrder} (stored : prediction.orders.get key = some order)
    (market owner : Pubkey) (outcome : PredictionOutcome) :
    Predicted.lockedBy (market, owner) (.contracts outcome) key order =
      predictionAsk market owner outcome key order := by
  unfold Predicted.lockedBy predictionAsk
  by_cases live : order.status = .opened
  · obtain ⟨question, -, rest⟩ := holds.resting key order stored live
    have locked := rest.backed
    cases side : order.side <;>
      simp_all [Bucket.of, Predicted.exactBacking, Prod.ext_iff, and_assoc]
  · simp [live]

theorem collateralLocked_eq (market owner key : Pubkey) (order : PredictionOrder) :
    Predicted.lockedBy (market, owner) .collateral key order =
      predictionBid market owner key order := by
  unfold Predicted.lockedBy predictionBid
  cases order.side <;> simp [Bucket.of, Prod.ext_iff]

theorem contractLocked_collateral (holder : Pubkey × Pubkey) (key : Pubkey) (order : SharedOrder) :
    Shared.contractLocked holder .collateral key order = 0 := by
  unfold Shared.contractLocked
  cases outcome : order.outcome <;>
    simp [Shared.contractShare, Shared.contractPart, Shared.traded, Ledger.single, outcome]

theorem spotLocked_eq (market owner : Pubkey) (side : OrderSide) (key : Pubkey) (order : Order) :
    lockedBy (market, owner) side key order = spotLock market owner side key order := by
  simp only [lockedBy, spotLock, Prod.mk.injEq, and_assoc]

theorem locks_elsewhere {state after : State} {instruction : Instruction} (holds : Invariant state)
    (done : execute state instruction = .ok after) :
    (∀ key order, state.spot.orders.get key = some order → targetOf instruction ≠ some key →
      ∃ version, after.spot.orders.get key = some version ∧
        (version.status, version.lockedCollateral) = (order.status, order.lockedCollateral)) ∧
    (∀ key order, state.prediction.orders.get key = some order →
      targetOf instruction ≠ some key → ∃ version, after.prediction.orders.get key = some version ∧
        (version.status, version.lockedCollateral) = (order.status, order.lockedCollateral)) ∧
    ∀ key order, state.shared.orders.get key = some order → targetOf instruction ≠ some key →
      ∃ version, after.shared.orders.get key = some version ∧
        (version.status, version.lockedCollateral) = (order.status, order.lockedCollateral) := by
  have effect := execute_effect holds.spot holds.prediction holds.shared done
  exact ⟨fun key order stored other => (effect.spotOrders holds.spot).elsewhere
      ⟨fun _ _ => rfl, fun _ _ => rfl⟩ stored other,
    fun key order stored other => (effect.predictionOrders holds.prediction).elsewhere
      ⟨fun _ _ => rfl, fun _ _ => rfl⟩ stored other,
    fun key order stored other => (effect.sharedOrders holds.shared).elsewhere
      ⟨fun _ _ => rfl, fun _ _ => rfl⟩ stored other⟩

/-- Every locked bucket is the sum of the open orders it backs, across all books, and no
instruction touches the lock of an order it does not name. -/
theorem locks_back_open_orders (genesis : Genesis) (events : List Event) {state : State}
    (reached : (genesis.after events).state = state) :
    (∀ owner mint balance, state.shared.assets.get (.assetBalance owner mint) = some balance →
      balance.locked = state.shared.orders.total (assetLock state.shared.books owner mint)) ∧
    (∀ market owner position,
      state.prediction.positions.get (.predictionPosition market owner) = some position →
      position.yesLocked = state.prediction.orders.total (predictionAsk market owner .yes) +
          state.shared.orders.total (sharedAsk market owner .yes) ∧
        position.noLocked = state.prediction.orders.total (predictionAsk market owner .no) +
          state.shared.orders.total (sharedAsk market owner .no) ∧
        position.collateralLocked = state.prediction.orders.total (predictionBid market owner)) ∧
    (∀ market owner balance, state.spot.balances.get (.traderBalance market owner) = some balance →
      balance.baseLocked = state.spot.orders.total (spotLock market owner .ask) ∧
        balance.quoteLocked = state.spot.orders.total (spotLock market owner .bid)) ∧
    ∀ instruction after, execute state instruction = .ok after →
      (∀ key order, state.spot.orders.get key = some order → targetOf instruction ≠ some key →
        ∃ version, after.spot.orders.get key = some version ∧
          (version.status, version.lockedCollateral) = (order.status, order.lockedCollateral)) ∧
      (∀ key order, state.prediction.orders.get key = some order →
        targetOf instruction ≠ some key →
        ∃ version, after.prediction.orders.get key = some version ∧
          (version.status, version.lockedCollateral) = (order.status, order.lockedCollateral)) ∧
      ∀ key order, state.shared.orders.get key = some order → targetOf instruction ≠ some key →
        ∃ version, after.shared.orders.get key = some version ∧
          (version.status, version.lockedCollateral) =
            (order.status, order.lockedCollateral) := by
  have holds : Invariant state := reached ▸ run_invariant genesis events
  refine ⟨fun owner mint balance stored => ?_, fun market owner position stored => ?_,
    fun market owner balance stored => ?_, fun _ _ done => locks_elsewhere holds done⟩
  · have locked := holds.assetLocks (owner, mint)
    rw [Ledger.lockedOf, show state.shared.assets.get (assetLedger.file (owner, mint)) = _ from
      stored] at locked
    exact locked.trans (Store.total_congr fun key order _ => assetLocked_eq _ _ _ key order)
  · have locked := holds.positionLocks (market, owner)
    simp only [Ledger.lockedOf, show state.prediction.positions.get
      (positionLedger.file (market, owner)) = _ from stored] at locked
    refine ⟨(locked (.contracts .yes)).trans ?_, (locked (.contracts .no)).trans ?_,
      (locked .collateral).trans ?_⟩
    · exact congrArg₂ (· + ·)
        (Store.total_congr fun key order found => predictionLocked_eq holds.prediction found _ _ _)
        (Store.total_congr fun key order found => contractLocked_eq holds.shared found _ _ _)
    · exact congrArg₂ (· + ·)
        (Store.total_congr fun key order found => predictionLocked_eq holds.prediction found _ _ _)
        (Store.total_congr fun key order found => contractLocked_eq holds.shared found _ _ _)
    · have unlocked : state.shared.orders.total
          (Shared.contractLocked (market, owner) .collateral) = 0 :=
        Store.total_eq_zero.mpr fun key order _ => contractLocked_collateral _ key order
      rw [unlocked, Nat.add_zero]
      exact Store.total_congr fun key order _ => collateralLocked_eq market owner key order
  · have locked := holds.spot.locks (market, owner)
    simp only [Ledger.lockedOf, show state.spot.balances.get
      (spotLedger.file (market, owner)) = _ from stored] at locked
    exact ⟨(locked .ask).trans (Store.total_congr fun key order _ => spotLocked_eq _ _ _ key order),
      (locked .bid).trans (Store.total_congr fun key order _ => spotLocked_eq _ _ _ key order)⟩

set_option maxRecDepth 4096 in
/-- Alice's locked YES contracts back her open ask. -/
theorem locks_back_open_orders_traded : ∃ position,
    Sample.traded.prediction.positions.get
      (.predictionPosition Sample.question Sample.alice.key) = some position ∧
    position.yesLocked = Sample.traded.prediction.orders.total
        (predictionAsk Sample.question Sample.alice.key .yes) +
      Sample.traded.shared.orders.total (sharedAsk Sample.question Sample.alice.key .yes) := by
  obtain ⟨position, stored⟩ := Option.isSome_iff_exists.mp
    (show (Sample.traded.prediction.positions.get
      (.predictionPosition Sample.question Sample.alice.key)).isSome by decide +kernel)
  exact ⟨position, stored, ((locks_back_open_orders Sample.start
    (Sample.funding ++ Sample.opening ++ Sample.trading) rfl).2.1 _ _ position stored).1⟩

/-! ## Spot markets -/

/-- The claims of a market in its base mint, and in its quote mint with the accrued fees. -/
theorem spot_vault_custody (genesis : Genesis) (events : List Event) {state : State}
    (reached : (genesis.after events).state = state) {key : Pubkey} {market : Market}
    (stored : state.spot.markets.get key = some market) :
    state.tokens.held (.vault key market.baseMint) =
      state.spot.balances.total (baseClaims key) +
        (genesis.after events).unsolicited (.vault key market.baseMint) ∧
    state.tokens.held (.vault key market.quoteMint) =
      state.spot.balances.total (quoteClaims key) + accrued state.spot.fees key +
        (genesis.after events).unsolicited (.vault key market.quoteMint) ∧
    ∀ authority faucetEmpty after,
      execute state (.closeMarket authority key faucetEmpty) = .ok after →
      (∀ found balance, state.spot.balances.get found = some balance → balance.market = key →
        balance.baseFree = 0 ∧ balance.baseLocked = 0 ∧ balance.quoteFree = 0 ∧
          balance.quoteLocked = 0) ∧
      ∀ found order, state.spot.orders.get found = some order → order.market = key →
        order.status ≠ .opened := by
  have holds : Invariant state := reached ▸ run_invariant genesis events
  obtain ⟨address, different⟩ := holds.canonical key market stored
  have unasked : ∀ mint, questionOwed state.prediction key mint = 0 := by
    intro mint
    have none_ : state.prediction.markets.get key = none := by
      cases found : state.prediction.markets.get key with
      | none => rfl
      | some question =>
          have other := holds.prediction.markets key question found
          rw [address] at other
          cases other
    simp [questionOwed, none_]
  have base : state.tokens.held (.vault key market.baseMint) =
      state.spot.balances.total (baseClaims key) +
        (genesis.after events).unsolicited (.vault key market.baseMint) := by
    have paid := run_custody genesis events (.vault key market.baseMint) (by simp [guardOf])
    rw [reached] at paid
    simp only [owed, unasked] at paid
    rw [address] at paid ⊢
    simp only [spotOwed, if_neg different, if_true, Nat.zero_add, Nat.add_zero] at paid
    exact paid
  have quote : state.tokens.held (.vault key market.quoteMint) =
      state.spot.balances.total (quoteClaims key) + accrued state.spot.fees key +
        (genesis.after events).unsolicited (.vault key market.quoteMint) := by
    have paid := run_custody genesis events (.vault key market.quoteMint) (by simp [guardOf])
    rw [reached] at paid
    simp only [owed, unasked] at paid
    rw [address] at paid ⊢
    simp only [spotOwed, if_neg different.symm, if_true, Nat.add_zero] at paid
    exact paid
  refine ⟨base, quote, fun authority faucetEmpty after done => ?_⟩
  obtain ⟨closing, -⟩ := handleCloseMarket_ok done
  obtain rfl : closing.market = market := by
    have same := closing.stored
    rw [stored, Option.some.injEq] at same
    exact same.symm
  have noBase : state.spot.balances.total (baseClaims key) = 0 := by
    simp only [Tokens.held, closing.baseStored, Option.map_some, Option.getD_some,
      closing.base_empty] at base
    omega
  have noQuote : state.spot.balances.total (quoteClaims key) = 0 := by
    simp only [Tokens.held, closing.quoteStored, Option.map_some, Option.getD_some,
      closing.quote_empty] at quote
    omega
  constructor
  · intro found balance present home
    have none_base := Store.total_eq_zero.mp noBase found balance present
    have none_quote := Store.total_eq_zero.mp noQuote found balance present
    simp only [baseClaims, quoteClaims, home, if_true] at none_base none_quote
    omega
  · intro found order present home live
    have count := holds.spot.counts key closing.market stored
    rw [closing.none_open, eq_comm, Store.total_eq_zero] at count
    have counted := count found order present
    simp [openIn, home, live] at counted

set_option maxRecDepth 4096 in
/-- Alice's deposit is what the base vault holds. -/
theorem spot_vault_custody_traded : ∃ market,
    Sample.traded.spot.markets.get Sample.spot = some market ∧
    Sample.traded.tokens.held (.vault Sample.spot market.baseMint) =
      Sample.traded.spot.balances.total (baseClaims Sample.spot) +
        (Sample.start.after (Sample.funding ++ Sample.opening ++ Sample.trading)).unsolicited
          (.vault Sample.spot market.baseMint) := by
  obtain ⟨market, stored⟩ := Option.isSome_iff_exists.mp
    (show (Sample.traded.spot.markets.get Sample.spot).isSome by decide +kernel)
  exact ⟨market, stored, (spot_vault_custody Sample.start
    (Sample.funding ++ Sample.opening ++ Sample.trading) rfl stored).1⟩

end Tidebook.Proof
