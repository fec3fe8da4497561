import Tidebook.Proof.EngineFill
import Tidebook.Proof.Finality

/-! # The shared engine refines the legacy one

A run of shared operations on a prediction market, replayed on the legacy book of the same market:
each operation becomes the legacy instruction for the same order.
-/

namespace Tidebook.Proof
open Library Program

/-! ## Operations -/

/-- An operation of the shared engine, or time that passes between two of them. -/
inductive SharedTrade where
  | place (accounts : PlaceSharedOrder) (outcome : SharedOutcome) (side : OrderSide)
      (price quantity orderId : UInt64)
  | cancel (accounts : CancelSharedOrder)
  | fill (accounts : MatchSharedOrder) (outcome : SharedOutcome) (takerSide : OrderSide)
      (limitPrice quantity : UInt64)
  | wait (seconds : Nat)

namespace SharedTrade

def event : SharedTrade → Event
  | .place accounts outcome side price quantity orderId =>
      .instruction (.placeSharedOrder accounts outcome side price quantity orderId)
  | .cancel accounts => .instruction (.cancelSharedOrder accounts)
  | .fill accounts outcome takerSide limitPrice quantity =>
      .instruction (.matchSharedOrder accounts outcome takerSide limitPrice quantity)
  | .wait seconds => .outside (.wait seconds)

def On (market : Pubkey) : SharedTrade → Prop
  | .place accounts .. => accounts.market = market
  | .cancel accounts => accounts.book = .sharedBook market
  | .fill accounts .. => accounts.market = market
  | .wait _ => True

def legacy (market : Pubkey) (book : Prediction) : SharedTrade → Event
  | .place accounts outcome side price quantity orderId =>
      .instruction (legacyPlacement book accounts outcome side price quantity orderId)
  | .cancel accounts => .instruction (legacyCancellation market accounts)
  | .fill accounts outcome takerSide limitPrice quantity =>
      .instruction (.matchPredictionOrder (legacyTake accounts) (legacyOutcome outcome) takerSide
        limitPrice quantity)
  | .wait seconds => .outside (.wait seconds)

def SameSize (shared legacy : State) : SharedTrade → Prop
  | .fill accounts _ takerSide limitPrice quantity => ∃ size,
      sharedFillSize shared accounts takerSide limitPrice.toNat quantity.toNat = .ok size ∧
        predictionFillSize legacy (legacyTake accounts) quantity.toNat = .ok size
  | _ => True

end SharedTrade

/-- What the shared engine leaves if it accepts every operation. -/
def tradeShared (state : State) (trades : List SharedTrade) : Result State :=
  trades.foldlM (fun state trade => trade.event.apply state) state

/-- The two engines accept the operations one by one and coincide before and after each. -/
def InStep (market : Pubkey) : State → State → List SharedTrade → Prop
  | shared, legacy, [] => Coincides market shared legacy
  | shared, legacy, trade :: rest => Coincides market shared legacy ∧
      trade.SameSize shared legacy ∧ ∃ after reached,
        trade.event.apply shared = .ok after ∧
          (trade.legacy market legacy.prediction).apply legacy = .ok reached ∧
          InStep market after reached rest

/-! ## Empty books -/

/-- Two empty books of one market, with the same counters, fees and claims. -/
structure EvenStart (market : Pubkey) (shared legacy : State) : Prop where
  now : legacy.now = shared.now
  config : legacy.protocol.loadConfig = shared.protocol.loadConfig
  books : ∃ source record book heads fees,
    Paired shared legacy market source record book heads fees ∧ SameRules source record ∧
      book.openOrderCount = 0 ∧ record.openOrderCount = 0 ∧
      heads.nextOrderId = book.nextOrderId ∧ fees.accruedQuoteFees = book.accruedQuoteFees ∧
      SameClaims shared.shared.assets shared.prediction.positions legacy.prediction.positions market
        book.quoteMint

section Empty

variable {market : Pubkey}

theorem shared_empty {shared : Shared} (known : SharedInvariant shared) {book : SharedBook}
    (stored : shared.books.get (.sharedBook market) = some book)
    (none_open : book.openOrderCount = 0) :
    sharedOpen shared.orders market = (fun _ => none) ∧
      sharedLevels shared.levels market = (fun _ => none) ∧ headOf book = fun _ => none := by
  have counts := known.counts _ book stored
  rw [none_open, eq_comm, Store.total_eq_zero] at counts
  have closed : ∀ key order, shared.orders.get key = some order →
      order.book = .sharedBook market → order.status ≠ .opened := by
    intro key order present home live
    have one := counts key order present
    simp [Shared.openIn, home, live] at one
  refine ⟨funext fun orderId => ?_, funext fun place => ?_, ?_⟩
  · cases present : shared.orders.get (.sharedOrder (.sharedBook market) orderId) with
    | none => simp [sharedOpen, Store.project, present]
    | some order =>
        obtain ⟨home, -, -⟩ := shared_home known present
        simp [sharedOpen, Store.project, present, sharedView, closed _ order present home]
  · cases present : shared.levels.get (sharedPlace (.sharedBook market) place) with
    | none => simp [sharedLevels, Store.filed, present]
    | some level =>
        have there : shared.levels.get (sharedShelf.file (.sharedBook market)
            ((sharedOutcome place.1.1, place.1.2), place.2)) = some level := present
        obtain ⟨-, some_last, -⟩ := known.sound.filled there
        obtain ⟨last, link⟩ := Option.ne_none_iff_exists'.mp some_last
        obtain ⟨order, found, home, rests, -⟩ := known.sound.tail there link
        exact absurd (sharedShelf_live.mp rests) (closed last order found home)
  · funext list
    rw [← sharedHeads_stored stored]
    refine known.sound.no_heads (fun key order present home => ?_) list
    exact sharedShelf_closed (closed key order present home)

theorem legacy_empty {prediction : Prediction} (holds : PredictionInvariant prediction)
    {record : PredictionMarket} {heads : PredictionOrderBook}
    (stored : prediction.markets.get market = some record)
    (bookStored : prediction.books.get (.predictionBook market) = some heads)
    (none_open : record.openOrderCount = 0) :
    legacyOpen prediction.orders market = (fun _ => none) ∧
      legacyLevels prediction.levels market = (fun _ => none) ∧ bestOf heads = fun _ => none := by
  have counts := holds.counts market record stored
  rw [none_open, eq_comm, Store.total_eq_zero] at counts
  have closed : ∀ key order, prediction.orders.get key = some order → order.market = market →
      order.status ≠ .opened := by
    intro key order present home live
    have one := counts key order present
    simp [Predicted.openIn, home, live] at one
  refine ⟨funext fun orderId => ?_, funext fun place => ?_, ?_⟩
  · cases present : prediction.orders.get (.predictionOrder market orderId) with
    | none => simp [legacyOpen, Store.project, present]
    | some order =>
        obtain ⟨home, -⟩ := Pubkey.predictionOrder.inj (holds.orders _ order present)
        simp [legacyOpen, Store.project, present, legacyView, closed _ order present home.symm]
  · cases present : prediction.levels.get (predictionShelf.file market place) with
    | none => simp [legacyLevels, Store.filed, present]
    | some level =>
        obtain ⟨-, some_last, -⟩ := holds.sound.filled present
        obtain ⟨last, link⟩ := Option.ne_none_iff_exists'.mp some_last
        obtain ⟨order, found, home, rests, -⟩ := holds.sound.tail present link
        exact absurd (predictionShelf_live.mp rests) (closed last order found home)
  · funext list
    rw [← predictionHeads_stored bookStored]
    refine holds.sound.no_heads (fun key order present home => ?_) list
    exact predictionShelf_closed (closed key order present home)

theorem EvenStart.coincides {shared legacy : State} (start : EvenStart market shared legacy)
    (known : SharedInvariant shared.shared) (holds : PredictionInvariant legacy.prediction) :
    Coincides market shared legacy := by
  obtain ⟨source, record, book, heads, fees, paired, rules, noShared, noLegacy, ids, accrued,
    claims⟩ := start.books
  obtain ⟨sharedOrders, sharedPrices, sharedHeads⟩ := shared_empty known paired.bookStored noShared
  obtain ⟨legacyOrders, legacyPrices, legacyHeads⟩ := legacy_empty holds paired.recordStored
    paired.headsStored noLegacy
  exact
    { now := start.now
      config := start.config
      books := ⟨source, record, book, heads, fees, paired, rules,
        .of_heads (by rw [legacyHeads, sharedHeads]; rfl) ids (noLegacy.trans noShared.symm) accrued,
        claims⟩
      orders := legacyOrders.trans sharedOrders.symm
      levels := legacyPrices.trans sharedPrices.symm }

end Empty

/-! ## Every run -/

theorem Coincides.step {market : Pubkey} {shared legacy after : State} {trade : SharedTrade}
    (same : Coincides market shared legacy) (known : SharedInvariant shared.shared)
    (holds : Invariant legacy) (entered : Entered legacy) (on : trade.On market)
    (applied : trade.event.apply shared = .ok after) :
    trade.SameSize shared legacy ∧ ∃ reached,
      (trade.legacy market legacy.prediction).apply legacy = .ok reached ∧
        Coincides market after reached := by
  cases trade with
  | place accounts outcome side price quantity orderId =>
      exact ⟨trivial, place_coincides same known holds.prediction holds.accounts.filed on applied⟩
  | cancel accounts =>
      exact ⟨trivial, cancel_coincides same known holds.prediction holds.accounts.filed on
        entered.predicted applied⟩
  | fill accounts outcome takerSide limitPrice quantity =>
      obtain ⟨reached, size, accepted, coincides, sharedSize, legacySize⟩ :=
        match_coincides same known holds on applied
      exact ⟨⟨size, sharedSize, legacySize⟩, reached, accepted, coincides⟩
  | wait seconds =>
      obtain rfl : { shared with now := shared.now + seconds } = after := Except.ok.inj applied
      obtain ⟨source, record, book, heads, fees, paired, kept⟩ := same.books
      have paired' : Paired { shared with now := shared.now + seconds }
          { legacy with now := legacy.now + seconds } market source record book heads fees :=
        ⟨paired.sourceStored, paired.bookStored, paired.kind, paired.recordStored,
          paired.headsStored, paired.feesStored⟩
      exact ⟨trivial, { legacy with now := legacy.now + seconds }, rfl,
        ⟨congrArg (· + (seconds : Int)) same.now, same.config,
          ⟨source, record, book, heads, fees, paired', kept⟩, same.orders, same.levels⟩⟩

theorem after_applied {genesis : Genesis} {events : List Event} {event : Event} {after : State}
    (applied : event.apply (genesis.after events).state = .ok after) :
    (genesis.after (events ++ [event])).state = after := by
  rw [after_snoc, World.step, applied]

/-- Every sequence of shared operations that the shared engine accepts from empty books and equal
claims is accepted step by step by the legacy engine, and the two coincide throughout. -/
theorem shared_refines_legacy (genesis other : Genesis) (events history : List Event)
    {shared legacy final : State} (reached : (genesis.after events).state = shared)
    (also : (other.after history).state = legacy) {market : Pubkey}
    (start : EvenStart market shared legacy) (trades : List SharedTrade)
    (on : ∀ trade ∈ trades, trade.On market) (accepted : tradeShared shared trades = .ok final) :
    InStep market shared legacy trades := by
  have same : Coincides market shared legacy := by
    subst reached also
    exact start.coincides (run_invariant genesis events).shared
      (run_invariant other history).prediction
  clear start
  induction trades generalizing events history shared legacy with
  | nil => exact same
  | cons trade rest ih =>
      subst reached also
      rw [tradeShared, List.foldlM_cons] at accepted
      obtain ⟨after, applied, later⟩ := bind_eq_ok.mp accepted
      obtain ⟨sizes, next, followed, coincides⟩ := same.step (run_invariant genesis events).shared
        (run_invariant other history) (run_entered other history) (on trade List.mem_cons_self)
        applied
      exact ⟨same, sizes, after, next, applied, followed, ih _ _ (after_applied applied)
        (after_applied followed) (fun found member => on found (List.mem_cons_of_mem _ member))
        later coincides⟩

/-! ## The sample question -/

def evenCash (state : State) (market quoteMint : Pubkey) : Bool :=
  state.shared.assets.entries.entries.all fun entry =>
    match entry.1 with
    | .assetBalance owner mint => decide (mint ≠ quoteMint) ||
        (state.prediction.positions.get (.predictionPosition market owner)).all fun position =>
          position.collateralFree = entry.2.free ∧ position.collateralLocked = entry.2.locked
    | _ => true

theorem evenCash_claims {state : State} {market quoteMint : Pubkey}
    (even : evenCash state market quoteMint) : SameClaims state.shared.assets
      state.prediction.positions state.prediction.positions market quoteMint := by
  intro owner asset position stored held
  have checked := List.all_eq_true.mp even _ (Store.mem_entries.mp stored)
  simp only [ne_eq, not_true_eq_false, decide_false, Bool.false_or, held, Option.all_some,
    decide_eq_true_eq] at checked
  rw [held, legacyPosition, ← checked.1, ← checked.2]

namespace Sample

/-- Alice and Bob bring as much cash to the wallet as to the question. -/
def matched : List Event := List.map .instruction
  [.depositAsset alice quote (.key 20) 50, .depositPredictionCollateral alice question (.key 20) 100,
    .splitPredictionCompleteSet alice question 5,
    .depositAsset bob quote (.key 22) 80, .depositPredictionCollateral bob question (.key 22) 80]

def even : State := (start.after (funding ++ opening ++ matched)).state

/-- Bob bids twice at one price and once below; Alice sells him a contract; he cancels. -/
def sharedTrades : List SharedTrade :=
  let order := Pubkey.sharedOrder (.sharedBook question)
  let level := Pubkey.sharedLevel (.sharedBook question) .yes .bid
  [.place ⟨bob, question, questionClaims bob, none, none, none⟩ .yes .bid 4 3 1,
    .place ⟨bob, question, questionClaims bob, some (order 1), none, none⟩ .yes .bid 4 2 2,
    .place ⟨bob, question, questionClaims bob, none, some (level 4), none⟩ .yes .bid 3 1 3,
    .wait 5,
    .fill ⟨alice, question, order 1, level 4, questionClaims bob, questionClaims alice, none, none,
      none⟩ .yes .ask 4 1,
    .cancel ⟨bob, .sharedBook question, questionClaims bob, order 2, level 4, some (order 1), none,
      none, none, none⟩]

end Sample

set_option maxRecDepth 4096 in
/-- The sample operations on two copies of the sample question. -/
theorem shared_refines_legacy_even :
    InStep Sample.question Sample.even Sample.even Sample.sharedTrades := by
  have accepts : (tradeShared Sample.even Sample.sharedTrades).toOption.isSome ∧
      ((Sample.even.prediction.markets.get Sample.question).any fun record =>
        (Sample.even.shared.books.get (.sharedBook Sample.question)).any fun book =>
        (Sample.even.prediction.books.get (.predictionBook Sample.question)).any fun heads =>
        (Sample.even.prediction.fees.get (.marketFees Sample.question)).any fun fees =>
          book.kind = .prediction ∧ book.openOrderCount = 0 ∧ record.openOrderCount = 0 ∧
            heads.nextOrderId = book.nextOrderId ∧
            fees.accruedQuoteFees = book.accruedQuoteFees ∧
            evenCash Sample.even Sample.question book.quoteMint) := by
    decide +kernel
  obtain ⟨accepted, records⟩ := accepts
  simp only [Option.any_eq_true, decide_eq_true_eq] at records
  obtain ⟨record, recordStored, book, bookStored, heads, headsStored, fees, feesStored, kind,
    noShared, noLegacy, ids, accrued, even⟩ := records
  have start : EvenStart Sample.question Sample.even Sample.even :=
    ⟨rfl, rfl, record, record, book, heads, fees,
      ⟨recordStored, bookStored, kind, recordStored, headsStored, feesStored⟩,
      ⟨rfl, rfl, rfl, rfl⟩, noShared, noLegacy, ids, accrued, evenCash_claims even⟩
  have ran : ∃ final, tradeShared Sample.even Sample.sharedTrades = .ok final := by
    cases result : tradeShared Sample.even Sample.sharedTrades with
    | error error =>
        rw [result] at accepted
        cases accepted
    | ok final => exact ⟨final, rfl⟩
  obtain ⟨final, ran⟩ := ran
  exact shared_refines_legacy Sample.start Sample.start
    (Sample.funding ++ Sample.opening ++ Sample.matched)
    (Sample.funding ++ Sample.opening ++ Sample.matched) rfl rfl start Sample.sharedTrades
    (by simp [Sample.sharedTrades, SharedTrade.On]) ran

end Tidebook.Proof
