import Mathlib.Tactic.Ring
import Tidebook.Program.State

/-! # Fixed-point settlement

The pure calculations of matching and fees. Products are formed in 128 bits and every result
must fit the 64-bit field it is stored in.
-/

namespace Tidebook.Program
open Tidebook.Library

def u64Max : Nat := 2 ^ 64 - 1

def u128Max : Nat := 2 ^ 128 - 1

/-! ## Checked arithmetic -/

def checkedAdd (left right : Nat) (failure : TidebookError) : Result Nat :=
  if left + right ≤ u64Max then .ok (left + right) else .error failure

def checkedSub (left right : Nat) (failure : TidebookError) : Result Nat :=
  if right ≤ left then .ok (left - right) else .error failure

def checkedMul (left right : Nat) (failure : TidebookError) : Result Nat :=
  if left * right ≤ u64Max then .ok (left * right) else .error failure

def toU64 (value : Nat) (failure : TidebookError) : Result Nat :=
  if value ≤ u64Max then .ok value else .error failure

@[simp] theorem checkedAdd_eq_ok {left right result : Nat} {failure : TidebookError} :
    checkedAdd left right failure = .ok result ↔ left + right ≤ u64Max ∧ result = left + right := by
  unfold checkedAdd
  split <;> simp_all [eq_comm]

@[simp] theorem checkedSub_eq_ok {left right result : Nat} {failure : TidebookError} :
    checkedSub left right failure = .ok result ↔ right ≤ left ∧ result = left - right := by
  unfold checkedSub
  split <;> simp_all [eq_comm]

@[simp] theorem checkedMul_eq_ok {left right result : Nat} {failure : TidebookError} :
    checkedMul left right failure = .ok result ↔ left * right ≤ u64Max ∧ result = left * right := by
  unfold checkedMul
  split <;> simp_all [eq_comm]

@[simp] theorem toU64_eq_ok {value result : Nat} {failure : TidebookError} :
    toU64 value failure = .ok result ↔ value ≤ u64Max ∧ result = value := by
  unfold toU64
  split <;> simp_all [eq_comm]

/-! ## Notional value -/

/-- `floor(price * quantity / 10^decimals)` before it is narrowed to 64 bits. -/
def notional (price quantity decimals : Nat) : Result Nat := do
  require (10 ^ decimals ≤ u128Max) .orderNotionalOverflow
  require (price * quantity ≤ u128Max) .orderNotionalOverflow
  pure (price * quantity / 10 ^ decimals)

@[simp] theorem notional_eq_ok {price quantity decimals result : Nat} :
    notional price quantity decimals = .ok result ↔
      10 ^ decimals ≤ u128Max ∧ price * quantity ≤ u128Max ∧
        result = price * quantity / 10 ^ decimals := by
  simp only [notional, bind_eq_ok, require_eq_ok, pure_eq_ok]
  constructor
  · rintro ⟨_, scale, _, product, rfl⟩
    exact ⟨scale, product, rfl⟩
  · rintro ⟨scale, product, rfl⟩
    exact ⟨(), scale, (), product, rfl⟩

/-! ## Fees -/

def basisPointsDenominator : Nat := 10000

def maxTakerFeeBps : Nat := 1000

def calculateTakerFee (quoteQuantity feeBps : Nat) : Result Nat := do
  require (feeBps ≤ maxTakerFeeBps) .feeRateTooHigh
  if quoteQuantity = 0 ∨ feeBps = 0 then pure 0
  else do
    require (quoteQuantity * feeBps + (basisPointsDenominator - 1) ≤ u128Max)
      .feeCalculationOverflow
    toU64 ((quoteQuantity * feeBps + (basisPointsDenominator - 1)) / basisPointsDenominator)
      .feeCalculationOverflow

/-- The fee in one formula: a zero rate or a zero fill rounds up to nothing. -/
def takerFee (quoteQuantity feeBps : Nat) : Nat :=
  (quoteQuantity * feeBps + (basisPointsDenominator - 1)) / basisPointsDenominator

theorem takerFee_le (quoteQuantity : Nat) {feeBps : Nat} (capped : feeBps ≤ maxTakerFeeBps) :
    takerFee quoteQuantity feeBps ≤ quoteQuantity := by
  simp only [takerFee, basisPointsDenominator, maxTakerFeeBps] at *
  have bound : quoteQuantity * feeBps ≤ quoteQuantity * 1000 := Nat.mul_le_mul_left _ capped
  omega

theorem calculateTakerFee_ok {quoteQuantity feeBps fee : Nat}
    (done : calculateTakerFee quoteQuantity feeBps = .ok fee) :
    feeBps ≤ maxTakerFeeBps ∧ fee = takerFee quoteQuantity feeBps ∧ fee ≤ quoteQuantity := by
  simp only [calculateTakerFee, bind_eq_ok, require_eq_ok, ite_eq_ok, pure_eq_ok,
    toU64_eq_ok] at done
  obtain ⟨_, capped, ⟨zero, rfl⟩ | ⟨_, _, _, _, rfl⟩⟩ := done
  · refine ⟨capped, ?_, Nat.zero_le _⟩
    rcases zero with rfl | rfl <;> simp [takerFee, basisPointsDenominator]
  · exact ⟨capped, rfl, takerFee_le _ capped⟩

theorem calculateTakerFee_total {quoteQuantity feeBps : Nat} (fits : quoteQuantity ≤ u64Max)
    (capped : feeBps ≤ maxTakerFeeBps) :
    calculateTakerFee quoteQuantity feeBps = .ok (takerFee quoteQuantity feeBps) := by
  have bound := takerFee_le quoteQuantity capped
  have product : quoteQuantity * feeBps ≤ u64Max * 1000 :=
    Nat.mul_le_mul fits capped
  simp only [calculateTakerFee, bind_eq_ok, require_eq_ok, ite_eq_ok, pure_eq_ok, toU64_eq_ok]
  refine ⟨(), capped, ?_⟩
  by_cases zero : quoteQuantity = 0 ∨ feeBps = 0
  · refine .inl ⟨zero, ?_⟩
    rcases zero with rfl | rfl <;> simp [takerFee, basisPointsDenominator]
  · refine .inr ⟨zero, (), ?_, le_trans bound fits, rfl⟩
    simp only [basisPointsDenominator, u64Max, u128Max] at *
    omega

/-! ## Fills -/

structure FillCalculation where
  baseQuantity : Nat
  quoteQuantity : Nat
  executionPrice : Nat
  deriving DecidableEq

structure SettlementPlan where
  fill : FillCalculation
  makerLockedDebit : Nat
  makerQuoteRefund : Nat
  makerFullyFilled : Bool
  takerFullyFilled : Bool
  deriving DecidableEq

def pricesCross (takerSide : OrderSide) (takerLimitPrice makerPrice : Nat) : Bool :=
  match takerSide with
  | .bid => makerPrice ≤ takerLimitPrice
  | .ask => takerLimitPrice ≤ makerPrice

def calculateFill (makerPrice takerRemaining makerRemaining baseDecimals : Nat) :
    Result FillCalculation := do
  let baseQuantity := min takerRemaining makerRemaining
  require (baseQuantity > 0) .invalidQuantity
  let quoteQuantity ← notional makerPrice baseQuantity baseDecimals
  require (quoteQuantity > 0) .orderNotionalTooSmall
  let quoteQuantity ← toU64 quoteQuantity .orderNotionalOverflow
  pure ⟨baseQuantity, quoteQuantity, makerPrice⟩

/-- The maker's locked debit and, for a bid, its rounding refund. -/
def makerLegs (makerSide : OrderSide) (fill : FillCalculation) (makerFullyFilled : Bool)
    (makerRemaining makerLockedCollateral : Nat) : Result (Nat × Nat) :=
  match makerSide with
  | .ask => do
      require (makerLockedCollateral = makerRemaining) .invalidMakerCollateral
      pure (fill.baseQuantity, 0)
  | .bid => do
      let lockedDebit := if makerFullyFilled then makerLockedCollateral else fill.quoteQuantity
      require (lockedDebit ≥ fill.quoteQuantity ∧ makerLockedCollateral ≥ lockedDebit)
        .invalidMakerCollateral
      pure (lockedDebit, lockedDebit - fill.quoteQuantity)

def calculateSettlement (takerSide : OrderSide) (takerLimitPrice takerRemaining : Nat)
    (makerSide : OrderSide) (makerPrice makerRemaining makerLockedCollateral baseDecimals : Nat) :
    Result SettlementPlan := do
  require (takerSide ≠ makerSide) .matchingSameSide
  require (pricesCross takerSide takerLimitPrice makerPrice) .ordersDoNotCross
  let fill ← calculateFill makerPrice takerRemaining makerRemaining baseDecimals
  let makerFullyFilled := fill.baseQuantity == makerRemaining
  let takerFullyFilled := fill.baseQuantity == takerRemaining
  let (makerLockedDebit, makerQuoteRefund) ←
    makerLegs makerSide fill makerFullyFilled makerRemaining makerLockedCollateral
  pure ⟨fill, makerLockedDebit, makerQuoteRefund, makerFullyFilled, takerFullyFilled⟩

section Fill

variable {price taker maker decimals : Nat}

theorem calculateFill_eq_ok {fill : FillCalculation} :
    calculateFill price taker maker decimals = .ok fill ↔
      0 < min taker maker ∧ 10 ^ decimals ≤ u128Max ∧ price * min taker maker ≤ u128Max ∧
      0 < price * min taker maker / 10 ^ decimals ∧
      price * min taker maker / 10 ^ decimals ≤ u64Max ∧
      fill = ⟨min taker maker, price * min taker maker / 10 ^ decimals, price⟩ := by
  simp only [calculateFill, bind_eq_ok, require_eq_ok, notional_eq_ok, toU64_eq_ok, pure_eq_ok]
  constructor
  · rintro ⟨_, some_base, quote, ⟨scale, product, rfl⟩, _, some_quote, _, ⟨fits, rfl⟩, rfl⟩
    exact ⟨some_base, scale, product, some_quote, fits, rfl⟩
  · rintro ⟨some_base, scale, product, some_quote, fits, rfl⟩
    exact ⟨(), some_base, _, ⟨scale, product, rfl⟩, (), some_quote, _, ⟨fits, rfl⟩, rfl⟩

end Fill

/-- The maker's debit: base for an ask; the fill's quote for a partially filled bid, and the
whole remaining lock for a completed one. -/
def makerDebit (makerSide : OrderSide) (locked base quote : Nat) (full : Bool) : Nat :=
  match makerSide with
  | .ask => base
  | .bid => if full then locked else quote

/-- What a settlement plan promises, as one record of facts. -/
structure SettlementFacts (takerSide : OrderSide) (limit taker : Nat) (makerSide : OrderSide)
    (price remaining locked decimals : Nat) (plan : SettlementPlan) : Prop where
  sides : takerSide ≠ makerSide
  cross : pricesCross takerSide limit price
  base : plan.fill.baseQuantity = min taker remaining
  base_pos : 0 < min taker remaining
  scale : 10 ^ decimals ≤ u128Max
  product : price * min taker remaining ≤ u128Max
  quote : plan.fill.quoteQuantity = price * min taker remaining / 10 ^ decimals
  quote_pos : 0 < price * min taker remaining / 10 ^ decimals
  quote_fits : price * min taker remaining / 10 ^ decimals ≤ u64Max
  executed : plan.fill.executionPrice = price
  full : plan.makerFullyFilled = decide (remaining ≤ taker)
  takerFull : plan.takerFullyFilled = decide (taker ≤ remaining)
  debit : plan.makerLockedDebit = makerDebit makerSide locked plan.fill.baseQuantity
    plan.fill.quoteQuantity plan.makerFullyFilled
  ask_lock : makerSide = .ask → locked = remaining ∧ plan.makerQuoteRefund = 0
  bid_lock : makerSide = .bid → plan.fill.quoteQuantity ≤ plan.makerLockedDebit ∧
    plan.makerLockedDebit ≤ locked ∧
    plan.makerQuoteRefund = plan.makerLockedDebit - plan.fill.quoteQuantity

section Settlement

variable {takerSide makerSide : OrderSide} {limit taker price remaining locked decimals : Nat}
variable {plan : SettlementPlan}

theorem calculateSettlement_facts
    (done : calculateSettlement takerSide limit taker makerSide price remaining locked decimals =
      .ok plan) :
    SettlementFacts takerSide limit taker makerSide price remaining locked decimals plan := by
  simp only [calculateSettlement] at done
  obtain ⟨_, sides, done⟩ := bind_eq_ok.mp done
  obtain ⟨_, cross, done⟩ := bind_eq_ok.mp done
  obtain ⟨fill, filled, done⟩ := bind_eq_ok.mp done
  obtain ⟨some_base, scale, product, some_quote, fits, rfl⟩ := calculateFill_eq_ok.mp filled
  rw [require_eq_ok] at sides cross
  obtain ⟨⟨debit, refund⟩, legs, done⟩ := bind_eq_ok.mp done
  rw [pure_eq_ok] at done
  subst done
  have full : (min taker remaining == remaining) = decide (remaining ≤ taker) := by
    rw [Bool.eq_iff_iff, beq_iff_eq, decide_eq_true_iff]
    omega
  have takerFull : (min taker remaining == taker) = decide (taker ≤ remaining) := by
    rw [Bool.eq_iff_iff, beq_iff_eq, decide_eq_true_iff]
    omega
  cases makerSide with
  | ask =>
      obtain ⟨_, backed, legs⟩ := bind_eq_ok.mp legs
      rw [require_eq_ok] at backed
      obtain ⟨rfl, rfl⟩ := Prod.mk.inj (pure_eq_ok.mp legs)
      exact ⟨sides, cross, rfl, some_base, scale, product, rfl, some_quote, fits, rfl, full,
        takerFull, rfl, fun _ => ⟨backed, rfl⟩, fun other => by cases other⟩
  | bid =>
      obtain ⟨_, backed, legs⟩ := bind_eq_ok.mp legs
      rw [require_eq_ok] at backed
      obtain ⟨rfl, rfl⟩ := Prod.mk.inj (pure_eq_ok.mp legs)
      exact ⟨sides, cross, rfl, some_base, scale, product, rfl, some_quote, fits, rfl, full,
        takerFull, rfl, fun other => (by cases other), fun _ => ⟨backed.1, backed.2, rfl⟩⟩

/-- Every crossing fill with a positive notional settles, given a sufficient maker lock. -/
theorem calculateSettlement_total (sides : takerSide ≠ makerSide)
    (cross : pricesCross takerSide limit price) (some_base : 0 < min taker remaining)
    (scale : 10 ^ decimals ≤ u128Max) (product : price * min taker remaining ≤ u128Max)
    (some_quote : 0 < price * min taker remaining / 10 ^ decimals)
    (fits : price * min taker remaining / 10 ^ decimals ≤ u64Max)
    (ask_lock : makerSide = .ask → locked = remaining)
    (bid_lock : makerSide = .bid → price * min taker remaining / 10 ^ decimals ≤ locked) :
    ∃ plan, calculateSettlement takerSide limit taker makerSide price remaining locked decimals =
      .ok plan := by
  have filled := calculateFill_eq_ok.mpr ⟨some_base, scale, product, some_quote, fits, rfl⟩
  simp only [calculateSettlement, filled, bind_eq_ok, require_eq_ok]
  cases makerSide with
  | ask =>
      exact ⟨_, (), sides, (), cross, _, rfl, (min taker remaining, 0),
        bind_eq_ok.mpr ⟨(), require_eq_ok.mpr (ask_lock rfl), rfl⟩, rfl⟩
  | bid =>
      have enough := bid_lock rfl
      refine ⟨_, (), sides, (), cross, _, rfl, (_, _),
        bind_eq_ok.mpr ⟨(), require_eq_ok.mpr ?_, rfl⟩, rfl⟩
      split
      · exact ⟨enough, le_refl locked⟩
      · exact ⟨le_refl _, enough⟩

end Settlement

/-! ## Rounding -/

theorem quote_split (price first second scale : Nat) :
    price * first / scale + price * second / scale ≤ price * (first + second) / scale := by
  rw [Nat.mul_add]
  exact Nat.div_add_div_le_add_div

end Tidebook.Program
