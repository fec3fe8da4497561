import Tidebook.Program.SpotMatch
import Tidebook.Library.Rounding

/-! # Fragmented fills

One resting order against any sequence of takers. Every fill rounds its quote down on its own: a
bid gets the dust back with its last fill, an ask has nothing to get it from.
-/

namespace Tidebook.Proof
open Library Program

structure Rest where
  remaining : Nat
  locked : Nat

def against : OrderSide → OrderSide
  | .bid => .ask
  | .ask => .bid

abbrev Taker := Nat × Nat

def Rest.fill (side : OrderSide) (price decimals : Nat) (rest : Rest) (taker : Taker) :
    Result (SettlementPlan × Rest) := do
  let plan ← calculateSettlement (against side) taker.1 taker.2 side price rest.remaining
    rest.locked decimals
  pure (plan, ⟨rest.remaining - plan.fill.baseQuantity, rest.locked - plan.makerLockedDebit⟩)

def Rest.fills (side : OrderSide) (price decimals : Nat) :
    Rest → List Taker → Result (List SettlementPlan × Rest)
  | rest, [] => pure ([], rest)
  | rest, taker :: takers => do
      let (plan, left) ← rest.fill side price decimals taker
      let (plans, last) ← Rest.fills side price decimals left takers
      pure (plan :: plans, last)

def filledBases : Nat → List Nat → List Nat
  | _, [] => []
  | remaining, size :: sizes =>
      min size remaining :: filledBases (remaining - min size remaining) sizes

def paid (plans : List SettlementPlan) : Nat := (plans.map fun plan => plan.fill.quoteQuantity).sum

def refunded (plans : List SettlementPlan) : Nat := (plans.map SettlementPlan.makerQuoteRefund).sum

def filled (plans : List SettlementPlan) : List Nat := plans.map fun plan => plan.fill.baseQuantity

section
variable {side : OrderSide} {price decimals : Nat} {rest last : Rest} {taker : Taker}
  {takers : List Taker} {plan : SettlementPlan} {plans : List SettlementPlan}

theorem fill_facts (done : rest.fill side price decimals taker = .ok (plan, last)) :
    SettlementFacts (against side) taker.1 taker.2 side price rest.remaining rest.locked decimals
        plan ∧
      last = ⟨rest.remaining - plan.fill.baseQuantity, rest.locked - plan.makerLockedDebit⟩ := by
  simp only [Rest.fill, bind_eq_ok, pure_eq_ok, Prod.mk.injEq] at done
  obtain ⟨_, settled, rfl, rfl⟩ := done
  exact ⟨calculateSettlement_facts settled, rfl⟩

theorem fills_cons (done : rest.fills side price decimals (taker :: takers) = .ok (plans, last)) :
    ∃ plan left later, rest.fill side price decimals taker = .ok (plan, left) ∧
      left.fills side price decimals takers = .ok (later, last) ∧ plans = plan :: later := by
  simp only [Rest.fills, bind_eq_ok, Prod.exists, pure_eq_ok, Prod.mk.injEq] at done
  obtain ⟨plan, left, first, later, final, more, rfl, rfl⟩ := done
  exact ⟨plan, left, later, first, more, rfl⟩

theorem fills_paid (done : rest.fills side price decimals takers = .ok (plans, last)) :
    plans.length = takers.length ∧ paid plans = floorShares price (10 ^ decimals) (filled plans) ∧
      last.remaining + (filled plans).sum = rest.remaining := by
  induction takers generalizing rest plans with
  | nil =>
      cases done
      exact ⟨rfl, rfl, rfl⟩
  | cons taker takers ih =>
      obtain ⟨plan, left, later, first, more, rfl⟩ := fills_cons done
      obtain ⟨facts, rfl⟩ := fill_facts first
      obtain ⟨length, cost, base⟩ := ih more
      have bound : plan.fill.baseQuantity ≤ rest.remaining := facts.base ▸ min_le_right _ _
      refine ⟨congrArg Nat.succ length, ?_, ?_⟩
      · simp only [paid, filled, List.map_cons, List.sum_cons, floorShares_cons] at cost ⊢
        rw [facts.quote, facts.base, cost]
      · simp only [filled, List.map_cons, List.sum_cons] at base ⊢
        omega

theorem fills_paid_le (done : rest.fills side price decimals takers = .ok (plans, last)) :
    paid plans ≤ price * (filled plans).sum / 10 ^ decimals := by
  obtain ⟨-, cost, -⟩ := fills_paid done
  exact cost ▸ floorShares_le (filled plans)

theorem fills_paid_gt (done : rest.fills side price decimals takers = .ok (plans, last))
    (some_taker : takers ≠ []) :
    price * (filled plans).sum < 10 ^ decimals * (paid plans + takers.length) := by
  obtain ⟨length, cost, -⟩ := fills_paid done
  have some_fill : filled plans ≠ [] := by
    intro none_filled
    rw [filled, List.map_eq_nil_iff] at none_filled
    rw [none_filled] at length
    exact some_taker (List.length_eq_zero_iff.mp length.symm)
  have count : (filled plans).length = takers.length := by
    rw [filled, List.length_map, length]
  rw [cost, ← count]
  exact lt_floorShares (Nat.pow_pos (by decide)) some_fill

/-! ## Bids -/

theorem bid_fill (done : rest.fill .bid price decimals taker = .ok (plan, last)) :
    (last = ⟨0, 0⟩ ∧ plan.fill.quoteQuantity + plan.makerQuoteRefund = rest.locked) ∨
    (0 < last.remaining ∧ plan.makerQuoteRefund = 0 ∧
      last.locked + plan.fill.quoteQuantity = rest.locked) := by
  obtain ⟨facts, rfl⟩ := fill_facts done
  obtain ⟨enough, held, refund⟩ := facts.bid_lock rfl
  have debit := facts.debit
  have full := facts.full
  have base := facts.base
  by_cases covered : rest.remaining ≤ taker.2
  · rw [decide_eq_true covered] at full
    simp only [makerDebit, full, if_true] at debit
    refine .inl ⟨Rest.mk.injEq .. ▸ ⟨?_, ?_⟩, ?_⟩ <;> omega
  · rw [decide_eq_false covered] at full
    simp only [makerDebit, full, Bool.false_eq_true, if_false] at debit
    refine .inr ⟨?_, ?_, ?_⟩
    · change 0 < rest.remaining - plan.fill.baseQuantity
      omega
    · omega
    · change rest.locked - plan.makerLockedDebit + plan.fill.quoteQuantity = rest.locked
      omega

theorem bid_fills (done : rest.fills .bid price decimals takers = .ok (plans, last)) :
    (0 < last.remaining → last.locked + paid plans = rest.locked ∧ refunded plans = 0) ∧
    (0 < rest.remaining → last.remaining = 0 →
      last.locked = 0 ∧ paid plans + refunded plans = rest.locked) := by
  induction takers generalizing rest plans with
  | nil =>
      cases done
      exact ⟨fun _ => ⟨rfl, rfl⟩, fun some_left none_left => by omega⟩
  | cons taker takers ih =>
      obtain ⟨plan, left, later, first, more, rfl⟩ := fills_cons done
      obtain ⟨partly, complete⟩ := ih more
      obtain ⟨-, -, bases⟩ := fills_paid more
      simp only [paid, refunded, List.map_cons, List.sum_cons] at partly complete ⊢
      rcases bid_fill first with ⟨rfl, whole⟩ | ⟨some_left, none_back, held⟩
      · cases takers with
        | nil =>
            cases more
            exact ⟨fun some_left => absurd some_left (lt_irrefl _),
              fun _ _ => ⟨rfl, by simpa using whole⟩⟩
        | cons taker takers =>
            -- Nothing is left for another fill.
            obtain ⟨_, _, _, next, -⟩ := fills_cons more
            have empty := (fill_facts next).1.base_pos
            simp at empty
      · refine ⟨fun more_left => ?_, fun _ none_left => ?_⟩
        · have rest_of := partly more_left
          omega
        · have rest_of := complete some_left none_left
          omega

theorem bid_fills_total (fits : price * rest.remaining ≤ u128Max)
    (narrow : price * rest.remaining / 10 ^ decimals ≤ u64Max) (scale : 10 ^ decimals ≤ u128Max)
    (locked : price * rest.remaining / 10 ^ decimals ≤ rest.locked)
    (crossing : ∀ taker ∈ takers, taker.1 ≤ price)
    (some_quote : ∀ base ∈ filledBases rest.remaining (takers.map Prod.snd),
      0 < price * base / 10 ^ decimals) :
    ∃ plans last, rest.fills .bid price decimals takers = .ok (plans, last) ∧
      filled plans = filledBases rest.remaining (takers.map Prod.snd) ∧
      price * last.remaining / 10 ^ decimals ≤ last.locked := by
  induction takers generalizing rest with
  | nil => exact ⟨[], rest, rfl, rfl, locked⟩
  | cons taker takers ih =>
      simp only [List.map_cons, filledBases, List.forall_mem_cons] at crossing some_quote ⊢
      have some_base : 0 < min taker.2 rest.remaining := by
        by_contra none
        rw [Nat.eq_zero_of_not_pos none] at some_quote
        simp at some_quote
      have part : price * min taker.2 rest.remaining ≤ price * rest.remaining :=
        Nat.mul_le_mul_left _ (min_le_right _ _)
      have less := Nat.div_le_div_right (c := 10 ^ decimals) part
      obtain ⟨plan, settled⟩ : ∃ plan, calculateSettlement (against .bid) taker.1 taker.2 .bid price
          rest.remaining rest.locked decimals = .ok plan :=
        calculateSettlement_total (by decide) (decide_eq_true crossing.1) some_base scale
          (part.trans fits) some_quote.1 (less.trans narrow) nofun fun _ => less.trans locked
      obtain ⟨left, first⟩ : ∃ left, rest.fill .bid price decimals taker = .ok (plan, left) :=
        ⟨_, bind_eq_ok.mpr ⟨plan, settled, rfl⟩⟩
      obtain ⟨facts, shape⟩ := fill_facts first
      have remains : left.remaining = rest.remaining - min taker.2 rest.remaining := by
        rw [shape, facts.base]
      -- The floors of the fill and of the remainder together stay under the floor of the whole.
      have covered : price * left.remaining / 10 ^ decimals ≤ left.locked := by
        rcases bid_fill first with ⟨rfl, -⟩ | ⟨-, -, held⟩
        · simp
        · have split := quote_split price (min taker.2 rest.remaining) left.remaining
            (10 ^ decimals)
          have whole : min taker.2 rest.remaining + left.remaining = rest.remaining := by omega
          rw [whole] at split
          have cost := facts.quote
          omega
      have fewer : price * left.remaining ≤ price * rest.remaining :=
        Nat.mul_le_mul_left _ (by omega)
      obtain ⟨plans, last, more, bases, rest_covered⟩ := ih (fewer.trans fits)
        ((Nat.div_le_div_right fewer).trans narrow) covered crossing.2 (remains ▸ some_quote.2)
      refine ⟨plan :: plans, last, ?_, ?_, rest_covered⟩
      · simp only [Rest.fills, bind_eq_ok, Prod.exists]
        exact ⟨plan, left, first, plans, last, more, rfl⟩
      · rw [← remains, ← bases, ← facts.base]
        rfl

end

theorem scale_fits {price quantity scale : Nat} (price_fits : price ≤ u64Max)
    (quantity_fits : quantity ≤ u64Max) (some_quote : 0 < price * quantity / scale) :
    price * quantity ≤ u128Max ∧ scale ≤ u128Max := by
  have product : price * quantity ≤ u64Max * u64Max := Nat.mul_le_mul price_fits quantity_fits
  have wide : u64Max * u64Max ≤ u128Max := by decide
  have scaled : scale ≤ price * quantity := (Nat.div_pos_iff.mp some_quote).2
  exact ⟨product.trans wide, scaled.trans (product.trans wide)⟩

/-- However a bid is filled, and so after every part of its fills: the lock covers what remains and
makes up what was paid, or the bid is complete and the lock is paid out and given back. -/
theorem bid_lock_accounting (price quantity decimals : Nat) (takers : List Taker)
    (price_fits : price ≤ u64Max) (quantity_fits : quantity ≤ u64Max)
    (some_lock : 0 < price * quantity / 10 ^ decimals)
    (lock_fits : price * quantity / 10 ^ decimals ≤ u64Max)
    (crossing : ∀ taker ∈ takers, taker.1 ≤ price)
    (some_quote : ∀ base ∈ filledBases quantity (takers.map Prod.snd),
      0 < price * base / 10 ^ decimals) :
    ∃ plans last, Rest.fills .bid price decimals ⟨quantity, price * quantity / 10 ^ decimals⟩
        takers = .ok (plans, last) ∧
      filled plans = filledBases quantity (takers.map Prod.snd) ∧
      last.remaining + (filled plans).sum = quantity ∧
      (0 < last.remaining → price * last.remaining / 10 ^ decimals ≤ last.locked ∧
        last.locked + paid plans = price * quantity / 10 ^ decimals ∧ refunded plans = 0) ∧
      (last.remaining = 0 → last.locked = 0 ∧
        paid plans + refunded plans = price * quantity / 10 ^ decimals) ∧
      paid plans ≤ price * (filled plans).sum / 10 ^ decimals ∧
      (takers ≠ [] →
        price * (filled plans).sum < 10 ^ decimals * (paid plans + takers.length)) := by
  obtain ⟨fits, scale⟩ := scale_fits price_fits quantity_fits some_lock
  obtain ⟨plans, last, done, bases, covered⟩ : ∃ plans last, Rest.fills .bid price decimals
      ⟨quantity, price * quantity / 10 ^ decimals⟩ takers = .ok (plans, last) ∧ _ ∧ _ :=
    bid_fills_total fits lock_fits scale le_rfl crossing some_quote
  obtain ⟨partly, complete⟩ := bid_fills done
  obtain ⟨-, -, whole⟩ := fills_paid done
  have some_base : 0 < quantity := by
    by_contra none
    rw [Nat.eq_zero_of_not_pos none, Nat.mul_zero, Nat.zero_div] at some_lock
    exact lt_irrefl _ some_lock
  exact ⟨plans, last, done, bases, whole, fun some_left => ⟨covered, partly some_left⟩,
    complete some_base, fills_paid_le done, fills_paid_gt done⟩

/-- Two single units at price 15 and scale 10: the lock of 3 pays 1 and 1, and gives back 1. -/
theorem bid_lock_accounting_dust : ∃ plans last,
    Rest.fills .bid 15 1 ⟨2, 15 * 2 / 10 ^ 1⟩ [(15, 1), (14, 7)] = .ok (plans, last) ∧
      (last.remaining = 0 → last.locked = 0 ∧ paid plans + refunded plans = 3) := by
  obtain ⟨plans, last, done, -, -, -, complete, -⟩ := bid_lock_accounting 15 2 1 [(15, 1), (14, 7)]
    (by decide) (by decide) (by decide) (by decide) (by decide) (by decide)
  exact ⟨plans, last, done, complete⟩

/-! ## Asks -/

/-- What an ask is paid in fragments falls short of the single fill by less than their number, and
a bid never pays more than the single fill. -/
theorem fragments_against_single (price quantity decimals : Nat) (takers : List Taker)
    (plans : List SettlementPlan) (last : Rest) :
    (Rest.fills .ask price decimals ⟨quantity, quantity⟩ takers = .ok (plans, last) →
      last.remaining = 0 → takers ≠ [] →
      paid plans ≤ price * quantity / 10 ^ decimals ∧
        price * quantity / 10 ^ decimals < paid plans + takers.length) ∧
    ∀ locked, Rest.fills .bid price decimals ⟨quantity, locked⟩ takers = .ok (plans, last) →
      paid plans ≤ price * quantity / 10 ^ decimals := by
  have most : ∀ {side rest}, Rest.fills side price decimals rest takers = .ok (plans, last) →
      rest.remaining = quantity → paid plans ≤ price * quantity / 10 ^ decimals := by
    rintro side rest done rfl
    obtain ⟨-, -, whole⟩ := fills_paid done
    have part : (filled plans).sum ≤ rest.remaining := by omega
    exact (fills_paid_le done).trans (Nat.div_le_div_right (Nat.mul_le_mul_left _ part))
  refine ⟨fun done none_left some_taker => ⟨most done rfl, ?_⟩, fun locked done => most done rfl⟩
  obtain ⟨-, -, whole⟩ := fills_paid done
  have short := fills_paid_gt done some_taker
  rw [none_left, Nat.zero_add] at whole
  rw [whole] at short
  exact Nat.div_lt_of_lt_mul short

/-- Two fills of one unit pay the ask 2, where the single fill of both pays 3. -/
theorem fragments_underpay_ask :
    (∃ plans last, Rest.fills .ask 15 1 ⟨2, 2⟩ [(15, 1), (15, 1)] = .ok (plans, last) ∧
      last.remaining = 0 ∧ paid plans < 15 * 2 / 10 ^ 1) ∧
    ∃ plans last, Rest.fills .ask 15 1 ⟨2, 2⟩ [(15, 2)] = .ok (plans, last) ∧
      last.remaining = 0 ∧ paid plans = 15 * 2 / 10 ^ 1 :=
  ⟨⟨_, _, rfl, rfl, by decide⟩, _, _, rfl, rfl, rfl⟩

end Tidebook.Proof
