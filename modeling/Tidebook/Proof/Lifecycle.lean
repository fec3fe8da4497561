import Tidebook.Proof.Consent
import Tidebook.Proof.Finality

/-! # The life of an order

What has become of an order is a function of the accepted instructions that name it, in their order:
each fill takes what it asks for or all that is left, a cancellation ends it, and nothing follows an
end.
-/

namespace Tidebook.Proof
open Library Program

/-! ## What an instruction makes of an order -/

inductive Standing where
  | resting (remaining : Nat)
  | filled
  | canceled
  deriving DecidableEq

def standingOf (status : OrderStatus) (remaining : Nat) : Standing :=
  match status with
  | .opened => .resting remaining
  | .filled => .filled
  | .canceled => .canceled

/-- How much a match asks of the order that it names; a cancellation asks for nothing. -/
def asks : Instruction → Option Nat
  | .matchLimitOrder _ _ _ quantity => some quantity.toNat
  | .matchPredictionOrder _ _ _ _ quantity => some quantity.toNat
  | .matchSharedOrder _ _ _ _ quantity => some quantity.toNat
  | _ => none

def Standing.next (standing : Standing) (sent : Instruction) : Standing :=
  match standing, asks sent with
  | .resting _, none => .canceled
  | .resting remaining, some quantity =>
      if remaining ≤ quantity then .filled else .resting (remaining - quantity)
  | ended, _ => ended

section Named

variable (names : Instruction → Option Pubkey) (key : Pubkey)

def naming (world : World) : Event → List Instruction
  | .outside _ => []
  | .instruction sent =>
      if names sent = some key ∧ (execute world.state sent).isOk then [sent] else []

def named (world : World) : List Event → List Instruction
  | [] => []
  | event :: later => naming names key world event ++ named (world.step event) later

theorem named_append (world : World) (first last : List Event) :
    named names key world (first ++ last) =
      named names key world first ++ named names key (world.run first) last := by
  induction first generalizing world with
  | nil => rfl
  | cons event rest ih =>
      rw [List.cons_append, named, named, ih, List.append_assoc]
      rfl

end Named

theorem ended_stays {ended : Standing} (ends : ∀ left, ended ≠ .resting left)
    (sent : List Instruction) : sent.foldl Standing.next ended = ended := by
  induction sent with
  | nil => rfl
  | cons first rest ih =>
      cases ended with
      | resting left => exact absurd rfl (ends left)
      | filled => exact ih
      | canceled => exact ih

theorem resting_accounts {sent : List Instruction} {quantity remaining : Nat}
    (rests : sent.foldl Standing.next (.resting quantity) = .resting remaining) :
    (∀ instruction ∈ sent, asks instruction ≠ none) ∧
      (sent.map fun instruction => (asks instruction).getD 0).sum + remaining = quantity := by
  induction sent generalizing quantity with
  | nil =>
      cases rests
      exact ⟨fun _ member => absurd member List.not_mem_nil, Nat.zero_add _⟩
  | cons first rest ih =>
      rw [List.foldl_cons] at rests
      cases asked : asks first with
      | none =>
          simp only [Standing.next, asked] at rests
          rw [ended_stays fun _ same => by cases same] at rests
          cases rests
      | some amount =>
          simp only [Standing.next, asked] at rests
          split at rests
          · rw [ended_stays fun _ same => by cases same] at rests
            cases rests
          · next less =>
              obtain ⟨asking, sum⟩ := ih rests
              rw [List.forall_mem_cons, asked, List.map_cons, List.sum_cons, asked, Option.getD_some]
              exact ⟨⟨Option.some_ne_none amount, asking⟩, by omega⟩

/-! ## What a step makes of the orders of a family -/

/-- What there is to see of an order, besides its links. -/
structure Reading (O A : Type) where
  terms : O → A
  owner : O → Pubkey
  quantity : O → Nat
  standing : O → Standing
  locked : O → Nat

namespace Reading

variable {O A : Type} (reading : Reading O A)

def view (order : O) : A × Pubkey × Nat × Standing × Nat :=
  (reading.terms order, reading.owner order, reading.quantity order, reading.standing order,
    reading.locked order)

structure Turned (sent : Instruction) (order version : O) : Prop where
  terms : reading.terms version = reading.terms order
  owner : reading.owner version = reading.owner order
  quantity : reading.quantity version = reading.quantity order
  rested : ∃ remaining, reading.standing order = .resting remaining
  next : reading.standing version = (reading.standing order).next sent
  consent : asks sent = none ↔ (signer sent).map Wallet.key = some (reading.owner order)
  released : (∀ remaining, reading.standing version ≠ .resting remaining) →
    reading.locked version = 0

theorem Turned.view {sent : Instruction} {order written version : O}
    (turned : reading.Turned sent order written) (same : reading.view version = reading.view written) :
    reading.Turned sent order version := by
  simp only [Reading.view, Prod.mk.injEq] at same
  obtain ⟨terms, owner, quantity, standing, locked⟩ := same
  exact ⟨terms.trans turned.terms, owner.trans turned.owner, quantity.trans turned.quantity,
    turned.rested, standing.trans turned.next, turned.consent, by
      rw [standing, locked]
      exact turned.released⟩

section Turned

variable {reading} {sent : Instruction} {order version : O}
variable (terms : reading.terms version = reading.terms order)
variable (owner : reading.owner version = reading.owner order)
variable (quantity : reading.quantity version = reading.quantity order)
variable {remaining : Nat} (rests : reading.standing order = .resting remaining)

include terms owner quantity rests

theorem Turned.cancels (silent : asks sent = none) (ended : reading.standing version = .canceled)
    (own : (signer sent).map Wallet.key = some (reading.owner order))
    (released : reading.locked version = 0) : reading.Turned sent order version where
  terms := terms
  owner := owner
  quantity := quantity
  rested := ⟨remaining, rests⟩
  next := by
    rw [ended, rests]
    simp only [Standing.next, silent]
  consent := iff_of_true silent own
  released _ := released

theorem Turned.fills {amount : Nat} (asked : asks sent = some amount)
    (left : reading.standing version =
      if remaining ≤ amount then .filled else .resting (remaining - amount))
    (other : (signer sent).map Wallet.key ≠ some (reading.owner order))
    (released : remaining ≤ amount → reading.locked version = 0) :
    reading.Turned sent order version where
  terms := terms
  owner := owner
  quantity := quantity
  rested := ⟨remaining, rests⟩
  next := by
    rw [left, rests]
    simp only [Standing.next, asked]
  consent := iff_of_false (by rw [asked]; exact Option.some_ne_none amount) other
  released ended := by
    rw [left] at ended
    split at ended
    · next full => exact released full
    · exact absurd rfl (ended _)

end Turned

/-- What a step makes of what is filed under one key. -/
inductive Turn (names : Instruction → Option Pubkey) (sent : Instruction) (key : Pubkey)
    (before after : Option O) : Prop where
  | aside (other : names sent ≠ some key)
      (same : after.map reading.view = before.map reading.view)
  | arrives {order : O} (silent : names sent = none) (fresh : before = none)
      (filed : after = some order)
      (whole : reading.standing order = .resting (reading.quantity order))
  | turns {order version : O} (named : names sent = some key) (stored : before = some order)
      (found : after = some version) (turned : reading.Turned sent order version)

variable {M ι π L : Type} (shelf : Shelf M ι π Pubkey O L)

inductive Step (names : Instruction → Option Pubkey) (sent : Instruction) (orders : Store Pubkey O) :
    Store Pubkey O → Prop where
  | still (silent : names sent = none) : Step names sent orders orders
  | arrival {key : Pubkey} {written : O} {previous next after before : Option Pubkey}
      (silent : names sent = none) (fresh : orders.get key = none)
      (whole : reading.standing written = .resting (reading.quantity written)) :
      Step names sent orders (shelf.relink (orders.set key written) previous next after before)
  | turn {key : Pubkey} {order written : O} {previous next after before : Option Pubkey}
      (named : names sent = some key) (stored : orders.get key = some order)
      (turned : reading.Turned sent order written) :
      Step names sent orders (shelf.relink (orders.set key written) previous next after before)

variable {reading shelf} {names : Instruction → Option Pubkey} {sent : Instruction}
variable {orders later : Store Pubkey O}

theorem written_view (blind : shelf.Blind reading.view) (home : Pubkey) (written : O)
    (previous next after before : Option Pubkey) :
    ∃ version, (shelf.relink (orders.set home written) previous next after before).get home =
      some version ∧ reading.view version = reading.view written := by
  apply Option.map_eq_some_iff.mp
  rw [Shelf.relink_map blind, Store.get_set_self, Option.map_some]

theorem Step.turn_at (blind : shelf.Blind reading.view)
    (step : reading.Step shelf names sent orders later) (key : Pubkey) :
    reading.Turn names sent key (orders.get key) (later.get key) := by
  cases step with
  | still silent => exact .aside (fun named => by cases silent.symm.trans named) rfl
  | @arrival home written previous next after before silent fresh whole =>
      by_cases same : key = home
      · subst same
        obtain ⟨order, filed, view⟩ := written_view blind key written previous next after before
        simp only [Reading.view, Prod.mk.injEq] at view
        exact .arrives silent fresh filed
          (view.2.2.2.1.trans (whole.trans (congrArg _ view.2.2.1.symm)))
      · apply Turn.aside fun named => by cases silent.symm.trans named
        rw [Shelf.relink_map blind, Store.get_set_ne _ _ same]
  | @turn home order written previous next after before named stored turned =>
      by_cases same : key = home
      · subst same
        obtain ⟨version, found, view⟩ := written_view blind key written previous next after before
        exact .turns named stored found (turned.view reading view)
      · apply Turn.aside fun other => same (Option.some.inj (other.symm.trans named))
        rw [Shelf.relink_map blind, Store.get_set_ne _ _ same]

end Reading

/-! ## The three families -/

theorem standingOf_opened {status : OrderStatus} {remaining : Nat} (opened : status = .opened) :
    standingOf status remaining = .resting remaining := by
  rw [opened, standingOf]

def spotReading : Reading Order (Pubkey × Nat × OrderSide × Nat) where
  terms order := (order.market, order.orderId, order.side, order.price)
  owner := Order.owner
  quantity := Order.quantity
  standing order := standingOf order.status order.remainingQuantity
  locked := Order.lockedCollateral

def predictionReading :
    Reading PredictionOrder (Pubkey × Nat × PredictionOutcome × OrderSide × Nat) where
  terms order := (order.market, order.orderId, order.outcome, order.side, order.price)
  owner := PredictionOrder.owner
  quantity := PredictionOrder.quantity
  standing order := standingOf order.status order.remainingQuantity
  locked := PredictionOrder.lockedCollateral

def sharedReading :
    Reading SharedOrder (Pubkey × Pubkey × Nat × SharedOutcome × OrderSide × Nat) where
  terms order := (order.book, order.market, order.orderId, order.outcome, order.side, order.price)
  owner := SharedOrder.owner
  quantity := SharedOrder.quantity
  standing order := standingOf order.status order.remainingQuantity
  locked := SharedOrder.lockedCollateral

theorem spotReading_blind : spotShelf.Blind spotReading.view := ⟨fun _ _ => rfl, fun _ _ => rfl⟩

theorem predictionReading_blind : predictionShelf.Blind predictionReading.view :=
  ⟨fun _ _ => rfl, fun _ _ => rfl⟩

theorem sharedReading_blind : sharedShelf.Blind sharedReading.view :=
  ⟨fun _ _ => rfl, fun _ _ => rfl⟩

def spotNames : Instruction → Option Pubkey
  | .cancelLimitOrder accounts orderId => some (.order accounts.market orderId.toNat)
  | .matchLimitOrder accounts _ _ _ => some accounts.makerOrder
  | _ => none

def predictionNames : Instruction → Option Pubkey
  | .cancelPredictionOrder accounts orderId => some (.predictionOrder accounts.market orderId.toNat)
  | .matchPredictionOrder accounts _ _ _ _ => some accounts.makerOrder
  | _ => none

def sharedNames : Instruction → Option Pubkey
  | .cancelSharedOrder accounts => some accounts.order
  | .matchSharedOrder accounts _ _ _ _ => some accounts.makerOrder
  | _ => none

theorem left_of_fill {status : OrderStatus} {remaining amount : Nat} (opened : status = .opened)
    (partly : ¬remaining ≤ amount) :
    standingOf status (remaining - min amount remaining) =
      if remaining ≤ amount then .filled else .resting (remaining - amount) := by
  rw [standingOf_opened opened, if_neg partly, min_eq_left (Nat.le_of_not_le partly)]

section Fills

variable {config : ProtocolConfig} {taker : Wallet} {key makerKey : Pubkey} {sent : Instruction}
variable {takerSide : OrderSide} {limit amount : Nat}

theorem Fill.turned {spot : Spot}
    (fill : Fill spot config taker key makerKey takerSide limit amount)
    (asked : asks sent = some amount) (from_ : signer sent = some taker) :
    spotReading.Turned sent fill.order fill.written := by
  have other : (signer sent).map Wallet.key ≠ some fill.order.owner := by
    rw [from_]
    exact fun same => fill.own (Option.some.inj same).symm
  have facts := fill.facts
  cases full : fill.plan.makerFullyFilled with
  | true =>
      have covered : fill.order.remainingQuantity ≤ amount :=
        of_decide_eq_true (facts.full.symm.trans full)
      rw [Fill.written, full, if_pos rfl]
      exact .fills rfl rfl rfl (standingOf_opened fill.live) asked (if_pos covered).symm other
        fun _ => rfl
  | false =>
      have partly : ¬fill.order.remainingQuantity ≤ amount :=
        of_decide_eq_false (facts.full.symm.trans full)
      rw [Fill.written, full, if_neg Bool.false_ne_true, Fill.reduced, facts.base]
      exact .fills rfl rfl rfl (standingOf_opened fill.live) asked (left_of_fill fill.live partly)
        other fun covered => absurd covered partly

theorem PredictionFill.turned {prediction : Prediction} {now : Int} {outcome : PredictionOutcome}
    (fill : PredictionFill prediction now config taker key makerKey outcome takerSide limit amount)
    (holds : PredictionInvariant prediction) (asked : asks sent = some amount)
    (from_ : signer sent = some taker) :
    predictionReading.Turned sent fill.order
      (fill.reduced (decide (fill.order.remainingQuantity ≤ amount))) := by
  have other : (signer sent).map Wallet.key ≠ some fill.order.owner := by
    rw [from_]
    exact fun same => fill.own (Option.some.inj same).symm
  by_cases covered : fill.order.remainingQuantity ≤ amount
  · rw [decide_eq_true covered]
    exact .fills rfl rfl rfl (standingOf_opened fill.live) asked (if_pos covered).symm other
      fun _ => Nat.sub_eq_zero_of_le (fill.debit_full holds covered).ge
  · rw [decide_eq_false covered]
    exact .fills rfl rfl rfl (standingOf_opened fill.live) asked (left_of_fill fill.live covered)
      other fun full => absurd full covered

theorem SharedFill.turned {state : State} {outcome : SharedOutcome}
    (fill : SharedFill state config taker key makerKey outcome takerSide limit amount)
    (asked : asks sent = some amount) (from_ : signer sent = some taker) :
    sharedReading.Turned sent fill.order (fill.reduced fill.plan.makerFullyFilled) := by
  have other : (signer sent).map Wallet.key ≠ some fill.order.owner := by
    rw [from_]
    exact fun same => fill.own (Option.some.inj same).symm
  have facts := fill.facts
  cases full : fill.plan.makerFullyFilled with
  | true =>
      have covered : fill.order.remainingQuantity ≤ amount :=
        of_decide_eq_true (facts.full.symm.trans full)
      exact .fills rfl rfl rfl (standingOf_opened fill.live) asked (if_pos covered).symm other
        fun _ => Nat.sub_eq_zero_of_le (fill.debit_full full).ge
  | false =>
      have partly : ¬fill.order.remainingQuantity ≤ amount :=
        of_decide_eq_false (facts.full.symm.trans full)
      rw [SharedFill.reduced, facts.base]
      exact .fills rfl rfl rfl (standingOf_opened fill.live) asked (left_of_fill fill.live partly)
        other fun covered => absurd covered partly

end Fills

section Steps

variable {state after : State} {sent : Instruction}

theorem execute_spotTurns (holds : Invariant state) (done : execute state sent = .ok after) :
    spotReading.Step spotShelf spotNames sent state.spot.orders after.spot.orders := by
  have effect := execute_effect holds.spot holds.prediction holds.shared done
  cases naming : spotNames sent with
  | none =>
      cases effect with
      | insertLimitOrder placed =>
          exact (placed.edit holds.spot (uint64_fits _) (uint64_fits _)).orders ▸
            .arrival rfl placed.freshOrder rfl
      | appendLimitOrder placed =>
          exact (placed.edit holds.spot (uint64_fits _) (uint64_fits _)).orders ▸
            .arrival rfl placed.freshOrder rfl
      | cancelLimitOrder leaving => cases naming
      | matchLimitOrder configured fill => cases naming
      | _ => exact .still naming
  | some key =>
      cases sent with
      | cancelLimitOrder accounts orderId =>
          obtain ⟨_, changed, rfl⟩ := onSpot_ok done
          obtain ⟨leaving, rfl⟩ := handleCancelLimitOrder_ok holds.spot changed
          refine (leaving.edit holds.spot).orders ▸ .turn rfl leaving.orderStored ?_
          exact .cancels rfl rfl rfl (standingOf_opened leaving.live) rfl rfl
            (congrArg some leaving.own.symm) rfl
      | matchLimitOrder accounts takerSide limit quantity =>
          obtain ⟨config, -, fill, rfl⟩ := execute_matchLimitOrder holds.spot done
          obtain ⟨_, _, _, _, _, edit⟩ := fill.edit holds.spot
          exact edit.orders ▸ .turn rfl fill.orderStored (fill.turned rfl rfl)
      | _ => cases naming

theorem execute_predictionTurns (holds : Invariant state) (done : execute state sent = .ok after) :
    predictionReading.Step predictionShelf predictionNames sent state.prediction.orders
      after.prediction.orders := by
  have effect := execute_effect holds.spot holds.prediction holds.shared done
  cases naming : predictionNames sent with
  | none =>
      cases effect with
      | insertPredictionOrder placed =>
          exact (placed.edit holds.prediction).orders ▸ .arrival rfl placed.freshOrder rfl
      | placePredictionOrder placed =>
          exact (placed.edit holds.prediction).orders ▸ .arrival rfl placed.freshOrder rfl
      | appendPredictionOrder placed =>
          exact (placed.edit holds.prediction).orders ▸ .arrival rfl placed.freshOrder rfl
      | cancelPredictionOrder leaving => cases naming
      | matchPredictionOrder configured fill => cases naming
      | restate silent named restates done =>
          obtain ⟨_, _, _, _, rfl⟩ := restates
          exact .still naming
      | _ => exact .still naming
  | some key =>
      cases sent with
      | cancelPredictionOrder accounts orderId =>
          obtain ⟨_, changed, rfl⟩ := onPrediction_ok done
          obtain ⟨leaving, rfl⟩ := handleCancelPredictionOrder_ok holds.prediction changed
          refine (leaving.edit holds.prediction).orders ▸ .turn rfl leaving.orderStored ?_
          exact .cancels rfl rfl rfl (standingOf_opened leaving.live) rfl rfl
            (congrArg some leaving.own.symm) rfl
      | matchPredictionOrder accounts outcome takerSide limit quantity =>
          obtain ⟨config, -, fill, rfl⟩ := execute_matchPredictionOrder holds.prediction done
          obtain ⟨_, _, _, _, _, _, edit⟩ := fill.edit holds.prediction
          exact edit.orders ▸ .turn rfl fill.orderStored (fill.turned holds.prediction rfl rfl)
      | _ => cases naming

theorem execute_sharedTurns (holds : Invariant state) (done : execute state sent = .ok after) :
    sharedReading.Step sharedShelf sharedNames sent state.shared.orders after.shared.orders := by
  have effect := execute_effect holds.spot holds.prediction holds.shared done
  cases naming : sharedNames sent with
  | none =>
      cases effect with
      | insertSharedOrder placed =>
          exact (placed.edit holds.shared (uint64_fits _) (uint64_fits _)).orders ▸
            .arrival rfl placed.freshOrder rfl
      | appendSharedOrder placed =>
          exact (placed.edit holds.shared (uint64_fits _) (uint64_fits _)).orders ▸
            .arrival rfl placed.freshOrder rfl
      | cancelSharedOrder leaving => cases naming
      | matchSharedOrder configured fill => cases naming
      | _ => exact .still naming
  | some key =>
      cases sent with
      | cancelSharedOrder accounts =>
          obtain ⟨leaving, rfl⟩ := handleCancelSharedOrder_ok holds.shared done
          refine (leaving.edit holds.shared).orders ▸ .turn rfl leaving.orderStored ?_
          exact .cancels rfl rfl rfl (standingOf_opened leaving.live) rfl rfl
            (congrArg some leaving.own.symm) rfl
      | matchSharedOrder accounts outcome takerSide limit quantity =>
          obtain ⟨config, -, fill, rfl⟩ := handleMatchSharedOrder_ok holds.shared done
          have turned : sharedReading.Turned (.matchSharedOrder accounts outcome takerSide limit
              quantity) fill.order (fill.reduced fill.plan.makerFullyFilled) := fill.turned rfl rfl
          cases full : fill.plan.makerFullyFilled with
          | true =>
              rw [full] at turned
              exact (fill.edit_full holds.shared full).orders ▸ .turn rfl fill.orderStored turned
          | false =>
              rw [full] at turned
              exact (fill.edit_partial holds.shared full).orders ▸ .turn rfl fill.orderStored turned
      | _ => cases naming

end Steps

/-! ## Along a run -/

section Runs

variable {O A : Type} (reading : Reading O A) (names : Instruction → Option Pubkey)
variable (orders : State → Store Pubkey O)

/-- The order is what the instructions made of it, each of which found it resting, the fills by
others and the cancellation by its owner. -/
structure Reading.Lived (sent : List Instruction) (order : O) : Prop where
  standing : reading.standing order =
    sent.foldl Standing.next (.resting (reading.quantity order))
  orderly : ∀ earlier instruction later, sent = earlier ++ instruction :: later →
    (∃ remaining, earlier.foldl Standing.next (.resting (reading.quantity order)) =
      .resting remaining) ∧
    (asks instruction = none ↔ (signer instruction).map Wallet.key = some (reading.owner order))
  released : (∀ remaining, reading.standing order ≠ .resting remaining) → reading.locked order = 0

structure Traced (genesis : Genesis) (events : List Event) (key : Pubkey) : Prop where
  absent : (orders (genesis.after events).state).get key = none →
    named names key genesis.world events = []
  present : ∀ order, (orders (genesis.after events).state).get key = some order →
    reading.Lived (named names key genesis.world events) order

/-- What the handlers of a family do, and that nothing else touches its orders. -/
structure Family : Prop where
  empty : ∀ genesis : Genesis, orders genesis.state = .empty
  turns : ∀ {state after sent}, Invariant state → execute state sent = .ok after →
    ∀ key, reading.Turn names sent key ((orders state).get key) ((orders after).get key)
  around : ∀ {state after happened}, occur state happened = .ok after → orders after = orders state

variable {reading names orders}

theorem Reading.Lived.view {sent : List Instruction} {order version : O}
    (lived : reading.Lived sent order) (same : reading.view version = reading.view order) :
    reading.Lived sent version := by
  simp only [Reading.view, Prod.mk.injEq] at same
  obtain ⟨-, owner, quantity, standing, locked⟩ := same
  refine ⟨?_, ?_, ?_⟩
  · rw [standing, quantity]
    exact lived.standing
  · rw [owner, quantity]
    exact lived.orderly
  · rw [standing, locked]
    exact lived.released

theorem Reading.Lived.snoc {sent : List Instruction} {instruction : Instruction} {order version : O}
    (lived : reading.Lived sent order) (turned : reading.Turned instruction order version) :
    reading.Lived (sent ++ [instruction]) version := by
  refine ⟨?_, fun earlier other later same => ?_, turned.released⟩
  · rw [List.foldl_append, turned.quantity, ← lived.standing]
    exact turned.next
  · rw [turned.quantity, turned.owner]
    obtain rfl | ⟨rest, last, rfl⟩ := later.eq_nil_or_concat
    · obtain ⟨rfl, is⟩ := List.append_inj' same rfl
      cases is
      exact ⟨lived.standing ▸ turned.rested, turned.consent⟩
    · have whole : sent ++ [instruction] = (earlier ++ other :: rest) ++ [last] := by
        rw [same, List.append_assoc, List.cons_append, List.concat_eq_append]
      exact lived.orderly earlier other rest (List.append_inj' whole rfl).1

theorem Traced.snoc (family : Family reading names orders) {genesis : Genesis}
    {events : List Event} {event : Event} {key : Pubkey}
    (traced : Traced reading names orders genesis events key) :
    Traced reading names orders genesis (events ++ [event]) key := by
  have grows : named names key genesis.world (events ++ [event]) =
      named names key genesis.world events ++ naming names key (genesis.after events) event := by
    rw [named_append, named, named, List.append_nil]
    rfl
  have holds := run_invariant genesis events
  have still : naming names key (genesis.after events) event = [] →
      ((orders (genesis.after (events ++ [event])).state).get key).map reading.view =
        ((orders (genesis.after events).state).get key).map reading.view →
      Traced reading names orders genesis (events ++ [event]) key := by
    intro silent same
    rw [silent, List.append_nil] at grows
    refine ⟨fun absent => ?_, fun version found => ?_⟩
    · rw [grows]
      rw [absent, Option.map_none, eq_comm, Option.map_eq_none_iff] at same
      exact traced.absent same
    · rw [found, Option.map_some, eq_comm, Option.map_eq_some_iff] at same
      obtain ⟨order, stored, view⟩ := same
      rw [grows]
      exact (traced.present order stored).view view.symm
  cases applied : event.apply (genesis.after events).state with
  | error failure =>
      refine still ?_ (by rw [after_snoc, World.step, applied])
      cases event with
      | outside happened => rfl
      | instruction sent =>
          have refused : execute (genesis.after events).state sent = .error failure := applied
          rw [naming, refused]
          exact if_neg fun both => Bool.false_ne_true both.2
  | ok after =>
      have reached : (genesis.after (events ++ [event])).state = after := by
        rw [after_snoc, World.step, applied]
      cases event with
      | outside happened =>
          apply still rfl
          rw [reached, family.around applied]
      | instruction sent =>
          have accepted : (execute (genesis.after events).state sent).isOk := by
            rw [show execute (genesis.after events).state sent = .ok after from applied]
            rfl
          have turn := family.turns holds applied key
          rw [naming] at grows still
          cases turn with
          | aside other same =>
              exact still (if_neg fun both => other both.1) (reached ▸ same)
          | @arrives order silent fresh filed whole =>
              rw [if_neg fun both => (by cases silent.symm.trans both.1), traced.absent fresh] at grows
              refine ⟨fun _ => grows, fun version found => ?_⟩
              rw [reached, filed, Option.some.injEq] at found
              subst found
              rw [grows]
              refine ⟨whole, fun earlier instruction later same => ?_, fun ended => ?_⟩
              · simp at same
              · exact absurd whole (ended _)
          | @turns order version named stored found turned =>
              rw [if_pos ⟨named, accepted⟩] at grows
              refine ⟨fun absent => ?_, fun other present => ?_⟩
              · rw [reached, found] at absent
                cases absent
              · rw [reached, found, Option.some.injEq] at present
                subst present
                rw [grows]
                exact (traced.present order stored).snoc turned

theorem run_traced (family : Family reading names orders) (genesis : Genesis) (events : List Event)
    (key : Pubkey) : Traced reading names orders genesis events key := by
  induction events using List.reverseRecOn with
  | nil =>
      refine ⟨fun _ => rfl, fun order stored => ?_⟩
      rw [show (genesis.after []).state = genesis.state from rfl, family.empty] at stored
      cases stored
  | append_singleton events event traced => exact traced.snoc family

/-- What no instruction changes of an order. -/
structure Reading.Kept (reading : Reading O A) (order version : O) : Prop where
  terms : reading.terms version = reading.terms order
  owner : reading.owner version = reading.owner order
  quantity : reading.quantity version = reading.quantity order

theorem run_kept (family : Family reading names orders) (genesis : Genesis) {events : List Event}
    {key : Pubkey} {order : O}
    (stored : (orders (genesis.after events).state).get key = some order) (more : List Event) :
    ∃ version, (orders (genesis.after (events ++ more)).state).get key = some version ∧
      reading.Kept order version := by
  induction more using List.reverseRecOn with
  | nil => exact ⟨order, by rwa [List.append_nil], ⟨rfl, rfl, rfl⟩⟩
  | append_singleton more event ih =>
      obtain ⟨version, present, kept⟩ := ih
      rw [← List.append_assoc, after_snoc]
      have holds := run_invariant genesis (events ++ more)
      obtain refused | ⟨after, applied, reached, -⟩ :=
        step_cases (genesis.after (events ++ more)) event
      · rw [refused]
        exact ⟨version, present, kept⟩
      rw [reached]
      cases event with
      | outside happened =>
          rw [family.around applied]
          exact ⟨version, present, kept⟩
      | instruction sent =>
          obtain ⟨-, same⟩ | ⟨-, fresh, -, -⟩ | ⟨-, old, found, turned⟩ :=
            family.turns holds applied key
          · rw [present, Option.map_some, Option.map_eq_some_iff] at same
            obtain ⟨later, found, view⟩ := same
            simp only [Reading.view, Prod.mk.injEq] at view
            exact ⟨later, found, view.1.trans kept.terms, view.2.1.trans kept.owner,
              view.2.2.1.trans kept.quantity⟩
          · cases present.symm.trans fresh
          · cases present.symm.trans old
            exact ⟨_, found, turned.terms.trans kept.terms, turned.owner.trans kept.owner,
              turned.quantity.trans kept.quantity⟩

/-- Every order of every run lives as the accepted instructions that name it say, and a resting one
is short of its quantity by exactly what was asked of it. -/
def LivesOut (reading : Reading O A) (names : Instruction → Option Pubkey)
    (orders : State → Store Pubkey O) (genesis : Genesis) (events : List Event) : Prop :=
  ∀ key order, (orders (genesis.after events).state).get key = some order →
    reading.Lived (named names key genesis.world events) order ∧
    (∀ remaining, reading.standing order = .resting remaining →
      (∀ sent ∈ named names key genesis.world events, asks sent ≠ none) ∧
      ((named names key genesis.world events).map fun sent => (asks sent).getD 0).sum + remaining =
        reading.quantity order) ∧
    ∀ more, ∃ version, (orders (genesis.after (events ++ more)).state).get key = some version ∧
      reading.Kept order version

theorem run_lives (family : Family reading names orders) (genesis : Genesis) (events : List Event) :
    LivesOut reading names orders genesis events := by
  intro key order stored
  have lived := (run_traced family genesis events key).present order stored
  refine ⟨lived, fun remaining rests => ?_, run_kept family genesis stored⟩
  exact resting_accounts (lived.standing.symm.trans rests)

end Runs

theorem spotFamily : Family spotReading spotNames fun state => state.spot.orders where
  empty _ := rfl
  turns holds done := (execute_spotTurns holds done).turn_at spotReading_blind
  around done := congrArg Spot.orders (occur_around done).spot

theorem predictionFamily :
    Family predictionReading predictionNames fun state => state.prediction.orders where
  empty _ := rfl
  turns holds done := (execute_predictionTurns holds done).turn_at predictionReading_blind
  around done := congrArg Prediction.orders (occur_around done).prediction

theorem sharedFamily : Family sharedReading sharedNames fun state => state.shared.orders where
  empty _ := rfl
  turns holds done := (execute_sharedTurns holds done).turn_at sharedReading_blind
  around done := congrArg Shared.orders (occur_around done).shared

theorem orders_live_out (genesis : Genesis) (events : List Event) :
    LivesOut spotReading spotNames (fun state => state.spot.orders) genesis events ∧
    LivesOut predictionReading predictionNames (fun state => state.prediction.orders) genesis
      events ∧
    LivesOut sharedReading sharedNames (fun state => state.shared.orders) genesis events :=
  ⟨run_lives spotFamily genesis events, run_lives predictionFamily genesis events,
    run_lives sharedFamily genesis events⟩

set_option maxRecDepth 4096 in
/-- Nobody has asked anything of Alice's ask. -/
theorem orders_live_out_traded : ∃ order,
    Sample.traded.spot.orders.get (.order Sample.spot 1) = some order ∧
    spotReading.standing order = .resting 10 ∧
    ((named spotNames (.order Sample.spot 1) Sample.start.world
      (Sample.funding ++ Sample.opening ++ Sample.trading)).map
        fun sent => (asks sent).getD 0).sum + 10 = spotReading.quantity order := by
  have facts : (Sample.traded.spot.orders.get (.order Sample.spot 1)).map spotReading.standing =
      some (.resting 10) := by decide +kernel
  obtain ⟨order, stored, rests⟩ := Option.map_eq_some_iff.mp facts
  have lives := (orders_live_out Sample.start
    (Sample.funding ++ Sample.opening ++ Sample.trading)).1 _ order stored
  exact ⟨order, stored, rests, (lives.2.1 10 rests).2⟩

end Tidebook.Proof
