import Tidebook.Proof.Conservation
import Tidebook.Proof.Finality
import Tidebook.Proof.Reachable

/-! # A market that is opened again

Closing a market leaves the accounts of its orders behind, and opening it again starts its counter
at the first identifier. The account of the next order is then taken, and it stays taken.
-/

namespace Tidebook.Proof
open Library Program

/-- What a step makes of the counter of a market that is there after it. -/
inductive Numbering (before after : Spot) (key : Pubkey) (market : Market) : Prop where
  | kept {old : Market} (stored : before.markets.get key = some old)
      (same : market.nextOrderId = old.nextOrderId)
  | opened (first : market.nextOrderId = 1)
  | advanced {old : Market} (stored : before.markets.get key = some old)
      (next : market.nextOrderId = old.nextOrderId + 1)
      (free : before.orders.get (.order key old.nextOrderId) = none)
      (taken : after.orders.get (.order key old.nextOrderId) ≠ none)

theorem relink_written {orders : Store Pubkey Order} {found key : Pubkey} {written order : Order}
    {previous next after before : Option Pubkey}
    (stored : (spotShelf.relink (orders.set found written) previous next after before).get key =
      some order) :
    key = found ∧ orderIdentity order = orderIdentity written ∨
      ∃ old, orders.get key = some old ∧ orderIdentity order = orderIdentity old := by
  have shown : some (orderIdentity order) =
      ((orders.set found written).get key).map orderIdentity := by
    rw [← Shelf.relink_map orderIdentity_blind, stored, Option.map_some]
  rw [Store.get_set] at shown
  split at shown
  · next home => exact .inl ⟨home, Option.some.inj shown⟩
  · obtain ⟨old, present, same⟩ := Option.map_eq_some_iff.mp shown.symm
    exact .inr ⟨old, present, same.symm⟩

section Steps

variable {state after : State} {instruction : Instruction} {key : Pubkey} {market : Market}

theorem Numbering.of_set {before spot : Spot} {found : Pubkey} {record : Market}
    (same : spot.markets = before.markets.set found record)
    (stored : spot.markets.get key = some market)
    (here : Numbering before spot found record) : Numbering before spot key market := by
  rw [same, Store.get_set] at stored
  split at stored
  · next home =>
      subst home
      rw [← Option.some.inj stored]
      exact here
  · exact .kept stored rfl

theorem Fill.result_markets {spot : Spot} {config : ProtocolConfig} {taker : Wallet}
    {makerKey : Pubkey} {takerSide : OrderSide} {limit quantity : Nat}
    (fill : Fill spot config taker key makerKey takerSide limit quantity) :
    ∃ record, fill.result.markets = spot.markets.set key record ∧
      record.nextOrderId = fill.market.nextOrderId := by
  cases full : fill.plan.makerFullyFilled with
  | true =>
      refine ⟨fill.record, ?_, fill.record_nextOrderId⟩
      simp only [Fill.result, full, if_true, Departure.markets]
      rw [fill.home]
  | false =>
      refine ⟨fill.market, ?_, rfl⟩
      simp only [Fill.result, full, Bool.false_eq_true, if_false]

theorem Effect.numbering (effect : Effect state instruction after)
    (stored : after.spot.markets.get key = some market) :
    Numbering state.spot after.spot key market := by
  cases effect with
  | initializeMarket opening => exact .of_set rfl stored (.opened rfl)
  | restatus status silent present => exact .of_set rfl stored (.kept present rfl)
  | closeMarket closing =>
      simp only [MarketClosing.result] at stored
      rw [Store.get_erase] at stored
      split at stored
      · cases stored
      · exact .kept stored rfl
  | insertLimitOrder placed =>
      apply Numbering.of_set rfl stored
      apply Numbering.advanced placed.stored
      · split
        · exact nextOrderId_setBest _ _ _
        · rfl
      · exact placed.freshOrder
      · show (state.spot.orders.set _ _).get _ ≠ none
        rw [Store.get_set_self]
        exact Option.some_ne_none _
  | @appendLimitOrder _ found _ _ _ _ placed =>
      apply Numbering.of_set rfl stored
      apply Numbering.advanced placed.stored rfl placed.freshOrder
      intro absent
      have shown : (placed.result.orders.get (.order found placed.market.nextOrderId)).map
          orderIdentity = _ := Shelf.relink_map orderIdentity_blind _
      rw [absent, Store.get_set_self] at shown
      cases shown
  | cancelLimitOrder leaving =>
      apply Numbering.of_set rfl stored
      exact .kept leaving.stored leaving.record_nextOrderId
  | matchLimitOrder configured fill =>
      obtain ⟨record, same, number⟩ := fill.result_markets
      have present := fill.stored
      rw [fill.home] at present
      apply Numbering.of_set same stored
      exact .kept present number
  | _ => exact .kept stored rfl

theorem Effect.order_origin (effect : Effect state instruction after)
    (holds : SpotInvariant state.spot) {order : Order}
    (stored : after.spot.orders.get key = some order) :
    (∃ old, state.spot.orders.get key = some old ∧ orderIdentity order = orderIdentity old) ∨
      ∃ record, state.spot.markets.get order.market = some record ∧
        order.orderId = record.nextOrderId ∧ key = .order order.market record.nextOrderId := by
  cases effect with
  | insertLimitOrder placed =>
      rw [(placed.edit holds (uint64_fits _) (uint64_fits _)).orders] at stored
      obtain ⟨rfl, same⟩ | known := relink_written stored
      · simp only [orderIdentity, newOrder, Prod.mk.injEq] at same
        obtain ⟨home, number, -⟩ := same
        rw [home]
        exact .inr ⟨placed.market, placed.stored, number, rfl⟩
      · exact .inl known
  | appendLimitOrder placed =>
      rw [(placed.edit holds (uint64_fits _) (uint64_fits _)).orders] at stored
      obtain ⟨rfl, same⟩ | known := relink_written stored
      · simp only [orderIdentity, newOrder, Prod.mk.injEq] at same
        obtain ⟨home, number, -⟩ := same
        rw [home]
        exact .inr ⟨placed.market, placed.stored, number, rfl⟩
      · exact .inl known
  | cancelLimitOrder leaving =>
      rw [(leaving.edit holds).orders] at stored
      obtain ⟨rfl, same⟩ | known := relink_written stored
      · exact .inl ⟨_, leaving.orderStored, same⟩
      · exact .inl known
  | matchLimitOrder configured fill =>
      obtain ⟨_, _, _, _, _, edit⟩ := fill.edit holds
      rw [edit.orders] at stored
      obtain ⟨rfl, same⟩ | known := relink_written stored
      · refine .inl ⟨_, fill.orderStored, same.trans ?_⟩
        unfold Fill.written
        split <;> rfl
      · exact .inl known
  | _ => exact .inl ⟨order, stored, rfl⟩

theorem Effect.order_kept (effect : Effect state instruction after)
    (holds : SpotInvariant state.spot) (present : state.spot.orders.get key ≠ none) :
    after.spot.orders.get key ≠ none := by
  obtain ⟨order, stored⟩ := Option.ne_none_iff_exists'.mp present
  obtain ⟨version, found, -⟩ := (effect.spotOrders holds).kept orderIdentity_blind stored
  rw [found]
  exact Option.some_ne_none version

end Steps

/-! ## Identifiers are given out in order -/

structure Sequenced (spot : Spot) : Prop where
  counted : ∀ key market, spot.markets.get key = some market → 1 ≤ market.nextOrderId ∧
    (1 < market.nextOrderId → spot.orders.get (.order key 1) ≠ none)
  begun : ∀ key order, spot.orders.get key = some order → 1 ≤ order.orderId ∧
    spot.orders.get (.order order.market 1) ≠ none

/-- The first identifier of a market is taken and its counter, if any, has not passed it. -/
structure Spent (spot : Spot) (key : Pubkey) : Prop where
  first : spot.orders.get (.order key 1) ≠ none
  counted : ∀ market, spot.markets.get key = some market → market.nextOrderId = 1

section Steps

variable {state after : State} {instruction : Instruction} {key : Pubkey}

theorem Effect.sequenced (effect : Effect state instruction after)
    (holds : SpotInvariant state.spot) (sequenced : Sequenced state.spot) :
    Sequenced after.spot where
  counted key market stored := by
    cases effect.numbering stored with
    | kept before same =>
        obtain ⟨positive, taken⟩ := sequenced.counted key _ before
        rw [same]
        exact ⟨positive, fun more => effect.order_kept holds (taken more)⟩
    | opened first =>
        rw [first]
        exact ⟨le_rfl, fun more => absurd more (Nat.lt_irrefl 1)⟩
    | @advanced old before next free taken =>
        obtain ⟨positive, earlier⟩ := sequenced.counted key old before
        refine ⟨by omega, fun _ => ?_⟩
        rcases Nat.eq_or_lt_of_le positive with first | more
        · rw [first]
          exact taken
        · exact effect.order_kept holds (earlier more)
  begun key order stored := by
    obtain ⟨old, present, same⟩ | ⟨record, home, number, rfl⟩ := effect.order_origin holds stored
    · obtain ⟨positive, taken⟩ := sequenced.begun key old present
      simp only [orderIdentity, Prod.mk.injEq] at same
      obtain ⟨home, number, -⟩ := same
      rw [home, number]
      exact ⟨positive, effect.order_kept holds taken⟩
    · obtain ⟨positive, taken⟩ := sequenced.counted _ record home
      refine ⟨number ▸ positive, ?_⟩
      rcases Nat.eq_or_lt_of_le positive with first | more
      · rw [first, stored]
        exact Option.some_ne_none order
      · exact effect.order_kept holds (taken more)

theorem Effect.spent (effect : Effect state instruction after)
    (holds : SpotInvariant state.spot) (spent : Spent state.spot key) : Spent after.spot key where
  first := effect.order_kept holds spent.first
  counted market stored := by
    cases effect.numbering stored with
    | kept before same => exact same.trans (spent.counted _ before)
    | opened first => exact first
    | advanced before next free taken =>
        rw [spent.counted _ before] at free
        exact absurd free spent.first

end Steps

theorem run_sequenced (genesis : Genesis) (events : List Event) :
    Sequenced (genesis.after events).state.spot := by
  have initial : Sequenced genesis.world.state.spot :=
    ⟨fun _ _ found => (nomatch found), fun _ _ found => (nomatch found)⟩
  refine (reach_of_steps (P := fun world => Sequenced world.state.spot) ?_ (.genesis genesis)
    initial).2
  intro world event after _ holds sequenced applied reached _
  rw [reached]
  cases event with
  | instruction sent =>
      exact (execute_effect holds.spot holds.prediction holds.shared applied).sequenced holds.spot
        sequenced
  | outside happened =>
      rw [(occur_around applied).spot]
      exact sequenced

theorem run_spent {world : World} (holds : Invariant world.state) {key : Pubkey}
    (spent : Spent world.state.spot key) (events : List Event) :
    Spent (world.run events).state.spot key := by
  refine (reach_of_steps (P := fun world => Spent world.state.spot key) ?_ holds spent).2
  intro world event after _ holds spent applied reached _
  rw [reached]
  cases event with
  | instruction sent =>
      exact (execute_effect holds.spot holds.prediction holds.shared applied).spent holds.spot spent
  | outside happened =>
      rw [(occur_around applied).spot]
      exact spent

/-- A market that was closed after it had taken an order takes no other one, opened again or not. -/
theorem reopened_market_takes_no_order (genesis : Genesis) (events later : List Event)
    {middle state : State} (closing : (genesis.after events).state = middle)
    (reached : (genesis.after (events ++ later)).state = state) {orderKey : Pubkey} {order : Order}
    (placed : middle.spot.orders.get orderKey = some order)
    (closed : middle.spot.markets.get order.market = none) :
    (∀ trader better worse side price quantity after, execute state
      (.insertLimitOrder trader order.market better worse side price quantity) ≠ .ok after) ∧
    (∀ trader tail side price quantity after, execute state
      (.appendLimitOrder trader order.market tail side price quantity) ≠ .ok after) ∧
    (∀ key other, state.spot.orders.get key = some other → other.market = order.market →
      other.status ≠ .opened) ∧
    ∀ market, state.spot.markets.get order.market = some market →
      market.openOrderCount = 0 ∧ ∀ side, market.best side = none := by
  subst closing
  have run : (genesis.after events).run later = genesis.after (events ++ later) := by
    simp [Genesis.after, World.run, List.foldl_append]
  have spent : Spent state.spot order.market := by
    rw [← reached, ← run]
    apply run_spent (run_invariant genesis events)
    refine ⟨((run_sequenced genesis events).begun orderKey order placed).2, fun market stored => ?_⟩
    cases closed.symm.trans stored
  have holds : Invariant state := reached ▸ run_invariant genesis (events ++ later)
  have sequenced : Sequenced state.spot := reached ▸ run_sequenced genesis (events ++ later)
  have none_open : ∀ key other, state.spot.orders.get key = some other →
      other.market = order.market → other.status ≠ .opened := by
    intro key other stored home live
    obtain ⟨market, marketStored, rest⟩ := holds.spot.resting key other stored live
    have number := spent.counted market (home ▸ marketStored)
    have earlier := rest.earlier
    have positive := (sequenced.begun key other stored).1
    omega
  refine ⟨?_, ?_, none_open, fun market stored => ⟨?_, fun side => ?_⟩⟩
  · intro trader better worse side price quantity after done
    obtain ⟨spot, inserted, -⟩ := onSpot_ok done
    obtain ⟨insertion, -⟩ := handleInsertLimitOrder_ok inserted
    have fresh := insertion.freshOrder
    rw [spent.counted _ insertion.stored] at fresh
    exact spent.first fresh
  · intro trader tail side price quantity after done
    obtain ⟨spot, appended, -⟩ := onSpot_ok done
    obtain ⟨appending, -⟩ := handleAppendLimitOrder_ok appended
    have fresh := appending.freshOrder
    rw [spent.counted _ appending.stored] at fresh
    exact spent.first fresh
  · rw [holds.spot.counts _ _ stored, Store.total_eq_zero]
    intro key other present
    rw [openIn, if_neg]
    rintro ⟨home, live⟩
    exact none_open key other present home live
  · rw [← congrFun (spotHeads_stored stored) side]
    apply holds.spot.books.no_heads
    intro key other present home
    exact spotShelf_closed (none_open key other present home)

/-! Alice rests an order and cancels it, and the emptied market is closed and opened again. -/

def Sample.emptied : List Event := List.map .instruction
  [.initializeProtocol admin, .initializeMarket admin base quote 1 1,
    .initializeTraderBalance alice spot, .deposit alice spot base (.key 21) 100,
    .insertLimitOrder alice spot none none .ask 20 10,
    .cancelLimitOrder ⟨alice, spot, none, none, none, none, some alice.key⟩ 1,
    .withdraw alice spot base (.key 21) 100, .pauseMarket admin spot,
    .closeMarket admin spot true]

def Sample.reopened : List Event :=
  [.instruction (.initializeMarket admin base quote 1 1)]

set_option maxRecDepth 4096 in
theorem reopened_market_takes_no_order_sample :
    (execute (Sample.start.after
        ((Sample.funding ++ Sample.emptied) ++ Sample.reopened)).state
      (.insertLimitOrder Sample.bob Sample.spot none none .bid 10 10)).isOk = false := by
  have facts : ((Sample.start.after (Sample.funding ++ Sample.emptied)).state.spot.orders.get
        (.order Sample.spot 1)).map Order.market = some Sample.spot ∧
      ((Sample.start.after (Sample.funding ++ Sample.emptied)).state.spot.markets.get
        Sample.spot).isNone := by
    decide +kernel
  obtain ⟨order, placed, home⟩ := Option.map_eq_some_iff.mp facts.1
  have refused := (reopened_market_takes_no_order Sample.start (Sample.funding ++ Sample.emptied)
    Sample.reopened rfl rfl placed (by rw [home]; exact Option.isNone_iff_eq_none.mp facts.2)).1
  rw [home] at refused
  cases result : execute (Sample.start.after
      ((Sample.funding ++ Sample.emptied) ++ Sample.reopened)).state
    (.insertLimitOrder Sample.bob Sample.spot none none .bid 10 10) with
  | error failure => rfl
  | ok after => exact absurd result (refused _ _ _ _ _ _ after)

end Tidebook.Proof
