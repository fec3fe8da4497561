import Tidebook.Proof.Conservation
import Tidebook.Proof.Lifecycle
import Tidebook.Proof.Priority
import Tidebook.Proof.SharedExit

/-! # Rests that no fill can take

A fill is worth at least one atom of quote. Where the rest of an order is worth less, nobody but its
owner can take it off the book.
-/

namespace Tidebook.Proof
open Library Program

/-! ## Orders that wait -/

section Waits

variable {O A : Type} (reading : Reading O A) (names : Instruction → Option Pubkey)
variable (orders : State → Store Pubkey O) (may : Instruction → Prop)

/-- Nothing accepted has named the order, or its owner has canceled it as it was. -/
def Reading.Waits (world : World) (events : List Event) (key : Pubkey) (order : O) : Prop :=
  (named names key world events = [] ∧ ∃ version,
    (orders (world.run events).state).get key = some version ∧
      reading.view version = reading.view order) ∨
  ∃ last version, named names key world events = [last] ∧ may last ∧ asks last = none ∧
    (signer last).map Wallet.key = some (reading.owner order) ∧
    (orders (world.run events).state).get key = some version ∧ reading.standing version = .canceled

variable {reading names orders may}

theorem run_snoc (world : World) (events : List Event) (event : Event) :
    world.run (events ++ [event]) = (world.run events).step event := by
  simp only [World.run, List.foldl_append, List.foldl_cons, List.foldl_nil]

theorem named_refused {key : Pubkey} {world : World} {event : Event}
    (refused : ∀ after : State, event.apply world.state ≠ .ok after) : naming names key world event = [] := by
  cases event with
  | outside happened => rfl
  | instruction sent =>
      apply if_neg
      rintro ⟨-, accepted⟩
      cases done : execute world.state sent with
      | error failure => rw [done] at accepted; cases accepted
      | ok after => exact refused after done

theorem Reading.Waits.still {world : World} {events : List Event} {key : Pubkey} {order : O}
    (waits : reading.Waits names orders may world events key order) (event : Event)
    (silent : naming names key (world.run events) event = [])
    (same : ((orders (world.run (events ++ [event])).state).get key).map reading.view =
      ((orders (world.run events).state).get key).map reading.view) :
    reading.Waits names orders may world (events ++ [event]) key order := by
  unfold Reading.Waits at waits ⊢
  rw [named_append, named, named, List.append_nil, silent, List.append_nil]
  obtain ⟨none, version, present, view⟩ | ⟨last, version, sole, allowed, ends, own, present, ended⟩ :=
    waits
  · rw [present, Option.map_some, Option.map_eq_some_iff] at same
    obtain ⟨later, found, alike⟩ := same
    exact .inl ⟨none, later, found, alike.trans view⟩
  · rw [present, Option.map_some, Option.map_eq_some_iff] at same
    obtain ⟨later, found, alike⟩ := same
    exact .inr ⟨last, later, sole, allowed, ends, own, found,
      (congrArg (fun view => view.2.2.2.1) alike).trans ended⟩

theorem Reading.Waits.turned {world : World} {events : List Event} {sent : Instruction}
    {key : Pubkey} {order version later : O}
    (waits : reading.Waits names orders may world events key order)
    (naming : naming names key (world.run events) (.instruction sent) = [sent])
    (present : (orders (world.run events).state).get key = some version)
    (found : (orders (world.run (events ++ [.instruction sent])).state).get key = some later)
    (turned : reading.Turned sent version later)
    (only : named names key world events = [] →
      reading.view version = reading.view order → asks sent = none ∧ may sent) :
    reading.Waits names orders may world (events ++ [.instruction sent]) key order ∧
      named names key world (events ++ [.instruction sent]) ≠ [] := by
  unfold Reading.Waits
  rw [named_append, named, named, List.append_nil, naming]
  refine ⟨?_, List.append_ne_nil_of_right_ne_nil _ (List.cons_ne_nil _ _)⟩
  obtain ⟨left, rests⟩ := turned.rested
  obtain ⟨silent, old, stored, same⟩ | ⟨last, old, -, -, -, -, stored, ended⟩ := waits
  · cases stored.symm.trans present
    obtain ⟨ends, allowed⟩ := only silent same
    have own := turned.consent.mp ends
    have ended := turned.next
    rw [rests] at ended
    simp only [Standing.next, ends] at ended
    rw [show reading.owner version = reading.owner order from
      congrArg (fun view => view.2.1) same] at own
    rw [silent]
    exact .inr ⟨sent, later, rfl, allowed, ends, own, found, ended⟩
  · cases stored.symm.trans present
    cases ended.symm.trans rests

theorem run_waits (family : Family reading names orders) (may : Instruction → Prop)
    (Holds : State → Prop) {world : World}
    (holds : Invariant world.state) {key : Pubkey} {order : O}
    (stored : (orders world.state).get key = some order) (begins : Holds world.state)
    (only : ∀ {state sent after version}, Invariant state → Holds state →
      (orders state).get key = some version → reading.view version = reading.view order →
      names sent = some key → execute state sent = .ok after → asks sent = none ∧ may sent)
    (keeps : ∀ {state after : State} {event : Event} {version}, Invariant state → Holds state →
      Invariant after → (orders after).get key = some version →
      reading.view version = reading.view order → event.apply state = .ok after → Holds after)
    (events : List Event) :
    reading.Waits names orders may world events key order ∧
      (named names key world events = [] → Holds (world.run events).state) := by
  induction events using List.reverseRecOn with
  | nil => exact ⟨.inl ⟨rfl, order, stored, rfl⟩, fun _ => begins⟩
  | append_singleton events event ih =>
      obtain ⟨waits, holding⟩ := ih
      have invariant : Invariant (world.run events).state :=
        (reach_of_steps (P := fun _ => True) (fun _ _ _ _ _ _ _ _ _ => trivial) holds trivial).1
      have earlier : named names key world (events ++ [event]) = [] →
          named names key world events = [] := by
        rw [named_append]
        exact fun none => (List.append_eq_nil_iff.mp none).1
      cases applied : event.apply (world.run events).state with
      | error failure =>
          have reached : world.run (events ++ [event]) = world.run events := by
            rw [run_snoc, World.step, applied]
          refine ⟨waits.still event (named_refused fun after done => ?_) (by rw [reached]), fun none => ?_⟩
          · cases applied.symm.trans done
          · rw [reached]
            exact holding (earlier none)
      | ok after =>
          have reached : (world.run (events ++ [event])).state = after := by
            rw [run_snoc, World.step, applied]
          have sound := apply_preserves invariant applied
          -- What holds goes on while the order waits.
          have goes_on : ∀ waits' : reading.Waits names orders may world (events ++ [event]) key order,
              named names key world (events ++ [event]) = [] →
                Holds (world.run (events ++ [event])).state := by
            intro waits' none
            obtain ⟨-, version, present, same⟩ | ⟨last, _, sole, -⟩ := waits'
            · rw [reached] at present ⊢
              exact keeps invariant (holding (earlier none)) sound present same applied
            · cases none.symm.trans sole
          cases event with
          | outside happened =>
              have still := waits.still (.outside happened) rfl
                (by rw [reached, family.around applied])
              exact ⟨still, goes_on still⟩
          | instruction sent =>
              have accepted : (execute (world.run events).state sent).isOk := by
                rw [show execute (world.run events).state sent = .ok after from applied]
                rfl
              have turn := family.turns invariant applied key
              rw [← reached] at turn
              cases turn with
              | aside other view =>
                  have still := waits.still (.instruction sent)
                    (if_neg fun both => other both.1) view
                  exact ⟨still, goes_on still⟩
              | arrives silent fresh filed whole =>
                  obtain ⟨-, version, present, -⟩ | ⟨_, version, -, -, -, -, present, -⟩ := waits
                  · cases fresh.symm.trans present
                  · cases fresh.symm.trans present
              | turns home present found turned =>
                  obtain ⟨next, more⟩ := waits.turned (if_pos ⟨home, accepted⟩) present found turned
                    fun silent same => only invariant (holding silent) present same home applied
                  exact ⟨next, fun none => absurd none more⟩

end Waits

/-! ## Terms -/

section Terms

variable {state after : State} {instruction : Instruction} {key : Pubkey}

theorem Effect.spot_decimals (effect : Effect state instruction after)
    (holds : SpotInvariant state.spot) {market later : Market}
    (stored : state.spot.markets.get key = some market)
    (stays : after.spot.markets.get key = some later) :
    later.baseDecimals = market.baseDecimals := by
  have edited : ∀ {spot orderKey record written previous next ahead behind} {found : Pubkey}
      {old : Market}, after.spot = spot →
      SpotEdit state.spot spot found orderKey old record written previous next ahead behind →
        later.baseDecimals = market.baseDecimals := by
    intro spot orderKey record written previous next ahead behind found old reached edit
    rw [reached, edit.markets, Store.get_set] at stays
    split at stays
    · next home =>
        cases stays
        rw [home, edit.stored] at stored
        cases stored
        exact edit.terms.decimals
    · cases stored.symm.trans stays
      rfl
  cases effect with
  | initializeMarket opening =>
      simp only [MarketOpening.result] at stays
      rw [Store.get_set] at stays
      split at stays
      · next home =>
          rw [home, opening.absent] at stored
          cases stored
      · cases stored.symm.trans stays
        rfl
  | restatus status silent present =>
      rw [Store.get_set] at stays
      split at stays
      · next home =>
          cases stays
          rw [home, present] at stored
          cases stored
          rfl
      · cases stored.symm.trans stays
        rfl
  | closeMarket closing =>
      simp only [MarketClosing.result] at stays
      rw [Store.get_erase] at stays
      split at stays
      · cases stays
      · cases stored.symm.trans stays
        rfl
  | insertLimitOrder placed => exact edited rfl (placed.edit holds (uint64_fits _) (uint64_fits _))
  | appendLimitOrder placed => exact edited rfl (placed.edit holds (uint64_fits _) (uint64_fits _))
  | cancelLimitOrder leaving => exact edited rfl (leaving.edit holds)
  | matchLimitOrder configured fill =>
      obtain ⟨_, _, _, _, _, edit⟩ := fill.edit holds
      exact edited rfl edit
  | _ =>
      cases stored.symm.trans stays
      rfl

end Terms

/-! ## Worthless rests -/

theorem settlement_worth {takerSide makerSide : OrderSide}
    {limit quantity price remaining locked decimals : Nat} {plan : SettlementPlan}
    (facts : SettlementFacts takerSide limit quantity makerSide price remaining locked decimals
      plan) : 10 ^ decimals ≤ price * remaining := by
  have some_quote := facts.quote_pos
  apply le_trans (Nat.div_pos_iff.mp some_quote).2
  exact Nat.mul_le_mul_left price (Nat.min_le_right quantity remaining)

theorem standingOf_resting {status : OrderStatus} {remaining left : Nat}
    (rests : standingOf status remaining = .resting left) : status = .opened ∧ remaining = left := by
  cases status <;> cases rests
  exact ⟨rfl, rfl⟩

theorem side_against {maker taker order : OrderSide} (sides : maker ≠ taker)
    (against : taker ≠ order) : maker = order := by
  cases maker <;> cases taker <;> cases order <;> trivial

section Worthless

variable {state after : State} {sent : Instruction} {key : Pubkey}

theorem spot_fill_worth (holds : Invariant state) {order : Order} {market : Market}
    (stored : state.spot.orders.get key = some order)
    (home : state.spot.markets.get order.market = some market) (named : spotNames sent = some key)
    (asking : asks sent ≠ none) (done : execute state sent = .ok after) :
    10 ^ market.baseDecimals ≤ order.price * order.remainingQuantity := by
  cases sent with
  | cancelLimitOrder accounts orderId => exact absurd rfl asking
  | matchLimitOrder accounts takerSide limit quantity =>
      obtain ⟨config, -, fill, -⟩ := execute_matchLimitOrder holds.spot done
      cases named
      cases stored.symm.trans fill.orderStored
      cases home.symm.trans fill.stored
      exact settlement_worth fill.facts
  | _ => cases named

theorem shared_fill_worth (holds : Invariant state) {order : SharedOrder} {book : SharedBook}
    (stored : state.shared.orders.get key = some order)
    (home : state.shared.books.get order.book = some book) (named : sharedNames sent = some key)
    (asking : asks sent ≠ none) (done : execute state sent = .ok after) :
    10 ^ book.baseDecimals ≤ order.price * order.remainingQuantity := by
  cases sent with
  | cancelSharedOrder accounts => exact absurd rfl asking
  | matchSharedOrder accounts outcome takerSide limit quantity =>
      obtain ⟨config, -, fill, -⟩ := handleMatchSharedOrder_ok holds.shared done
      cases named
      cases stored.symm.trans fill.orderStored
      cases home.symm.trans fill.stored
      exact settlement_worth fill.facts
  | _ => cases named

end Worthless

section Runs

variable {world : World} {key : Pubkey}

theorem spot_worthless_waits (holds : Invariant world.state) {order : Order} {market : Market}
    (stored : world.state.spot.orders.get key = some order) (live : order.status = .opened)
    (home : world.state.spot.markets.get order.market = some market)
    (worthless : order.price * order.remainingQuantity < 10 ^ market.baseDecimals)
    (events : List Event) :
    spotReading.Waits spotNames (fun state => state.spot.orders) (fun _ => True) world events key
        order ∧
      (named spotNames key world events = [] → ∃ later,
        (world.run events).state.spot.markets.get order.market = some later ∧
          later.baseDecimals = market.baseDecimals) := by
  refine run_waits spotFamily (fun _ => True) (fun state => ∃ later, state.spot.markets.get order.market = some later ∧
    later.baseDecimals = market.baseDecimals) holds stored ⟨market, home, rfl⟩ ?_ ?_ events
  · intro state sent after version holds terms present same named done
    obtain ⟨later, found, decimals⟩ := terms
    simp only [Reading.view, spotReading, Prod.mk.injEq, standingOf_opened live] at same
    obtain ⟨⟨atHome, -, -, priced⟩, -, -, rests, -⟩ := same
    refine ⟨not_not.mp fun asking => ?_, trivial⟩
    have worth := spot_fill_worth holds present (atHome ▸ found) named asking done
    rw [priced, (standingOf_resting rests).2, decimals] at worth
    exact absurd worthless (Nat.not_lt.mpr worth)
  · intro state after event version holds terms kept present same applied
    obtain ⟨before, found, decimals⟩ := terms
    simp only [Reading.view, spotReading, Prod.mk.injEq, standingOf_opened live] at same
    obtain ⟨⟨atHome, -, -, -⟩, -, -, rests, -⟩ := same
    obtain ⟨later, stays, -⟩ := kept.spot.resting key version present (standingOf_resting rests).1
    rw [atHome] at stays
    cases event with
    | instruction sent =>
        have effect := execute_effect holds.spot holds.prediction holds.shared applied
        exact ⟨later, stays, (effect.spot_decimals holds.spot found stays).trans decimals⟩
    | outside happened =>
        rw [(occur_around applied).spot] at stays
        cases found.symm.trans stays
        exact ⟨before, (occur_around applied).spot ▸ found, decimals⟩

theorem shared_worthless_waits (holds : Invariant world.state) {order : SharedOrder}
    {book : SharedBook} (stored : world.state.shared.orders.get key = some order)
    (live : order.status = .opened) (home : world.state.shared.books.get order.book = some book)
    (worthless : order.price * order.remainingQuantity < 10 ^ book.baseDecimals)
    (events : List Event) :
    sharedReading.Waits sharedNames (fun state => state.shared.orders) (fun _ => True) world events
        key order ∧
      (named sharedNames key world events = [] → ∃ later,
        (world.run events).state.shared.books.get order.book = some later ∧
          later.baseDecimals = book.baseDecimals) := by
  refine run_waits sharedFamily (fun _ => True) (fun state => ∃ later, state.shared.books.get order.book = some later ∧
    later.baseDecimals = book.baseDecimals) holds stored ⟨book, home, rfl⟩ ?_ ?_ events
  · intro state sent after version holds terms present same named done
    obtain ⟨later, found, decimals⟩ := terms
    simp only [Reading.view, sharedReading, Prod.mk.injEq, standingOf_opened live] at same
    obtain ⟨⟨atHome, -, -, -, -, priced⟩, -, -, rests, -⟩ := same
    refine ⟨not_not.mp fun asking => ?_, trivial⟩
    have worth := shared_fill_worth holds present (atHome ▸ found) named asking done
    rw [priced, (standingOf_resting rests).2, decimals] at worth
    exact absurd worthless (Nat.not_lt.mpr worth)
  · intro state after event version holds terms kept present same applied
    obtain ⟨before, found, decimals⟩ := terms
    simp only [Reading.view, sharedReading, Prod.mk.injEq, standingOf_opened live] at same
    obtain ⟨⟨atHome, -, -, -, -, -⟩, -, -, rests, -⟩ := same
    obtain ⟨later, stays, -⟩ := kept.shared.resting key version present (standingOf_resting rests).1
    rw [atHome] at stays
    cases event with
    | instruction sent =>
        have effect := execute_effect holds.spot holds.prediction holds.shared applied
        exact ⟨later, stays, (congrArg SharedTerms.baseDecimals
          (effect.sameTerms holds.shared found stays).terms).trans decimals⟩
    | outside happened =>
        rw [(occur_around applied).shared] at stays
        cases found.symm.trans stays
        exact ⟨before, (occur_around applied).shared ▸ found, decimals⟩

/-- While it waits, a match that its list gives a maker to finds an order in front of it. -/
theorem spot_worthless_passed (holds : Invariant world.state) {order : Order} {market : Market}
    (stored : world.state.spot.orders.get key = some order) (live : order.status = .opened)
    (home : world.state.spot.markets.get order.market = some market)
    (worthless : order.price * order.remainingQuantity < 10 ^ market.baseDecimals)
    {accounts : MatchLimitOrder} {takerSide : OrderSide} {limit quantity : UInt64} {after : State}
    (here : accounts.market = order.market) (against : takerSide ≠ order.side)
    (done : execute world.state (.matchLimitOrder accounts takerSide limit quantity) = .ok after) :
    ∃ maker, world.state.spot.orders.get accounts.makerOrder = some maker ∧
      maker.side = order.side ∧ (order.side.Precedes maker.price order.price ∨
        maker.price = order.price ∧ maker.orderId < order.orderId) := by
  obtain ⟨config, -, fill, -⟩ := execute_matchLimitOrder holds.spot done
  obtain ⟨maker, present, opened, atHome, sides, ahead⟩ := fill.spot_first holds.spot
  have side : maker.side = order.side := side_against sides against
  have other : key ≠ accounts.makerOrder := by
    intro same
    have named : spotNames (.matchLimitOrder accounts takerSide limit quantity) = some key :=
      congrArg some same.symm
    have worth := spot_fill_worth holds stored home named (Option.some_ne_none _) done
    exact absurd worthless (Nat.not_lt.mpr worth)
  have front := ahead key order stored here.symm live side.symm other
  rw [side] at front
  exact ⟨maker, present, side, front.imp_right fun both => ⟨both.1.symm, both.2⟩⟩

theorem shared_worthless_passed (holds : Invariant world.state) {order : SharedOrder}
    {book : SharedBook} (stored : world.state.shared.orders.get key = some order)
    (live : order.status = .opened) (home : world.state.shared.books.get order.book = some book)
    (worthless : order.price * order.remainingQuantity < 10 ^ book.baseDecimals)
    {accounts : MatchSharedOrder} {takerSide : OrderSide} {limit quantity : UInt64} {after : State}
    (here : accounts.market = order.market) (against : takerSide ≠ order.side)
    (done : execute world.state
      (.matchSharedOrder accounts order.outcome takerSide limit quantity) = .ok after) :
    ∃ maker, world.state.shared.orders.get accounts.makerOrder = some maker ∧
      maker.outcome = order.outcome ∧ maker.side = order.side ∧
      (order.side.Precedes maker.price order.price ∨
        maker.price = order.price ∧ maker.orderId < order.orderId) := by
  obtain ⟨config, -, fill, -⟩ := handleMatchSharedOrder_ok holds.shared done
  obtain ⟨maker, present, opened, atHome, answer, sides, ahead⟩ := fill.shared_first holds.shared
  have side : maker.side = order.side := side_against sides against
  have other : key ≠ accounts.makerOrder := by
    intro same
    have named : sharedNames (.matchSharedOrder accounts order.outcome takerSide limit quantity) =
        some key := congrArg some same.symm
    have worth := shared_fill_worth holds stored home named (Option.some_ne_none _) done
    exact absurd worthless (Nat.not_lt.mpr worth)
  have booked : order.book = .sharedBook accounts.market := by
    rw [holds.shared.orderHome key order stored, here]
  have front := ahead key order stored booked live rfl side.symm other
  rw [side] at front
  exact ⟨maker, present, answer, side, front.imp_right fun both => ⟨both.1.symm, both.2⟩⟩

end Runs

/-- An open order whose rest is worth less than an atom waits for its owner: nothing that the program
accepts names it before the owner's own cancellation, and every match on its list finds an order in
front of it. -/
theorem worthless_rests_wait (genesis : Genesis) (events later : List Event) {middle state : State}
    (closing : (genesis.after events).state = middle)
    (reached : (genesis.after (events ++ later)).state = state) :
    (∀ key order market, middle.spot.orders.get key = some order → order.status = .opened →
      middle.spot.markets.get order.market = some market →
      order.price * order.remainingQuantity < 10 ^ market.baseDecimals →
      spotReading.Waits spotNames (fun state => state.spot.orders) (fun _ => True)
        (genesis.after events) later key order ∧
      (named spotNames key (genesis.after events) later = [] →
        ∀ accounts takerSide limit quantity after, accounts.market = order.market →
          takerSide ≠ order.side →
          execute state (.matchLimitOrder accounts takerSide limit quantity) = .ok after →
          ∃ maker, state.spot.orders.get accounts.makerOrder = some maker ∧
            maker.side = order.side ∧ (order.side.Precedes maker.price order.price ∨
              maker.price = order.price ∧ maker.orderId < order.orderId))) ∧
    (∀ key order book, middle.shared.orders.get key = some order → order.status = .opened →
      middle.shared.books.get order.book = some book →
      order.price * order.remainingQuantity < 10 ^ book.baseDecimals →
      sharedReading.Waits sharedNames (fun state => state.shared.orders) (fun _ => True)
        (genesis.after events) later key order ∧
      (named sharedNames key (genesis.after events) later = [] →
        ∀ accounts takerSide limit quantity after, accounts.market = order.market →
          takerSide ≠ order.side →
          execute state (.matchSharedOrder accounts order.outcome takerSide limit quantity) =
            .ok after →
          ∃ maker, state.shared.orders.get accounts.makerOrder = some maker ∧
            maker.outcome = order.outcome ∧ maker.side = order.side ∧
            (order.side.Precedes maker.price order.price ∨
              maker.price = order.price ∧ maker.orderId < order.orderId))) := by
  subst closing
  have run : (genesis.after events).run later = genesis.after (events ++ later) := by
    simp [Genesis.after, World.run, List.foldl_append]
  have begins := run_invariant genesis events
  have holds : Invariant ((genesis.after events).run later).state :=
    run ▸ run_invariant genesis (events ++ later)
  rw [← reached, ← run]
  constructor
  · intro key order market stored live home worthless
    obtain ⟨waits, terms⟩ := spot_worthless_waits begins stored live home worthless later
    refine ⟨waits, fun silent accounts takerSide limit quantity after here against done => ?_⟩
    obtain ⟨-, version, present, same⟩ | ⟨last, _, sole, -⟩ := waits
    · obtain ⟨record, stays, decimals⟩ := terms silent
      simp only [Reading.view, spotReading, Prod.mk.injEq, standingOf_opened live] at same
      obtain ⟨⟨atHome, number, side, priced⟩, -, -, rests, -⟩ := same
      obtain ⟨opened, left⟩ := standingOf_resting rests
      rw [← side, ← priced, ← number]
      apply spot_worthless_passed holds present opened (atHome ▸ stays) _ (here.trans atHome.symm)
        (side ▸ against) done
      rwa [priced, left, decimals]
    · cases silent.symm.trans sole
  · intro key order book stored live home worthless
    obtain ⟨waits, terms⟩ := shared_worthless_waits begins stored live home worthless later
    refine ⟨waits, fun silent accounts takerSide limit quantity after here against done => ?_⟩
    obtain ⟨-, version, present, same⟩ | ⟨last, _, sole, -⟩ := waits
    · obtain ⟨record, stays, decimals⟩ := terms silent
      simp only [Reading.view, sharedReading, Prod.mk.injEq, standingOf_opened live] at same
      obtain ⟨⟨atHome, market, number, answer, side, priced⟩, -, -, rests, -⟩ := same
      obtain ⟨opened, left⟩ := standingOf_resting rests
      rw [← side, ← priced, ← number, ← answer]
      apply shared_worthless_passed holds present opened (atHome ▸ stays) _
        (here.trans market.symm) (side ▸ against) (answer ▸ done)
      rwa [priced, left, decimals]
    · cases silent.symm.trans sole

/-! Bob takes eight of the ten tenths that Alice sells at three, and asks for the other two. -/

def Sample.fraying : List Event := List.map .instruction
  [.deposit alice spot base (.key 21) 100, .deposit bob spot quote (.key 22) 100,
    .insertLimitOrder alice spot none none .ask 3 10,
    .matchLimitOrder ⟨bob, spot, .order spot 1, none, none, none⟩ .bid 3 8]

def Sample.tugging : List Event :=
  [.instruction (.matchLimitOrder ⟨bob, spot, .order spot 1, none, none, some alice.key⟩ .bid 3 2)]

set_option maxRecDepth 4096 in
theorem worthless_rests_wait_frayed : ∃ order,
    (Sample.start.after (Sample.funding ++ Sample.opening ++ Sample.fraying)).state.spot.orders.get
      (.order Sample.spot 1) = some order ∧
    spotReading.Waits spotNames (fun state => state.spot.orders) (fun _ => True)
      (Sample.start.after (Sample.funding ++ Sample.opening ++ Sample.fraying)) Sample.tugging
      (.order Sample.spot 1) order := by
  have facts : ((Sample.start.after
        (Sample.funding ++ Sample.opening ++ Sample.fraying)).state.spot.orders.get
        (.order Sample.spot 1)).map (fun order => (order.market, order.status,
          order.price * order.remainingQuantity)) = some (Sample.spot, .opened, 6) ∧
      ((Sample.start.after
        (Sample.funding ++ Sample.opening ++ Sample.fraying)).state.spot.markets.get
        Sample.spot).map Market.baseDecimals = some 1 := by
    decide +kernel
  obtain ⟨order, stored, seen⟩ := Option.map_eq_some_iff.mp facts.1
  obtain ⟨market, home, decimals⟩ := Option.map_eq_some_iff.mp facts.2
  simp only [Prod.mk.injEq] at seen
  obtain ⟨atHome, live, worth⟩ := seen
  refine ⟨order, stored, ((worthless_rests_wait Sample.start
    (Sample.funding ++ Sample.opening ++ Sample.fraying) Sample.tugging rfl rfl).1 _ order market
    stored live (atHome ▸ home) ?_).1⟩
  rw [worth, decimals]
  decide

end Tidebook.Proof
