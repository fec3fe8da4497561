import Tidebook.Proof.Cancellation
import Tidebook.Proof.Remainders

/-! # Shared orders without a lock

The validator of shared orders takes one with nothing locked for a broken record. An open order that
has lost its lock stays in its book for good, and so does the order behind it.
-/

namespace Tidebook.Proof
open Library Program

/-! ## What the handlers ask of an order that they name -/

theorem checkSharedOrder_locked {book : Account SharedBook} {order : Account SharedOrder}
    {done : Unit} (passed : checkSharedOrder book order = .ok done) :
    0 < order.val.lockedCollateral := by
  simp only [checkSharedOrder, bind_eq_ok, require_eq_ok] at passed
  obtain ⟨_, -, _, fields, -⟩ := passed
  exact fields.2.2.2.2.2.2.2.2

theorem removeOrder_backed {book : Account SharedBook} {removed : Account SharedOrder}
    {current : Account SharedPriceLevel} {previous next : Option (Account SharedOrder)}
    {better worse : Option (Account SharedPriceLevel)} {recipient : Option Pubkey}
    {removal : Removal} (passed : removeOrder book removed current previous next better worse
      recipient = .ok removal) :
    removed.val.previousOrder = previous.map Account.key ∧
      ∀ neighbor ∈ previous, 0 < neighbor.val.lockedCollateral := by
  simp only [removeOrder, bind_eq_ok] at passed
  obtain ⟨_, -, _, -, slot, -, _, checked, -⟩ := passed
  refine ⟨(checkRemoved_ok checked).2.2.2.2.1, fun neighbor supplied => ?_⟩
  simp only [checkRemoved, bind_eq_ok] at checked
  obtain ⟨_, -, _, -, _, -, _, -, _, -, _, front, -⟩ := checked
  cases supplied
  simp only [forSupplied, checkRemovedNeighbor, bind_eq_ok] at front
  obtain ⟨_, valid, -⟩ := front
  exact checkSharedOrder_locked valid

section Named

variable {state after : State} {sent : Instruction} {key : Pubkey} {order : SharedOrder}

theorem named_backed (stored : state.shared.orders.get key = some order)
    (named : sharedNames sent = some key) (done : execute state sent = .ok after) :
    0 < order.lockedCollateral ∧ Backed state.shared order.previousOrder := by
  cases sent with
  | cancelSharedOrder accounts =>
      cases named
      change handleCancelSharedOrder state accounts = .ok after at done
      simp only [handleCancelSharedOrder, bind_eq_ok, load_eq_ok, require_eq_ok,
        loadOption_eq_ok] at done
      obtain ⟨_, -, _, -, found, ⟨filed, present⟩, _, -, _, -, previous, ⟨-, hasPrevious⟩, _, -, _,
        -, _, -, _, -, _, valid, _, -, removal, removed, -⟩ := done
      cases stored.symm.trans present
      refine ⟨checkSharedOrder_locked valid, fun ahead link neighbor neighborStored => ?_⟩
      obtain ⟨linked, backed⟩ := removeOrder_backed removed
      rw [linked] at link
      obtain ⟨account, supplied, rfl⟩ := Option.map_eq_some_iff.mp link
      cases (hasPrevious account supplied).symm.trans neighborStored
      exact backed account supplied
  | matchSharedOrder accounts outcome takerSide limit quantity =>
      cases named
      change handleMatchSharedOrder state accounts outcome takerSide limit.toNat quantity.toNat =
        .ok after at done
      simp only [handleMatchSharedOrder, bind_eq_ok, load_eq_ok] at done
      obtain ⟨_, -, _, -, maker, ⟨filed, present⟩, _, -, _, -, _, -, _, -, _, -, _, -, _, -, _, checked,
        -⟩ := done
      cases stored.symm.trans present
      obtain ⟨-, -, -, -, -, front⟩ := checkSharedMaker_ok checked
      simp only [checkSharedMaker, bind_eq_ok] at checked
      obtain ⟨_, valid, -⟩ := checked
      refine ⟨checkSharedOrder_locked valid, fun ahead link => ?_⟩
      rw [front] at link
      cases link
  | _ => cases named

end Named

/-! ## Links -/

/-- An edit rewrites the older neighbour of the order it relinks from behind, and of no other. -/
theorem SharedEdit.behind {shared after : Shared} {found orderKey key : Pubkey}
    {book record : SharedBook} {written order : SharedOrder}
    {previous next ahead behind : Option Pubkey}
    (edit : SharedEdit shared after found orderKey book record written previous next ahead behind)
    (stored : shared.orders.get key = some order) (away : key ≠ orderKey)
    (apart : next ≠ some key) :
    ∃ version, after.orders.get key = some version ∧
      version.previousOrder = order.previousOrder := by
  rw [edit.orders]
  simp only [Shelf.relink, Store.get_modify, amend, Store.get_set_ne _ _ away, stored,
    if_neg apart]
  split
  · exact ⟨_, rfl, rfl⟩
  · exact ⟨_, rfl, rfl⟩

section Steps

variable {state after : State} {instruction : Instruction} {key behind : Pubkey}
variable {order : SharedOrder}

/-- An order stays behind its neighbour in the queue while nothing names either. -/
theorem Effect.behind_kept (effect : Effect state instruction after)
    (holds : SharedInvariant state.shared) (stored : state.shared.orders.get behind = some order)
    (link : order.previousOrder = some key) (away : sharedNames instruction ≠ some behind)
    (still : sharedNames instruction ≠ some key) :
    ∃ version, after.shared.orders.get behind = some version ∧
      version.previousOrder = some key := by
  -- Who leaves in front of an order that has a neighbour is that neighbour.
  have leaves : ∀ {orderKey} (leaving : SharedDeparture state.shared orderKey), key ≠ orderKey →
      leaving.order.nextOrder ≠ some behind := by
    intro orderKey leaving other next
    obtain ⟨-, newer, present, -, -, -, back⟩ :=
      holds.sound.following leaving.orderStored (sharedShelf_live.mpr leaving.live) next
    cases stored.symm.trans present
    exact other (Option.some.inj (link.symm.trans back))
  rw [← link]
  cases effect with
  | insertSharedOrder placed =>
      apply (placed.edit holds (uint64_fits _) (uint64_fits _)).behind stored
      · rintro rfl
        cases stored.symm.trans placed.freshOrder
      · exact Option.some_ne_none behind |>.symm
  | appendSharedOrder placed =>
      apply (placed.edit holds (uint64_fits _) (uint64_fits _)).behind stored
      · rintro rfl
        cases stored.symm.trans placed.freshOrder
      · exact Option.some_ne_none behind |>.symm
  | cancelSharedOrder leaving =>
      apply (leaving.edit holds).behind stored
      · exact fun same => away (congrArg some same.symm)
      · exact leaves leaving.toSharedDeparture fun same => still (congrArg some same.symm)
  | matchSharedOrder configured fill =>
      have other := fun same => away (congrArg some (Eq.symm same))
      cases full : fill.plan.makerFullyFilled with
      | true =>
          apply (fill.edit_full holds full).behind stored other
          exact leaves fill.toSharedDeparture fun same => still (congrArg some same.symm)
      | false =>
          apply (fill.edit_partial holds full).behind stored other
          exact Option.some_ne_none behind |>.symm
  | _ => exact ⟨order, stored, rfl⟩

end Steps

/-! ## Along a run -/

/-- An open order without a lock, and the one right behind it. -/
structure Blocked (shared : Shared) (key behind : Pubkey) : Prop where
  stone : ∃ order, shared.orders.get key = some order ∧ order.lockedCollateral = 0
  link : ∃ order, shared.orders.get behind = some order ∧ order.previousOrder = some key

theorem Blocked.refused {state after : State} {sent : Instruction} {key behind : Pubkey}
    (blocked : Blocked state.shared key behind) (done : execute state sent = .ok after) :
    sharedNames sent ≠ some behind ∧ sharedNames sent ≠ some key := by
  obtain ⟨⟨order, stored, unlocked⟩, later, present, link⟩ := blocked
  constructor
  · intro named
    have backed := (named_backed present named done).2 key link order stored
    omega
  · intro named
    have locked := (named_backed stored named done).1
    omega

theorem Blocked.execute {state after : State} {sent : Instruction} {key behind : Pubkey}
    (blocked : Blocked state.shared key behind) (holds : Invariant state)
    (done : execute state sent = .ok after) : Blocked after.shared key behind := by
  obtain ⟨away, still⟩ := blocked.refused done
  obtain ⟨⟨order, stored, unlocked⟩, later, present, link⟩ := blocked
  constructor
  · obtain ⟨-, same⟩ | ⟨-, fresh, -, -⟩ | ⟨named, -, -, -⟩ := sharedFamily.turns holds done key
    · rw [stored, Option.map_some, Option.map_eq_some_iff] at same
      obtain ⟨version, found, view⟩ := same
      exact ⟨version, found, (congrArg (fun view => view.2.2.2.2) view).trans unlocked⟩
    · cases stored.symm.trans fresh
    · exact absurd named still
  · exact (execute_effect holds.spot holds.prediction holds.shared done).behind_kept holds.shared
      present link away still

/-- Who joins a price stands behind an order that locks something. -/
theorem placed_behind {state after : State} {accounts : PlaceSharedOrder} {outcome : SharedOutcome}
    {side : OrderSide} {price quantity orderId : Nat} (holds : SharedInvariant state.shared)
    {level : SharedPriceLevel} (found : state.shared.levels.get
      (.sharedLevel (.sharedBook accounts.market) outcome side price) = some level)
    (done : handlePlaceSharedOrder state accounts outcome side price quantity orderId = .ok after) :
    ∃ last order, level.lastOrder = some last ∧ state.shared.orders.get last = some order ∧
      0 < order.lockedCollateral := by
  simp only [handlePlaceSharedOrder, bind_eq_ok, loadOption_eq_ok] at done
  obtain ⟨book, ownBook, _, -, _, -, tail, ⟨-, hasTail⟩, _, -, _, -, _, -, _, -, ⟨_, _⟩, -, _, -, _,
    -, _, -, _, -, done⟩ := done
  obtain ⟨filed, -, -⟩ := loadSharedBook_ok ownBook
  rw [filed, existingLevel_sound holds, found] at done
  simp only [Option.map_some, bind_eq_ok] at done
  obtain ⟨⟨last, joined⟩, appended, -⟩ := done
  simp only [joinLevel, bind_eq_ok, require_eq_ok, okOr_eq_ok, pure_eq_ok] at appended
  obtain ⟨_, -, _, -, _, -, _, -, tail, supplied, _, valid, _, ends, _, -, _, -, _, -, same⟩ :=
    appended
  cases same
  exact ⟨last.key, last.val, ends.1, hasTail last supplied, checkSharedOrder_locked valid⟩

section Runs

variable {world : World} {key : Pubkey} {order : SharedOrder}

theorem unlocked_waits (holds : Invariant world.state)
    (stored : world.state.shared.orders.get key = some order)
    (unlocked : order.lockedCollateral = 0) (events : List Event) :
    named sharedNames key world events = [] ∧ ∃ version,
      (world.run events).state.shared.orders.get key = some version ∧
        sharedReading.view version = sharedReading.view order := by
  have waits := (run_waits sharedFamily (fun _ => False) (fun _ => True) holds stored trivial
    ?_ (fun _ _ _ _ _ _ => trivial) events).1
  · obtain rests | ⟨_, _, -, never, -⟩ := waits
    · exact rests
    · exact never.elim
  · intro state sent after version _ _ present same named done
    have locked := (named_backed present named done).1
    have bare : version.lockedCollateral = order.lockedCollateral :=
      congrArg (fun view => view.2.2.2.2) same
    omega

theorem follower_waits (holds : Invariant world.state)
    (stored : world.state.shared.orders.get key = some order)
    (unlocked : order.lockedCollateral = 0) {behind : Pubkey} {follower : SharedOrder}
    (followerStored : world.state.shared.orders.get behind = some follower)
    (link : follower.previousOrder = some key) (events : List Event) :
    named sharedNames behind world events = [] ∧ ∃ version,
      (world.run events).state.shared.orders.get behind = some version ∧
        sharedReading.view version = sharedReading.view follower := by
  have waits := (run_waits sharedFamily (fun _ => False)
    (fun state => Blocked state.shared key behind) holds followerStored
    ⟨⟨order, stored, unlocked⟩, follower, followerStored, link⟩ ?_ ?_ events).1
  · obtain rests | ⟨_, _, -, never, -⟩ := waits
    · exact rests
    · exact never.elim
  · intro state sent after version _ blocked _ _ named done
    exact absurd named (blocked.refused done).1
  · intro state after event version holds blocked _ _ _ applied
    cases event with
    | instruction sent => exact blocked.execute holds applied
    | outside happened => exact (occur_around applied).shared ▸ blocked

end Runs

/-- An open shared order that has lost its lock, and the one right behind it, stay in every later
state. No order joins it at its price, and neither its book nor the market under that is closed
again. -/
theorem unlocked_order_stays (genesis : Genesis) (events later : List Event) {middle state : State}
    (closing : (genesis.after events).state = middle)
    (reached : (genesis.after (events ++ later)).state = state) {key : Pubkey} {order : SharedOrder}
    (stored : middle.shared.orders.get key = some order) (live : order.status = .opened)
    (unlocked : order.lockedCollateral = 0) :
    named sharedNames key (genesis.after events) later = [] ∧
    (∀ behind follower, middle.shared.orders.get behind = some follower →
      follower.previousOrder = some key →
      named sharedNames behind (genesis.after events) later = [] ∧ ∃ version,
        state.shared.orders.get behind = some version ∧
          sharedReading.view version = sharedReading.view follower) ∧
    (∃ version, state.shared.orders.get key = some version ∧
      sharedReading.view version = sharedReading.view order ∧
      (version.nextOrder = none → ∀ accounts quantity orderId after,
        accounts.market = order.market →
        handlePlaceSharedOrder state accounts order.outcome order.side order.price quantity
          orderId ≠ .ok after)) ∧
    (∀ authority after, execute state (.closeSharedBook authority order.market) ≠ .ok after) ∧
    ∀ authority faucetEmpty after,
      execute state (.closeMarket authority order.market faucetEmpty) ≠ .ok after := by
  subst closing
  have run : (genesis.after events).run later = genesis.after (events ++ later) := by
    simp [Genesis.after, World.run, List.foldl_append]
  have begins := run_invariant genesis events
  have holds : Invariant state := reached ▸ run_invariant genesis (events ++ later)
  obtain ⟨silent, version, present, same⟩ := unlocked_waits begins stored unlocked later
  rw [run, reached] at present
  have seen := same
  simp only [Reading.view, sharedReading, Prod.mk.injEq, standingOf_opened live] at seen
  obtain ⟨⟨book, market, -, answer, side, priced⟩, -, -, rests, bare⟩ := seen
  obtain ⟨opened, -⟩ := standingOf_resting rests
  obtain ⟨record, bookStored, -⟩ := holds.shared.resting key version present opened
  rw [holds.shared.orderHome key version present, market] at bookStored
  refine ⟨silent, fun behind follower followerStored link => ?_, ⟨version, present, same, ?_⟩, ?_, ?_⟩
  · have follows := follower_waits begins stored unlocked followerStored link later
    rwa [run, reached] at follows
  · intro last accounts quantity orderId after here done
    obtain ⟨level, found⟩ := holds.shared.sound.has_level present (sharedShelf_live.mpr opened)
    have ends := (holds.shared.sound.ends present (sharedShelf_live.mpr opened) found).2.mpr last
    change state.shared.levels.get (.sharedLevel version.book version.outcome version.side
      version.price) = some level at found
    rw [holds.shared.orderHome key version present, market, answer, side, priced, ← here] at found
    obtain ⟨tail, other, isLast, otherStored, locked⟩ := placed_behind holds.shared found done
    cases isLast.symm.trans ends
    cases otherStored.symm.trans present
    omega
  · intro authority after done
    obtain ⟨closed, closedStored, count, -⟩ := handleCloseSharedBook_ok done
    cases bookStored.symm.trans closedStored
    rw [holds.shared.counts _ _ bookStored, Store.total_eq_zero] at count
    have counted := count key version present
    rw [Shared.openIn, if_pos ⟨(holds.shared.orderHome key version present).trans
      (congrArg Pubkey.sharedBook market), opened⟩] at counted
    omega
  · intro authority faucetEmpty after done
    obtain ⟨closing, -⟩ := handleCloseMarket_ok done
    cases bookStored.symm.trans closing.unshared

/-- Bob tries to cancel the bid that waits behind the one that Alice emptied. -/
def Sample.wresting : List Event :=
  [.instruction (.cancelSharedOrder ⟨bob, .sharedBook spot, spotClaims bob,
    .sharedOrder (.sharedBook spot) 2, .sharedLevel (.sharedBook spot) .spot .bid 6,
    some (.sharedOrder (.sharedBook spot) 1), none, none, none, none⟩)]

set_option maxRecDepth 4096 in
theorem unlocked_order_stays_stranded :
    named sharedNames (.sharedOrder (.sharedBook Sample.spot) 2)
        (Sample.start.after (Sample.funding ++ Sample.opening ++ Sample.stranding)) Sample.wresting =
      [] ∧
    ∀ authority after, execute (Sample.start.after
      ((Sample.funding ++ Sample.opening ++ Sample.stranding) ++ Sample.wresting)).state
        (.closeSharedBook authority Sample.spot) ≠ .ok after := by
  have facts : (Sample.stranded.shared.orders.get
        (.sharedOrder (.sharedBook Sample.spot) 1)).map (fun order =>
          (order.market, order.status, order.lockedCollateral)) = some (Sample.spot, .opened, 0) ∧
      (Sample.stranded.shared.orders.get (.sharedOrder (.sharedBook Sample.spot) 2)).map
        SharedOrder.previousOrder = some (some (.sharedOrder (.sharedBook Sample.spot) 1)) := by
    decide +kernel
  obtain ⟨order, stored, seen⟩ := Option.map_eq_some_iff.mp facts.1
  obtain ⟨follower, followerStored, link⟩ := Option.map_eq_some_iff.mp facts.2
  simp only [Prod.mk.injEq] at seen
  obtain ⟨home, live, unlocked⟩ := seen
  obtain ⟨-, follows, -, stands, -⟩ := unlocked_order_stays Sample.start
    (Sample.funding ++ Sample.opening ++ Sample.stranding) Sample.wresting rfl rfl stored live
    unlocked
  rw [home] at stands
  exact ⟨(follows _ follower followerStored link).1, stands⟩

end Tidebook.Proof
