import Tidebook.Proof.SharedExit

/-! # Cancellation hints

What the client reads for a cancellation, and when the program accepts it.
-/

namespace Tidebook.Proof
open Library Program Client

/-! ## Prediction books -/

section Prediction

variable {prediction : Prediction} (holds : PredictionInvariant prediction) {key : Pubkey}
variable {order : PredictionOrder} {level : PredictionPriceLevel}

include holds

theorem validLevel_stored {market : Pubkey} {outcome : PredictionOutcome} {side : OrderSide}
    {price : Nat} (found : prediction.levels.get (.predictionLevel market outcome side price) =
      some level) : validLevel market outcome side price level := by
  obtain ⟨home, answered, sided, priced⟩ :=
    Pubkey.predictionLevel.inj (holds.levels _ level found)
  have here : prediction.levels.get (predictionShelf.file market ((outcome, side), price)) =
      some level := found
  obtain ⟨first, last, total⟩ := holds.sound.filled here
  exact ⟨home.symm, answered.symm, sided.symm, priced.symm, holds.sound.occupied here, total,
    Option.isSome_iff_ne_none.mpr first, Option.isSome_iff_ne_none.mpr last⟩

variable (stored : prediction.orders.get key = some order) (live : order.status = .opened)
variable (found : prediction.levels.get
  (.predictionLevel order.market order.outcome order.side order.price) = some level)

include stored live

theorem checkQueueNeighbor_total (isPrevious : Bool) (turn : Nat) :
    checkQueueNeighbor (faithful prediction.orders) turn order key isPrevious
      (if isPrevious then order.previousOrder else order.nextOrder) = .ok () := by
  have opened := predictionShelf_live.mpr live
  cases link : (if isPrevious then order.previousOrder else order.nextOrder) with
  | none => rfl
  | some other =>
      obtain ⟨neighbor, present, rests, home, place, back⟩ : ∃ neighbor,
          prediction.orders.get other = some neighbor ∧ neighbor.status = .opened ∧
          neighbor.market = order.market ∧
          ((neighbor.outcome, neighbor.side), neighbor.price) =
            ((order.outcome, order.side), order.price) ∧
          (if isPrevious then
            neighbor.nextOrder = some key ∧ neighbor.orderId < order.orderId
          else neighbor.previousOrder = some key ∧ neighbor.orderId > order.orderId) := by
        cases isPrevious with
        | true =>
            obtain ⟨-, -, neighbor, present, home, rests, place, back⟩ :=
              holds.sound.previous stored opened link
            exact ⟨neighbor, present, predictionShelf_live.mp rests, home, place, back,
              holds.sound.previous_older stored opened link present⟩
        | false =>
            obtain ⟨-, neighbor, present, home, rests, place, back⟩ :=
              holds.sound.following stored opened link
            exact ⟨neighbor, present, predictionShelf_live.mp rests, home, place, back,
              holds.sound.following_newer stored opened link present⟩
      obtain ⟨named, answered, sided, priced, listed, some_left, within⟩ :=
        neighbor_valid holds stored live present rests home place
      simp only [checkQueueNeighbor, faithful, present, bind_eq_ok, okOr_eq_ok, require_eq_ok]
      exact ⟨_, rfl, _, rfl, named, home, listed, answered, sided, priced, rests, some_left, within,
        back⟩

omit stored live in
include found in
theorem readPriceNeighbor_total (isBetter : Bool) (turn : Nat) :
    readPriceNeighbor (faithful prediction.levels) turn order isBetter
        (if isBetter then level.betterPrice else level.worsePrice) =
      .ok ((if isBetter then level.betterPrice else level.worsePrice).map
        (.predictionLevel order.market order.outcome order.side)) := by
  have here : prediction.levels.get (predictionShelf.file order.market
      ((order.outcome, order.side), order.price)) = some level := found
  cases link : (if isBetter then level.betterPrice else level.worsePrice) with
  | none => rfl
  | some price =>
      obtain ⟨neighbor, present, back⟩ : ∃ neighbor,
          prediction.levels.get
            (.predictionLevel order.market order.outcome order.side price) = some neighbor ∧
          (if isBetter then
            neighbor.worsePrice = some order.price ∧ order.side.Precedes price order.price
          else neighbor.betterPrice = some order.price ∧
            order.side.Precedes order.price price) := by
        cases isBetter with
        | true =>
            obtain ⟨before, neighbor, present, back⟩ := holds.sound.better here link
            exact ⟨neighbor, present, back, before⟩
        | false =>
            obtain ⟨after, neighbor, present, back⟩ := holds.sound.worse here link
            exact ⟨neighbor, present, back, after⟩
      simp only [readPriceNeighbor, faithful, present, bind_eq_ok, okOr_eq_ok, require_eq_ok,
        pure_eq_ok]
      exact ⟨_, rfl, _, rfl, (), ⟨validLevel_stored holds present, back⟩, rfl⟩

include found

theorem readPredictionCancellationAccounts_total {owner : Wallet} (own : order.owner = owner.key) :
    readPredictionCancellationAccounts ⟨faithful prediction.levels, faithful prediction.orders⟩
      order.market owner key = .ok (predictionExit order level owner) := by
  have opened := predictionShelf_live.mpr live
  obtain ⟨_, -, rest⟩ := holds.resting key order stored live
  obtain ⟨heads, ends⟩ := holds.sound.ends stored opened found
  obtain ⟨alone, several, counted, covered⟩ := holds.sound.alone stored opened found
  have notPrevious : order.previousOrder ≠ some key :=
    fun link => (holds.sound.previous stored opened link).1 rfl
  have notNext : order.nextOrder ≠ some key :=
    fun link => (holds.sound.following stored opened link).1 rfl
  have apart : order.previousOrder.isSome → order.nextOrder ≠ order.previousOrder := by
    intro some_previous
    obtain ⟨other, link⟩ := Option.isSome_iff_exists.mp some_previous
    rw [link]
    exact (holds.sound.previous stored opened link).2.1
  have backed : order.lockedCollateral =
      if order.side = .bid then order.price * order.remainingQuantity
      else order.remainingQuantity := by
    rw [rest.backed]
    cases order.side <;> rfl
  have behind := checkQueueNeighbor_total holds stored live true
  have ahead := checkQueueNeighbor_total holds stored live false
  have better := readPriceNeighbor_total holds found true
  have worse := readPriceNeighbor_total holds found false
  simp only [if_true, Bool.false_eq_true, if_false] at behind ahead better worse
  simp only [readPredictionCancellationAccounts, bind_eq_ok, okOr_eq_ok, require_eq_ok, pure_eq_ok]
  refine ⟨_, congrArg Except.ok stored, order, rfl, (), ⟨own, rfl, holds.orders key order stored⟩, (),
    live, (), rest.level, _, congrArg Except.ok found, level, rfl, (), validLevel_stored holds found,
    (), ⟨notPrevious, notNext, apart, heads, ends⟩, (), behind _, (), ahead _, (),
    ⟨rest.remaining_pos, rest.remaining_le, backed⟩, ?_⟩
  by_cases last : level.orderCount = 1
  · obtain ⟨noPrevious, noNext, total, -, -⟩ := alone last
    refine ⟨(level.betterPrice.map (.predictionLevel order.market order.outcome order.side),
      level.worsePrice.map (.predictionLevel order.market order.outcome order.side)), ?_, ?_⟩
    · rw [if_pos last]
      simp only [bind_eq_ok, require_eq_ok, pure_eq_ok]
      exact ⟨(), ⟨noPrevious, noNext, total⟩, _, better _, _, worse _, rfl⟩
    · simp only [predictionExit, if_pos last]
  · obtain ⟨neighbored, remains⟩ := several last
    refine ⟨(none, none), ?_, ?_⟩
    · rw [if_neg last]
      simp only [bind_eq_ok, require_eq_ok, pure_eq_ok]
      exact ⟨(), ⟨neighbored.imp Option.isSome_iff_ne_none.mpr Option.isSome_iff_ne_none.mpr,
        remains⟩, trivial⟩
    · simp only [predictionExit, if_neg last]

end Prediction

/-! ## Shared books -/

/-- The node answers with the stored accounts, and with a book's records in any order. -/
structure Answers (shared : Shared) (accounts : SharedReader) : Prop where
  book : ∀ key, accounts.sharedBook key = .ok (shared.books.get key)
  orders : ∀ key, ∃ rows, accounts.sharedOrder key = .ok rows ∧ ∀ row, row ∈ rows ↔
    shared.orders.get row.key = some row.val ∧ row.val.book = key
  levels : ∀ key, ∃ rows, accounts.sharedPriceLevel key = .ok rows ∧ ∀ row, row ∈ rows ↔
    shared.levels.get row.key = some row.val ∧ row.val.book = key

/-- The client finds the accounts of a cancellation, and the program accepts them. -/
def SharedCancels (state : State) (accounts : SharedReader) (market : Pubkey) (owner : Wallet)
    (key : Pubkey) : Prop :=
  ∃ snapshot hints after, readSharedBook accounts market = .ok (some snapshot) ∧
    cancelShared snapshot owner key = .ok hints ∧
    execute state (.cancelSharedOrder hints) = .ok after

theorem find_row {α : Type} {store : Store Pubkey α} {rows : List (Account α)} {key : Pubkey}
    {value : α} (listed : ∀ row ∈ rows, store.get row.key = some row.val)
    (member : ⟨key, value⟩ ∈ rows) : rows.find? (fun row => row.key = key) = some ⟨key, value⟩ := by
  cases found : rows.find? fun row => row.key = key with
  | none => exact absurd (decide_eq_true rfl) (List.find?_eq_none.mp found _ member)
  | some row =>
      have named : row.key = key := by simpa using List.find?_some found
      have present := listed row (List.mem_of_find?_eq_some found)
      rw [named, listed _ member, Option.some.injEq] at present
      obtain ⟨_, _⟩ := row
      obtain rfl := named
      rw [show value = _ from present]

section Shared

variable {shared : Shared} (holds : SharedInvariant shared) {accounts : SharedReader}
variable (answers : Answers shared accounts) {key : Pubkey} (leaving : SharedDeparture shared key)

include holds answers

theorem cancelShared_total {owner : Wallet} (own : leaving.order.owner = owner.key) :
    ∃ snapshot, readSharedBook accounts leaving.order.market = .ok (some snapshot) ∧
      cancelShared snapshot owner key = .ok (sharedExit leaving.order leaving.level owner
        (traderAccounts leaving.book owner.key)) := by
  have rest := leaving.rests holds
  have home : leaving.order.book = .sharedBook leaving.order.market :=
    holds.orderHome key leaving.order leaving.orderStored
  have keyed : key = .sharedOrder leaving.order.book leaving.order.orderId :=
    holds.orders key leaving.order leaving.orderStored
  have stored := leaving.stored
  rw [home] at stored
  obtain ⟨orders, readOrders, isOrder⟩ := answers.orders (.sharedBook leaving.order.market)
  obtain ⟨levels, readLevels, isLevel⟩ := answers.levels (.sharedBook leaving.order.market)
  have levelHome : leaving.level.book = leaving.order.book :=
    (Pubkey.sharedLevel.inj (holds.levels _ _ leaving.levelStored)).1.symm
  have row := find_row (fun row member => ((isOrder row).mp member).1)
    ((isOrder ⟨key, leaving.order⟩).mpr ⟨leaving.orderStored, home⟩)
  have listed := find_row (fun row member => ((isLevel row).mp member).1)
    ((isLevel ⟨_, leaving.level⟩).mpr ⟨leaving.levelStored, levelHome.trans home⟩)
  refine ⟨⟨.sharedBook leaving.order.market, leaving.book, orders, levels⟩, ?_, ?_⟩
  · simp only [readSharedBook, answers.book, stored, readOrders, readLevels, bind_eq_ok,
      Except.ok.injEq, exists_eq_left', require_eq_ok, pure_eq_ok]
    refine ⟨(), rest.market.symm, (), fun row member => ?_, (), fun row member => ?_, trivial⟩
    · obtain ⟨present, inside⟩ := (isOrder row).mp member
      have atHome := holds.orderHome row.key row.val present
      rw [inside, Pubkey.sharedBook.injEq] at atHome
      have named : row.key = .sharedOrder row.val.book row.val.orderId :=
        holds.orders row.key row.val present
      rw [inside] at named
      exact ⟨inside, atHome.symm, named⟩
    · obtain ⟨present, inside⟩ := (isLevel row).mp member
      have atHome := holds.levelHome row.key row.val present
      rw [inside, Pubkey.sharedBook.injEq] at atHome
      exact ⟨inside, atHome.symm⟩
  · simp only [cancelShared, row, rest.level, listed, bind_eq_ok, okOr_eq_ok, require_eq_ok,
      pure_eq_ok, sharedExit, Option.some.injEq, exists_eq_left']
    refine ⟨(), own, ?_⟩
    rw [CancelSharedOrder.mk.injEq]
    simp only [home, keyed, and_self]

end Shared

theorem sharedCancels_iff {state : State} (holds : Invariant state) (solvent : Solvent state)
    (seated : Seated state) {accounts : SharedReader} (answers : Answers state.shared accounts)
    {key : Pubkey} {order : SharedOrder} {owner : Wallet}
    (stored : state.shared.orders.get key = some order) (live : order.status = .opened)
    (own : order.owner = owner.key) : SharedCancels state accounts order.market owner key ↔
      0 < order.lockedCollateral ∧ Backed state.shared order.previousOrder ∧
        Backed state.shared order.nextOrder := by
  obtain ⟨book, bookStored, -⟩ := holds.shared.resting key order stored live
  obtain ⟨level, found⟩ := holds.shared.sound.has_level stored (sharedShelf_live.mpr live)
  obtain ⟨leaving, rfl⟩ : ∃ leaving : SharedDeparture state.shared key, leaving.order = order :=
    ⟨⟨book, order, level, bookStored, stored, live, found⟩, rfl⟩
  obtain ⟨snapshot, read, hints⟩ := cancelShared_total holds.shared answers leaving own
  rw [← handleCancelSharedOrder_iff holds solvent leaving seated own]
  constructor
  · rintro ⟨snapshot', hints', after, read', hinted, done⟩
    rw [read, Except.ok.injEq, Option.some.injEq] at read'
    subst read'
    rw [hints, Except.ok.injEq] at hinted
    subst hinted
    exact ⟨after, done⟩
  · rintro ⟨after, done⟩
    exact ⟨snapshot, _, after, read, hints, done⟩

def storedShared (shared : Shared) : SharedReader where
  sharedBook key := .ok (shared.books.get key)
  sharedOrder key := .ok ((shared.orders.entries.entries.map fun entry => ⟨entry.1, entry.2⟩).filter
    fun row => row.val.book = key)
  sharedPriceLevel key :=
    .ok ((shared.levels.entries.entries.map fun entry => ⟨entry.1, entry.2⟩).filter
      fun row => row.val.book = key)

theorem mem_rows {α : Type} {store : Store Pubkey α} (keep : α → Bool) {row : Account α} :
    row ∈ (store.entries.entries.map fun entry => Account.mk entry.1 entry.2).filter
        (fun row => keep row.val) ↔ store.get row.key = some row.val ∧ keep row.val := by
  rw [List.mem_filter, List.mem_map, Store.mem_entries]
  refine and_congr_left fun _ => ⟨?_, fun member => ⟨_, member, rfl⟩⟩
  rintro ⟨entry, member, rfl⟩
  exact member

theorem storedShared_answers (shared : Shared) : Answers shared (storedShared shared) where
  book _ := rfl
  orders key := ⟨_, rfl, fun row => by
    rw [mem_rows fun order : SharedOrder => order.book = key, decide_eq_true_iff]⟩
  levels key := ⟨_, rfl, fun row => by
    rw [mem_rows fun level : SharedPriceLevel => level.book = key, decide_eq_true_iff]⟩

/-! ## Every run -/

/-- In every state that a run reaches, the client finds the accounts that cancel an open prediction
order; those that it finds for an open shared order cancel it exactly where something is locked
behind both its neighbours. -/
theorem cancellation_hints (genesis : Genesis) (events : List Event) {state : State}
    (reached : (genesis.after events).state = state) :
    (∀ key order owner, state.prediction.orders.get key = some order → order.status = .opened →
      order.owner = Wallet.key owner → ∃ hints orderId after,
        readPredictionCancellationAccounts
          ⟨faithful state.prediction.levels, faithful state.prediction.orders⟩ order.market owner
          key = .ok hints ∧
        UInt64.toNat orderId = order.orderId ∧
        execute state (.cancelPredictionOrder hints orderId) = .ok after) ∧
    ∀ accounts, Answers state.shared accounts → ∀ key order owner,
      state.shared.orders.get key = some order → order.status = .opened →
      order.owner = Wallet.key owner → 0 < order.lockedCollateral →
      (SharedCancels state accounts order.market owner key ↔
        Backed state.shared order.previousOrder ∧ Backed state.shared order.nextOrder) := by
  subst reached
  have holds := run_invariant genesis events
  have solvent := run_solvent genesis events
  have entered := run_entered genesis events
  have seated := run_seated genesis events
  constructor
  · intro key order owner stored live own
    obtain ⟨level, after, orderId, found, number, done, -⟩ :=
      prediction_exit holds solvent entered stored live own
    exact ⟨_, orderId, after,
      readPredictionCancellationAccounts_total holds.prediction stored live found own, number, done⟩
  · intro accounts answers key order owner stored live own locked
    rw [sharedCancels_iff holds solvent seated answers stored live own]
    exact ⟨And.right, fun backed => ⟨locked, backed⟩⟩

set_option maxRecDepth 4096 in
/-- Alice's ask for YES on the sample question, and her ask on its spot market. -/
theorem cancellation_hints_traded :
    (∃ hints orderId after,
      execute Sample.traded (.cancelPredictionOrder hints orderId) = .ok after) ∧
    ∃ accounts key, SharedCancels Sample.traded accounts Sample.spot Sample.alice key := by
  have known : (Sample.traded.prediction.orders.get (.predictionOrder Sample.question 1)).any
        (fun order => order.status = .opened ∧ order.owner = Sample.alice.key) ∧
      (Sample.traded.shared.orders.get (.sharedOrder (.sharedBook Sample.spot) 1)).any
        fun order => order.status = .opened ∧ order.owner = Sample.alice.key ∧
          0 < order.lockedCollateral ∧ order.market = Sample.spot ∧ order.previousOrder = none ∧
          order.nextOrder = none := by decide +kernel
  obtain ⟨order, stored, is⟩ := (Option.any_eq_true _ _).mp known.1
  obtain ⟨shared, sharedStored, is'⟩ := (Option.any_eq_true _ _).mp known.2
  obtain ⟨live, own⟩ := of_decide_eq_true is
  obtain ⟨sharedLive, sharedOwn, locked, market, first, last⟩ := of_decide_eq_true is'
  obtain ⟨predictionHints, sharedHints⟩ := cancellation_hints Sample.start
    (Sample.funding ++ Sample.opening ++ Sample.trading) rfl
  obtain ⟨hints, orderId, after, -, -, done⟩ := predictionHints _ order Sample.alice stored live own
  refine ⟨⟨hints, orderId, after, done⟩, storedShared Sample.traded.shared, _,
    market ▸ (sharedHints _ (storedShared_answers _) _ shared Sample.alice sharedStored sharedLive
      sharedOwn locked).mpr ?_⟩
  rw [first, last]
  exact ⟨nofun, nofun⟩

/-! ## A queue behind an order without a lock -/

namespace Sample

/-- Alice fills two of the three units that Bob bids for, and takes his whole lock; his other bid
waits behind. -/
def stranding : List Event :=
  let bid := Pubkey.sharedOrder (.sharedBook spot)
  let level := Pubkey.sharedLevel (.sharedBook spot) .spot .bid 6
  List.map .instruction
    [.depositAsset alice base (.key 21) 100, .depositAsset bob quote (.key 22) 100,
      .placeSharedOrder ⟨bob, spot, spotClaims bob, none, none, none⟩ .spot .bid 6 3 1,
      .placeSharedOrder ⟨bob, spot, spotClaims bob, some (bid 1), none, none⟩ .spot .bid 6 5 2,
      .matchSharedOrder
        ⟨alice, spot, bid 1, level, spotClaims bob, spotClaims alice, none, none, none⟩ .spot .ask 6
        2]

def stranded : State := (start.after (funding ++ opening ++ stranding)).state

end Sample

set_option maxRecDepth 4096 in
/-- Something is locked behind Bob's second bid, but the client cannot cancel it. -/
theorem cancellation_hints_stranded : ¬∀ accounts, Answers Sample.stranded.shared accounts →
    ∀ key order owner, Sample.stranded.shared.orders.get key = some order →
      order.status = .opened → order.owner = Wallet.key owner → 0 < order.lockedCollateral →
      SharedCancels Sample.stranded accounts order.market owner key := by
  have known : (Sample.stranded.shared.orders.get
        (.sharedOrder (.sharedBook Sample.spot) 2)).any
        (fun order => order.status = .opened ∧ order.owner = Sample.bob.key ∧
          0 < order.lockedCollateral ∧
          order.previousOrder = some (.sharedOrder (.sharedBook Sample.spot) 1)) ∧
      (Sample.stranded.shared.orders.get (.sharedOrder (.sharedBook Sample.spot) 1)).any
        fun order => order.lockedCollateral = 0 := by decide +kernel
  obtain ⟨order, stored, is⟩ := (Option.any_eq_true _ _).mp known.1
  obtain ⟨ahead, aheadStored, unlocked⟩ := (Option.any_eq_true _ _).mp known.2
  obtain ⟨live, own, locked, link⟩ := of_decide_eq_true is
  intro claim
  have canceled := claim _ (storedShared_answers _) _ order Sample.bob stored live own locked
  have backed := (sharedCancels_iff (run_invariant Sample.start _) (run_solvent Sample.start _)
    (run_seated Sample.start _) (storedShared_answers _) stored live own).mp canceled
  have positive := backed.2.1 _ link ahead aheadStored
  rw [of_decide_eq_true unlocked] at positive
  exact lt_irrefl 0 positive

end Tidebook.Proof
