import Tidebook.Proof.Ingestion

/-! # A gap that outgrew its pages

A live recovery keeps nothing of what it collected unless its last page comes back empty. When more
transactions lie behind the checkpoint than the pages before that one can hold, it never does, and
the gap only grows.
-/

namespace Tidebook.Proof
open Library Indexer

variable {Signature : Type}

def Outgrows (config : LiveGapConfig) (gap : Nat) : Prop :=
  config.signaturePageLimit * (config.maxPages - 1) < gap

instance (config : LiveGapConfig) (gap : Nat) : Decidable (Outgrows config gap) :=
  inferInstanceAs (Decidable (_ < _))

/-- The process asks for pages of 20, at most 10 of them. -/
example : Outgrows ⟨20, 10⟩ 181 ∧ ¬Outgrows ⟨20, 10⟩ 180 := by decide

structure Stalled (database : Database Signature) (boundary : Signature) (gap : Nat)
    (world : World Signature) : Prop where
  same : world.database = database
  behind : ∃ older entry newer, world.history = older ++ entry :: newer ∧
    entry.signature = boundary ∧ gap ≤ newer.length

/-- What lies between the boundary and the cursor is too much for the pages that are left, where
the last of them would have to be empty. -/
structure Short (database : Database Signature) (boundary : Signature) (gap limit more : Nat)
    (before : Option Signature) (world : World Signature) : Prop where
  stalled : Stalled database boundary gap world
  parts : ∃ older entry lower upper, world.history = older ++ entry :: (lower ++ upper) ∧
    entry.signature = boundary ∧ limit * more < lower.length + limit ∧
    match before with
    | none => upper = []
    | some signature => ∃ first rest, upper = first :: rest ∧ first.signature = signature

section
variable {database : Database Signature} {boundary : Signature} {gap limit more : Nat}
  {before : Option Signature} {world : World Signature}

theorem stalled_stable : Stable (Stalled database boundary gap) := by
  intro world later stalled grown
  obtain ⟨⟨new, extended⟩, same, -⟩ := grown
  obtain ⟨older, entry, newer, split, named, large⟩ := stalled.behind
  refine ⟨same.trans stalled.same, older, entry, newer ++ new, ?_, named, ?_⟩
  · rw [← extended, split]
    simp
  · rw [List.length_append]
    omega

theorem short_stable : Stable (Short database boundary gap limit more before) := by
  intro world later short grown
  have stalled := stalled_stable world later short.stalled grown
  obtain ⟨⟨new, extended⟩, -, -⟩ := grown
  obtain ⟨older, entry, lower, upper, split, named, much, cursor⟩ := short.parts
  refine ⟨stalled, ?_⟩
  cases before with
  | none =>
      have empty : upper = [] := cursor
      refine ⟨older, entry, lower ++ new, [], ?_, named, ?_, rfl⟩
      · rw [← extended, split, empty]
        simp
      · rw [List.length_append]
        omega
  | some signature =>
      obtain ⟨first, rest, rfl, same⟩ := cursor
      refine ⟨older, entry, lower, first :: rest ++ new, ?_, named, much, first, rest ++ new, rfl,
        same⟩
      rw [← extended, split]
      simp

/-- At the start nothing has been read, and the last page does not count. -/
theorem Stalled.short (stalled : Stalled database boundary gap world) {config : LiveGapConfig}
    (outgrown : Outgrows config gap) (some_pages : config.maxPages ≠ 0) :
    Short database boundary gap config.signaturePageLimit config.maxPages none world := by
  obtain ⟨older, entry, newer, split, named, large⟩ := stalled.behind
  refine ⟨stalled, older, entry, newer, [], by simp [split], named, ?_, rfl⟩
  obtain ⟨pages, counted⟩ := Nat.exists_eq_succ_of_ne_zero some_pages
  rw [Outgrows, counted, Nat.succ_sub_one] at outgrown
  rw [counted, Nat.mul_succ]
  omega

end

section
variable [LinearOrder Signature] {database : Database Signature}
  {boundary : Signature} {gap limit more : Nat} {before : Option Signature}
  {pages : List (List (SignatureRecord Signature))} {world : World Signature}

/-- A page is not empty, and what is left is too much for the others. -/
theorem ensures_short_fetched :
    Program.Ensures (Short database boundary gap limit (more + 1) before)
      (fetchSignaturePageWithBounds before (some boundary) limit)
      (fun page world => match page.nextBefore with
        | none => False
        | some signature => Short database boundary gap limit more (some signature) world)
      (Stalled database boundary gap) := by
  refine ensures_perform short_stable (fun world short => short.stalled) fun world short => ?_
  obtain ⟨stalled, older, entry, lower, upper, split, named, much, cursor⟩ := short
  have joined : world.history = ((older ++ [entry]) ++ lower) ++ upper := by simp [split]
  have whole : Distinct (((older ++ [entry]) ++ lower) ++ upper) := joined ▸ world.distinct
  have seen : olderThan before world.history = (older ++ [entry]) ++ lower := by
    cases before with
    | none =>
        have empty : upper = [] := cursor
        rw [joined, empty, List.append_nil]
        rfl
    | some signature =>
        obtain ⟨first, rest, rfl, rfl⟩ := cursor
        rw [joined, olderThan_split whole]
  have distinct : Distinct ((older ++ [entry]) ++ lower) := by
    rw [Distinct, List.map_append] at whole
    exact whole.of_append_left
  have bounded : Bounded (some boundary) (older ++ [entry]) := ⟨older, entry, rfl, named⟩
  by_cases none_ : limit = 0
  · simp only [if_pos none_]
    exact stalled
  · simp only [if_neg none_]
    have answer : buildSignaturePage
        (signaturesForAddress world.history before (some boundary) limit) =
          ⟨records (lower.drop (lower.length - limit)),
            (lower.drop (lower.length - limit)).head?.map FinalizedTransaction.signature⟩ := by
      rw [signaturesForAddress, seen, newerThan_split distinct bounded]
      exact page_of_take limit lower
    rw [answer]
    rw [Nat.mul_succ] at much
    cases page : lower.drop (lower.length - limit) with
    | nil =>
        rw [List.drop_eq_nil_iff] at page
        omega
    | cons first rest =>
        refine ⟨⟨stalled.same, stalled.behind⟩, older, entry, lower.take (lower.length - limit),
          first :: rest ++ upper, ?_, named, ?_, first, rest ++ upper, rfl, rfl⟩
        · rw [split, ← page, ← List.append_assoc (lower.take _), List.take_append_drop]
        · rw [List.length_take]
          omega

theorem ensures_short_pages :
    Program.Ensures (Short database boundary gap limit more before)
      (gapPages limit (fetchSignaturePageWithBounds · (some boundary)) more before pages)
      (fun outcome world => outcome = .pageLimitReached ∧ Stalled database boundary gap world)
      (Stalled database boundary gap) := by
  induction more generalizing before pages with
  | zero => exact Program.ensures_pure fun world short => ⟨rfl, short.stalled⟩
  | succ more ih =>
      refine Program.Ensures.bind _ ensures_short_fetched fun page => ?_
      cases next : page.nextBefore with
      | none => exact Program.ensures_pure fun world impossible => impossible.elim
      | some signature =>
          simp only [Option.isNone_some, Bool.false_eq_true, if_false]
          split
          · exact Program.ensures_abort fun world short => short.stalled
          · exact ih

end

/-! ## Recoveries -/

section
variable [LinearOrder Signature] (programId : List Char) {database : Database Signature}
  {checkpoint : LiveCheckpoint Signature} {gap : Nat} {world : World Signature}

theorem ensures_stalled_boundary (stands : database.liveCheckpoint = some checkpoint)
    (boundary : Signature) :
    Program.Ensures (Stalled database boundary gap) loadOrInitializeLiveCheckpoint
      (fun found world => found = some checkpoint ∧ Stalled database boundary gap world)
      (Stalled database boundary gap) := by
  have loaded : Program.Ensures (Stalled database boundary gap) (load Database.liveCheckpoint)
      (fun found world => found = some checkpoint ∧ Stalled database boundary gap world)
      (Stalled database boundary gap) :=
    ensures_perform stalled_stable (fun world stalled => stalled) fun world stalled =>
      ⟨(congrArg Database.liveCheckpoint stalled.same).trans stands, stalled⟩
  refine Program.Ensures.bind _ loaded fun found => Program.ensures_of_fact ?_
  rintro rfl
  exact Program.ensures_pure fun world stalled => ⟨rfl, stalled⟩

theorem ensures_stalled_recovery (stands : database.liveCheckpoint = some checkpoint)
    {config : LiveGapConfig} (outgrown : Outgrows config gap) :
    Program.Ensures (Stalled database checkpoint.signature gap) (recoverLiveGap programId config)
      (fun outcome world => outcome = .pageLimitReached ∧
        Stalled database checkpoint.signature gap world)
      (Stalled database checkpoint.signature gap) := by
  refine Program.Ensures.bind _ (ensures_stalled_boundary stands checkpoint.signature)
    fun found => Program.ensures_of_fact ?_
  rintro rfl
  have collected : Program.Ensures (Stalled database checkpoint.signature gap)
      (collectGapPages config (fetchSignaturePageWithBounds · (some checkpoint.signature)))
      (fun outcome world => outcome = .pageLimitReached ∧
        Stalled database checkpoint.signature gap world)
      (Stalled database checkpoint.signature gap) := by
    unfold collectGapPages
    split
    · exact Program.ensures_abort fun world stalled => stalled
    next limits =>
      exact ensures_short_pages.weaken
        (fun world stalled => stalled.short outgrown fun none_ => limits (.inr none_))
        fun outcome world reached => reached
  refine Program.Ensures.bind _ collected fun outcome => Program.ensures_of_fact ?_
  rintro rfl
  exact Program.ensures_pure fun world stalled => ⟨rfl, stalled⟩

theorem ensures_stalled_backfill {boundary : Signature} (config : BackfillConfig)
    (completed : database.loadBackfillCheckpoint.completed = true) :
    Program.Ensures (Stalled database boundary gap) (runBackfill programId config)
      (fun _ => Stalled database boundary gap) (Stalled database boundary gap) := by
  have loaded : Program.Ensures (Stalled database boundary gap)
      (load Database.loadBackfillCheckpoint)
      (fun found world => found.completed = true ∧ Stalled database boundary gap world)
      (Stalled database boundary gap) :=
    ensures_perform stalled_stable (fun world stalled => stalled) fun world stalled =>
      ⟨(congrArg (fun stored => stored.loadBackfillCheckpoint.completed) stalled.same).trans
        completed, stalled⟩
  refine Program.Ensures.bind _ loaded fun found => Program.ensures_of_fact fun done => ?_
  rw [if_pos done]
  exact Program.ensures_pure fun world stalled => stalled

/-! ## Process runs -/

theorem stalled_wakeups (stands : database.liveCheckpoint = some checkpoint)
    (stalled : Stalled database checkpoint.signature gap world) (wakeups : List (Wakeup Signature))
    (outgrown : ∀ wakeup ∈ wakeups, Outgrows wakeup.config gap) :
    Stalled database checkpoint.signature gap
      (wakeups.foldl (Wakeup.run programId) world) := by
  induction wakeups generalizing world with
  | nil => exact stalled
  | cons wakeup wakeups ih =>
      have recovery := ensures_stalled_recovery programId stands
        (outgrown wakeup List.mem_cons_self)
      exact ih ((recovery.weaken (fun world start => start) fun outcome world reached =>
        reached.2).keeps world wakeup.moments stalled)
        fun other later => outgrown other (List.mem_cons_of_mem wakeup later)

theorem stalled_launches (completed : database.loadBackfillCheckpoint.completed = true)
    (stands : database.liveCheckpoint = some checkpoint)
    (stalled : Stalled database checkpoint.signature gap world)
    (launches : List (Launch Signature))
    (outgrown : ∀ launch ∈ launches, ∀ wakeup ∈ launch.wakeups, Outgrows wakeup.config gap) :
    Stalled database checkpoint.signature gap (world.launched programId launches) := by
  induction launches generalizing world with
  | nil => exact stalled
  | cons launch launches ih =>
      have begun := (ensures_stalled_backfill programId launch.config completed).keeps world
        launch.moments stalled
      refine ih ?_ fun other later => outgrown other (List.mem_cons_of_mem launch later)
      simp only [Launch.run]
      split
      · exact stalled_wakeups programId stands begun launch.wakeups (outgrown launch List.mem_cons_self)
      · exact begun

/-- Once more finalized transactions lie behind the live checkpoint than a recovery's pages but the
last can hold, no later recovery of any launch stores anything or reports that it caught up. -/
theorem outgrown_gap_stays {entry : FinalizedTransaction Signature}
    {older newer : List (FinalizedTransaction Signature)}
    (completed : world.database.loadBackfillCheckpoint.completed = true)
    (stands : world.database.liveCheckpoint = some checkpoint)
    (split : world.history = older ++ entry :: newer)
    (named : entry.signature = checkpoint.signature) (launches : List (Launch Signature))
    (outgrown : ∀ launch ∈ launches, ∀ wakeup ∈ launch.wakeups,
      Outgrows wakeup.config newer.length) :
    (world.launched programId launches).database = world.database ∧
      ∀ config moments processed, Outgrows config newer.length →
        (recoverLiveGap programId config (world.launched programId launches) moments).result ≠
          some (.caughtUp processed) := by
  have start : Stalled world.database checkpoint.signature newer.length world :=
    ⟨rfl, older, entry, newer, split, named, le_refl _⟩
  have stalled := stalled_launches programId completed stands start launches outgrown
  refine ⟨stalled.same, fun config moments processed still reported => ?_⟩
  have reached := ensures_stalled_recovery programId stands still _ moments stalled
  rw [reported] at reached
  cases reached.1

end

section Behind

open Sample

/-- The first transaction was stored and the node was gone when the second one came. -/
private def disconnected : World Nat :=
  World.fresh.launched [] [⟨⟨2, 2⟩, ⟨[posted 1], false⟩ :: quiet 6,
    [⟨⟨1, 1⟩, quiet 4⟩, ⟨⟨1, 1⟩, [⟨[posted 2], true⟩]⟩]⟩]

private def reconnects : List (Launch Nat) := [⟨⟨2, 2⟩, quiet 3, [⟨⟨1, 1⟩, quiet 9⟩]⟩]

theorem outgrown_gap_stays_disconnected :
    (disconnected.launched [] reconnects).database = disconnected.database ∧
      ∀ config moments processed, Outgrows config 1 →
        (recoverLiveGap [] config (disconnected.launched [] reconnects) moments).result ≠
          some (.caughtUp processed) := by
  have stands : disconnected.database.liveCheckpoint = some ⟨1, 1, some 0⟩ := rfl
  have split : disconnected.history = [] ++ posted 1 :: [posted 2] := rfl
  have outgrown : ∀ launch ∈ reconnects, ∀ wakeup ∈ launch.wakeups, Outgrows wakeup.config 1 := by
    decide
  exact outgrown_gap_stays [] rfl stands split rfl reconnects outgrown

end Behind
end Tidebook.Proof
