import Tidebook.Proof.Paging
import Tidebook.Library.Checked

/-! # No transaction is skipped

The backfill cursor moves backward and the live checkpoint forward over one history. The invariant
keeps, for each of them, the part of the history that it stands for.
-/

namespace Tidebook.Proof
open Library Indexer

variable {Signature : Type}

/-! ## What the database covers -/

def Held (database : Database Signature) (entry : FinalizedTransaction Signature) : Prop :=
  ∃ row ∈ database.chainTransactions, row.signature = entry.signature

def Complete (database : Database Signature) (entries : List (FinalizedTransaction Signature)) :
    Prop :=
  ∀ entry ∈ entries, entry.err = false → Held database entry

/-- What is stored of this part of the history is stored without a gap before it. -/
def Filled (database : Database Signature) (part : List (FinalizedTransaction Signature)) : Prop :=
  ∀ front entry back, part = front ++ entry :: back → Held database entry → Complete database front

/-- The checkpoint stands at a transaction up to which all is stored. -/
def CoveredBy (database : Database Signature) (history : List (FinalizedTransaction Signature))
    (signature : Signature) : Prop :=
  ∃ older entry newer, history = older ++ entry :: newer ∧ entry.signature = signature ∧
    Complete database (older ++ [entry])

/-- A save is preceded by the writes that it stands for: a backfill cursor by those of the page
fetched last, a live checkpoint by those of the whole history up to it. -/
def Justified (history : List (FinalizedTransaction Signature)) (earlier : List (Effect Signature)) :
    Effect Signature → Prop
  | .savedBackfill before completed => ∃ cursor page between rest,
      earlier = between ++ .fetched cursor page :: rest ∧
      (∀ effect ∈ between, ∃ signature, effect = .persisted signature) ∧
      before = page.nextBefore.or cursor ∧ completed = page.nextBefore.isNone ∧
      ∀ record ∈ page.records, .persisted record.signature ∈ between
  | .savedLive checkpoint => ∃ older entry newer, history = older ++ entry :: newer ∧
      entry.signature = checkpoint.signature ∧
      ∀ other ∈ older ++ [entry], other.err = false → .persisted other.signature ∈ earlier
  | _ => True

structure Journaled (world : World Signature) : Prop where
  known : ∀ row ∈ world.database.chainTransactions,
    ∃ entry ∈ world.history, entry.signature = row.signature
  traced : ∀ row ∈ world.database.chainTransactions, .persisted row.signature ∈ world.effects
  justified : ∀ later effect earlier, world.effects = later ++ effect :: earlier →
    Justified world.history earlier effect

/-- The checkpoints as they stand. -/
def Progress (database : Database Signature) (history : List (FinalizedTransaction Signature)) :
    BackfillCheckpoint Signature → Prop
  | ⟨none, false⟩ => database.liveCheckpoint = none
  | ⟨some signature, false⟩ => database.liveCheckpoint = none ∧
      ∃ older entry newer, history = older ++ entry :: newer ∧ entry.signature = signature ∧
        Filled database (entry :: newer)
  | ⟨_, true⟩ => Filled database history ∧
      ∀ checkpoint ∈ database.liveCheckpoint, CoveredBy database history checkpoint.signature

structure Sound (world : World Signature) : Prop where
  recorded : Journaled world
  progress : Progress world.database world.history world.database.loadBackfillCheckpoint

/-! ## A growing history -/

section
variable {database : Database Signature} {world later : World Signature}
  {history part front back : List (FinalizedTransaction Signature)}

theorem Complete.append (first : Complete database front) (second : Complete database back) :
    Complete database (front ++ back) := by
  intro entry member
  rcases List.mem_append.mp member with in_ | in_
  · exact first entry in_
  · exact second entry in_

theorem filled_append (first : Complete database front) (second : Filled database back) :
    Filled database (front ++ back) := by
  intro before entry after split held
  rcases List.append_eq_append_iff.mp split with ⟨between, rfl, rest⟩ | ⟨between, rfl, rest⟩
  · exact first.append (second _ _ _ rest held)
  · exact fun other member => first other (List.mem_append_left _ member)

theorem Filled.grow (filled : Filled database part) (absent : ∀ entry ∈ back, ¬Held database entry) :
    Filled database (part ++ back) := by
  intro before entry after split held
  rcases List.append_eq_append_iff.mp split with ⟨between, rfl, rest⟩ | ⟨between, rfl, rest⟩
  · exact absurd held (absent entry (rest ▸ by simp))
  · cases between with
    | nil =>
        rw [List.nil_append] at rest
        exact absurd held (absent entry (rest ▸ List.mem_cons_self))
    | cons first between =>
        cases rest
        exact filled before entry between rfl held

theorem fresh_absent {more : List (FinalizedTransaction Signature)}
    (known : ∀ row ∈ database.chainTransactions, ∃ entry ∈ history, entry.signature = row.signature)
    (distinct : Distinct (history ++ more)) : ∀ entry ∈ more, ¬Held database entry := by
  rintro entry member ⟨row, stored, same⟩
  obtain ⟨old, among, also⟩ := known row stored
  rw [Distinct, List.map_append, List.nodup_append] at distinct
  exact distinct.2.2 _ (List.mem_map_of_mem among) _ (List.mem_map_of_mem member) (also.trans same)

theorem Justified.grow {earlier : List (Effect Signature)} {effect : Effect Signature}
    (justified : Justified history earlier effect) (more : List (FinalizedTransaction Signature)) :
    Justified (history ++ more) earlier effect := by
  cases effect with
  | savedLive checkpoint =>
      obtain ⟨older, entry, newer, rfl, same, written⟩ := justified
      exact ⟨older, entry, newer ++ more, by simp, same, written⟩
  | savedBackfill => exact justified
  | fetched | persisted => trivial

theorem recorded_stable : Stable (@Journaled Signature) := by
  rintro world ⟨_, distinct, database, effects⟩ recorded ⟨⟨more, rfl⟩, rfl, rfl⟩
  refine ⟨fun row stored => ?_, recorded.traced, fun later effect earlier split => ?_⟩
  · obtain ⟨entry, among, same⟩ := recorded.known row stored
    exact ⟨entry, List.mem_append_left _ among, same⟩
  · exact (recorded.justified later effect earlier split).grow more

theorem CoveredBy.grow {signature : Signature} (covered : CoveredBy database history signature)
    (more : List (FinalizedTransaction Signature)) :
    CoveredBy database (history ++ more) signature := by
  obtain ⟨older, entry, newer, rfl, same, complete⟩ := covered
  exact ⟨older, entry, newer ++ more, by simp, same, complete⟩

theorem progress_completed {before : Option Signature} :
    Progress database history ⟨before, true⟩ ↔ Filled database history ∧
      ∀ checkpoint ∈ database.liveCheckpoint, CoveredBy database history checkpoint.signature := by
  cases before <;> rfl

theorem Progress.idle {before : Option Signature}
    (progress : Progress database history ⟨before, false⟩) : database.liveCheckpoint = none := by
  cases before with
  | none => exact progress
  | some signature => exact progress.1

theorem Progress.grow {checkpoint : BackfillCheckpoint Signature}
    (progress : Progress database history checkpoint)
    {more : List (FinalizedTransaction Signature)} (absent : ∀ entry ∈ more, ¬Held database entry) :
    Progress database (history ++ more) checkpoint := by
  rcases checkpoint with ⟨_ | signature, _ | _⟩
  · exact progress
  · exact ⟨progress.1.grow absent, fun checkpoint stands => (progress.2 checkpoint stands).grow more⟩
  · obtain ⟨idle, older, entry, newer, rfl, cursor, filled⟩ := progress
    exact ⟨idle, older, entry, newer ++ more, by simp, cursor, filled.grow absent⟩
  · exact ⟨progress.1.grow absent, fun checkpoint stands => (progress.2 checkpoint stands).grow more⟩

theorem Journaled.absent {more : List (FinalizedTransaction Signature)} (recorded : Journaled world)
    (extended : world.history ++ more = later.history) :
    ∀ entry ∈ more, ¬Held world.database entry :=
  fresh_absent recorded.known (by
    rw [Distinct, extended]
    exact later.distinct)

theorem sound_stable : Stable (@Sound Signature) := by
  intro world later sound grown
  have recorded := recorded_stable world later sound.recorded grown
  obtain ⟨⟨more, extended⟩, same, -⟩ := grown
  refine ⟨recorded, ?_⟩
  rw [same, ← extended]
  exact sound.progress.grow (sound.recorded.absent extended)

end

theorem fresh_sound : Sound (World.fresh : World Signature) :=
  ⟨⟨nofun, nofun, fun later effect earlier split => by cases List.append_eq_nil_iff.mp split.symm |>.2⟩,
    rfl⟩

/-! ## One more stored transaction -/

structure Added (signature : Signature) (world later : World Signature) : Prop where
  history : later.history = world.history
  effects : later.effects = .persisted signature :: world.effects
  keeps : world.database.chainTransactions ⊆ later.database.chainTransactions
  adds : ∀ row ∈ later.database.chainTransactions,
    row ∈ world.database.chainTransactions ∨ row.signature = signature
  held : ∃ row ∈ later.database.chainTransactions, row.signature = signature
  backfill : later.database.backfillCheckpoint = world.database.backfillCheckpoint
  live : later.database.liveCheckpoint = world.database.liveCheckpoint

section
variable {world later : World Signature} {signature : Signature}
  {part front back : List (FinalizedTransaction Signature)} {entry : FinalizedTransaction Signature}

theorem Added.keeps_held (added : Added signature world later) (held : Held world.database entry) :
    Held later.database entry := by
  obtain ⟨row, stored, same⟩ := held
  exact ⟨row, added.keeps stored, same⟩

theorem Added.keeps_complete (added : Added signature world later)
    (complete : Complete world.database part) : Complete later.database part :=
  fun entry member ok => added.keeps_held (complete entry member ok)

theorem Added.held_cases (added : Added signature world later) (held : Held later.database entry) :
    Held world.database entry ∨ entry.signature = signature := by
  obtain ⟨row, stored, same⟩ := held
  rcases added.adds row stored with old | new
  · exact .inl ⟨row, old, same⟩
  · exact .inr (same.symm.trans new)

/-- A new row of an earlier transaction leaves no gap in a later part. -/
theorem Added.filled_apart (added : Added signature world later)
    (apart : ∀ entry ∈ part, entry.signature ≠ signature) (filled : Filled world.database part) :
    Filled later.database part := by
  rintro before entry after rfl held
  rcases added.held_cases held with old | new
  · exact added.keeps_complete (filled _ _ _ rfl old)
  · exact absurd new (apart entry (by simp))

theorem Distinct.split_unique {other : FinalizedTransaction Signature}
    {front' back' : List (FinalizedTransaction Signature)}
    (distinct : Distinct (front ++ entry :: back))
    (split : front ++ entry :: back = front' ++ other :: back')
    (same : other.signature = entry.signature) : front' = front := by
  obtain ⟨before, behind⟩ := distinct.ne_of_split
  rcases List.append_eq_append_iff.mp split with ⟨between, rfl, rest⟩ | ⟨between, rfl, rest⟩
  · cases between with
    | nil => exact List.append_nil _
    | cons first between =>
        cases rest
        exact absurd same (behind other (by simp))
  · cases between with
    | nil => exact (List.append_nil _).symm
    | cons first between =>
        cases rest
        exact absurd same (before _ (by simp))

theorem Added.filled_next (added : Added entry.signature world later)
    (split : world.history = front ++ entry :: back) (complete : Complete world.database front)
    (filled : Filled world.database world.history) : Filled later.database world.history := by
  intro before other after parts held
  rcases added.held_cases held with old | new
  · exact added.keeps_complete (filled _ _ _ parts old)
  · have distinct : Distinct (front ++ entry :: back) := split ▸ world.distinct
    rw [distinct.split_unique (split.symm.trans parts) new]
    exact added.keeps_complete complete

theorem justified_cons {history : List (FinalizedTransaction Signature)}
    {effects : List (Effect Signature)} {last : Effect Signature}
    (justified : ∀ later effect earlier, effects = later ++ effect :: earlier →
      Justified history earlier effect) (now : Justified history effects last) :
    ∀ later effect earlier, last :: effects = later ++ effect :: earlier →
      Justified history earlier effect := by
  intro later effect earlier split
  cases later with
  | nil =>
      cases split
      exact now
  | cons first later =>
      cases split
      exact justified later effect earlier rfl

theorem Journaled.fetched {cursor : Option Signature} {page : SignaturePage Signature}
    (recorded : Journaled world) :
    Journaled { world with effects := .fetched cursor page :: world.effects } where
  known := recorded.known
  traced row stored := List.mem_cons_of_mem _ (recorded.traced row stored)
  justified := justified_cons recorded.justified trivial

theorem Added.recorded (added : Added signature world later) (recorded : Journaled world)
    (among : ∃ entry ∈ world.history, entry.signature = signature) : Journaled later where
  known row stored := by
    rw [added.history]
    rcases added.adds row stored with old | rfl
    · exact recorded.known row old
    · exact among
  traced row stored := by
    rw [added.effects]
    rcases added.adds row stored with old | rfl
    · exact List.mem_cons_of_mem _ (recorded.traced row old)
    · exact List.mem_cons_self
  justified := by
    rw [added.effects, added.history]
    exact justified_cons recorded.justified trivial

theorem Added.loadBackfill (added : Added signature world later) :
    later.database.loadBackfillCheckpoint = world.database.loadBackfillCheckpoint := by
  rw [Database.loadBackfillCheckpoint, added.backfill]
  rfl

end

section
variable [LinearOrder Signature] {programId : List Char} {record : SignatureRecord Signature}
  {before : World Signature → Prop}

theorem persistTransaction_adds {database later : Database Signature}
    {transaction : TransactionRecord Signature} {events : List DecodedEventLog}
    (done : database.persistTransaction transaction events = .ok later) :
    ∃ written, (later = { database with chainEvents := written } ∧
        ∃ row ∈ database.chainTransactions, row.signature = transaction.signature) ∨
      later = { database with
        chainTransactions := transaction :: database.chainTransactions
        chainEvents := written } := by
  simp only [Database.persistTransaction, bind_eq_ok, pure_eq_ok] at done
  obtain ⟨-, -, -, -, between, inserted, written, -, rfl⟩ := done
  refine ⟨written, ?_⟩
  unfold Database.insertTransaction at inserted
  split at inserted
  · cases inserted
    exact .inr rfl
  · next stored found =>
      simp only [bind_eq_ok, require_eq_ok, pure_eq_ok] at inserted
      obtain ⟨-, -, rfl⟩ := inserted
      have same := List.find?_some found
      exact .inl ⟨rfl, stored, List.mem_of_find?_eq_some found, of_decide_eq_true same⟩

theorem ensures_process {after stopped : World Signature → Prop} (stable : Stable before)
    (sound : ∀ world, before world → stopped world)
    (adds : ∀ world later, before world → Added record.signature world later → after later) :
    Program.Ensures before (processSignature programId record) (fun _ => after) stopped := by
  refine Program.Ensures.bind (fun transaction world =>
    before world ∧ transaction.signature = record.signature) ?_ fun transaction => ?_
  · refine ensures_perform stable sound fun world start => ?_
    cases found : fetchTransaction world.history record with
    | none => exact sound world start
    | some transaction =>
        simp only [fetchTransaction, Option.bind_eq_bind, Option.bind_eq_some_iff] at found
        obtain ⟨entry, -, found⟩ := found
        split at found
        · cases found
        · cases found
          exact ⟨start, rfl⟩
  · cases decoded : (extractProgramData transaction.logs programId).mapM decodeEvent with
    | error failure =>
        exact Program.ensures_abort fun world start => sound world start.1
    | ok events =>
        refine ensures_perform (fun world later start grown => ⟨stable _ _ start.1 grown, start.2⟩)
          (fun world start => sound world start.1) fun world start => ?_
        cases done : world.database.persistTransaction transaction events with
        | error failure =>
            exact sound world start.1
        | ok database =>
            refine adds world _ start.1 ?_
            rw [← start.2]
            obtain ⟨events, ⟨rfl, row, stored, same⟩ | rfl⟩ := persistTransaction_adds done
            · exact ⟨rfl, rfl, fun _ => id, fun _ => .inl, ⟨row, stored, same⟩, rfl, rfl⟩
            · refine ⟨rfl, rfl, List.subset_cons_self _ _, fun row stored => ?_,
                ⟨_, List.mem_cons_self, rfl⟩, rfl, rfl⟩
              rcases List.mem_cons.mp stored with rfl | old
              · exact .inr rfl
              · exact .inl old

end

/-! ## Backfill -/

/-- Between the answer of the node and the save: the records still to be processed, and the part of
the history that the page is taken from. -/
structure Paged (before : Option Signature) (page : SignaturePage Signature)
    (todo : List (SignatureRecord Signature)) (world : World Signature) : Prop where
  recorded : Journaled world
  idle : world.database.liveCheckpoint = none
  cursor : world.database.loadBackfillCheckpoint = ⟨before, false⟩
  parts : ∃ older entries newer, world.history = older ++ entries ++ newer ∧
    Filled world.database newer ∧
    (∀ signature ∈ before, ∃ entry rest, newer = entry :: rest ∧ entry.signature = signature) ∧
    page = ⟨records entries, entries.head?.map FinalizedTransaction.signature⟩ ∧
    (entries = [] → older = []) ∧
    ∀ entry ∈ entries, entry.err = false → entry.record ∈ todo ∨ Held world.database entry
  written : ∃ between rest, world.effects = between ++ .fetched before page :: rest ∧
    (∀ effect ∈ between, ∃ signature, effect = .persisted signature) ∧
    ∀ record ∈ page.records, record ∈ todo ∨ .persisted record.signature ∈ between

section
variable {before : Option Signature} {page : SignaturePage Signature}
  {todo : List (SignatureRecord Signature)} {record : SignatureRecord Signature}
  {world later : World Signature}

theorem Paged.sound (paged : Paged before page todo world) : Sound world := by
  refine ⟨paged.recorded, ?_⟩
  rw [paged.cursor]
  cases before with
  | none => exact paged.idle
  | some signature =>
      obtain ⟨older, entries, newer, split, filled, starts, -⟩ := paged.parts
      obtain ⟨entry, rest, rfl, same⟩ := starts signature rfl
      exact ⟨paged.idle, older ++ entries, entry, rest, split, same, filled⟩

theorem paged_stable : Stable (Paged before page todo) := by
  intro world later paged grown
  have recorded := recorded_stable world later paged.recorded grown
  obtain ⟨⟨more, extended⟩, same, kept⟩ := grown
  obtain ⟨older, entries, newer, split, filled, starts, parts⟩ := paged.parts
  refine ⟨recorded, same ▸ paged.idle, same ▸ paged.cursor, ?_, kept ▸ paged.written⟩
  rw [same]
  refine ⟨older, entries, newer ++ more, ?_, filled.grow (paged.recorded.absent extended), ?_, parts⟩
  · rw [← extended, split, List.append_assoc]
  · intro signature stands
    obtain ⟨entry, rest, rfl, cursor⟩ := starts signature stands
    exact ⟨entry, rest ++ more, rfl, cursor⟩

theorem mem_records {entries : List (FinalizedTransaction Signature)} :
    record ∈ records entries ↔ ∃ entry ∈ entries, entry.err = false ∧ entry.record = record := by
  simp [records, and_assoc]

theorem Paged.process (paged : Paged before page (record :: todo) world)
    (listed : record ∈ page.records) (added : Added record.signature world later) :
    Paged before page todo later := by
  obtain ⟨older, entries, newer, split, filled, starts, rfl, whole, left⟩ := paged.parts
  obtain ⟨between, rest, effects, stores, written⟩ := paged.written
  obtain ⟨entry, member, ok, rfl⟩ := mem_records.mp listed
  have distinct : Distinct (older ++ entries ++ newer) := split ▸ world.distinct
  have apart : ∀ other ∈ newer, other.signature ≠ entry.record.signature := by
    rw [Distinct, List.map_append, List.nodup_append] at distinct
    intro other among same
    exact distinct.2.2 _ (List.mem_map_of_mem (List.mem_append_right _ member)) _
      (List.mem_map_of_mem among) same.symm
  refine ⟨added.recorded paged.recorded ⟨entry, ?_, rfl⟩, added.live.trans paged.idle,
    added.loadBackfill.trans paged.cursor, ⟨older, entries, newer, added.history.trans split,
      added.filled_apart apart filled, starts, rfl, whole, ?_⟩,
    ⟨.persisted entry.record.signature :: between, rest, ?_, ?_, ?_⟩⟩
  · rw [split]
    simp [member]
  · intro other among ok
    rcases left other among ok with waiting | held
    · rcases List.mem_cons.mp waiting with same | waiting
      · obtain ⟨row, stored, named⟩ := added.held
        exact .inr ⟨row, stored, named.trans (congrArg SignatureRecord.signature same).symm⟩
      · exact .inl waiting
    · exact .inr (added.keeps_held held)
  · rw [added.effects, effects, List.cons_append]
  · rintro effect (_ | ⟨_, among⟩)
    · exact ⟨_, rfl⟩
    · exact stores effect among
  · intro other among
    rcases written other among with waiting | done
    · rcases List.mem_cons.mp waiting with rfl | waiting
      · exact .inr List.mem_cons_self
      · exact .inl waiting
    · exact .inr (List.mem_cons_of_mem _ done)

theorem Paged.save (paged : Paged before page [] world)
    (saved : later = { world with
      database := world.database.saveBackfillCheckpoint (page.nextBefore.or before)
        page.nextBefore.isNone
      effects := .savedBackfill (page.nextBefore.or before) page.nextBefore.isNone ::
        world.effects }) :
    Sound later ∧ later.database.loadBackfillCheckpoint =
      ⟨page.nextBefore.or before, page.nextBefore.isNone⟩ := by
  subst saved
  obtain ⟨older, entries, newer, split, filled, starts, rfl, whole, left⟩ := paged.parts
  obtain ⟨between, rest, effects, stores, written⟩ := paged.written
  refine ⟨⟨⟨paged.recorded.known, fun row stored => List.mem_cons_of_mem _
    (paged.recorded.traced row stored), justified_cons paged.recorded.justified ?_⟩, ?_⟩, rfl⟩
  · exact ⟨before, _, between, rest, effects, stores, rfl, rfl,
      fun record listed => (written record listed).resolve_left List.not_mem_nil⟩
  · change Progress _ _ ⟨_, _⟩
    cases entries with
    | nil =>
        rw [whole rfl] at split
        refine progress_completed.mpr ⟨?_, fun checkpoint stands => ?_⟩
        · exact (show world.history = newer from split) ▸ filled
        · cases paged.idle.symm.trans stands
    | cons entry entries =>
        refine ⟨paged.idle, older, entry, entries ++ newer, by simp [split], rfl, ?_⟩
        rw [← List.cons_append]
        exact filled_append
          (fun other member ok => (left other member ok).resolve_left List.not_mem_nil) filled

end

section
variable {programId : List Char} {before : Option Signature}

def AtCursor (before : Option Signature) (world : World Signature) : Prop :=
  Sound world ∧ world.database.loadBackfillCheckpoint = ⟨before, false⟩

theorem atCursor_stable : Stable (AtCursor before) := fun world later start grown =>
  ⟨sound_stable world later start.1 grown, grown.database ▸ start.2⟩

variable [LinearOrder Signature]

theorem ensures_page_fetched {limit : Nat} :
    Program.Ensures (AtCursor before) (fetchSignaturePageWithBounds before none limit)
      (fun page => Paged before page page.records) Sound := by
  refine ensures_perform atCursor_stable (fun world start => start.1) fun world start => ?_
  obtain ⟨sound, cursor⟩ := start
  have progress := sound.progress
  rw [cursor] at progress
  have split : ∃ older newer, world.history = older ++ newer ∧
      olderThan before world.history = older ∧ Filled world.database newer ∧
      ∀ signature ∈ before, ∃ entry rest, newer = entry :: rest ∧ entry.signature = signature := by
    cases before with
    | none =>
        refine ⟨world.history, [], (List.append_nil _).symm, rfl, ?_, by simp⟩
        intro front entry back split
        cases List.append_eq_nil_iff.mp split.symm |>.2
    | some signature =>
        obtain ⟨-, older, entry, newer, split, rfl, filled⟩ := progress
        refine ⟨older, entry :: newer, split, ?_, filled, ?_⟩
        · have distinct : Distinct (older ++ entry :: newer) := split ▸ world.distinct
          rw [split, olderThan_split distinct]
        · rintro _ ⟨⟩
          exact ⟨entry, newer, rfl, rfl⟩
  obtain ⟨lower, newer, split, older, filled, starts⟩ := split
  by_cases none_ : limit = 0
  · simp only [if_pos none_]
    exact sound
  · simp only [if_neg none_]
    obtain ⟨rest, entries, rfl, page, whole⟩ := page_splits none_ lower
    have answer : buildSignaturePage (signaturesForAddress world.history before none limit) =
        ⟨records entries, entries.head?.map FinalizedTransaction.signature⟩ := by
      rw [signaturesForAddress, older]
      exact page
    rw [answer]
    refine ⟨sound.recorded.fetched, progress.idle, cursor, ⟨rest, entries, newer, split, filled, starts, rfl, ?_, ?_⟩,
      [], _, rfl, by simp, fun record => .inl⟩
    · intro empty
      exact (List.append_eq_nil_iff.mp (whole empty)).1
    · intro entry member ok
      exact .inl (mem_records.mpr ⟨entry, member, ok, rfl⟩)

theorem ensures_page {page : SignaturePage Signature} {todo : List (SignatureRecord Signature)}
    (listed : todo ⊆ page.records) :
    Program.Ensures (Paged before page todo) (processPage (processSignature programId) todo)
      (fun _ => Paged before page []) Sound := by
  induction todo with
  | nil => exact Program.ensures_pure fun world => id
  | cons record todo ih =>
      obtain ⟨first, rest⟩ := List.cons_subset.mp listed
      refine Program.Ensures.bind (fun _ => Paged before page todo) ?_ fun _ => ih rest
      exact ensures_process paged_stable (fun world => Paged.sound)
        fun world later paged added => paged.process first added

theorem ensures_pages {limit pages : Nat} :
    Program.Ensures (AtCursor before)
      (runPages limit (fetchSignaturePageWithBounds · none) (processSignature programId)
        saveBackfillCheckpoint pages before)
      (fun outcome world => Sound world ∧ (outcome ≠ .pageLimitReached →
        world.database.loadBackfillCheckpoint.completed = true)) Sound := by
  induction pages generalizing before with
  | zero => exact Program.ensures_pure fun world start => ⟨start.1, fun other => (other rfl).elim⟩
  | succ pages ih =>
      refine Program.Ensures.bind _ ensures_page_fetched fun page => ?_
      refine Program.Ensures.bind _ (ensures_page (List.Subset.refl _)) fun _ => ?_
      refine Program.Ensures.bind (fun _ world => Sound world ∧
        world.database.loadBackfillCheckpoint =
          ⟨page.nextBefore.or before, page.nextBefore.isNone⟩) ?_ fun _ => ?_
      · exact ensures_perform paged_stable (fun world => Paged.sound)
          fun world paged => paged.save rfl
      · cases next : page.nextBefore with
        | none =>
            refine Program.ensures_pure fun world start => ⟨start.1, fun _ => ?_⟩
            rw [start.2]
            rfl
        | some signature => exact ih

/-- A backfill keeps the invariant, and unless it stopped short the checkpoint is complete. -/
theorem ensures_backfill {config : BackfillConfig} :
    Program.Ensures (@Sound Signature) (runBackfill programId config)
      (fun outcome world => Sound world ∧ (outcome ≠ .pageLimitReached →
        world.database.loadBackfillCheckpoint.completed = true)) Sound := by
  refine Program.Ensures.bind (fun checkpoint world => Sound world ∧
    world.database.loadBackfillCheckpoint = checkpoint) ?_ fun checkpoint => ?_
  · exact ensures_perform sound_stable (fun world => id) fun world sound => ⟨sound, rfl⟩
  · obtain ⟨before, _ | _⟩ := checkpoint
    · exact ensures_pages
    · refine Program.ensures_pure fun world start => ⟨start.1, fun _ => ?_⟩
      rw [start.2]

end

/-! ## Live recovery -/

/-- The invariant behind a complete backfill. -/
structure Ready (world : World Signature) : Prop where
  recorded : Journaled world
  completed : world.database.loadBackfillCheckpoint.completed = true
  filled : Filled world.database world.history
  stands : ∀ checkpoint ∈ world.database.liveCheckpoint,
    CoveredBy world.database world.history checkpoint.signature

theorem ready_iff {world : World Signature} :
    Ready world ↔ Sound world ∧ world.database.loadBackfillCheckpoint.completed = true := by
  constructor
  · rintro ⟨recorded, completed, filled, stands⟩
    refine ⟨⟨recorded, ?_⟩, completed⟩
    cases checkpoint : world.database.loadBackfillCheckpoint with
    | mk before done =>
        rw [checkpoint] at completed
        cases completed
        exact progress_completed.mpr ⟨filled, stands⟩
  · rintro ⟨⟨recorded, progress⟩, completed⟩
    cases checkpoint : world.database.loadBackfillCheckpoint with
    | mk before done =>
        rw [checkpoint] at completed progress
        cases completed
        obtain ⟨filled, stands⟩ := progress_completed.mp progress
        exact ⟨recorded, by rw [checkpoint], filled, stands⟩

theorem ready_stable : Stable (Ready : World Signature → Prop) := fun world later ready grown =>
  have start := ready_iff.mp ready
  ready_iff.mpr ⟨sound_stable world later start.1 grown, grown.database ▸ start.2⟩

/-- The pages collected so far reach from the newest transaction at the first answer down to the
cursor, and what is left reaches down to the boundary. -/
structure Gap (until_ before : Option Signature) (pages : List (List (SignatureRecord Signature)))
    (world : World Signature) : Prop where
  ready : Ready world
  parts : ∃ covered lower collected newest,
    world.history = covered ++ (lower ++ (collected ++ newest)) ∧
    Bounded until_ covered ∧ Complete world.database covered ∧
    pages.reverse.flatten = records collected ∧
    match before with
    | none => collected = [] ∧ newest = []
    | some signature => ∃ entry rest, collected = entry :: rest ∧ entry.signature = signature

/-- The records that are still to be processed, right behind what is covered. -/
structure Waiting (todo : List (SignatureRecord Signature)) (world : World Signature) : Prop where
  ready : Ready world
  parts : ∃ covered gap newest, world.history = covered ++ (gap ++ newest) ∧
    Complete world.database covered ∧ todo = records gap

def Gathered : LiveGapOutcome Signature → World Signature → Prop
  | .caughtUp todo => Waiting todo
  | .pageLimitReached => Ready

section
variable {until_ before : Option Signature} {pages : List (List (SignatureRecord Signature))}
  {todo : List (SignatureRecord Signature)} {record : SignatureRecord Signature}
  {world later : World Signature}

theorem Ready.sound (ready : Ready world) : Sound world := (ready_iff.mp ready).1

theorem gap_stable : Stable (Gap until_ before pages) := by
  intro world later gap grown
  have ready := ready_stable world later gap.ready grown
  obtain ⟨⟨more, extended⟩, same, -⟩ := grown
  obtain ⟨covered, lower, collected, newest, split, bounded, complete, listed, cursor⟩ := gap.parts
  refine ⟨ready, ?_⟩
  rw [same, ← extended, split]
  cases before with
  | none =>
      obtain ⟨rfl, rfl⟩ := cursor
      exact ⟨covered, lower ++ more, [], [], by simp, bounded, complete, listed, rfl, rfl⟩
  | some signature =>
      exact ⟨covered, lower, collected, newest ++ more, by simp, bounded, complete, listed, cursor⟩

theorem waiting_stable : Stable (Waiting todo) := by
  intro world later waiting grown
  have ready := ready_stable world later waiting.ready grown
  obtain ⟨⟨more, extended⟩, same, -⟩ := grown
  obtain ⟨covered, gap, newest, split, complete, listed⟩ := waiting.parts
  refine ⟨ready, covered, gap, newest ++ more, ?_, same ▸ complete, listed⟩
  rw [← extended, split]
  simp

theorem Ready.fetched {cursor : Option Signature} {page : SignaturePage Signature}
    (ready : Ready world) : Ready { world with effects := .fetched cursor page :: world.effects } :=
  ⟨ready.recorded.fetched, ready.completed, ready.filled, ready.stands⟩

end

section
variable [LinearOrder Signature] {programId : List Char} {until_ before : Option Signature}
  {pages : List (List (SignatureRecord Signature))} {todo : List (SignatureRecord Signature)}
  {record : SignatureRecord Signature} {limit : Nat}

theorem ensures_gap_fetched :
    Program.Ensures (Gap until_ before pages) (fetchSignaturePageWithBounds before until_ limit)
      (fun page world => match page.nextBefore with
        | none => Waiting (pages ++ [page.records]).reverse.flatten world
        | some signature => Gap until_ (some signature) (pages ++ [page.records]) world) Ready := by
  refine ensures_perform gap_stable (fun world gap => gap.ready) fun world gap => ?_
  obtain ⟨ready, covered, lower, collected, newest, split, bounded, complete, listed, cursor⟩ := gap
  have older : olderThan before world.history = covered ++ lower := by
    cases before with
    | none =>
        obtain ⟨rfl, rfl⟩ := cursor
        simp [olderThan, split]
    | some signature =>
        obtain ⟨entry, rest, rfl, rfl⟩ := cursor
        have joined : world.history = (covered ++ lower) ++ entry :: (rest ++ newest) := by
          simp [split]
        have distinct : Distinct ((covered ++ lower) ++ entry :: (rest ++ newest)) :=
          joined ▸ world.distinct
        rw [joined, olderThan_split distinct]
  have distinct : Distinct (covered ++ lower) := by
    have whole : Distinct (covered ++ (lower ++ (collected ++ newest))) := split ▸ world.distinct
    rw [← List.append_assoc, Distinct, List.map_append] at whole
    exact whole.of_append_left
  by_cases none_ : limit = 0
  · simp only [if_pos none_]
    exact ready
  · simp only [if_neg none_]
    obtain ⟨rest, entries, rfl, page, whole⟩ := page_splits none_ lower
    have answer : buildSignaturePage (signaturesForAddress world.history before until_ limit) =
        ⟨records entries, entries.head?.map FinalizedTransaction.signature⟩ := by
      rw [signaturesForAddress, older, newerThan_split distinct bounded]
      exact page
    rw [answer]
    have gathered : (pages ++ [records entries]).reverse.flatten = records (entries ++ collected) := by
      simp [listed, records_append]
    cases entries with
    | nil =>
        rw [(List.append_eq_nil_iff.mp (whole rfl)).1] at split
        exact ⟨ready.fetched, covered, collected, newest, split, complete, gathered⟩
    | cons entry entries =>
        exact ⟨ready.fetched, covered, rest, entry :: entries ++ collected, newest, by simp [split], bounded,
          complete, gathered, entry, entries ++ collected, rfl, rfl⟩

theorem ensures_gapPages {more : Nat} :
    Program.Ensures (Gap until_ before pages)
      (gapPages limit (fetchSignaturePageWithBounds · until_) more before pages) Gathered Ready := by
  induction more generalizing before pages with
  | zero => exact Program.ensures_pure fun world gap => gap.ready
  | succ more ih =>
      refine Program.Ensures.bind _ ensures_gap_fetched fun page => ?_
      cases next : page.nextBefore with
      | none => exact Program.ensures_pure fun world waiting => waiting
      | some signature =>
          simp only [Option.isNone_some, Bool.false_eq_true, if_false]
          split
          · exact Program.ensures_abort fun world gap => gap.ready
          · exact ih

theorem ensures_collected {config : LiveGapConfig} :
    Program.Ensures (Gap until_ none [])
      (collectGapPages config (fetchSignaturePageWithBounds · until_)) Gathered Ready := by
  unfold collectGapPages
  split
  · exact Program.ensures_abort fun world gap => gap.ready
  · exact ensures_gapPages

end

/-! ## Processing a gap -/

/-- The record is stored and the checkpoint has still to follow. -/
structure Stored (record : SignatureRecord Signature) (todo : List (SignatureRecord Signature))
    (world : World Signature) : Prop where
  ready : Ready world
  parts : ∃ older entry gap newest, world.history = older ++ entry :: (gap ++ newest) ∧
    entry.signature = record.signature ∧ Complete world.database (older ++ [entry]) ∧
    todo = records gap

section
variable {todo : List (SignatureRecord Signature)} {record : SignatureRecord Signature}
  {world later : World Signature}

theorem stored_stable : Stable (Stored record todo) := by
  intro world later stored grown
  have ready := ready_stable world later stored.ready grown
  obtain ⟨⟨more, extended⟩, same, -⟩ := grown
  obtain ⟨older, entry, gap, newest, split, named, complete, listed⟩ := stored.parts
  refine ⟨ready, older, entry, gap, newest ++ more, ?_, named, same ▸ complete, listed⟩
  rw [← extended, split]
  simp

theorem records_eq_cons {gap : List (FinalizedTransaction Signature)}
    (listed : record :: todo = records gap) : ∃ skipped entry rest,
      gap = skipped ++ entry :: rest ∧ (∀ entry ∈ skipped, entry.err = true) ∧
      entry.record = record ∧ todo = records rest := by
  obtain ⟨entry, rest, filtered, rfl, rfl⟩ := List.map_eq_cons_iff.mp listed.symm
  obtain ⟨skipped, rest, rfl, failed, -, rfl⟩ := List.filter_eq_cons_iff.mp filtered
  exact ⟨skipped, entry, rest, rfl, by simpa using failed, rfl, rfl⟩

theorem Waiting.process (waiting : Waiting (record :: todo) world)
    (added : Added record.signature world later) : Stored record todo later := by
  obtain ⟨ready, covered, gap, newest, split, complete, listed⟩ := waiting
  obtain ⟨skipped, entry, rest, rfl, failed, rfl, left⟩ := records_eq_cons listed
  have joined : world.history = (covered ++ skipped) ++ entry :: (rest ++ newest) := by simp [split]
  have before : Complete world.database (covered ++ skipped) := by
    refine complete.append fun other member ok => ?_
    rw [failed other member] at ok
    cases ok
  obtain ⟨row, stored, named⟩ := added.held
  refine ⟨⟨added.recorded ready.recorded ⟨entry, by simp [joined], rfl⟩,
    (congrArg _ added.loadBackfill).trans ready.completed, ?_, ?_⟩,
    covered ++ skipped, entry, rest, newest, added.history.trans joined, rfl, ?_, left⟩
  · rw [added.history]
    exact Added.filled_next added joined before ready.filled
  · rw [added.history, added.live]
    intro checkpoint stands
    obtain ⟨older, other, newer, split, same, complete⟩ := ready.stands checkpoint stands
    exact ⟨older, other, newer, split, same, added.keeps_complete complete⟩
  · refine (added.keeps_complete before).append ?_
    rintro other member -
    rw [List.mem_singleton.mp member]
    exact ⟨row, stored, named⟩

theorem gap_of_covered {world : World Signature} {checkpoint : LiveCheckpoint Signature}
    (ready : Ready world)
    (covered : CoveredBy world.database world.history checkpoint.signature) :
    Gap (some checkpoint.signature) none [] world := by
  obtain ⟨older, entry, newer, split, same, complete⟩ := covered
  exact ⟨ready, older ++ [entry], newer, [], [], by simp [split], ⟨older, entry, rfl, same⟩,
    complete, rfl, rfl, rfl⟩

theorem Journaled.complete_persisted (recorded : Journaled world)
    {entries : List (FinalizedTransaction Signature)} (complete : Complete world.database entries) :
    ∀ entry ∈ entries, entry.err = false → .persisted entry.signature ∈ world.effects := by
  intro entry member ok
  obtain ⟨row, stored, same⟩ := complete entry member ok
  exact same ▸ recorded.traced row stored

variable [DecidableEq Signature]

theorem saveLiveCheckpoint_writes {database written : Database Signature}
    {incoming : LiveCheckpoint Signature}
    (done : database.saveLiveCheckpoint incoming = .ok written) :
    written = database ∨ written = { database with liveCheckpoint := some incoming } := by
  simp only [Database.saveLiveCheckpoint, bind_eq_ok, require_eq_ok] at done
  obtain ⟨-, -, -, -, done⟩ := done
  split at done
  · cases done
    exact .inr rfl
  · simp only [bind_eq_ok] at done
    obtain ⟨decision, -, done⟩ := done
    split at done
    · cases done
      exact .inr rfl
    · cases done
      exact .inl rfl

theorem Ready.save {incoming : LiveCheckpoint Signature} {written : Database Signature}
    (ready : Ready world) (covered : CoveredBy world.database world.history incoming.signature)
    (done : world.database.saveLiveCheckpoint incoming = .ok written) :
    Ready { world with
      database := written
      effects := .savedLive incoming :: world.effects } ∧
      written.chainTransactions = world.database.chainTransactions := by
  have justified : Justified world.history world.effects (.savedLive incoming) := by
    obtain ⟨older, entry, newer, split, same, complete⟩ := covered
    exact ⟨older, entry, newer, split, same, ready.recorded.complete_persisted complete⟩
  have traced : ∀ row ∈ world.database.chainTransactions,
      .persisted row.signature ∈ Effect.savedLive incoming :: world.effects :=
    fun row stored => List.mem_cons_of_mem _ (ready.recorded.traced row stored)
  rcases saveLiveCheckpoint_writes done with rfl | rfl
  · exact ⟨⟨⟨ready.recorded.known, traced, justified_cons ready.recorded.justified justified⟩,
      ready.completed, ready.filled, ready.stands⟩, rfl⟩
  · refine ⟨⟨⟨ready.recorded.known, traced, justified_cons ready.recorded.justified justified⟩,
      ready.completed, ready.filled, ?_⟩, rfl⟩
    rintro _ ⟨⟩
    exact covered

end

section
variable [LinearOrder Signature] {programId : List Char} {todo : List (SignatureRecord Signature)}

theorem ensures_records {processed : Nat} :
    Program.Ensures (Waiting todo)
      (processRecords (processSignature programId) saveLiveCheckpoint processed todo)
      (fun _ => Ready) Ready := by
  induction todo generalizing processed with
  | nil => exact Program.ensures_pure fun world waiting => waiting.ready
  | cons record todo ih =>
      refine Program.Ensures.bind (fun _ => Stored record todo) ?_ fun _ => ?_
      · exact ensures_process waiting_stable (fun world waiting => waiting.ready)
          fun world later waiting added => waiting.process added
      · refine Program.Ensures.bind (fun _ => Waiting todo) ?_ fun _ => ih
        refine ensures_perform stored_stable (fun world stored => stored.ready)
          fun world stored => ?_
        obtain ⟨ready, older, entry, gap, newest, split, named, complete, listed⟩ := stored
        cases done : world.database.saveLiveCheckpoint
            ⟨record.signature, record.slot, record.transactionIndex⟩ with
        | error failure => exact ready
        | ok written =>
            obtain ⟨saved, rows⟩ := ready.save ⟨older, entry, gap ++ newest, split, named, complete⟩ done
            refine ⟨saved, older ++ [entry], gap, newest, by simp [split], ?_, listed⟩
            exact fun other member ok => by simpa only [Held, rows] using complete other member ok

theorem ensures_gap {gap : LiveGapOutcome Signature} :
    Program.Ensures (Gathered gap)
      (processGapRecords gap (processSignature programId) saveLiveCheckpoint)
      (fun _ => Ready) Ready := by
  cases gap with
  | pageLimitReached => exact Program.ensures_pure fun world => id
  | caughtUp todo =>
      exact Program.Ensures.bind _ ensures_records fun _ => Program.ensures_pure fun world => id

theorem Ready.latest {world : World Signature} {position : LiveCheckpoint Signature}
    (ready : Ready world) (latest : world.database.loadLatestSourcePosition = some position) :
    CoveredBy world.database world.history position.signature := by
  obtain ⟨row, greatest, rfl⟩ := Option.map_eq_some_iff.mp latest
  have stored := List.argmax_mem greatest
  obtain ⟨entry, among, same⟩ := ready.recorded.known row stored
  obtain ⟨older, newer, split⟩ := List.append_of_mem among
  have held : Held world.database entry := ⟨row, stored, same.symm⟩
  refine ⟨older, entry, newer, split, same, (ready.filled _ _ _ split held).append ?_⟩
  rintro other member -
  rwa [List.mem_singleton.mp member]

/-- The boundary that live recovery starts from stands behind stored transactions only. -/
theorem ensures_boundary :
    Program.Ensures (@Ready Signature) loadOrInitializeLiveCheckpoint
      (fun checkpoint => Gap (checkpoint.map LiveCheckpoint.signature) none []) Ready := by
  refine Program.Ensures.bind (fun checkpoint world =>
    Ready world ∧ world.database.liveCheckpoint = checkpoint) ?_ fun checkpoint => ?_
  · exact ensures_perform ready_stable (fun world => id) fun world ready => ⟨ready, rfl⟩
  cases checkpoint with
  | some checkpoint =>
      exact Program.ensures_pure fun world start =>
        gap_of_covered start.1 (start.1.stands checkpoint start.2)
  | none =>
      refine Program.Ensures.bind (fun position world =>
        Ready world ∧ world.database.loadLatestSourcePosition = position) ?_ fun position => ?_
      · exact ensures_perform (fun world later start grown =>
          ⟨ready_stable _ _ start.1 grown, grown.database ▸ start.2⟩)
          (fun world start => start.1) fun world start => ⟨start.1, rfl⟩
      cases position with
      | none =>
          refine Program.ensures_pure fun world start => ⟨start.1, [], world.history, [], [], ?_, rfl,
            nofun, rfl, rfl, rfl⟩
          simp
      | some position =>
          refine Program.Ensures.bind (fun _ => Gap (some position.signature) none []) ?_
            fun _ => Program.ensures_pure fun world => id
          refine ensures_perform (fun world later start grown =>
            ⟨ready_stable _ _ start.1 grown, grown.database ▸ start.2⟩)
            (fun world start => start.1) fun world start => ?_
          obtain ⟨ready, latest⟩ := start
          have covered := ready.latest latest
          cases done : world.database.saveLiveCheckpoint position with
          | error failure => exact ready
          | ok written =>
              obtain ⟨saved, rows⟩ := ready.save covered done
              refine gap_of_covered saved ?_
              obtain ⟨older, entry, newer, split, same, complete⟩ := covered
              refine ⟨older, entry, newer, split, same, fun other member ok => ?_⟩
              simpa only [Held, rows] using complete other member ok

theorem ensures_recovery {config : LiveGapConfig} :
    Program.Ensures (@Ready Signature) (recoverLiveGap programId config)
      (fun _ => Ready) Ready := by
  refine Program.Ensures.bind _ ensures_boundary fun checkpoint => ?_
  exact Program.Ensures.bind _ ensures_collected fun gap => ensures_gap

/-! ## Process runs -/

theorem run_wakeup {world : World Signature} (ready : Ready world) (wakeup : Wakeup Signature) :
    Ready (wakeup.run programId world) := by
  have recovery : Program.Ensures (@Ready Signature)
      (recoverLiveGap programId wakeup.config) (fun _ => Ready) Ready :=
    ensures_recovery
  exact recovery.keeps world wakeup.moments ready

theorem run_wakeups {world : World Signature} (ready : Ready world)
    (wakeups : List (Wakeup Signature)) : Ready (wakeups.foldl (Wakeup.run programId) world) := by
  induction wakeups generalizing world with
  | nil => exact ready
  | cons wakeup wakeups ih => exact ih (run_wakeup ready wakeup)

theorem run_launch {world : World Signature} (sound : Sound world) (launch : Launch Signature) :
    Sound (launch.run programId world) := by
  have backfill : Program.Ensures (@Sound Signature)
      (runBackfill programId launch.config) _ _ :=
    ensures_backfill
  have reached := backfill world launch.moments sound
  unfold Launch.run
  cases done : (runBackfill programId launch.config world launch.moments).result with
  | none =>
      rw [done] at reached
      have sound : Sound (runBackfill programId launch.config world launch.moments).state := reached
      simpa [done] using sound
  | some outcome =>
      rw [done] at reached
      obtain ⟨sound, complete⟩ := reached
      cases outcome with
      | pageLimitReached => simpa [done] using sound
      | alreadyComplete | completed =>
          have ready := ready_iff.mpr ⟨sound, complete nofun⟩
          simpa [done] using (run_wakeups ready launch.wakeups).sound

theorem run_launches {world : World Signature} (sound : Sound world)
    (launches : List (Launch Signature)) : Sound (world.launched programId launches) := by
  induction launches generalizing world with
  | nil => exact sound
  | cons launch launches ih => exact ih (run_launch sound launch)

/-- Behind a complete backfill every successful transaction up to the live checkpoint is stored, and
no save ever came before the writes that it stands for. -/
theorem indexer_never_skips (programId : List Char) (launches : List (Launch Signature)) :
    ((World.fresh.launched programId launches).database.loadBackfillCheckpoint.completed = true →
      ∀ checkpoint ∈ (World.fresh.launched programId launches).database.liveCheckpoint,
        ∃ older entry newer,
          (World.fresh.launched programId launches).history = older ++ entry :: newer ∧
          entry.signature = checkpoint.signature ∧
          ∀ other ∈ older ++ [entry], other.err = false →
            ∃ row ∈ (World.fresh.launched programId launches).database.chainTransactions,
              row.signature = other.signature) ∧
    ∀ later effect earlier,
      (World.fresh.launched programId launches).effects = later ++ effect :: earlier →
        Justified (World.fresh.launched programId launches).history earlier effect := by
  have sound : Sound (World.fresh.launched programId launches) := run_launches fresh_sound launches
  refine ⟨fun completed checkpoint stands => ?_, sound.recorded.justified⟩
  exact (ready_iff.mpr ⟨sound, completed⟩).stands checkpoint stands

end

def Sample.posted (signature : Nat) : FinalizedTransaction Nat :=
  ⟨signature, signature, false, none, some 0, []⟩

def Sample.quiet (effects : Nat) : List (Moment Nat) := List.replicate effects ⟨[], false⟩

/-- The first transaction is there before the backfill, the second one comes with a wake-up. -/
def Sample.caughtUp : List (Launch Nat) :=
  [⟨⟨2, 2⟩, ⟨[posted 1], false⟩ :: quiet 6,
    [⟨⟨1, 1⟩, quiet 4⟩, ⟨⟨1, 2⟩, ⟨[posted 2], false⟩ :: quiet 9⟩]⟩]

theorem indexer_never_skips_caughtUp : ∀ signature ∈ [1, 2],
    ∃ row ∈ (World.fresh.launched [] Sample.caughtUp).database.chainTransactions,
      row.signature = signature := by
  have stands : (World.fresh.launched [] Sample.caughtUp).database.liveCheckpoint =
      some ⟨2, 2, some 0⟩ := rfl
  have history : (World.fresh.launched [] Sample.caughtUp).history =
      [Sample.posted 1, Sample.posted 2] := rfl
  obtain ⟨older, entry, newer, split, saved, rows⟩ :=
    (indexer_never_skips [] Sample.caughtUp).1 rfl _ stands
  rw [history] at split
  have last : older = [Sample.posted 1] ∧ entry = Sample.posted 2 := by
    match older, split with
    | [], split =>
        cases split
        cases saved
    | [_], split =>
        cases split
        exact ⟨rfl, rfl⟩
    | [_, _], split => cases split
    | _ :: _ :: _ :: _, split => cases split
  obtain ⟨rfl, rfl⟩ := last
  intro signature among
  obtain rfl | rfl : signature = 1 ∨ signature = 2 := by simpa using among
  · exact rows (Sample.posted 1) (by simp) rfl
  · exact rows (Sample.posted 2) (by simp) rfl

end Tidebook.Proof
