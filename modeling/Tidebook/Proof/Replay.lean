import Tidebook.Proof.Checkpoints

/-! # Replayed transactions

A transaction that comes again after its rows were written, against the two rules for a replay.
-/

namespace Tidebook.Proof
open Library Indexer

variable {Signature : Type} [LinearOrder Signature]

/-! ## Event rows -/

def eventAt (rows : List (Signature × DecodedEventLog)) (signature : Signature) (logIndex : Nat) :
    Option (Signature × DecodedEventLog) :=
  rows.find? fun row => row.1 = signature ∧ row.2.logIndex = logIndex

section
variable {rows later : List (Signature × DecodedEventLog)} {signature other : Signature}
  {logIndex : Nat} {event : DecodedEventLog} {row : Signature × DecodedEventLog}

theorem eventAt_key (found : eventAt rows signature logIndex = some row) :
    row.1 = signature ∧ row.2.logIndex = logIndex := by
  have holds := List.find?_some found
  exact of_decide_eq_true holds

theorem eventAt_cons (absent : eventAt rows signature event.logIndex = none)
    (found : eventAt rows other logIndex = some row) :
    eventAt ((signature, event) :: rows) other logIndex = some row := by
  have apart : ¬(signature = other ∧ event.logIndex = logIndex) := by
    rintro ⟨rfl, rfl⟩
    cases absent.symm.trans found
  unfold eventAt
  rw [List.find?_cons_of_neg (by simpa using apart)]
  exact found

theorem eventAt_head : eventAt ((signature, event) :: rows) signature event.logIndex =
    some (signature, event) :=
  List.find?_cons_of_pos (by simp)

/-- Writing events keeps the rows there are, and afterwards every event has its row. -/
theorem insertEvents_ok {events : List DecodedEventLog}
    (done : Database.insertEvents signature rows events = .ok later) :
    (∀ other logIndex row, eventAt rows other logIndex = some row →
      eventAt later other logIndex = some row) ∧
    ∀ event ∈ events, eventAt later signature event.logIndex = some (signature, event) := by
  induction events generalizing rows with
  | nil =>
      cases done
      exact ⟨fun _ _ _ => id, by simp⟩
  | cons first events ih =>
      simp only [Database.insertEvents] at done
      cases found : eventAt rows signature first.logIndex with
      | none =>
          simp only [show rows.find? _ = none from found] at done
          obtain ⟨keeps, written⟩ := ih done
          refine ⟨fun other logIndex row stored => keeps _ _ _ (eventAt_cons found stored), ?_⟩
          rintro event (_ | ⟨_, member⟩)
          · exact keeps _ _ _ eventAt_head
          · exact written event member
      | some stored =>
          simp only [show rows.find? _ = some stored from found, bind_eq_ok, require_eq_ok] at done
          obtain ⟨-, same, done⟩ := done
          obtain ⟨keeps, written⟩ := ih done
          refine ⟨keeps, ?_⟩
          rintro event (_ | ⟨_, member⟩)
          · obtain ⟨key, -⟩ := eventAt_key found
            refine keeps _ _ _ (found.trans (congrArg some ?_))
            exact Prod.ext key same
          · exact written event member

theorem insertEvents_again {events : List DecodedEventLog}
    (written : ∀ event ∈ events,
      eventAt rows signature event.logIndex = some (signature, event)) :
    Database.insertEvents signature rows events = .ok rows := by
  induction events with
  | nil => rfl
  | cons first events ih =>
      have found : rows.find? _ = some (signature, first) := written first List.mem_cons_self
      simp only [Database.insertEvents, found, bind_eq_ok, require_eq_ok]
      exact ⟨(), trivial, ih fun event member => written event (List.mem_cons_of_mem _ member)⟩

end

/-! ## Transaction rows -/

structure Persisted (database : Database Signature) (transaction : TransactionRecord Signature)
    (events : List DecodedEventLog) : Prop where
  converts : Database.transactionInsert transaction = .ok ()
  eventsConvert : Database.eventInserts events = (.ok () : Except (StorageError Signature) Unit)
  row : database.chainTransactions.find? (·.signature = transaction.signature) = some transaction
  events : ∀ event ∈ events, eventAt database.chainEvents transaction.signature event.logIndex =
    some (transaction.signature, event)

section
variable {database later stored : Database Signature} {transaction other : TransactionRecord Signature}
  {events written : List DecodedEventLog}

theorem insertTransaction_ok (done : database.insertTransaction transaction = .ok later) :
    later.chainEvents = database.chainEvents ∧
    (∀ signature row, database.chainTransactions.find? (·.signature = signature) = some row →
      later.chainTransactions.find? (·.signature = signature) = some row) ∧
    later.chainTransactions.find? (·.signature = transaction.signature) = some transaction := by
  unfold Database.insertTransaction at done
  cases found : database.chainTransactions.find? (·.signature = transaction.signature) with
  | none =>
      simp only [found] at done
      cases done
      refine ⟨rfl, fun signature row stored => ?_, List.find?_cons_of_pos (by simp)⟩
      have apart : transaction.signature ≠ signature := by
        rintro rfl
        cases found.symm.trans stored
      rw [List.find?_cons_of_neg (by simpa using apart)]
      exact stored
  | some row =>
      simp only [found, bind_eq_ok, require_eq_ok, pure_eq_ok] at done
      obtain ⟨-, ⟨slot, time, logs, index⟩, rfl⟩ := done
      have holds := List.find?_some found
      have same : row.signature = transaction.signature := of_decide_eq_true holds
      refine ⟨rfl, fun _ _ => id, found.trans (congrArg some ?_)⟩
      obtain ⟨signature, _, _, _, _⟩ := row
      obtain ⟨_, _, _, _, _⟩ := transaction
      cases same
      cases slot
      cases time
      cases logs
      cases index
      rfl

theorem persistTransaction_persisted
    (done : database.persistTransaction transaction events = .ok later) :
    Persisted later transaction events := by
  simp only [Database.persistTransaction, bind_eq_ok, pure_eq_ok] at done
  obtain ⟨⟨⟩, converts, ⟨⟩, eventsConvert, between, inserted, rows, wrote, rfl⟩ := done
  obtain ⟨-, -, row⟩ := insertTransaction_ok inserted
  exact ⟨converts, eventsConvert, row, (insertEvents_ok wrote).2⟩

theorem Persisted.keep (persisted : Persisted database transaction events)
    (done : database.persistTransaction other written = .ok later) :
    Persisted later transaction events := by
  simp only [Database.persistTransaction, bind_eq_ok, pure_eq_ok] at done
  obtain ⟨⟨⟩, -, ⟨⟩, -, between, inserted, rows, wrote, rfl⟩ := done
  obtain ⟨same, keeps, -⟩ := insertTransaction_ok inserted
  rw [same] at wrote
  exact ⟨persisted.converts, persisted.eventsConvert, keeps _ _ persisted.row,
    fun event member => (insertEvents_ok wrote).1 _ _ _ (persisted.events event member)⟩

def Database.persist (database : Database Signature)
    (write : TransactionRecord Signature × List DecodedEventLog) : Database Signature :=
  match database.persistTransaction write.1 write.2 with
  | .ok later => later
  | .error _ => database

theorem Persisted.run (persisted : Persisted database transaction events)
    (writes : List (TransactionRecord Signature × List DecodedEventLog)) :
    Persisted (writes.foldl Database.persist database) transaction events := by
  induction writes generalizing database with
  | nil => exact persisted
  | cons write writes ih =>
      refine ih ?_
      unfold Database.persist
      cases done : database.persistTransaction write.1 write.2 with
      | error failure => exact persisted
      | ok later => exact persisted.keep done

/-- A replay with another availability of the index meets the stored row, and nothing else. -/
theorem Persisted.replay (persisted : Persisted database transaction events)
    {index : Option Nat} :
    (∃ later, database.persistTransaction { transaction with transactionIndex := index } events =
      .ok later) ↔ index = transaction.transactionIndex := by
  constructor
  · rintro ⟨later, done⟩
    have row := (persistTransaction_persisted done).row
    rw [(persisted.keep done).row] at row
    exact (congrArg TransactionRecord.transactionIndex (Option.some.inj row)).symm
  · rintro rfl
    refine ⟨database, ?_⟩
    simp only [Database.persistTransaction, bind_eq_ok, pure_eq_ok]
    refine ⟨(), persisted.converts, (), persisted.eventsConvert, database, ?_, _,
      insertEvents_again persisted.events, rfl⟩
    simp only [Database.insertTransaction, persisted.row, bind_eq_ok, require_eq_ok, pure_eq_ok]
    exact ⟨(), by simp⟩

omit [LinearOrder Signature] in
theorem transactionInsert_reindex {index : Option Nat}
    (converts : Database.transactionInsert transaction = .ok ())
    (fits : ∀ i ∈ index, FitsInteger i) :
    Database.transactionInsert { transaction with transactionIndex := index } = .ok () := by
  simp only [Database.transactionInsert, bind_eq_ok, require_eq_ok] at converts ⊢
  obtain ⟨-, slot, -⟩ := converts
  refine ⟨(), slot, ?_⟩
  cases index with
  | none => rfl
  | some i => exact require_eq_ok.mpr (fits i rfl)

theorem Persisted.conflict (persisted : Persisted database transaction events)
    {index : Option Nat} (fits : ∀ i ∈ index, FitsInteger i)
    (differs : index ≠ transaction.transactionIndex) :
    database.persistTransaction { transaction with transactionIndex := index } events =
      .error (.transactionConflict transaction.signature) := by
  simp only [Database.persistTransaction, bind_eq_error]
  refine .inr ⟨(), transactionInsert_reindex persisted.converts fits, .inr ⟨(),
    persisted.eventsConvert, .inl ?_⟩⟩
  simp only [Database.insertTransaction, persisted.row, bind_eq_error, require_eq_error]
  exact .inl ⟨fun same => differs same.2.2.2.symm, trivial⟩

/-- The rule for checkpoints accepts every replay that differs in the availability of the index;
the rule for source rows accepts those that carry the same one. -/
theorem replay_accepted_iff (database stored : Database Signature)
    (transaction : TransactionRecord Signature) (events : List DecodedEventLog)
    (persisted : database.persistTransaction transaction events = .ok stored)
    (writes : List (TransactionRecord Signature × List DecodedEventLog)) (index : Option Nat)
    (available : index = none ∨ transaction.transactionIndex = none ∨
      index = transaction.transactionIndex) :
    decideUpdate ⟨transaction.signature, transaction.slot, transaction.transactionIndex⟩
        ⟨transaction.signature, transaction.slot, index⟩ =
      .ok (if transaction.transactionIndex.isNone ∧ index.isSome then .replace else .keep) ∧
    ((∃ later, (writes.foldl Database.persist stored).persistTransaction
        { transaction with transactionIndex := index } events = .ok later) ↔
      index = transaction.transactionIndex) ∧
    ((∀ i ∈ index, FitsInteger i) → index ≠ transaction.transactionIndex →
      (writes.foldl Database.persist stored).persistTransaction
          { transaction with transactionIndex := index } events =
        .error (.transactionConflict transaction.signature)) := by
  have run := (persistTransaction_persisted persisted).run writes
  refine ⟨?_, run.replay, run.conflict⟩
  unfold decideUpdate
  rcases available with rfl | unknown | rfl
  · cases transaction.transactionIndex <;> simp
  · rw [unknown]
    cases index <;> simp
  · cases transaction.transactionIndex <;> simp

/-- A transaction without an index, and the replay that knows it. -/
def sampleRecord : TransactionRecord Nat := ⟨1, 100, none, [], none⟩

def sampleStored : Database Nat := ⟨[sampleRecord], [], none, none⟩

theorem replay_accepted_sample :
    ∃ later, sampleStored.persistTransaction sampleRecord [] = .ok later :=
  (replay_accepted_iff .empty sampleStored sampleRecord [] rfl [] none (.inl rfl)).2.1.mpr rfl

/-- The index that became known is an enrichment for the checkpoint and a conflict for the row. -/
theorem enriched_replay_conflicts :
    Database.empty.persistTransaction sampleRecord [] = .ok sampleStored ∧
    decideUpdate (⟨1, 100, none⟩ : LiveCheckpoint Nat) ⟨1, 100, some 0⟩ = .ok .replace ∧
    sampleStored.persistTransaction { sampleRecord with transactionIndex := some 0 } [] =
      .error (.transactionConflict 1) :=
  ⟨rfl, rfl, rfl⟩

end
end Tidebook.Proof
