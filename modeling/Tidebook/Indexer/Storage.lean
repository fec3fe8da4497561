import Tidebook.Indexer.Decoder
import Tidebook.Indexer.Rpc
import Mathlib.Data.List.MinMax
import Mathlib.Data.Prod.Lex
import Mathlib.Order.WithBot

/-! # Durable state

The rows the indexer keeps and the writes it makes to them. Each write is one database transaction.
-/

namespace Tidebook.Indexer
open Tidebook.Library

structure BackfillCheckpoint (Signature : Type) where
  beforeSignature : Option Signature
  completed : Bool
  deriving DecidableEq

structure LiveCheckpoint (Signature : Type) where
  signature : Signature
  slot : Nat
  transactionIndex : Option Nat
  deriving DecidableEq

structure Database (Signature : Type) where
  chainTransactions : List (TransactionRecord Signature)
  chainEvents : List (Signature × DecodedEventLog)
  backfillCheckpoint : Option (BackfillCheckpoint Signature)
  liveCheckpoint : Option (LiveCheckpoint Signature)

inductive StorageModelError where
  | slotExceedsBigInt (slot : Nat)
  | logIndexExceedsInteger (logIndex : Nat)
  | transactionIndexExceedsInteger (transactionIndex : Nat)

inductive StorageError (Signature : Type) where
  | model (error : StorageModelError)
  | transactionConflict (signature : Signature)
  | eventConflict (signature : Signature) (logIndex : Nat)

inductive LiveCheckpointError (Signature : Type) where
  | slotOutOfRange (slot : Nat)
  | transactionIndexOutOfRange (transactionIndex : Nat)
  | backward (stored incoming : LiveCheckpoint Signature)
  | ambiguousSameSlot (stored incoming : LiveCheckpoint Signature)
  | positionConflict (stored incoming : LiveCheckpoint Signature)

inductive UpdateDecision where
  | keep
  | replace
  deriving DecidableEq

/-- The integers that the columns hold. -/
abbrev FitsBigint (value : Nat) : Prop := value < 2 ^ 63
abbrev FitsInteger (value : Nat) : Prop := value < 2 ^ 31

namespace Database
variable {Signature : Type}

def empty : Database Signature := ⟨[], [], none, none⟩

def loadBackfillCheckpoint (database : Database Signature) : BackfillCheckpoint Signature :=
  database.backfillCheckpoint.getD ⟨none, false⟩

def saveBackfillCheckpoint (database : Database Signature) (beforeSignature : Option Signature)
    (completed : Bool) : Database Signature :=
  { database with backfillCheckpoint := some ⟨beforeSignature, completed⟩ }

section
variable [LinearOrder Signature]

/-- The conversions to the types of the columns. -/
def transactionInsert (record : TransactionRecord Signature) :
    Except (StorageError Signature) Unit := do
  require (FitsBigint record.slot) (.model (.slotExceedsBigInt record.slot))
  match record.transactionIndex with
  | some index => require (FitsInteger index) (.model (.transactionIndexExceedsInteger index))
  | none => pure ()

def eventInserts : List DecodedEventLog → Except (StorageError Signature) Unit
  | [] => pure ()
  | event :: events => do
      require (FitsInteger event.logIndex) (.model (.logIndexExceedsInteger event.logIndex))
      eventInserts events

def insertTransaction (database : Database Signature) (transaction : TransactionRecord Signature) :
    Except (StorageError Signature) (Database Signature) :=
  match database.chainTransactions.find? (·.signature = transaction.signature) with
  | none => pure { database with chainTransactions := transaction :: database.chainTransactions }
  | some stored => do
      require (stored.slot = transaction.slot ∧ stored.blockTime = transaction.blockTime ∧
          stored.logs = transaction.logs ∧ stored.transactionIndex = transaction.transactionIndex)
        (.transactionConflict transaction.signature)
      pure database

def insertEvents (signature : Signature) :
    List (Signature × DecodedEventLog) → List DecodedEventLog →
      Except (StorageError Signature) (List (Signature × DecodedEventLog))
  | rows, [] => pure rows
  | rows, event :: events =>
      match rows.find? fun row => row.1 = signature ∧ row.2.logIndex = event.logIndex with
      | none => insertEvents signature ((signature, event) :: rows) events
      | some stored => do
          require (stored.2 = event) (.eventConflict signature event.logIndex)
          insertEvents signature rows events

def persistTransaction (database : Database Signature) (transaction : TransactionRecord Signature)
    (events : List DecodedEventLog) : Except (StorageError Signature) (Database Signature) := do
  transactionInsert transaction
  eventInserts events
  let database ← database.insertTransaction transaction
  let chainEvents ← insertEvents transaction.signature database.chainEvents events
  pure { database with chainEvents := chainEvents }

/-- The key of the bootstrap order: slot, then index with missing ones last, then signature. -/
def position (row : TransactionRecord Signature) : Nat ×ₗ WithBot Nat ×ₗ Signature :=
  toLex (row.slot, toLex (row.transactionIndex, row.signature))

def loadLatestSourcePosition (database : Database Signature) : Option (LiveCheckpoint Signature) :=
  (database.chainTransactions.argmax position).map fun row =>
    ⟨row.signature, row.slot, row.transactionIndex⟩

end
end Database

section
variable {Signature : Type} [DecidableEq Signature]

def decideUpdate (stored incoming : LiveCheckpoint Signature) :
    Except (LiveCheckpointError Signature) UpdateDecision :=
  if stored.signature = incoming.signature then
    let conflictingIndex : Bool := match stored.transactionIndex, incoming.transactionIndex with
      | some storedIndex, some incomingIndex => storedIndex != incomingIndex
      | _, _ => false
    if stored.slot ≠ incoming.slot ∨ conflictingIndex then
      .error (.positionConflict stored incoming)
    else if stored.transactionIndex.isNone ∧ incoming.transactionIndex.isSome then .ok .replace
    else .ok .keep
  else if stored.slot < incoming.slot then .ok .replace
  else if incoming.slot < stored.slot then .error (.backward stored incoming)
  else match stored.transactionIndex, incoming.transactionIndex with
    | some storedIndex, some incomingIndex =>
        if storedIndex < incomingIndex then .ok .replace
        else if incomingIndex < storedIndex then .error (.backward stored incoming)
        else .error (.positionConflict stored incoming)
    | _, _ => .error (.ambiguousSameSlot stored incoming)

def indexInRange : Option Nat → Except (LiveCheckpointError Signature) Unit
  | some index => require (FitsInteger index) (.transactionIndexOutOfRange index)
  | none => pure ()

def Database.saveLiveCheckpoint (database : Database Signature)
    (incoming : LiveCheckpoint Signature) :
    Except (LiveCheckpointError Signature) (Database Signature) := do
  require (FitsBigint incoming.slot) (.slotOutOfRange incoming.slot)
  indexInRange incoming.transactionIndex
  match database.liveCheckpoint with
  | none => pure { database with liveCheckpoint := some incoming }
  | some stored =>
      let decision ← decideUpdate stored incoming
      match decision with
      | .replace => pure { database with liveCheckpoint := some incoming }
      | .keep => pure database

end
end Tidebook.Indexer
