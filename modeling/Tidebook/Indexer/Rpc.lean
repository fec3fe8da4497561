import Mathlib.Data.List.Basic

/-! # Signature pages

The finalized history of the program and the pages of it that the RPC node serves. A history is
listed from its oldest transaction to its newest; the node answers newest first.
-/

namespace Tidebook.Indexer

structure FinalizedTransaction (Signature : Type) where
  signature : Signature
  slot : Nat
  err : Bool
  blockTime : Option Int
  transactionIndex : Option Nat
  logs : List (List Char)

structure SignatureRecord (Signature : Type) where
  signature : Signature
  slot : Nat
  blockTime : Option Int
  transactionIndex : Option Nat
  deriving DecidableEq

structure TransactionRecord (Signature : Type) where
  signature : Signature
  slot : Nat
  blockTime : Option Int
  logs : List (List Char)
  transactionIndex : Option Nat
  deriving DecidableEq

structure SignaturePage (Signature : Type) where
  records : List (SignatureRecord Signature)
  nextBefore : Option Signature
  deriving DecidableEq

section
variable {Signature : Type} [DecidableEq Signature]

def FinalizedTransaction.record (entry : FinalizedTransaction Signature) :
    SignatureRecord Signature where
  signature := entry.signature
  slot := entry.slot
  blockTime := entry.blockTime
  transactionIndex := entry.transactionIndex

def olderThan (before : Option Signature) (entries : List (FinalizedTransaction Signature)) :
    List (FinalizedTransaction Signature) :=
  match before with
  | none => entries
  | some signature => entries.takeWhile (·.signature ≠ signature)

def newerThan (until_ : Option Signature) (entries : List (FinalizedTransaction Signature)) :
    List (FinalizedTransaction Signature) :=
  match until_ with
  | none => entries
  | some signature => (entries.dropWhile (·.signature ≠ signature)).tail

/-- The answer of the node: at most so many transactions strictly between the bounds, newest first. -/
def signaturesForAddress (history : List (FinalizedTransaction Signature))
    (before until_ : Option Signature) (limit : Nat) : List (FinalizedTransaction Signature) :=
  (newerThan until_ (olderThan before history)).reverse.take limit

def buildSignaturePage (entries : List (FinalizedTransaction Signature)) :
    SignaturePage Signature where
  nextBefore := entries.getLast?.map FinalizedTransaction.signature
  records := ((entries.filter (!·.err)).map FinalizedTransaction.record).reverse

/-- A failed transaction is no source record. -/
def fetchTransaction (history : List (FinalizedTransaction Signature))
    (signatureRecord : SignatureRecord Signature) : Option (TransactionRecord Signature) := do
  let entry ← history.find? (·.signature = signatureRecord.signature)
  if entry.err then none
  pure {
    signature := signatureRecord.signature
    slot := entry.slot
    blockTime := entry.blockTime
    logs := entry.logs
    transactionIndex := signatureRecord.transactionIndex }

end
end Tidebook.Indexer
