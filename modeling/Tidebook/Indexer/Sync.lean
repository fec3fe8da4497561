import Tidebook.Indexer.Storage
import Tidebook.Library.Interrupted

/-! # Synchronization

Historical backfill and live recovery over a history that grows while they run. Every call to the
node and every write to the database is an effect that can be the last one of its run.
-/

namespace Tidebook.Indexer
open Tidebook.Library

variable {Signature : Type}

/-- What a run has done, as far as it lasts or answers matter. -/
inductive Effect (Signature : Type) where
  | fetched (before : Option Signature) (page : SignaturePage Signature)
  | persisted (signature : Signature)
  | savedBackfill (before : Option Signature) (completed : Bool)
  | savedLive (checkpoint : LiveCheckpoint Signature)

/-- The finalized history, the indexer's database and, newest first, what was done so far. -/
structure World (Signature : Type) where
  history : List (FinalizedTransaction Signature)
  distinct : (history.map FinalizedTransaction.signature).Nodup
  database : Database Signature
  effects : List (Effect Signature)

/-- Nothing is known yet; a history arrives with the first moment. -/
def World.fresh : World Signature := ⟨[], List.nodup_nil, Database.empty, []⟩

/-- Before an effect transactions arrive, and the effect may fail. -/
structure Moment (Signature : Type) where
  arrivals : List (FinalizedTransaction Signature)
  fails : Bool

abbrev Run (Signature α : Type) : Type := Program (World Signature) (Moment Signature) α

section
variable [LinearOrder Signature]

/-- A signature names one transaction. -/
def World.finalize (world : World Signature) (entry : FinalizedTransaction Signature) :
    World Signature :=
  if fresh : entry.signature ∉ world.history.map FinalizedTransaction.signature then
    { world with
      history := world.history ++ [entry]
      distinct := by
        rw [List.map_append, List.nodup_append]
        refine ⟨world.distinct, List.nodup_singleton _, ?_⟩
        rintro signature member _ (_ | ⟨_, ⟨⟩⟩) rfl
        exact fresh member }
  else world

def perform {α : Type} (act : World Signature → Option α × World Signature) : Run Signature α :=
  Program.effect fun moment world =>
    let world := moment.arrivals.foldl World.finalize world
    if moment.fails then (none, world) else act world

/-! ## Calls and writes -/

def load {α : Type} (read : Database Signature → α) : Run Signature α :=
  perform fun world => (some (read world.database), world)

def fetchSignaturePageWithBounds (before until_ : Option Signature) (limit : Nat) :
    Run Signature (SignaturePage Signature) :=
  perform fun world =>
    -- The node refuses a page without entries.
    if limit = 0 then (none, world)
    else
      let page := buildSignaturePage (signaturesForAddress world.history before until_ limit)
      (some page, { world with effects := .fetched before page :: world.effects })

def fetch (signatureRecord : SignatureRecord Signature) :
    Run Signature (TransactionRecord Signature) :=
  perform fun world => (fetchTransaction world.history signatureRecord, world)

def persist (transaction : TransactionRecord Signature) (events : List DecodedEventLog) :
    Run Signature Unit :=
  perform fun world =>
    match world.database.persistTransaction transaction events with
    | .error _ => (none, world)
    | .ok database =>
        (some (), { world with
          database := database
          effects := .persisted transaction.signature :: world.effects })

def saveBackfillCheckpoint (before : Option Signature) (completed : Bool) : Run Signature Unit :=
  perform fun world =>
    (some (), { world with
      database := world.database.saveBackfillCheckpoint before completed
      effects := .savedBackfill before completed :: world.effects })

def saveLiveCheckpoint (incoming : LiveCheckpoint Signature) : Run Signature Unit :=
  perform fun world =>
    match world.database.saveLiveCheckpoint incoming with
    | .error _ => (none, world)
    | .ok database =>
        (some (), { world with
          database := database
          effects := .savedLive incoming :: world.effects })

def processSignature (programId : List Char) (signature : SignatureRecord Signature) :
    Run Signature Unit := do
  let transaction ← fetch signature
  match (extractProgramData transaction.logs programId).mapM decodeEvent with
  | .error _ => Program.abort
  | .ok decodedEvents => persist transaction decodedEvents

/-! ## Backfill -/

structure BackfillConfig where
  signaturePageLimit : Nat
  maxPagesPerRun : Nat

inductive BackfillOutcome where
  | alreadyComplete
  | completed
  | pageLimitReached
  deriving DecidableEq

def processPage (process : SignatureRecord Signature → Run Signature Unit) :
    List (SignatureRecord Signature) → Run Signature Unit
  | [] => pure ()
  | record :: records => do
      process record
      processPage process records

def runPages (limit : Nat)
    (fetchPage : Option Signature → Nat → Run Signature (SignaturePage Signature))
    (process : SignatureRecord Signature → Run Signature Unit)
    (saveCheckpoint : Option Signature → Bool → Run Signature Unit) :
    Nat → Option Signature → Run Signature BackfillOutcome
  | 0, _ => pure .pageLimitReached
  | pages + 1, beforeSignature => do
      let page ← fetchPage beforeSignature limit
      processPage process page.records
      let completed := page.nextBefore.isNone
      saveCheckpoint (page.nextBefore.or beforeSignature) completed
      if completed then pure .completed
      else runPages limit fetchPage process saveCheckpoint pages page.nextBefore

def runBackfill (programId : List Char) (config : BackfillConfig) :
    Run Signature BackfillOutcome := do
  let checkpoint ← load Database.loadBackfillCheckpoint
  if checkpoint.completed then pure .alreadyComplete
  else
    runPages config.signaturePageLimit (fetchSignaturePageWithBounds · none)
      (processSignature programId) saveBackfillCheckpoint config.maxPagesPerRun
      checkpoint.beforeSignature

/-! ## Live recovery -/

structure LiveGapConfig where
  signaturePageLimit : Nat
  maxPages : Nat

inductive LiveGapOutcome (Signature : Type) where
  | caughtUp (records : List (SignatureRecord Signature))
  | pageLimitReached

inductive LiveCatchupOutcome where
  | caughtUp (processed : Nat)
  | pageLimitReached
  deriving DecidableEq

/-- The pages are kept in the order of the answers, newest first. -/
def gapPages {σ μ : Type} (limit : Nat)
    (fetchPage : Option Signature → Nat → Program σ μ (SignaturePage Signature)) :
    Nat → Option Signature → List (List (SignatureRecord Signature)) →
      Program σ μ (LiveGapOutcome Signature)
  | 0, _, _ => pure .pageLimitReached
  | more + 1, before, pages => do
      let page ← fetchPage before limit
      let pages := pages ++ [page.records]
      if page.nextBefore.isNone then pure (.caughtUp pages.reverse.flatten)
      else if page.nextBefore = before then Program.abort
      else gapPages limit fetchPage more page.nextBefore pages

def collectGapPages {σ μ : Type} (config : LiveGapConfig)
    (fetchPage : Option Signature → Nat → Program σ μ (SignaturePage Signature)) :
    Program σ μ (LiveGapOutcome Signature) :=
  if config.signaturePageLimit = 0 ∨ config.maxPages = 0 then Program.abort
  else gapPages config.signaturePageLimit fetchPage config.maxPages none []

def processRecords (process : SignatureRecord Signature → Run Signature Unit)
    (saveCheckpoint : LiveCheckpoint Signature → Run Signature Unit) :
    Nat → List (SignatureRecord Signature) → Run Signature Nat
  | processed, [] => pure processed
  | processed, record :: records => do
      process record
      saveCheckpoint ⟨record.signature, record.slot, record.transactionIndex⟩
      processRecords process saveCheckpoint (processed + 1) records

def processGapRecords (gap : LiveGapOutcome Signature)
    (process : SignatureRecord Signature → Run Signature Unit)
    (saveCheckpoint : LiveCheckpoint Signature → Run Signature Unit) :
    Run Signature LiveCatchupOutcome :=
  match gap with
  | .pageLimitReached => pure .pageLimitReached
  | .caughtUp records => do
      let processed ← processRecords process saveCheckpoint 0 records
      pure (.caughtUp processed)

def runLiveCatchup (programId : List Char) (checkpoint : Option (LiveCheckpoint Signature))
    (config : LiveGapConfig) : Run Signature LiveCatchupOutcome := do
  let gap ← collectGapPages config
    (fetchSignaturePageWithBounds · (checkpoint.map LiveCheckpoint.signature))
  processGapRecords gap (processSignature programId) saveLiveCheckpoint

def loadOrInitializeLiveCheckpoint : Run Signature (Option (LiveCheckpoint Signature)) := do
  let checkpoint ← load Database.liveCheckpoint
  match checkpoint with
  | some checkpoint => pure (some checkpoint)
  | none => do
      let sourcePosition ← load Database.loadLatestSourcePosition
      match sourcePosition with
      | none => pure none
      | some sourcePosition => do
          saveLiveCheckpoint sourcePosition
          pure (some sourcePosition)

def recoverLiveGap (programId : List Char) (config : LiveGapConfig) :
    Run Signature LiveCatchupOutcome := do
  let checkpoint ← loadOrInitializeLiveCheckpoint
  runLiveCatchup programId checkpoint config

/-! ## Process runs -/

structure Wakeup (Signature : Type) where
  config : LiveGapConfig
  moments : List (Moment Signature)

/-- One start of the process: the backfill and the wake-ups that follow while it stays up. -/
structure Launch (Signature : Type) where
  config : BackfillConfig
  moments : List (Moment Signature)
  wakeups : List (Wakeup Signature)

def Wakeup.run (programId : List Char) (world : World Signature) (wakeup : Wakeup Signature) :
    World Signature :=
  (recoverLiveGap programId wakeup.config world wakeup.moments).state

/-- Live synchronization starts only behind a complete backfill. -/
def Launch.run (programId : List Char) (world : World Signature) (launch : Launch Signature) :
    World Signature :=
  let backfill := runBackfill programId launch.config world launch.moments
  if backfill.result = some .alreadyComplete ∨ backfill.result = some .completed then
    launch.wakeups.foldl (Wakeup.run programId) backfill.state
  else backfill.state

def World.launched (programId : List Char) (world : World Signature)
    (launches : List (Launch Signature)) : World Signature :=
  launches.foldl (Launch.run programId) world

end
end Tidebook.Indexer
