import Mathlib.Data.List.Infix

/-! # Log extraction

Selects the data lines of one program from the log of a transaction. A log line is a list of
characters and a program is named by the text of its key.
-/

namespace Tidebook.Indexer

structure RawEventLog where
  logIndex : Nat
  payloadBase64 : List Char
  deriving DecidableEq

def programPrefix : List Char := ['P', 'r', 'o', 'g', 'r', 'a', 'm', ' ']
def invokeMarker : List Char := [' ', 'i', 'n', 'v', 'o', 'k', 'e', ' ', '[']
def successSuffix : List Char := [' ', 's', 'u', 'c', 'c', 'e', 's', 's']
def failedMarker : List Char := [' ', 'f', 'a', 'i', 'l', 'e', 'd', ':', ' ']
def programDataPrefix : List Char :=
  ['P', 'r', 'o', 'g', 'r', 'a', 'm', ' ', 'd', 'a', 't', 'a', ':', ' ']

def parseInvocation (log : List Char) : Option (List Char) := do
  let remainder ← log.dropPrefix? programPrefix
  let (programId, _) ← remainder.dropInfix? invokeMarker
  pure programId

def parseCompletion (log : List Char) : Option (List Char) := do
  let remainder ← log.dropPrefix? programPrefix
  match remainder.dropSuffix? successSuffix with
  | some programId => pure programId
  | none => (remainder.dropInfix? failedMarker).map Prod.fst

/-- The running programs, innermost first, and the events found so far. -/
structure Extraction where
  invocationStack : List (List Char)
  events : List RawEventLog
  deriving DecidableEq

def Extraction.scan (targetProgram : List Char) (state : Extraction) (line : List Char × Nat) :
    Extraction :=
  let (log, logIndex) := line
  match parseInvocation log with
  | some invokedProgram =>
      { state with invocationStack := invokedProgram :: state.invocationStack }
  | none =>
      match log.dropPrefix? programDataPrefix with
      | some payload =>
          if state.invocationStack.head? = some targetProgram then
            { state with events := state.events ++ [⟨logIndex, payload⟩] }
          else state
      | none =>
          match parseCompletion log with
          | some completedProgram =>
              if state.invocationStack.head? = some completedProgram then
                { state with invocationStack := state.invocationStack.tail }
              else state
          | none => state

def extractProgramData (logs : List (List Char)) (targetProgram : List Char) : List RawEventLog :=
  (logs.zipIdx.foldl (Extraction.scan targetProgram) ⟨[], []⟩).events

end Tidebook.Indexer
