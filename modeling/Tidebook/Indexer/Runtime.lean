import Tidebook.Indexer.Logs

/-! # Execution logs

What the runtime writes while a transaction runs: the tree of its program invocations and the lines
this tree is rendered to.
-/

namespace Tidebook.Indexer

def base58Alphabet : List Char :=
  "123456789ABCDEFGHJKLMNPQRSTUVWXYZabcdefghijkmnopqrstuvwxyz".toList

def base64Alphabet : List Char :=
  "ABCDEFGHIJKLMNOPQRSTUVWXYZabcdefghijklmnopqrstuvwxyz0123456789+/=".toList

/-- A program's key as it is written. -/
structure ProgramKey where
  text : List Char
  long : 32 ≤ text.length
  short : text.length ≤ 44
  spelled : text ⊆ base58Alphabet
  deriving DecidableEq

/-- The slices of a data line, each in Base64, with blanks between them. -/
structure Payload where
  text : List Char
  spelled : text ⊆ ' ' :: base64Alphabet
  deriving DecidableEq

inductive Ending where
  | success
  | failed (reason : List Char)

/-- What a running program does, in order. -/
inductive Activity where
  | done
  | data (payload : Payload) (rest : Activity)
  | message (text : List Char) (rest : Activity)
  | consumed (units limit : Nat) (rest : Activity)
  | returned (payload : Payload) (rest : Activity)
  | invoke (program : ProgramKey) (inner : Activity) (ending : Ending) (rest : Activity)

structure Invocation where
  program : ProgramKey
  inner : Activity
  ending : Ending

abbrev Transaction := List Invocation

/-- One line of the log, under the program that caused it. -/
inductive Line where
  | invoked (program : ProgramKey) (depth : Nat)
  | completed (program : ProgramKey) (ending : Ending)
  | data (program : ProgramKey) (payload : Payload)
  | message (text : List Char)
  | consumed (program : ProgramKey) (units limit : Nat)
  | returned (program : ProgramKey) (payload : Payload)

/-! ## Rendering

Each word stands with the blank that follows it, where one does.
-/

def programWord : List Char := ['P', 'r', 'o', 'g', 'r', 'a', 'm', ' ']
def invokeWord : List Char := ['i', 'n', 'v', 'o', 'k', 'e', ' ']
def successWord : List Char := ['s', 'u', 'c', 'c', 'e', 's', 's']
def failedWord : List Char := ['f', 'a', 'i', 'l', 'e', 'd', ':', ' ']
def dataWord : List Char := ['d', 'a', 't', 'a', ':', ' ']
def logWord : List Char := ['l', 'o', 'g', ':', ' ']
def returnWord : List Char := ['r', 'e', 't', 'u', 'r', 'n', ':', ' ']
def consumedWord : List Char := ['c', 'o', 'n', 's', 'u', 'm', 'e', 'd', ' ']
def ofWord : List Char := ['o', 'f', ' ']
def unitsWord : List Char := ['c', 'o', 'm', 'p', 'u', 't', 'e', ' ', 'u', 'n', 'i', 't', 's']

def numeral (number : Nat) : List Char := Nat.toDigits 10 number

def Line.text : Line → List Char
  | .invoked program depth =>
      programWord ++ program.text ++ ' ' :: invokeWord ++ '[' :: numeral depth ++ [']']
  | .completed program .success => programWord ++ program.text ++ ' ' :: successWord
  | .completed program (.failed reason) =>
      programWord ++ program.text ++ ' ' :: failedWord ++ reason
  | .data _ payload => programWord ++ dataWord ++ payload.text
  | .message text => programWord ++ logWord ++ text
  | .consumed program units limit =>
      programWord ++ program.text ++ ' ' :: consumedWord ++ numeral units ++
        ' ' :: ofWord ++ numeral limit ++ ' ' :: unitsWord
  | .returned program payload =>
      programWord ++ returnWord ++ program.text ++ ' ' :: payload.text

def Activity.lines (program : ProgramKey) (depth : Nat) : Activity → List Line
  | .done => []
  | .data payload rest => .data program payload :: rest.lines program depth
  | .message text rest => .message text :: rest.lines program depth
  | .consumed units limit rest => .consumed program units limit :: rest.lines program depth
  | .returned payload rest => .returned program payload :: rest.lines program depth
  | .invoke callee inner ending rest =>
      .invoked callee (depth + 1) :: inner.lines callee (depth + 1) ++
        .completed callee ending :: rest.lines program depth

def Invocation.lines (invocation : Invocation) : List Line :=
  .invoked invocation.program 1 :: invocation.inner.lines invocation.program 1 ++
    [.completed invocation.program invocation.ending]

def Transaction.lines (transaction : Transaction) : List Line :=
  transaction.flatMap Invocation.lines

def Transaction.logs (transaction : Transaction) : List (List Char) :=
  transaction.lines.map Line.text

/-- The event that a line carries when the target program itself wrote it. -/
def Line.event (target : ProgramKey) : Line × Nat → Option RawEventLog
  | (.data program payload, index) => if program = target then some ⟨index, payload.text⟩ else none
  | _ => none

/-- What the target program emitted, by its place in the log. -/
def Transaction.emitted (transaction : Transaction) (target : ProgramKey) : List RawEventLog :=
  transaction.lines.zipIdx.filterMap (Line.event target)

end Tidebook.Indexer
