import Tidebook.Indexer.Runtime
import Tidebook.Library.Text
import Mathlib.Data.Set.Basic

/-! # Exact log extraction

Which texts keep the extraction of data lines exact. The parser looks for the invocation marker in
every line, and for the completion markers in every line that is neither an invocation nor data.
-/

namespace Tidebook.Proof
open Library Indexer

/-! ## Reading single lines -/

theorem key_lacks (program : ProgramKey) {char : Char} (foreign : char ∉ base58Alphabet) :
    char ∉ program.text :=
  fun member => foreign (program.spelled member)

theorem payload_lacks (payload : Payload) {char : Char} (foreign : char ∉ ' ' :: base64Alphabet) :
    char ∉ payload.text :=
  fun member => foreign (payload.spelled member)

theorem numeral_lacks (number : Nat) {char : Char} (other : char.isDigit = false) :
    char ∉ numeral number := by
  intro member
  rw [Nat.isDigit_of_mem_toDigits (by decide) le_rfl member] at other
  cases other

theorem parseInvocation_program (rest : List Char) :
    parseInvocation (programPrefix ++ rest) = (rest.dropInfix? invokeMarker).map Prod.fst := by
  rw [parseInvocation, dropPrefix?_eq_some.mpr rfl]
  exact (Option.map_eq_bind ..).symm

theorem parseInvocation_eq_none {rest : List Char} :
    parseInvocation (programPrefix ++ rest) = none ↔ ¬invokeMarker <:+: rest := by
  rw [parseInvocation_program, Option.map_eq_none_iff, dropInfix?_eq_none]

theorem parseCompletion_program (rest : List Char) :
    parseCompletion (programPrefix ++ rest) = match rest.dropSuffix? successSuffix with
      | some programId => some programId
      | none => (rest.dropInfix? failedMarker).map Prod.fst := by
  rw [parseCompletion, dropPrefix?_eq_some.mpr rfl]
  rfl

theorem completion_stands {rest name : List Char}
    (read : parseCompletion (programPrefix ++ rest) = some name) :
    rest = name ++ successSuffix ∨ ∃ reason, rest = name ++ failedMarker ++ reason := by
  rw [parseCompletion_program] at read
  split at read
  · next found =>
      cases read
      exact .inl (dropSuffix?_eq_some.mp found)
  · next other =>
      obtain ⟨⟨front, reason⟩, found, rfl⟩ := Option.map_eq_some_iff.mp read
      exact .inr ⟨reason, append_of_dropInfix? found⟩

theorem completion_first {word rest : List Char} {program : ProgramKey} (clear : ' ' ∉ word)
    (read : parseCompletion (programPrefix ++ (word ++ ' ' :: rest)) = some program.text) :
    word = program.text ∧ (rest = successWord ∨ ∃ reason, rest = failedWord ++ reason) := by
  have blank : ' ' ∉ program.text := key_lacks program (by decide)
  rcases completion_stands read with same | ⟨reason, same⟩
  · obtain ⟨first, later⟩ := append_cons_inj_of_clear clear blank same
    exact ⟨first, .inl later⟩
  · rw [List.append_assoc] at same
    obtain ⟨first, later⟩ := append_cons_inj_of_clear clear blank same
    exact ⟨first, .inr ⟨reason, later⟩⟩

/-! ## Texts that deceive the parser -/

/-- A text after which the parser takes the program itself for one more invocation. -/
def Marked (text : List Char) : Prop := invokeMarker <:+: ' ' :: text

/-- A failure that the parser does not take for the end of the program that failed. -/
def Obscured (reason : List Char) : Prop := Marked reason ∨ successSuffix <:+ ' ' :: reason

theorem parseInvocation_message {text : List Char} :
    parseInvocation (Line.text (.message text)) = none ↔ ¬Marked text := by
  have split : Line.text (.message text) = programPrefix ++ (['l', 'o', 'g', ':'] ++ ' ' :: text) :=
    rfl
  rw [split, parseInvocation_eq_none]
  exact not_congr (infix_append_of_clear (by decide))

theorem text_failed (program : ProgramKey) (reason : List Char) :
    Line.text (.completed program (.failed reason)) =
      programPrefix ++ (program.text ++ failedMarker ++ reason) := by
  simp [Line.text, programPrefix, programWord, failedMarker, failedWord]

theorem parseInvocation_failed {program : ProgramKey} {reason : List Char} :
    parseInvocation (Line.text (.completed program (.failed reason))) = none ↔ ¬Marked reason := by
  rw [text_failed, parseInvocation_eq_none, List.append_assoc]
  refine not_congr ((infix_append_of_clear (key_lacks program (by decide))).trans ?_)
  -- The only other blank is the one in front of the reason.
  have clear : ' ' ∉ ['f', 'a', 'i', 'l', 'e', 'd', ':'] := by decide
  refine (infix_cons_of_ne ?_).trans (infix_append_of_clear clear)
  rintro ⟨rest, same⟩
  simp at same

theorem parseCompletion_failed {program : ProgramKey} {reason : List Char} :
    parseCompletion (Line.text (.completed program (.failed reason))) = some program.text ↔
      ¬successSuffix <:+ ' ' :: reason := by
  have blank : ' ' ∉ program.text := key_lacks program (by decide)
  have ending : successSuffix <:+ program.text ++ failedMarker ++ reason ↔
      successSuffix <:+ ' ' :: reason := by
    have split : program.text ++ failedMarker ++ reason =
        program.text ++ [' ', 'f', 'a', 'i', 'l', 'e', 'd', ':'] ++ ' ' :: reason := by
      simp [failedMarker]
    rw [split]
    exact suffix_append_of_once (by decide)
  rw [text_failed, parseCompletion_program]
  by_cases obscured : successSuffix <:+ ' ' :: reason
  · refine iff_of_false ?_ (not_not.mpr obscured)
    obtain ⟨front, same⟩ := ending.mpr obscured
    rw [dropSuffix?_eq_some.mpr same.symm]
    intro read
    cases read
    rw [List.append_assoc] at same
    cases List.append_cancel_left same
  · refine iff_of_true ?_ obscured
    rw [dropSuffix?_eq_none.mpr (mt ending.mp obscured)]
    exact congrArg (Option.map Prod.fst) (dropInfix?_of_clear blank)

/-! ## What a line does to the parser -/

def firstWord : Line → List Char
  | .invoked program _ => program.text
  | .completed program _ => program.text
  | .data _ _ => ['d', 'a', 't', 'a', ':']
  | .message _ => ['l', 'o', 'g', ':']
  | .consumed program _ _ => program.text
  | .returned _ _ => ['r', 'e', 't', 'u', 'r', 'n', ':']

def laterWords : Line → List Char
  | .invoked _ depth => invokeWord ++ '[' :: numeral depth ++ [']']
  | .completed _ .success => successWord
  | .completed _ (.failed reason) => failedWord ++ reason
  | .data _ payload => payload.text
  | .message text => text
  | .consumed _ units limit =>
      consumedWord ++ numeral units ++ ' ' :: ofWord ++ numeral limit ++ ' ' :: unitsWord
  | .returned program payload => program.text ++ ' ' :: payload.text

theorem text_words (line : Line) :
    line.text = programPrefix ++ (firstWord line ++ ' ' :: laterWords line) := by
  unfold Line.text firstWord laterWords
  split <;> simp [programPrefix, programWord, dataWord, logWord, returnWord]

theorem firstWord_clear (line : Line) : ' ' ∉ firstWord line := by
  cases line with
  | invoked program _ | completed program _ | consumed program _ _ =>
      exact key_lacks program (by decide)
  | data | message | returned => simp [firstWord]

theorem key_ne {program : ProgramKey} {word : List Char} (colon : ':' ∈ word) :
    word ≠ program.text := by
  rintro rfl
  exact key_lacks program (by decide) colon

theorem not_data {line : Line} (other : firstWord line ≠ ['d', 'a', 't', 'a', ':']) :
    line.text.dropPrefix? programDataPrefix = none := by
  rw [Option.eq_none_iff_forall_ne_some]
  intro payload found
  have same : programPrefix ++ (firstWord line ++ ' ' :: laterWords line) =
      programPrefix ++ (['d', 'a', 't', 'a', ':'] ++ ' ' :: payload) := by
    rw [← text_words, dropPrefix?_eq_some.mp found]
    rfl
  exact other (append_cons_inj_of_clear (by decide) (firstWord_clear line)
    (List.append_cancel_left same).symm).1.symm

/-- A line that neither starts a program, nor carries data, nor ends a program. -/
structure Quiet (line : Line) : Prop where
  invokes : parseInvocation line.text = none
  carries : line.text.dropPrefix? programDataPrefix = none
  completes : ∀ program : ProgramKey, parseCompletion line.text ≠ some program.text
  emits : ∀ target index, Line.event target (line, index) = none

theorem no_bracket {line : Line} (absent : '[' ∉ firstWord line ++ ' ' :: laterWords line) :
    parseInvocation line.text = none := by
  rw [text_words, parseInvocation_eq_none]
  exact fun stands => absent (stands.subset (by decide))

theorem quiet_message {text : List Char} (clean : ¬Marked text) : Quiet (.message text) where
  invokes := parseInvocation_message.mpr clean
  carries := not_data (by simp [firstWord])
  completes program read := by
    rw [text_words] at read
    exact key_ne (by simp [firstWord]) (completion_first (firstWord_clear _) read).1
  emits _ _ := rfl

theorem quiet_returned (program : ProgramKey) (payload : Payload) :
    Quiet (.returned program payload) where
  invokes := no_bracket (by
    have first := key_lacks program (show '[' ∉ base58Alphabet by decide)
    have second := payload_lacks payload (show '[' ∉ ' ' :: base64Alphabet by decide)
    simp [firstWord, laterWords, first, second])
  carries := not_data (by simp [firstWord])
  completes program read := by
    rw [text_words] at read
    exact key_ne (by simp [firstWord]) (completion_first (firstWord_clear _) read).1
  emits _ _ := rfl

theorem quiet_consumed (program : ProgramKey) (units limit : Nat) :
    Quiet (.consumed program units limit) where
  invokes := no_bracket (by
    have first := key_lacks program (show '[' ∉ base58Alphabet by decide)
    have numbers := fun number => numeral_lacks number (show '['.isDigit = false by decide)
    simp [firstWord, laterWords, consumedWord, ofWord, unitsWord, first, numbers])
  carries := not_data (key_ne (by decide)).symm
  completes key read := by
    rw [text_words] at read
    rcases (completion_first (firstWord_clear _) read).2 with same | ⟨reason, same⟩
    · cases same
    · cases same
  emits _ _ := rfl

/-- Reading these lines turns one stack into the other and finds exactly what the target emitted. -/
def Reads (target : ProgramKey) (lines : List (Line × Nat)) (stack later : List (List Char)) : Prop :=
  ∀ events, lines.foldl (fun state line => Extraction.scan target.text state (line.1.text, line.2))
    ⟨stack, events⟩ = ⟨later, events ++ lines.filterMap (Line.event target)⟩

section
variable {target program : ProgramKey} {line : Line} {lines more : List (Line × Nat)}
  {stack later last : List (List Char)} {index depth : Nat}

theorem reads_nil : Reads target [] stack stack := fun events => by simp

theorem Reads.append (first : Reads target lines stack later) (next : Reads target more later last) :
    Reads target (lines ++ more) stack last := by
  intro events
  rw [List.foldl_append, first events, next, List.filterMap_append, List.append_assoc]

theorem Reads.cons (first : Reads target [(line, index)] stack later)
    (next : Reads target more later last) : Reads target ((line, index) :: more) stack last :=
  first.append next

theorem scan_invoked {name : List Char} {events : List RawEventLog} :
    Extraction.scan name ⟨stack, events⟩ (Line.text (.invoked program depth), index) =
      ⟨program.text :: stack, events⟩ := by
  have split : Line.text (.invoked program depth) =
      programPrefix ++ (program.text ++ invokeMarker ++ (numeral depth ++ [']'])) := by
    simp [Line.text, programPrefix, programWord, invokeMarker, invokeWord]
  have read : parseInvocation (Line.text (.invoked program depth)) = some program.text := by
    rw [split, parseInvocation_program]
    exact congrArg (Option.map Prod.fst) (dropInfix?_of_clear (key_lacks program (by decide)))
  simp [Extraction.scan, read]

theorem reads_invoked :
    Reads target [(.invoked program depth, index)] stack (program.text :: stack) := by
  intro events
  simp [scan_invoked, Line.event]

theorem reads_quiet (quiet : Quiet line) :
    Reads target [(line, index)] (program.text :: stack) (program.text :: stack) := by
  intro events
  simp only [List.foldl_cons, List.foldl_nil, Extraction.scan, quiet.invokes, quiet.carries,
    List.filterMap_cons, quiet.emits, List.filterMap_nil, List.append_nil, List.head?_cons]
  split
  · next name read =>
      refine if_neg fun same => ?_
      cases same
      exact quiet.completes program read
  · rfl

theorem read_data (program : ProgramKey) (payload : Payload) :
    parseInvocation (Line.text (.data program payload)) = none ∧
      (Line.text (.data program payload)).dropPrefix? programDataPrefix = some payload.text := by
  have absent := payload_lacks payload (show '[' ∉ ' ' :: base64Alphabet by decide)
  exact ⟨no_bracket (by simp [firstWord, laterWords, absent]), dropPrefix?_eq_some.mpr rfl⟩

theorem read_success (program : ProgramKey) :
    parseInvocation (Line.text (.completed program .success)) = none ∧
      parseCompletion (Line.text (.completed program .success)) = some program.text := by
  have absent := key_lacks program (show '[' ∉ base58Alphabet by decide)
  have split : Line.text (.completed program .success) =
      programPrefix ++ (program.text ++ successSuffix) := by
    simp [Line.text, programPrefix, programWord, successSuffix, successWord]
  refine ⟨no_bracket (by simp [firstWord, laterWords, successWord, absent]), ?_⟩
  rw [split, parseCompletion_program, dropSuffix?_eq_some.mpr rfl]

theorem completed_not_data (program : ProgramKey) (ending : Ending) :
    (Line.text (.completed program ending)).dropPrefix? programDataPrefix = none :=
  not_data (key_ne (by decide)).symm

theorem reads_data {payload : Payload} :
    Reads target [(.data program payload, index)] (program.text :: stack)
      (program.text :: stack) := by
  intro events
  simp only [List.foldl_cons, List.foldl_nil, Extraction.scan, read_data, Line.event,
    List.filterMap_cons, List.filterMap_nil, List.head?_cons]
  by_cases same : program = target
  · simp [same]
  · have other : program.text ≠ target.text := fun equal => same (by
      cases program
      cases target
      cases equal
      rfl)
    simp [same, other]

theorem reads_completed {ending : Ending}
    (clear : ∀ reason, ending = .failed reason → ¬Obscured reason) :
    Reads target [(.completed program ending, index)] (program.text :: stack) stack := by
  have read : parseInvocation (Line.text (.completed program ending)) = none ∧
      parseCompletion (Line.text (.completed program ending)) = some program.text := by
    cases ending with
    | success => exact read_success program
    | failed reason =>
        have both := not_or.mp (clear reason rfl)
        exact ⟨parseInvocation_failed.mpr both.1, parseCompletion_failed.mpr both.2⟩
  intro events
  simp [Extraction.scan, read, completed_not_data, Line.event]

end

/-! ## Whole transactions -/

section
variable (messages reasons : Set (List Char))

/-- The programs write and fail with nothing but these texts. -/
def Ending.Within : Ending → Prop
  | .success => True
  | .failed reason => reason ∈ reasons

def Activity.Within : Activity → Prop
  | .done => True
  | .data _ rest => Activity.Within rest
  | .message text rest => text ∈ messages ∧ Activity.Within rest
  | .consumed _ _ rest => Activity.Within rest
  | .returned _ rest => Activity.Within rest
  | .invoke _ inner ending rest =>
      Activity.Within inner ∧ Ending.Within reasons ending ∧ Activity.Within rest

def Transaction.Within (transaction : Transaction) : Prop :=
  ∀ invocation ∈ transaction, Activity.Within messages reasons invocation.inner ∧
    Ending.Within reasons invocation.ending

end

def Exact (transaction : Transaction) : Prop :=
  ∀ target : ProgramKey,
    extractProgramData transaction.logs target.text = transaction.emitted target

section
variable {messages reasons : Set (List Char)} {target program : ProgramKey} {depth index : Nat}
  {stack : List (List Char)}

theorem clear_of_within (failures : ∀ reason ∈ reasons, ¬Obscured reason) {ending : Ending}
    (within : Ending.Within reasons ending) :
    ∀ reason, ending = .failed reason → ¬Obscured reason := by
  rintro reason rfl
  exact failures reason within

/-- By induction on what the program does: a callee's lines leave the caller on top again. -/
theorem reads_activity (texts : ∀ text ∈ messages, ¬Marked text)
    (failures : ∀ reason ∈ reasons, ¬Obscured reason) {activity : Activity}
    (within : Activity.Within messages reasons activity) :
    Reads target ((activity.lines program depth).zipIdx index) (program.text :: stack)
      (program.text :: stack) := by
  induction activity generalizing program depth index stack with
  | done => exact reads_nil
  | data payload rest ih => exact reads_data.cons (ih within)
  | message text rest ih => exact (reads_quiet (quiet_message (texts _ within.1))).cons (ih within.2)
  | consumed units limit rest ih => exact (reads_quiet (quiet_consumed ..)).cons (ih within)
  | returned payload rest ih => exact (reads_quiet (quiet_returned ..)).cons (ih within)
  | invoke callee inner ending rest called returns =>
      obtain ⟨inside, ends, after⟩ := within
      rw [Activity.lines, List.cons_append, List.zipIdx_cons, List.zipIdx_append, List.zipIdx_cons]
      exact reads_invoked.cons ((called inside).append
        ((reads_completed (clear_of_within failures ends)).cons (returns after)))

theorem reads_transaction (texts : ∀ text ∈ messages, ¬Marked text)
    (failures : ∀ reason ∈ reasons, ¬Obscured reason) {transaction : Transaction}
    (within : Transaction.Within messages reasons transaction) :
    Reads target (transaction.lines.zipIdx index) stack stack := by
  induction transaction generalizing index with
  | nil => exact reads_nil
  | cons invocation rest ih =>
      obtain ⟨inside, ends⟩ := within _ List.mem_cons_self
      rw [Transaction.lines, List.flatMap_cons, Invocation.lines, List.zipIdx_append,
        List.cons_append, List.zipIdx_cons, List.zipIdx_append, List.zipIdx_cons]
      exact (reads_invoked.cons ((reads_activity texts failures inside).append
        ((reads_completed (clear_of_within failures ends)).cons reads_nil))).append
        (ih fun _ member => within _ (List.mem_cons_of_mem _ member))

theorem exact_of_clear (texts : ∀ text ∈ messages, ¬Marked text)
    (failures : ∀ reason ∈ reasons, ¬Obscured reason) {transaction : Transaction}
    (within : Transaction.Within messages reasons transaction) : Exact transaction := by
  intro target
  have read : Reads target (transaction.lines.zipIdx 0) [] [] :=
    reads_transaction texts failures within
  rw [extractProgramData, Transaction.logs, List.zipIdx_map, List.foldl_map]
  exact (congrArg Extraction.events (read [])).trans (List.nil_append _)

end

/-! ## What deceives the parser is missed -/

section
variable {target program : ProgramKey} {stack : List (List Char)} {events : List RawEventLog}
  {index : Nat}

theorem invocation_first {line : Line} (read : parseInvocation line.text = some program.text) :
    firstWord line = program.text ∧ ∃ rest, laterWords line = invokeWord ++ '[' :: rest := by
  rw [text_words, parseInvocation_program] at read
  obtain ⟨⟨name, rest⟩, found, rfl⟩ := Option.map_eq_some_iff.mp read
  have same := append_of_dropInfix? found
  rw [List.append_assoc] at same
  obtain ⟨first, later⟩ := append_cons_inj_of_clear (firstWord_clear line)
    (key_lacks program (by decide)) same
  exact ⟨first, rest, later⟩

theorem unread_data {payload : Payload} (blind : stack.head? ≠ some target.text) :
    Extraction.scan target.text ⟨stack, events⟩ (Line.text (.data program payload), index) =
      ⟨stack, events⟩ := by
  simp [Extraction.scan, read_data, blind]

theorem unread_success (blind : stack.head? ≠ some program.text) :
    Extraction.scan target.text ⟨stack, events⟩ (Line.text (.completed program .success), index) =
      ⟨stack, events⟩ := by
  simp [Extraction.scan, read_success, completed_not_data, blind]

/-- The parser stands on a name that is not the program's after a marked message. -/
theorem blind_message {text : List Char} (marked : Marked text) :
    ∃ later, Extraction.scan target.text ⟨stack, events⟩ (Line.text (.message text), index) =
      ⟨later, events⟩ ∧ later.head? ≠ some program.text := by
  cases read : parseInvocation (Line.text (.message text)) with
  | none => exact absurd marked (parseInvocation_message.mp read)
  | some name =>
      refine ⟨name :: stack, by simp [Extraction.scan, read], ?_⟩
      rintro ⟨⟩
      exact key_ne (by simp [firstWord]) (invocation_first read).1

/-- It stands on such a name after an obscured failure, or still on the callee's. -/
theorem blind_failed {callee : ProgramKey} {reason : List Char} (obscured : Obscured reason)
    (other : callee.text ≠ program.text) :
    ∃ later, Extraction.scan target.text ⟨callee.text :: stack, events⟩
      (Line.text (.completed callee (.failed reason)), index) = ⟨later, events⟩ ∧
        later.head? ≠ some program.text := by
  cases read : parseInvocation (Line.text (.completed callee (.failed reason))) with
  | some name =>
      refine ⟨name :: callee.text :: stack, by simp [Extraction.scan, read], ?_⟩
      rintro ⟨⟩
      obtain ⟨-, rest, same⟩ := invocation_first read
      cases same
  | none =>
      have ends := obscured.resolve_left (parseInvocation_failed.mp read)
      have kept : parseCompletion (Line.text (.completed callee (.failed reason))) ≠
          some callee.text := fun found => parseCompletion_failed.mp found ends
      refine ⟨callee.text :: stack, ?_, by simpa using other⟩
      simp only [Extraction.scan, read, completed_not_data, List.head?_cons]
      split
      · next name found =>
          refine if_neg fun same => ?_
          cases same
          exact kept found
      · rfl

end

def tidebookKey : ProgramKey where
  text := "AG4ztZvcZjzFKjoXLzH8M6U3if9CwVFTXH2FHjqg7SdL".toList
  long := by decide
  short := by decide
  spelled := by decide

def systemKey : ProgramKey where
  text := List.replicate 32 '1'
  long := by decide
  short := by decide
  spelled := by decide

def sampleData : Payload := ⟨['Q', 'Q', '=', '='], by decide⟩

/-- The program writes a message and then emits data. -/
def messageFirst (text : List Char) : Transaction :=
  [⟨tidebookKey, .message text (.data sampleData .done), .success⟩]

/-- The program emits data after a call that failed. -/
def callFirst (reason : List Char) : Transaction :=
  [⟨tidebookKey, .invoke systemKey .done (.failed reason) (.data sampleData .done), .success⟩]

theorem missed_after_message {text : List Char} (marked : Marked text) :
    ¬Exact (messageFirst text) := by
  intro correct
  obtain ⟨later, scanned, blind⟩ : ∃ later, Extraction.scan tidebookKey.text
      ⟨[tidebookKey.text], []⟩ (Line.text (.message text), 1) = ⟨later, []⟩ ∧
        later.head? ≠ some tidebookKey.text := blind_message marked
  have found : extractProgramData (messageFirst text).logs tidebookKey.text = [] := by
    change (Extraction.scan tidebookKey.text (Extraction.scan tidebookKey.text
      (Extraction.scan tidebookKey.text (Extraction.scan tidebookKey.text ⟨[], []⟩
      (Line.text (.invoked tidebookKey 1), 0)) (Line.text (.message text), 1))
      (Line.text (.data tidebookKey sampleData), 2))
      (Line.text (.completed tidebookKey .success), 3)).events = []
    rw [scan_invoked, scanned, unread_data blind, unread_success blind]
  have emitted : (messageFirst text).emitted tidebookKey = [⟨2, sampleData.text⟩] := rfl
  rw [correct, emitted] at found
  cases found

theorem missed_after_call {reason : List Char} (obscured : Obscured reason) :
    ¬Exact (callFirst reason) := by
  intro correct
  obtain ⟨later, scanned, blind⟩ : ∃ later, Extraction.scan tidebookKey.text
      ⟨[systemKey.text, tidebookKey.text], []⟩
      (Line.text (.completed systemKey (.failed reason)), 2) = ⟨later, []⟩ ∧
        later.head? ≠ some tidebookKey.text := blind_failed obscured (by decide)
  have found : extractProgramData (callFirst reason).logs tidebookKey.text = [] := by
    change (Extraction.scan tidebookKey.text (Extraction.scan tidebookKey.text
      (Extraction.scan tidebookKey.text (Extraction.scan tidebookKey.text
      (Extraction.scan tidebookKey.text ⟨[], []⟩ (Line.text (.invoked tidebookKey 1), 0))
      (Line.text (.invoked systemKey 2), 1))
      (Line.text (.completed systemKey (.failed reason)), 2))
      (Line.text (.data tidebookKey sampleData), 3))
      (Line.text (.completed tidebookKey .success), 4)).events = []
    rw [scan_invoked, scan_invoked, scanned, unread_data blind, unread_success blind]
  have emitted : (callFirst reason).emitted tidebookKey = [⟨3, sampleData.text⟩] := rfl
  rw [correct, emitted] at found
  cases found

/-- Extraction is exact for all that programs write and fail with these texts if and only if none of
the texts deceives the parser. -/
theorem extraction_exact_iff (messages reasons : Set (List Char)) :
    (∀ transaction, Transaction.Within messages reasons transaction → Exact transaction) ↔
      (∀ text ∈ messages, ¬Marked text) ∧ ∀ reason ∈ reasons, ¬Obscured reason := by
  constructor
  · intro correct
    refine ⟨fun text written marked => ?_, fun reason given obscured => ?_⟩
    · refine missed_after_message marked (correct _ fun invocation member => ?_)
      rw [List.mem_singleton.mp member]
      exact ⟨⟨written, trivial⟩, trivial⟩
    · refine missed_after_call obscured (correct _ fun invocation member => ?_)
      rw [List.mem_singleton.mp member]
      exact ⟨⟨trivial, given, trivial⟩, trivial⟩
  · rintro ⟨texts, failures⟩ transaction within
    exact exact_of_clear texts failures within

set_option maxRecDepth 4096 in
theorem message_text_drops_event :
    extractProgramData (messageFirst "x invoke [1]".toList).logs tidebookKey.text = [] ∧
      (messageFirst "x invoke [1]".toList).emitted tidebookKey = [⟨2, "QQ==".toList⟩] := by
  decide +kernel

end Tidebook.Proof
