import Tidebook.Proof.Paging

/-! # Collecting a gap

The walk down the pages against a node that may cut each page short, but serves an empty one only
when nothing is left.
-/

namespace Tidebook.Proof
open Library Indexer

variable {Signature : Type}

/-- The entries of one answer: as many as the node likes, at least one and at most the limit. -/
def share (limit size : Nat) : Nat := min limit (max 1 size)

section
variable [DecidableEq Signature]

/-- A node over a fixed gap. The state counts its answers, and the sizes are its own choice. -/
def serve (gap : List (FinalizedTransaction Signature)) (sizes : Nat → Nat)
    (before : Option Signature) (limit : Nat) : Program Nat Unit (SignaturePage Signature) :=
  fun answers moments => ⟨some (buildSignaturePage
    ((olderThan before gap).reverse.take (share limit (sizes answers)))), answers + 1, moments⟩

end

def leftAfter (gap : List (FinalizedTransaction Signature)) (limit : Nat) (sizes : Nat → Nat) :
    Nat → List (FinalizedTransaction Signature)
  | 0 => gap
  | answers + 1 =>
      let left := leftAfter gap limit sizes answers
      left.take (left.length - share limit (sizes answers))

section
variable {gap : List (FinalizedTransaction Signature)} {limit : Nat} {sizes : Nat → Nat}

theorem length_leftAfter (some_ : 0 < limit) (answers : Nat) :
    (leftAfter gap limit sizes answers).length ≤ gap.length - answers := by
  induction answers with
  | zero => exact le_rfl
  | succ answers ih =>
      have least : 1 ≤ share limit (sizes answers) := by
        unfold share
        omega
      rw [leftAfter, List.length_take]
      omega

theorem leftAfter_nil {answers later : Nat} (empty : leftAfter gap limit sizes answers = [])
    (order : answers ≤ later) : leftAfter gap limit sizes later = [] := by
  induction order with
  | refl => exact empty
  | step _ ih => rw [leftAfter, ih, List.take_nil]

theorem share_pos (some_ : 0 < limit) (size : Nat) : share limit size ≠ 0 := by
  unfold share
  omega

def served (gap : List (FinalizedTransaction Signature)) (limit : Nat) (sizes : Nat → Nat)
    (answers : Nat) : List (FinalizedTransaction Signature) :=
  let left := leftAfter gap limit sizes answers
  left.drop (left.length - share limit (sizes answers))

theorem leftAfter_served (answers : Nat) : leftAfter gap limit sizes answers =
    leftAfter gap limit sizes (answers + 1) ++ served gap limit sizes answers :=
  (List.take_append_drop _ _).symm

theorem served_nil (some_ : 0 < limit) {answers : Nat} :
    served gap limit sizes answers = [] ↔ leftAfter gap limit sizes answers = [] := by
  have least := share_pos some_ (sizes answers)
  rw [served, List.drop_eq_nil_iff, ← List.length_eq_zero_iff]
  omega

/-- After so many answers the pages hold the records of what was served, and the cursor stands at
its oldest transaction. -/
structure Walked (gap : List (FinalizedTransaction Signature)) (limit : Nat) (sizes : Nat → Nat)
    (answers : Nat) (before : Option Signature) (pages : List (List (SignatureRecord Signature))) :
    Prop where
  parts : ∃ collected, gap = leftAfter gap limit sizes answers ++ collected ∧
    pages.reverse.flatten = records collected ∧
    match before with
    | none => collected = []
    | some signature => ∃ entry rest, collected = entry :: rest ∧ entry.signature = signature

section
variable {before : Option Signature} {pages : List (List (SignatureRecord Signature))}
  {answers : Nat}

theorem Walked.next (walked : Walked gap limit sizes answers before pages)
    {entry : FinalizedTransaction Signature} {rest : List (FinalizedTransaction Signature)}
    (serves : served gap limit sizes answers = entry :: rest) :
    Walked gap limit sizes (answers + 1) (some entry.signature) (pages ++ [records (entry :: rest)]) := by
  obtain ⟨collected, whole, listed, -⟩ := walked.parts
  refine ⟨entry :: rest ++ collected, ?_, ?_, entry, rest ++ collected, rfl, rfl⟩
  · rwa [leftAfter_served, serves, List.append_assoc] at whole
  · rw [records_append, List.reverse_append, List.flatten_append, listed]
    simp

theorem Walked.moves (walked : Walked gap limit sizes answers before pages) (distinct : Distinct gap)
    {entry : FinalizedTransaction Signature} {rest : List (FinalizedTransaction Signature)}
    (serves : served gap limit sizes answers = entry :: rest) : some entry.signature ≠ before := by
  obtain ⟨collected, whole, -, cursor⟩ := walked.parts
  rintro rfl
  obtain ⟨other, later, rfl, same⟩ := cursor
  rw [leftAfter_served, serves] at whole
  have split : Distinct ((leftAfter gap limit sizes (answers + 1) ++ entry :: rest) ++
      other :: later) := whole ▸ distinct
  exact split.ne_of_split.1 entry (by simp) same.symm

theorem Walked.done (walked : Walked gap limit sizes answers before pages)
    (empty : leftAfter gap limit sizes answers = []) :
    (pages ++ [records []]).reverse.flatten = records gap := by
  obtain ⟨collected, whole, listed, -⟩ := walked.parts
  rw [empty, List.nil_append] at whole
  rw [whole, List.reverse_append, List.flatten_append, listed]
  rfl

variable [LinearOrder Signature]

theorem Walked.page (walked : Walked gap limit sizes answers before pages) (distinct : Distinct gap) :
    buildSignaturePage ((olderThan before gap).reverse.take (share limit (sizes answers))) =
      ⟨records (served gap limit sizes answers),
        (served gap limit sizes answers).head?.map FinalizedTransaction.signature⟩ := by
  obtain ⟨collected, whole, -, cursor⟩ := walked.parts
  have older : olderThan before gap = leftAfter gap limit sizes answers := by
    cases before with
    | none =>
        rw [show collected = [] from cursor, List.append_nil] at whole
        exact whole
    | some signature =>
        obtain ⟨entry, rest, rfl, rfl⟩ := cursor
        have same := olderThan_split (whole ▸ distinct)
        rwa [← whole] at same
  rw [older]
  exact page_of_take _ _

theorem gapPages_last (walked : Walked gap limit sizes answers before pages)
    (distinct : Distinct gap) (serves : served gap limit sizes answers = [])
    (empty : leftAfter gap limit sizes answers = []) {more : Nat} :
    (gapPages limit (serve gap sizes) (more + 1) before pages answers []).result =
      some (.caughtUp (records gap)) := by
  have page := walked.page distinct
  rw [serves] at page
  simp only [gapPages, bind, Program.bind, serve, page, List.head?_nil, Option.map_none,
    Option.isNone_none, if_true, walked.done empty]
  rfl

theorem gapPages_more (walked : Walked gap limit sizes answers before pages)
    (distinct : Distinct gap) {entry : FinalizedTransaction Signature}
    {rest : List (FinalizedTransaction Signature)}
    (serves : served gap limit sizes answers = entry :: rest) {more : Nat} :
    gapPages limit (serve gap sizes) (more + 1) before pages answers [] =
      gapPages limit (serve gap sizes) more (some entry.signature)
        (pages ++ [records (entry :: rest)]) (answers + 1) [] := by
  have page := walked.page distinct
  rw [serves] at page
  simp only [gapPages, bind, Program.bind, serve, page, List.head?_cons, Option.map_some,
    Option.isNone_some, Bool.false_eq_true, if_false, if_neg (walked.moves distinct serves)]

/-- By induction on the pages that may still be asked for. -/
theorem gapPages_walk (some_ : 0 < limit) (distinct : Distinct gap) {more : Nat}
    (walked : Walked gap limit sizes answers before pages) :
    (gapPages limit (serve gap sizes) (more + 1) before pages answers []).result =
      some (if leftAfter gap limit sizes (answers + more) = [] then .caughtUp (records gap)
        else .pageLimitReached) := by
  induction more generalizing before pages answers with
  | zero =>
      cases serves : served gap limit sizes answers with
      | nil =>
          have empty := (served_nil some_).mp serves
          rw [gapPages_last walked distinct serves empty, Nat.add_zero, if_pos empty]
      | cons entry rest =>
          have left : leftAfter gap limit sizes answers ≠ [] := by
            rw [ne_eq, ← served_nil some_, serves]
            exact List.cons_ne_nil _ _
          rw [gapPages_more walked distinct serves]
          simp only [Nat.add_zero, if_neg left]
          rfl
  | succ more ih =>
      cases serves : served gap limit sizes answers with
      | nil =>
          have empty := (served_nil some_).mp serves
          rw [gapPages_last walked distinct serves empty, if_pos (leftAfter_nil empty (by omega))]
      | cons entry rest =>
          have order : answers + 1 + more = answers + (more + 1) := by omega
          rw [gapPages_more walked distinct serves, ih (walked.next serves), order]

/-- The walk yields the whole gap in order or nothing, and it yields it under every larger cap. -/
theorem gap_collected (gap : List (FinalizedTransaction Signature)) (distinct : Distinct gap)
    (limit cap : Nat) (some_ : 1 ≤ limit) (capped : 1 ≤ cap) (sizes : Nat → Nat) :
    (collectGapPages ⟨limit, cap⟩ (serve gap sizes) 0 []).result =
      some (if ∃ answers < cap, leftAfter gap limit sizes answers = [] then
        .caughtUp ((gap.filter (!·.err)).map FinalizedTransaction.record) else .pageLimitReached) ∧
    ((gap.filter (!·.err)).map FinalizedTransaction.record).Nodup ∧
    (gap.length < cap → ∃ answers < cap, leftAfter gap limit sizes answers = []) := by
  have walked : Walked gap limit sizes 0 none [] := ⟨[], (List.append_nil _).symm, rfl, rfl⟩
  have reached : (∃ answers < cap, leftAfter gap limit sizes answers = []) ↔
      leftAfter gap limit sizes (cap - 1) = [] := by
    refine ⟨fun ⟨answers, within, empty⟩ => leftAfter_nil empty (by omega), fun empty => ?_⟩
    exact ⟨cap - 1, by omega, empty⟩
  refine ⟨?_, ?_, fun long => ⟨gap.length, long, ?_⟩⟩
  · have bounds : ¬(limit = 0 ∨ cap = 0) := by omega
    obtain ⟨more, rfl⟩ : ∃ more, cap = more + 1 := ⟨cap - 1, by omega⟩
    rw [collectGapPages, if_neg bounds, gapPages_walk some_ distinct walked]
    simp only [reached, Nat.zero_add, Nat.add_sub_cancel]
    rfl
  · have signatures : ((gap.filter (!·.err)).map FinalizedTransaction.signature).Nodup :=
      distinct.sublist (List.filter_sublist.map _)
    refine List.Nodup.of_map SignatureRecord.signature ?_
    rw [List.map_map]
    exact signatures
  · have short : (leftAfter gap limit sizes gap.length).length ≤ gap.length - gap.length :=
      length_leftAfter some_ gap.length
    rw [Nat.sub_self] at short
    exact List.eq_nil_of_length_eq_zero (Nat.le_zero.mp short)

/-- The middle transaction failed, and it is an answer of its own. -/
def sampleGap : List (FinalizedTransaction Nat) :=
  [⟨11, 4, false, none, none, []⟩, ⟨12, 5, true, none, none, []⟩, ⟨13, 6, false, none, none, []⟩]

theorem gap_collected_sample :
    (collectGapPages ⟨1, 4⟩ (serve sampleGap fun _ => 1) 0 []).result =
      some (.caughtUp ((sampleGap.filter (!·.err)).map FinalizedTransaction.record)) := by
  have within : ∃ answers < 4, leftAfter sampleGap 1 (fun _ => 1) answers = [] :=
    ⟨3, by decide, by decide⟩
  have collected := (gap_collected sampleGap (by unfold Distinct; decide) 1 4 le_rfl (by decide)
    fun _ => 1).1
  rwa [if_pos within] at collected

end
end
end Tidebook.Proof
