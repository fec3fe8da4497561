import Tidebook.Indexer.Sync
import Tidebook.Library.Text

/-! # Pages of a growing history

What a page is a page of, and the rule for effects in a world that moves on before each of them.
-/

namespace Tidebook.Proof
open Library Indexer

variable {Signature : Type}

/-! ## Slices -/

section
variable {front back : List (FinalizedTransaction Signature)}
  {entry : FinalizedTransaction Signature}

def records (entries : List (FinalizedTransaction Signature)) : List (SignatureRecord Signature) :=
  (entries.filter (!·.err)).map FinalizedTransaction.record

theorem records_append (front back : List (FinalizedTransaction Signature)) :
    records (front ++ back) = records front ++ records back := by
  simp [records]

/-- The transactions up to a boundary, if there is one. -/
def Bounded (until_ : Option Signature) (covered : List (FinalizedTransaction Signature)) : Prop :=
  match until_ with
  | none => covered = []
  | some signature => ∃ older entry, covered = older ++ [entry] ∧ entry.signature = signature

def Distinct (history : List (FinalizedTransaction Signature)) : Prop :=
  (history.map FinalizedTransaction.signature).Nodup

theorem Distinct.ne_of_split (distinct : Distinct (front ++ entry :: back)) :
    (∀ other ∈ front, other.signature ≠ entry.signature) ∧
      ∀ other ∈ back, other.signature ≠ entry.signature := by
  rw [Distinct, List.map_append, List.map_cons, List.nodup_append] at distinct
  obtain ⟨-, tail, apart⟩ := distinct
  refine ⟨fun other member => ?_, fun other member same => ?_⟩
  · exact apart _ (List.mem_map_of_mem member) _ List.mem_cons_self
  · exact (List.nodup_cons.mp tail).1 (same ▸ List.mem_map_of_mem member)

theorem page_of_take (limit : Nat) (lower : List (FinalizedTransaction Signature)) :
    buildSignaturePage (lower.reverse.take limit) =
      ⟨records (lower.drop (lower.length - limit)),
        (lower.drop (lower.length - limit)).head?.map FinalizedTransaction.signature⟩ := by
  rw [List.take_reverse, buildSignaturePage, List.getLast?_reverse, List.filter_reverse,
    List.map_reverse, List.reverse_reverse]
  rfl

theorem page_splits {limit : Nat} (some_ : limit ≠ 0) (lower : List (FinalizedTransaction Signature)) :
    ∃ rest entries, lower = rest ++ entries ∧
      buildSignaturePage (lower.reverse.take limit) =
        ⟨records entries, entries.head?.map FinalizedTransaction.signature⟩ ∧
      (entries = [] → lower = []) := by
  refine ⟨lower.take (lower.length - limit), lower.drop (lower.length - limit),
    (List.take_append_drop _ _).symm, page_of_take limit lower, fun none_ => ?_⟩
  rw [List.drop_eq_nil_iff] at none_
  exact List.eq_nil_of_length_eq_zero (by omega)

variable [DecidableEq Signature]

theorem olderThan_split (distinct : Distinct (front ++ entry :: back)) :
    olderThan (some entry.signature) (front ++ entry :: back) = front := by
  have before := distinct.ne_of_split.1
  rw [olderThan, List.takeWhile_append_of_pos (by simpa using before)]
  simp

theorem newerThan_split {until_ : Option Signature} (distinct : Distinct (front ++ back))
    (bounded : Bounded until_ front) : newerThan until_ (front ++ back) = back := by
  cases until_ with
  | none =>
      rw [show front = [] from bounded]
      rfl
  | some signature =>
      obtain ⟨older, entry, rfl, rfl⟩ := bounded
      rw [List.append_assoc, List.singleton_append] at distinct ⊢
      have before := distinct.ne_of_split.1
      rw [newerThan, List.dropWhile_append_of_pos (by simpa using before)]
      simp

end

/-! ## Effects -/

section
/-- Only the history has changed, and only by more transactions. -/
structure Grown (world later : World Signature) : Prop where
  history : world.history <+: later.history
  database : later.database = world.database
  effects : later.effects = world.effects

theorem Grown.refl (world : World Signature) : Grown world world := ⟨List.prefix_refl _, rfl, rfl⟩

theorem Grown.trans {world middle later : World Signature} (first : Grown world middle)
    (second : Grown middle later) : Grown world later where
  history := first.history.trans second.history
  database := second.database.trans first.database
  effects := second.effects.trans first.effects

variable [LinearOrder Signature] {α : Type}

theorem grown_finalize (world : World Signature) (entry : FinalizedTransaction Signature) :
    Grown world (world.finalize entry) := by
  unfold World.finalize
  split
  · exact ⟨List.prefix_append _ _, rfl, rfl⟩
  · exact Grown.refl world

theorem grown_arrivals (arrivals : List (FinalizedTransaction Signature)) (world : World Signature) :
    Grown world (arrivals.foldl World.finalize world) := by
  induction arrivals generalizing world with
  | nil => exact Grown.refl world
  | cons entry arrivals ih => exact (grown_finalize world entry).trans (ih _)

def Stable (assertion : World Signature → Prop) : Prop :=
  ∀ world later, assertion world → Grown world later → assertion later

theorem ensures_perform {before stopped : World Signature → Prop}
    {after : α → World Signature → Prop} {act : World Signature → Option α × World Signature}
    (stable : Stable before) (stops : ∀ world, before world → stopped world)
    (acts : ∀ world, before world → Program.Ends after stopped (act world).1 (act world).2) :
    Program.Ensures before (perform act) after stopped := by
  refine Program.ensures_effect stops fun moment world start => ?_
  have moved := stable _ _ start (grown_arrivals moment.arrivals world)
  by_cases fails : moment.fails = true
  · simp only [if_pos fails]
    exact stops _ moved
  · simp only [if_neg fails]
    exact acts _ moved

end
end Tidebook.Proof
