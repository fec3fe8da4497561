import Mathlib.Order.Defs.Unbundled
import Tidebook.Library.Linked
import Tidebook.Library.Loop

/-! # Gaps in a sorted linked list

Where a new key belongs in a strictly sorted, doubly linked list. `InGap` says it of the list itself,
`Enclosed` of the records of the two neighbours, and a walk from the head finds it.
-/

namespace Tidebook.Library

variable {π : Type*}

structure SortedLinks (prec : π → π → Prop) (links : π → Option (Link π)) (best : Option π)
    (keys : List π) : Prop where
  sorted : keys.Pairwise prec
  head : best = keys.head?
  chain : Linked links none keys none
  closed : ∀ key link, links key = some link → key ∈ keys

/-- The last key before the new one and the first key behind it. -/
def InGap (prec : π → π → Prop) (keys : List π) (key : π) (better worse : Option π) : Prop :=
  ∃ left right, keys = left ++ right ∧ better = left.getLast? ∧ worse = right.head? ∧
    (∀ other ∈ left, prec other key) ∧ ∀ other ∈ right, prec key other

/-- What the records of the two keys around a gap show. -/
structure Enclosed (prec : π → π → Prop) (links : π → Option (Link π)) (best : Option π) (key : π)
    (better worse : Option π) : Prop where
  above : ∀ other, better = some other → prec other key ∧
    (links other).map Link.next = some worse
  below : ∀ other, worse = some other → prec key other ∧ (links other).map Link.prev = some better
  first : better = none → worse = best

variable {prec : π → π → Prop} {links : π → Option (Link π)} {best : Option π} {keys : List π}
variable {key : π} {better worse : Option π} [IsStrictOrder π prec]

theorem InGap.unique {above below : Option π} (gap : InGap prec keys key better worse)
    (also : InGap prec keys key above below) : better = above ∧ worse = below := by
  obtain ⟨left, right, split, rfl, rfl, before, after⟩ := gap
  obtain ⟨first, last, cut, rfl, rfl, ahead, behind⟩ := also
  -- A key between the two cuts would come before and after the new one.
  have nothing : ∀ middle : List π, (∀ other ∈ middle, prec other key) →
      (∀ other ∈ middle, prec key other) → middle = [] := by
    intro middle early late
    refine List.eq_nil_iff_forall_not_mem.mpr fun other inside => ?_
    exact asymm (early other inside) (late other inside)
  rcases List.append_eq_append_iff.mp (split.symm.trans cut) with
    ⟨middle, rfl, rfl⟩ | ⟨middle, rfl, rfl⟩
  · obtain rfl := nothing middle (fun other inside => ahead other (by simp [inside]))
      fun other inside => after other (by simp [inside])
    simp
  · obtain rfl := nothing middle (fun other inside => before other (by simp [inside]))
      fun other inside => behind other (by simp [inside])
    simp

theorem exists_gap (total : ∀ first second, prec first second ∨ first = second ∨ prec second first)
    (sorted : keys.Pairwise prec) (fresh : key ∉ keys) :
    ∃ left right, keys = left ++ right ∧ (∀ other ∈ left, prec other key) ∧
      ∀ other ∈ right, prec key other := by
  induction keys with
  | nil => exact ⟨[], [], rfl, by simp, by simp⟩
  | cons top rest ih =>
      rw [List.mem_cons, not_or] at fresh
      obtain ⟨above, below⟩ := List.pairwise_cons.mp sorted
      rcases total key top with first | same | later
      · refine ⟨[], top :: rest, rfl, by simp, fun other inside => ?_⟩
        rcases List.mem_cons.mp inside with rfl | member
        · exact first
        · exact IsTrans.trans _ _ _ first (above other member)
      · exact absurd same fresh.1
      · obtain ⟨left, right, rfl, before, after⟩ := ih below fresh.2
        refine ⟨top :: left, right, rfl, fun other inside => ?_, after⟩
        rcases List.mem_cons.mp inside with rfl | member
        · exact later
        · exact before other member

namespace SortedLinks

variable (holds : SortedLinks prec links best keys)
include holds

omit [IsStrictOrder π prec] in
theorem enclosed_of_gap (gap : InGap prec keys key better worse) :
    Enclosed prec links best key better worse := by
  obtain ⟨left, right, rfl, rfl, rfl, before, after⟩ := gap
  refine ⟨fun other last => ⟨before other (List.mem_of_getLast? last), ?_⟩,
    fun other first => ⟨after other (List.mem_of_head? first), ?_⟩, fun empty => ?_⟩
  · obtain ⟨init, rfl⟩ := List.getLast?_eq_some_iff.mp last
    have chain := holds.chain
    rw [List.append_assoc, List.singleton_append] at chain
    simp [chain.at_split]
  · obtain ⟨rest, rfl⟩ := List.head?_eq_some_iff.mp first
    simp [holds.chain.at_split]
  · rw [List.getLast?_eq_none_iff.mp empty, List.nil_append] at holds
    exact holds.head.symm

theorem before_of_split {left right : List π} {other : π} (split : keys = left ++ other :: right)
    (below : prec other key) : ∀ found ∈ left ++ [other], prec found key := by
  intro found inside
  have sorted := holds.sorted
  rw [split] at sorted
  rcases List.mem_append.mp inside with earlier | last
  · exact IsTrans.trans _ _ _ ((List.pairwise_append.mp sorted).2.2 found earlier other (by simp))
      below
  · exact List.mem_singleton.mp last ▸ below

theorem after_of_split {left right : List π} {other : π} (split : keys = left ++ other :: right)
    (above : prec key other) : ∀ found ∈ other :: right, prec key found := by
  intro found inside
  have sorted := holds.sorted
  rw [split] at sorted
  rcases List.mem_cons.mp inside with rfl | later
  · exact above
  · exact IsTrans.trans _ _ _ above
      (List.rel_of_pairwise_cons (List.pairwise_append.mp sorted).2.1 later)

/-- Keys in order around the new one, the first leading to the second, have nothing between them. -/
theorem gap_of_links
    (above : ∀ other, better = some other → prec other key ∧
      (links other).map Link.next = some worse)
    (below : ∀ other, worse = some other → prec key other) (first : better = none → worse = best) :
    InGap prec keys key better worse := by
  cases better with
  | none =>
      have head := (first rfl).trans holds.head
      refine ⟨[], keys, rfl, rfl, head, by simp, ?_⟩
      cases keys with
      | nil => simp
      | cons top rest =>
          have split : top :: rest = [] ++ top :: rest := rfl
          exact holds.after_of_split split (below top head)
  | some better =>
      obtain ⟨ordered, shown⟩ := above better rfl
      obtain ⟨link, stored, next⟩ := Option.map_eq_some_iff.mp shown
      obtain ⟨left, right, split, linked⟩ := holds.chain.exists_split (holds.closed better link stored)
      cases stored.symm.trans linked
      have behind : ∀ found ∈ right, prec key found := by
        cases right with
        | nil => simp
        | cons top rest =>
            have later : keys = (left ++ [better]) ++ top :: rest := by simp [split]
            exact holds.after_of_split later (below top next.symm)
      exact ⟨left ++ [better], right, by simp [split], by simp, next.symm,
        holds.before_of_split split ordered, behind⟩

omit [IsStrictOrder π prec] in
theorem leads {link : Link π} (stored : links key = some link) :
    ∃ top, best = some top ∧ (top = key ∧ link.prev = none ∨ prec top key ∧ link.prev ≠ none) := by
  obtain ⟨left, right, rfl, linked⟩ := holds.chain.exists_split (holds.closed key link stored)
  cases stored.symm.trans linked
  cases left with
  | nil => exact ⟨key, holds.head, .inl ⟨rfl, rfl⟩⟩
  | cons top rest =>
      have below : prec top key := List.rel_of_pairwise_cons holds.sorted (by simp)
      exact ⟨top, holds.head, .inr ⟨below, by simp⟩⟩

omit [IsStrictOrder π prec] in
theorem not_mem (missing : links key = none) : key ∉ keys := by
  intro inside
  obtain ⟨left, right, -, linked⟩ := holds.chain.exists_split inside
  cases missing.symm.trans linked

omit [IsStrictOrder π prec] in
theorem singleton (first : best = some key) (alone : links key = some ⟨none, none⟩) :
    keys = [key] := by
  cases keys with
  | nil => cases holds.head.symm.trans first
  | cons top rest =>
      have same : some top = some key := holds.head.symm.trans first
      obtain rfl := Option.some.inj same
      have behind := (Link.mk.inj (Option.some.inj (alone.symm.trans holds.chain.1))).2
      cases rest with
      | nil => rfl
      | cons next later => cases behind

end SortedLinks

/-! ## The walk -/

universe u

variable {σ ρ : Type u} {ε : Type*} {turn : σ → Except ε (Turn σ ρ)}
variable {cursor : List π → π → σ} {answer : Option π → Option π → ρ}

/-- A walk goes past the keys before the new one and stops at the first behind it, or at the last. -/
structure Walks (prec : π → π → Prop) (keys : List π) (key : π) (turn : σ → Except ε (Turn σ ρ))
    (cursor : List π → π → σ) (answer : Option π → Option π → ρ) : Prop where
  passes : ∀ {seen here next rest}, keys = seen ++ here :: next :: rest → prec here key →
    turn (cursor seen here) = .ok (.again (cursor (seen ++ [here]) next))
  reaches : ∀ {seen here rest}, keys = seen ++ here :: rest → prec key here →
    InGap prec keys key seen.getLast? (some here) →
      turn (cursor seen here) = .ok (.stop (answer seen.getLast? (some here)))
  ends : ∀ {seen here}, keys = seen ++ [here] → prec here key → InGap prec keys key (some here) none →
    turn (cursor seen here) = .ok (.stop (answer (some here) none))

omit [IsStrictOrder π prec] in
theorem Walks.finds (walks : Walks prec keys key turn cursor answer) {left right : List π}
    (split : keys = left ++ right) (before : ∀ other ∈ left, prec other key)
    (after : ∀ other ∈ right, prec key other) {top : π} (head : keys.head? = some top) :
    loop turn keys.length (cursor [] top) =
      some (.ok (answer left.getLast? right.head?)) := by
  -- From any place among the keys before the new one.
  have along : ∀ ahead seen here rest, left = seen ++ ahead → ahead ++ right = here :: rest →
      loop turn (rest.length + 1) (cursor seen here) =
        some (.ok (answer left.getLast? right.head?)) := by
    intro ahead
    induction ahead with
    | nil =>
        intro seen here rest same shape
        rw [List.append_nil] at same
        rw [List.nil_append] at shape
        subst same shape
        exact loop_stop (walks.reaches split (after here (by simp))
          ⟨left, here :: rest, split, rfl, rfl, before, after⟩)
    | cons found ahead ih =>
        intro seen here rest same shape
        obtain ⟨rfl, rfl⟩ := List.cons.inj shape
        have below : prec found key := before found (by simp [same])
        have place : keys = seen ++ found :: (ahead ++ right) := by simp [split, same]
        cases behind : ahead ++ right with
        | nil =>
            obtain ⟨rfl, rfl⟩ := List.append_eq_nil_iff.mp behind
            subst same
            rw [List.append_nil] at split
            have last := walks.ends (by simpa using place) below
              ⟨keys, [], by simp, by simp [split], rfl, split ▸ before, by simp⟩
            rw [loop_stop last]
            simp
        | cons next rest =>
            rw [behind] at place
            rw [List.append_eq, behind, List.length_cons, loop_again (walks.passes place below)]
            exact ih (seen ++ [found]) next rest (by simp [same]) behind
  obtain ⟨rest, shape⟩ := List.head?_eq_some_iff.mp head
  rw [shape, List.length_cons]
  exact along left [] top rest rfl (split.symm.trans shape)

end Tidebook.Library
