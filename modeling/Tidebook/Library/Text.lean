import Mathlib.Data.List.Infix

/-! # Markers in texts

Where a marker can stand in a text, when its first character is not found in a part of the text.
-/

namespace Tidebook.Library
open List

variable {α : Type*} {head : α} {tail before after text left right : List α}

theorem infix_append_of_clear (clear : head ∉ before) :
    (head :: tail) <:+: before ++ after ↔ (head :: tail) <:+: after := by
  induction before with
  | nil => rfl
  | cons first before ih =>
      rw [mem_cons, not_or] at clear
      rw [cons_append, infix_cons_iff, ih clear.2]
      refine or_iff_right fun starts => ?_
      obtain ⟨rest, same⟩ := starts
      exact clear.1 (cons.inj same).1

theorem infix_cons_of_ne {first : α} (other : ¬(head :: tail) <+: first :: after) :
    (head :: tail) <:+: first :: after ↔ (head :: tail) <:+: after := by
  rw [infix_cons_iff]
  exact or_iff_right other

/-- A marker whose first character is found there once reaches no further back than that. -/
theorem suffix_append_of_once (once : head ∉ tail) :
    (head :: tail) <:+ before ++ head :: after ↔ (head :: tail) <:+ head :: after := by
  refine ⟨fun ends => ?_, fun ends => ends.trans (suffix_append _ _)⟩
  rcases suffix_or_suffix_of_suffix ends (suffix_append before (head :: after)) with within | beyond
  · exact within
  · rcases suffix_cons_iff.mp beyond with same | shorter
    · exact same ▸ suffix_refl _
    · exact absurd (shorter.subset mem_cons_self) once

theorem append_cons_inj_of_clear (clear : head ∉ before) (also : head ∉ left)
    (same : before ++ head :: after = left ++ head :: right) : before = left ∧ after = right := by
  obtain ⟨between, rfl, stand⟩ | ⟨between, rfl, stand⟩ := append_eq_append_iff.mp same
  · cases between with
    | nil => exact ⟨(append_nil _).symm, (cons.inj stand).2⟩
    | cons first between => exact absurd (by simp [(cons.inj stand).1]) also
  · cases between with
    | nil => exact ⟨append_nil _, (cons.inj stand).2.symm⟩
    | cons first between => exact absurd (by simp [(cons.inj stand).1]) clear

variable [BEq α] [LawfulBEq α]

theorem dropPrefix?_eq_some : text.dropPrefix? before = some after ↔ text = before ++ after := by
  simp [dropPrefix?_eq_some_iff]

theorem dropSuffix?_eq_some : text.dropSuffix? after = some before ↔ text = before ++ after := by
  simp [dropSuffix?_eq_some_iff]

theorem dropSuffix?_eq_none : text.dropSuffix? after = none ↔ ¬after <:+ text := by
  rw [Option.eq_none_iff_forall_ne_some]
  refine ⟨fun never ⟨front, same⟩ => never front (dropSuffix?_eq_some.mpr same.symm), ?_⟩
  intro never front same
  exact never ⟨front, (dropSuffix?_eq_some.mp same).symm⟩

theorem append_of_dropInfix? {marker : List α}
    (found : text.dropInfix? marker = some (left, right)) : text = left ++ marker ++ right := by
  obtain ⟨⟨_, same, equal⟩, -⟩ := dropInfix?_eq_some_iff.mp found
  rwa [eq_of_beq equal] at same

theorem dropInfix?_of_clear (clear : head ∉ before) :
    (before ++ (head :: tail) ++ after).dropInfix? (head :: tail) = some (before, after) := by
  refine dropInfix?_eq_some_iff.mpr ⟨⟨_, rfl, beq_self_eq_true _⟩, ?_⟩
  intro front marker rest same equal
  rw [eq_of_beq equal, append_assoc, append_assoc] at same
  by_contra shorter
  rw [not_le] at shorter
  have within : head ∈ before := by
    have stands := congrArg (·[front.length]?) same
    simp only [getElem?_append_left shorter, getElem?_append_right le_rfl, Nat.sub_self,
      cons_append, getElem?_cons_zero] at stands
    exact mem_of_getElem? stands
  exact clear within

theorem dropInfix?_go_ne_none {marker acc : List α} (stands : marker <:+: text) :
    dropInfix?.go marker text acc ≠ none := by
  induction text generalizing acc with
  | nil =>
      rw [infix_nil] at stands
      simp [dropInfix?.go, stands]
  | cons first rest ih =>
      rw [dropInfix?.go]
      split
      · next later =>
          refine ih ((infix_cons_iff.mp stands).resolve_left ?_)
          rintro ⟨beyond, same⟩
          rw [dropPrefix?_eq_some.mpr same.symm] at later
          cases later
      · exact nofun

theorem dropInfix?_eq_none {marker : List α} :
    text.dropInfix? marker = none ↔ ¬marker <:+: text := by
  refine ⟨fun never stands => dropInfix?_go_ne_none stands never, fun never => ?_⟩
  rw [Option.eq_none_iff_forall_ne_some]
  rintro ⟨front, rest⟩ found
  exact never ⟨front, rest, (append_of_dropInfix? found).symm⟩

end Tidebook.Library
