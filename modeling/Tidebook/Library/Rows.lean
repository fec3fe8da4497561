import Mathlib.Data.List.Induction
import Mathlib.Data.List.Nodup

/-! # Rows by key

A list of rows in the order of their first mention, with one row for a key. Whatever a sequence of
mentions does to the rows is settled for each key by the mentions of this key.
-/

namespace Tidebook.Library

variable {K R E : Type*} [DecidableEq K] (key : R → K)

/-- Changes the row of a key, which is added behind the others when there is none. -/
def upsert (rows : List R) (fresh : R) (change : R → R) : List R :=
  if rows.any fun row => key row = key fresh then
    rows.map fun row => if key row = key fresh then change row else row
  else rows ++ [change fresh]

variable {key} {rows : List R} {fresh : R} {change : R → R}

theorem mem_upsert {row : R} : row ∈ upsert key rows fresh change ↔
    (∃ old ∈ rows, key old = key fresh ∧ row = change old) ∨
    (row ∈ rows ∧ key row ≠ key fresh) ∨
    (row = change fresh ∧ ∀ old ∈ rows, key old ≠ key fresh) := by
  unfold upsert
  split
  · next known =>
      obtain ⟨old, member, same⟩ := List.any_eq_true.mp known
      have same := of_decide_eq_true same
      simp only [List.mem_map]
      constructor
      · rintro ⟨found, present, rfl⟩
        split
        · next alike => exact .inl ⟨found, present, alike, rfl⟩
        · next other => exact .inr (.inl ⟨present, other⟩)
      · rintro (⟨found, present, alike, rfl⟩ | ⟨present, other⟩ | ⟨-, none_known⟩)
        · exact ⟨found, present, if_pos alike⟩
        · exact ⟨row, present, if_neg other⟩
        · exact absurd same (none_known old member)
  · next absent =>
      have none_known : ∀ old ∈ rows, key old ≠ key fresh := fun old member same =>
        absent (List.any_eq_true.mpr ⟨old, member, decide_eq_true same⟩)
      simp only [List.mem_append, List.mem_singleton]
      constructor
      · rintro (present | rfl)
        · exact .inr (.inl ⟨present, none_known row present⟩)
        · exact .inr (.inr ⟨rfl, none_known⟩)
      · rintro (⟨old, present, alike, -⟩ | ⟨present, -⟩ | ⟨rfl, -⟩)
        · exact absurd alike (none_known old present)
        · exact .inl present
        · exact .inr rfl

theorem keys_upsert (keeps : ∀ row, key (change row) = key row) :
    (upsert key rows fresh change).map key =
      if key fresh ∈ rows.map key then rows.map key else rows.map key ++ [key fresh] := by
  have same : (rows.any fun row => key row = key fresh) = decide (key fresh ∈ rows.map key) := by
    rw [Bool.eq_iff_iff, List.any_eq_true, decide_eq_true_iff, List.mem_map]
    simp only [decide_eq_true_iff]
  unfold upsert
  rw [same]
  by_cases known : key fresh ∈ rows.map key
  · simp only [known, decide_true, if_true, List.map_map]
    refine List.map_congr_left fun row _ => ?_
    rw [Function.comp_apply]
    split
    · exact keeps row
    · rfl
  · simp [known, keeps]

theorem nodup_upsert (keeps : ∀ row, key (change row) = key row)
    (distinct : (rows.map key).Nodup) : ((upsert key rows fresh change).map key).Nodup := by
  rw [keys_upsert keeps]
  split
  · exact distinct
  · next absent =>
      refine List.nodup_append.mpr ⟨distinct, List.nodup_singleton _, ?_⟩
      rintro first member second single rfl
      exact absent (List.mem_singleton.mp single ▸ member)

/-! ## Sequences of mentions -/

section Mentions

variable (key) (entry : E → R) (update : E → R → R)

def mention (mentions : List E) (rows : List R) : List R :=
  mentions.foldl (fun rows item => upsert key rows (entry item) (update item)) rows

def settled (mentions : List E) (wanted : K) : Option R :=
  mentions.foldl (fun known item =>
    if key (entry item) = wanted then some (update item (known.getD (entry item))) else known) none

variable {key entry update}

@[simp] theorem settled_nil (wanted : K) : settled key entry update [] wanted = none := rfl

theorem settled_snoc (mentions : List E) (item : E) (wanted : K) :
    settled key entry update (mentions ++ [item]) wanted =
      if key (entry item) = wanted then
        some (update item ((settled key entry update mentions wanted).getD (entry item)))
      else settled key entry update mentions wanted := by
  simp [settled]

theorem mention_snoc (mentions : List E) (item : E) :
    mention key entry update (mentions ++ [item]) [] =
      upsert key (mention key entry update mentions []) (entry item) (update item) := by
  simp [mention]

variable (keeps : ∀ item row, key (update item row) = key row)
include keeps

theorem settled_key (mentions : List E) (wanted : K) :
    ∀ row ∈ settled key entry update mentions wanted, key row = wanted := by
  induction mentions using List.reverseRecOn with
  | nil => simp
  | append_singleton mentions item ih =>
      rw [settled_snoc]
      split
      · next same =>
          rintro row ⟨⟩
          rw [keeps]
          cases known : settled key entry update mentions wanted with
          | none => exact same
          | some old => exact ih old known
      · exact ih

theorem mem_mention (mentions : List E) (row : R) :
    row ∈ mention key entry update mentions [] ↔
      settled key entry update mentions (key row) = some row := by
  induction mentions using List.reverseRecOn generalizing row with
  | nil => simp [mention]
  | append_singleton mentions item ih =>
      rw [mention_snoc, mem_upsert, settled_snoc]
      by_cases same : key (entry item) = key row
      · rw [if_pos same]
        cases known : settled key entry update mentions (key row) with
        | none =>
            rw [Option.getD_none, Option.some_inj]
            constructor
            · rintro (⟨old, present, alike, -⟩ | ⟨-, other⟩ | ⟨made, -⟩)
              · rw [ih, alike, same, known] at present
                nomatch present
              · exact absurd same.symm other
              · exact made.symm
            · rintro made
              refine .inr (.inr ⟨made.symm, fun old present alike => ?_⟩)
              rw [ih, alike, same, known] at present
              nomatch present
        | some old =>
            have named := settled_key keeps mentions (key row) old known
            have present : old ∈ mention key entry update mentions [] := by rw [ih, named, known]
            rw [Option.getD_some, Option.some_inj]
            constructor
            · rintro (⟨found, there, alike, rfl⟩ | ⟨-, other⟩ | ⟨-, none_known⟩)
              · rw [ih, alike, same, known, Option.some_inj] at there
                rw [there]
              · exact absurd same.symm other
              · exact absurd (named.trans same.symm) (none_known old present)
            · rintro rfl
              exact .inl ⟨old, present, named.trans same.symm, rfl⟩
      · rw [if_neg same, ← ih]
        constructor
        · rintro (⟨old, present, alike, rfl⟩ | ⟨present, -⟩ | ⟨rfl, -⟩)
          · exact absurd (alike.symm.trans (keeps item old).symm) same
          · exact present
          · exact absurd (keeps item (entry item)).symm same
        · exact fun present => .inr (.inl ⟨present, fun other => same other.symm⟩)

theorem nodup_mention (mentions : List E) :
    ((mention key entry update mentions []).map key).Nodup := by
  induction mentions using List.reverseRecOn with
  | nil => simp [mention]
  | append_singleton mentions item ih =>
      rw [mention_snoc]
      exact nodup_upsert (keeps item) ih

end Mentions

end Tidebook.Library
