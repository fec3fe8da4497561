import Mathlib.Data.List.Basic
import Mathlib.Data.List.Nodup
import Mathlib.Logic.Function.Basic

/-! # Doubly linked segments

Nodes live in a partial map and point at each other by key. `Linked links before nodes after`
says that walking `next` visits exactly `nodes`, that every `prev` is reciprocal, and that the
two outer pointers are `before` and `after`.
-/

namespace Tidebook.Library

section Records

variable {α β γ : Type*} [DecidableEq α]

/-- Rewrites the record under an optional key, and nothing when the key is absent. -/
def amend (records : α → Option β) (key : Option α) (change : β → β) : α → Option β :=
  fun other => if key = some other then (records other).map change else records other

@[simp] theorem amend_none (records : α → Option β) (change : β → β) :
    amend records none change = records := by
  funext other
  simp [amend]

theorem amend_some {records : α → Option β} {key : α} {old : β} (present : records key = some old)
    (change : β → β) :
    amend records (some key) change = Function.update records key (some (change old)) := by
  funext other
  by_cases same : other = key
  · subst same
    simp [amend, present]
  · simp [amend, Function.update_of_ne same, Ne.symm same]

theorem amend_ne {records : α → Option β} {key : Option α} {other : α} (change : β → β)
    (different : key ≠ some other) : amend records key change other = records other :=
  if_neg different

theorem map_amend_apply {records : α → Option β} {key : Option α} {change : β → β}
    {project : β → γ} (hidden : ∀ value, project (change value) = project value) (other : α) :
    (amend records key change other).map project = (records other).map project := by
  simp only [amend]
  split
  · cases records other <;> simp [hidden]
  · rfl

theorem map_amend {records : α → Option β} {key : Option α} {change : β → β} {image : γ → γ}
    {project : β → γ} (commute : ∀ value, project (change value) = image (project value)) :
    (fun other => (amend records key change other).map project) =
      amend (fun other => (records other).map project) key image := by
  funext other
  simp only [amend]
  split
  · cases records other <;> simp [commute]
  · rfl

theorem map_update {records : α → Option β} {key : α} {value : Option β} {project : β → γ} :
    (fun other => (Function.update records key value other).map project) =
      Function.update (fun other => (records other).map project) key (value.map project) := by
  funext other
  by_cases same : other = key
  · subst same
    simp
  · simp [Function.update_of_ne same]

end Records

structure Link (α : Type*) where
  prev : Option α
  next : Option α
  deriving DecidableEq

def Link.withNext (next : Option α) (link : Link α) : Link α := { link with next }

def Link.withPrev (prev : Option α) (link : Link α) : Link α := { link with prev }

def Linked (links : α → Option (Link α)) : Option α → List α → Option α → Prop
  | _, [], _ => True
  | before, node :: rest, after =>
      links node = some ⟨before, rest.head?.or after⟩ ∧ Linked links (some node) rest after

variable {α : Type*} {links changed : α → Option (Link α)} {before after value : Option α} {nodes : List α}

theorem Linked.congr (same : ∀ node ∈ nodes, links node = changed node)
    (linked : Linked links before nodes after) : Linked changed before nodes after := by
  induction nodes generalizing before with
  | nil => trivial
  | cons node rest ih =>
      refine ⟨by rw [← same node (by simp)]; exact linked.1, ih ?_ linked.2⟩
      exact fun other member => same other (by simp [member])

theorem linked_append {left right : List α} :
    Linked links before (left ++ right) after ↔
      Linked links before left (right.head?.or after) ∧
        Linked links (left.getLast?.or before) right after := by
  induction left generalizing before with
  | nil => simp [Linked]
  | cons node rest ih =>
      have last : ((node :: rest).getLast?).or before = rest.getLast?.or (some node) := by
        cases rest with
        | nil => rfl
        | cons second tail => simp [List.getLast?_cons]
      have head : (rest ++ right).head?.or after = rest.head?.or (right.head?.or after) := by
        cases rest <;> simp
      simp only [List.cons_append, Linked, ih, last, head, and_assoc]

variable [DecidableEq α]

theorem Linked.withNext (linked : Linked links before nodes after) (distinct : nodes.Nodup) :
    Linked (amend links nodes.getLast? (Link.withNext value)) before nodes value := by
  rcases List.eq_nil_or_concat nodes with rfl | ⟨init, final, rfl⟩
  · trivial
  rw [List.concat_eq_append] at *
  have absent : final ∉ init := by
    have parts := List.nodup_append.mp distinct
    exact fun member => parts.2.2 final member final (by simp) rfl
  obtain ⟨front, rest⟩ := linked_append.mp linked
  refine linked_append.mpr ⟨front.congr fun node member => ?_, ?_, trivial⟩
  · refine (amend_ne _ ?_).symm
    rw [List.getLast?_concat]
    exact fun same => absent (Option.some.inj same ▸ member)
  · simp [amend, rest.1, Link.withNext]

theorem Linked.withPrev (linked : Linked links before nodes after) (distinct : nodes.Nodup) :
    Linked (amend links nodes.head? (Link.withPrev value)) value nodes after := by
  cases nodes with
  | nil => trivial
  | cons node rest =>
      refine ⟨by simp [amend, linked.1, Link.withPrev], linked.2.congr fun other member => ?_⟩
      refine (amend_ne _ ?_).symm
      rw [List.head?_cons]
      exact fun same => (List.nodup_cons.mp distinct).1 (Option.some.inj same ▸ member)

/-! ## Splicing -/

section Splice

variable {left right : List α} {node : α}

omit [DecidableEq α] in
theorem Linked.at_split (linked : Linked links before (left ++ node :: right) after) :
    links node = some ⟨left.getLast?.or before, right.head?.or after⟩ :=
  (linked_append.mp linked).2.1

omit [DecidableEq α] in
theorem Linked.exists_split (linked : Linked links none nodes none) (member : node ∈ nodes) :
    ∃ left right, nodes = left ++ node :: right ∧
      links node = some ⟨left.getLast?, right.head?⟩ := by
  obtain ⟨left, right, rfl⟩ := List.append_of_mem member
  refine ⟨left, right, rfl, ?_⟩
  simpa using linked.at_split

theorem Linked.join (front : Linked links none left before) (back : Linked links after right none)
    (distinct : (left ++ right).Nodup) :
    Linked (amend (amend links left.getLast? (Link.withNext right.head?)) right.head?
      (Link.withPrev left.getLast?)) none (left ++ right) none := by
  obtain ⟨leftDistinct, rightDistinct, disjoint⟩ := List.nodup_append.mp distinct
  rw [linked_append, Option.or_none, Option.or_none]
  constructor
  · refine (front.withNext leftDistinct).congr fun other member => (amend_ne _ ?_).symm
    exact fun same => disjoint other member other (List.mem_of_head? same) rfl
  · refine (Linked.congr (fun other member => ?_) back).withPrev rightDistinct
    refine (amend_ne _ ?_).symm
    exact fun same => disjoint other (List.mem_of_getLast? same) other member rfl

theorem Linked.remove (linked : Linked links none (left ++ node :: right) none)
    (distinct : (left ++ node :: right).Nodup) (link : Option (Link α)) :
    Linked (amend (amend (Function.update links node link)
      left.getLast? (Link.withNext right.head?)) right.head? (Link.withPrev left.getLast?))
      none (left ++ right) none := by
  obtain ⟨absent, kept⟩ := List.nodup_cons.mp (List.nodup_middle.mp distinct)
  rw [List.mem_append, not_or] at absent
  obtain ⟨front, back⟩ := linked_append.mp linked
  refine Linked.join (front.congr fun other member => ?_) (back.2.congr fun other member => ?_) kept
  · exact (Function.update_of_ne (ne_of_mem_of_not_mem member absent.1) _ _).symm
  · exact (Function.update_of_ne (ne_of_mem_of_not_mem member absent.2) _ _).symm

theorem Linked.insert (linked : Linked links none (left ++ right) none)
    (distinct : (left ++ right).Nodup) (fresh : node ∉ left ++ right) :
    Linked (amend (amend (Function.update links node (some ⟨left.getLast?, right.head?⟩))
      left.getLast? (Link.withNext (some node))) right.head? (Link.withPrev (some node)))
      none (left ++ node :: right) none := by
  obtain ⟨front, back⟩ := linked_append.mp linked
  obtain ⟨leftDistinct, rightDistinct, disjoint⟩ := List.nodup_append.mp distinct
  rw [List.mem_append, not_or] at fresh
  set placed := Function.update links node (some ⟨left.getLast?, right.head?⟩) with placedDef
  have frontPlaced : Linked placed none left (right.head?.or none) :=
    front.congr fun other member =>
      (Function.update_of_ne (ne_of_mem_of_not_mem member fresh.1) _ _).symm
  have backPlaced : Linked placed (left.getLast?.or none) right none :=
    back.congr fun other member =>
      (Function.update_of_ne (ne_of_mem_of_not_mem member fresh.2) _ _).symm
  refine linked_append.mpr ⟨?_, ?_, ?_⟩
  · refine (frontPlaced.withNext leftDistinct).congr fun other member => (amend_ne _ ?_).symm
    exact fun same => disjoint other member other (List.mem_of_head? same) rfl
  · have awayRight : right.head? ≠ some node := fun same => fresh.2 (List.mem_of_head? same)
    have awayLeft : left.getLast? ≠ some node := fun same => fresh.1 (List.mem_of_getLast? same)
    rw [amend_ne _ awayRight, amend_ne _ awayLeft, placedDef, Function.update_self,
      Option.or_none, Option.or_none]
  · refine (Linked.congr (fun other member => ?_) backPlaced).withPrev rightDistinct
    refine (amend_ne _ ?_).symm
    exact fun same => disjoint other (List.mem_of_getLast? same) other member rfl

end Splice
end Tidebook.Library
