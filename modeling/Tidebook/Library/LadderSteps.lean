import Tidebook.Library.LadderLaws

/-! # The ladder operations

Each pointer edit of the book is one operation of the ladder it represents.
-/

namespace Tidebook.Library

variable {ι π κ : Type*} [DecidableEq ι] [DecidableEq π] [DecidableEq κ]
variable {prec : ι → π → π → Prop} {book : Book ι π κ} {ladder : Ladder ι π κ}
variable {place : ι × π} {key : κ} {node : OrderNode ι π κ} {level : LevelNode π κ}
variable {seq quantity : Nat} {γ : Type*}

/-! ## Partial fills -/

private theorem reduce_order {project : OrderNode ι π κ → γ}
    (hidden : ∀ node, project (OrderNode.reduce quantity node) = project node) (other : κ) :
    ((book.reduce key place quantity).order other).map project =
      (book.order other).map project :=
  map_amend_apply hidden other

private theorem reduce_priceLinks (list : ι) :
    priceLinks (book.reduce key place quantity).level list = priceLinks book.level list :=
  funext fun price => map_amend_apply (LevelNode.onSummary_link _) (list, price)

private theorem reduce_remaining_self (present : book.order key = some node) :
    (book.reduce key place quantity).remaining key = node.remaining - quantity := by
  simp [Book.remaining, Book.reduce, amend, present, OrderNode.reduce]

private theorem reduce_remaining_ne {other : κ} (different : other ≠ key) :
    (book.reduce key place quantity).remaining other = book.remaining other := by
  simp [Book.remaining, Book.reduce, amend, different.symm]

theorem Represents.reduce_summary (holds : Represents prec book ladder)
    (present : book.order key = some node) (less : quantity < node.remaining) (place : ι × π) :
    ((book.reduce key node.place quantity).level place).map LevelNode.summary =
      summarize (book.reduce key node.place quantity).remaining (ladder.queue place) := by
  have inside := holds.order_mem present
  by_cases same : node.place = place
  · subst same
    obtain ⟨level, stored⟩ := holds.level_of_order present
    obtain ⟨nonempty, summary⟩ := holds.level_summary stored
    have change := sum_map_change (f := book.remaining)
      (g := (book.reduce key node.place quantity).remaining) (holds.queue_nodup node.place) inside
      fun other _ different => (reduce_remaining_ne different).symm
    have own : book.remaining key = node.remaining := by simp [Book.remaining, present]
    rw [reduce_remaining_self present, own] at change
    have reduced : (book.reduce key node.place quantity).level node.place =
        some (level.onSummary (Summary.reduce quantity)) := by
      simp [Book.reduce, amend, stored]
    rw [reduced, Option.map_some, summarize, if_neg nonempty, LevelNode.onSummary, Summary.reduce,
      summary]
    simp only [Option.some.injEq, Summary.mk.injEq, true_and, and_true]
    omega
  · have kept : (book.reduce key node.place quantity).level place = book.level place :=
      amend_ne _ fun found => same (Option.some.inj found)
    rw [kept, holds.summary place]
    refine summarize_congr fun other member => (reduce_remaining_ne ?_).symm
    rintro rfl
    exact same (holds.place_unique inside member)

theorem Represents.reduce (holds : Represents prec book ladder)
    (present : book.order key = some node) (less : quantity < node.remaining) :
    Represents prec (book.reduce key node.place quantity) ladder where
  sorted := holds.sorted
  head := holds.head
  live := holds.live
  priceChain list := by
    rw [reduce_priceLinks]
    exact holds.priceChain list
  summary := holds.reduce_summary present less
  member place other := by
    rw [holds.member, reduce_order (OrderNode.reduce_place _)]
  orderChain place := (holds.orderChain place).congr fun other _ =>
    (reduce_order (OrderNode.reduce_link _) other).symm
  increasing place := by
    have sameSeq : (book.reduce key node.place quantity).seq = book.seq := by
      funext other
      rw [Book.seq, Book.seq, reduce_order (OrderNode.reduce_seq _)]
    rw [sameSeq]
    exact holds.increasing place
  positive other amount stored := by
    by_cases same : key = other
    · subst same
      have reduced : (book.reduce key node.place quantity).order key =
          some (node.reduce quantity) := by
        simp [Book.reduce, amend, present]
      rw [reduced, Option.map_some, Option.some.injEq] at stored
      rw [← stored, OrderNode.reduce]
      exact Nat.sub_pos_of_lt less
    · have kept : (book.reduce key node.place quantity).order other = book.order other :=
        amend_ne _ fun found => same (Option.some.inj found)
      exact holds.positive other amount (kept ▸ stored)

/-! ## Removal -/

section Remove

private theorem remove_order {project : OrderNode ι π κ → γ}
    (hiddenPrev : ∀ key node, project (OrderNode.withPrev key node) = project node)
    (hiddenNext : ∀ key node, project (OrderNode.withNext key node) = project node) (other : κ) :
    ((book.remove key node level).order other).map project =
      if other = key then none else (book.order other).map project := by
  have relinked : ((book.remove key node level).order other).map project =
      (Function.update book.order key none other).map project :=
    (map_amend_apply (hiddenPrev _) other).trans (map_amend_apply (hiddenNext _) other)
  rw [relinked]
  split
  · next same => rw [same, Function.update_self, Option.map_none]
  · next different => rw [Function.update_of_ne different]

private theorem remove_remaining {other : κ} (different : other ≠ key) :
    (book.remove key node level).remaining other = book.remaining other := by
  rw [Book.remaining, Book.remaining, remove_order OrderNode.withPrev_remaining
    OrderNode.withNext_remaining, if_neg different]

private theorem remove_seq {other : κ} (different : other ≠ key) :
    (book.remove key node level).seq other = book.seq other := by
  rw [Book.seq, Book.seq, remove_order OrderNode.withPrev_seq OrderNode.withNext_seq,
    if_neg different]

private theorem remove_orderLinks :
    orderLinks (book.remove key node level).order = amend (amend
      (Function.update (orderLinks book.order) key none)
      node.link.prev (Link.withNext node.link.next)) node.link.next
      (Link.withPrev node.link.prev) := by
  rw [Book.remove, orderLinks_withPrev, orderLinks_withNext, orderLinks_update, Option.map_none]

variable (holds : Represents prec book ladder) (present : book.order key = some node)
include holds present

theorem Represents.mem_drop {place : ι × π} {other : κ} :
    other ∈ (ladder.drop node.place key).queue place ↔
      other ≠ key ∧ other ∈ ladder.queue place := by
  by_cases same : place = node.place
  · subst same
    rw [Ladder.drop_queue_self, (holds.queue_nodup node.place).mem_erase_iff]
  · rw [Ladder.drop_queue_ne same]
    refine ⟨fun inside => ⟨?_, inside⟩, And.right⟩
    rintro rfl
    exact same (holds.place_unique inside (holds.order_mem present))

private theorem Represents.remove_orderChain (place : ι × π) :
    Linked (orderLinks (book.remove key node level).order) none
      ((ladder.drop node.place key).queue place) none := by
  obtain ⟨left, right, split, prev, next⟩ := holds.queue_split present
  have distinct := holds.queue_nodup node.place
  rw [remove_orderLinks]
  by_cases same : place = node.place
  · subst same
    have chain := holds.orderChain node.place
    rw [split] at chain distinct
    have absent : key ∉ left := by
      have parts := (List.nodup_cons.mp (List.nodup_middle.mp distinct)).1
      exact fun inside => parts (List.mem_append_left right inside)
    rw [Ladder.drop_queue_self, split, List.erase_append_right _ absent,
      List.erase_cons_head, prev, next]
    exact chain.remove distinct none
  · rw [Ladder.drop_queue_ne same]
    refine (holds.orderChain place).congr fun other inside => ?_
    have foreign : other ∉ ladder.queue node.place := fun also =>
      same (holds.place_unique inside also)
    rw [split, List.mem_append, List.mem_cons, not_or, not_or] at foreign
    obtain ⟨notLeft, notKey, notRight⟩ := foreign
    rw [amend_ne, amend_ne, Function.update_of_ne notKey]
    · exact fun found => notLeft (List.mem_of_getLast? (prev ▸ found))
    · exact fun found => notRight (List.mem_of_head? (next ▸ found))

private theorem Represents.remove_increasing (place : ι × π) :
    ((ladder.drop node.place key).queue place).Pairwise fun older newer =>
      (book.remove key node level).seq older < (book.remove key node level).seq newer := by
  refine increasing_congr (f := book.seq) (fun other inside => ?_) ?_
  · exact (remove_seq ((holds.mem_drop present).mp inside).1).symm
  · by_cases same : place = node.place
    · subst same
      rw [Ladder.drop_queue_self]
      exact (holds.increasing node.place).sublist List.erase_sublist
    · rw [Ladder.drop_queue_ne same]
      exact holds.increasing place

variable (stored : book.level node.place = some level)
include stored

omit [DecidableEq ι] [DecidableEq π] in
theorem Represents.count_eq_one :
    level.summary.count = 1 ↔ (ladder.queue node.place).erase key = [] := by
  have erased := List.length_erase_of_mem (holds.order_mem present)
  have positive := List.length_pos_of_mem (holds.order_mem present)
  rw [(holds.level_summary stored).2, ← List.length_eq_zero_iff]
  simp only
  omega

private theorem Represents.drop_prices :
    (ladder.drop node.place key).prices = if level.summary.count = 1 then
      Function.update ladder.prices node.list ((ladder.prices node.list).erase node.price)
      else ladder.prices := by
  simp only [Ladder.drop, holds.count_eq_one present stored]
  rfl

omit [DecidableEq ι] [DecidableEq π] in
private theorem Represents.unlink_summary
    (left right : List κ) (split : ladder.queue node.place = left ++ key :: right)
    (prev : node.link.prev = left.getLast?) (next : node.link.next = right.head?) :
    level.summary.unlink node = ⟨(left ++ right).head?, (left ++ right).getLast?,
      ((left ++ right).map book.remaining).sum, (left ++ right).length⟩ := by
  have own : book.remaining key = node.remaining := by simp [Book.remaining, present]
  rw [(holds.level_summary stored).2, split, Summary.unlink, prev, next, Summary.mk.injEq]
  refine ⟨?_, ?_, ?_, ?_⟩
  · cases left <;> simp
  · cases right <;> simp [List.getLast?_cons]
  · simp only [List.map_append, List.map_cons, List.sum_append, List.sum_cons, own]
    omega
  · simp only [List.length_append, List.length_cons]
    omega

private theorem Represents.remove_summary (place : ι × π) :
    ((book.remove key node level).level place).map LevelNode.summary =
      summarize (book.remove key node level).remaining
        ((ladder.drop node.place key).queue place) := by
  have amounts : summarize (book.remove key node level).remaining
      ((ladder.drop node.place key).queue place) =
      summarize book.remaining ((ladder.drop node.place key).queue place) :=
    summarize_congr fun other inside =>
      remove_remaining ((holds.mem_drop present).mp inside).1
  rw [amounts]
  have lone := holds.count_eq_one present stored
  by_cases same : place = node.place
  · subst same
    rw [Ladder.drop_queue_self]
    obtain ⟨left, right, split, prev, next⟩ := holds.queue_split present
    have absent : key ∉ left := by
      have distinct := holds.queue_nodup node.place
      rw [split] at distinct
      have parts := (List.nodup_cons.mp (List.nodup_middle.mp distinct)).1
      exact fun inside => parts (List.mem_append_left right inside)
    by_cases last : level.summary.count = 1
    · rw [lone.mp last, Book.remove, if_pos last]
      refine (map_amend_apply (LevelNode.withBetter_summary _) _).trans ?_
      refine (map_amend_apply (LevelNode.withWorse_summary _) _).trans ?_
      rw [Function.update_self]
      rfl
    · have rest : (ladder.queue node.place).erase key ≠ [] := fun gone => last (lone.mpr gone)
      have kept : (book.remove key node level).level node.place =
          some (level.onSummary (Summary.unlink node)) := by
        simp [Book.remove, last, amend, stored]
      rw [split, List.erase_append_right _ absent, List.erase_cons_head] at rest ⊢
      rw [kept, Option.map_some, summarize, if_neg rest, LevelNode.onSummary,
        holds.unlink_summary present stored left right split prev next]
  · rw [Ladder.drop_queue_ne same, ← holds.summary place]
    rw [Book.remove]
    simp only
    split
    · refine (map_amend_apply (LevelNode.withBetter_summary _) _).trans ?_
      refine (map_amend_apply (LevelNode.withWorse_summary _) _).trans ?_
      rw [Function.update_of_ne same]
    · rw [amend_ne _ fun found => same (Option.some.inj found).symm]

omit [DecidableEq ι] [DecidableEq κ] present in
private theorem Represents.price_split_erase [∀ list, IsStrictOrder π (prec list)] :
    ∃ left right, ladder.prices node.list = left ++ node.price :: right ∧
      (ladder.prices node.list).Nodup ∧
      (ladder.prices node.list).erase node.price = left ++ right ∧
      level.link.prev = left.getLast? ∧ level.link.next = right.head? := by
  obtain ⟨left, right, split, better, worse⟩ := holds.price_split stored
  have distinct := holds.prices_nodup node.list
  refine ⟨left, right, split, distinct, ?_, better, worse⟩
  rw [split] at distinct ⊢
  have parts := (List.nodup_cons.mp (List.nodup_middle.mp distinct)).1
  rw [List.erase_append_right _ fun inside => parts (List.mem_append_left right inside),
    List.erase_cons_head]

private theorem Represents.remove_head [∀ list, IsStrictOrder π (prec list)] (list : ι) :
    (book.remove key node level).best list = ((ladder.drop node.place key).prices list).head? := by
  obtain ⟨left, right, split, _, erased, better, worse⟩ := holds.price_split_erase stored
  rw [holds.drop_prices present stored, Book.remove]
  by_cases last : level.summary.count = 1
  · simp only [last, true_and, if_true]
    by_cases same : list = node.list
    · subst same
      have best := holds.head node.list
      rw [Function.update_self, erased, better]
      cases left with
      | nil => simp [worse]
      | cons top rest =>
          rw [split] at best
          simpa [List.getLast?_cons] using best
    · rw [Function.update_of_ne same, ← holds.head list]
      split
      · rw [Function.update_of_ne same]
      · rfl
  · simp only [last, false_and, if_false]
    exact holds.head list

private theorem Represents.remove_priceChain [∀ list, IsStrictOrder π (prec list)] (list : ι) :
    Linked (priceLinks (book.remove key node level).level list) none
      ((ladder.drop node.place key).prices list) none := by
  obtain ⟨left, right, split, distinct, erased, better, worse⟩ :=
    holds.price_split_erase stored
  rw [holds.drop_prices present stored, Book.remove]
  by_cases last : level.summary.count = 1
  · simp only [last, if_true]
    by_cases same : list = node.list
    · subst same
      have chain := holds.priceChain node.list
      rw [split] at chain distinct
      have placed := priceLinks_update book.level node.place none
      rw [Function.update_self, erased, priceLinks_withBetter, priceLinks_withWorse,
        show node.list = node.place.1 from rfl, placed, better, worse]
      exact chain.remove distinct none
    · rw [Function.update_of_ne same, priceLinks_amend_ne (Ne.symm same),
        priceLinks_amend_ne (Ne.symm same), priceLinks_update_ne _ _ (Ne.symm same)]
      exact holds.priceChain list
  · simp only [last, if_false]
    refine (holds.priceChain list).congr fun price _ => ?_
    exact (map_amend_apply (LevelNode.onSummary_link _) (list, price)).symm

private theorem Represents.remove_live [∀ list, IsStrictOrder π (prec list)]
    (list : ι) (price : π) :
    price ∈ (ladder.drop node.place key).prices list ↔
      (ladder.drop node.place key).queue (list, price) ≠ [] := by
  have lone := holds.count_eq_one present stored
  have distinct := holds.prices_nodup node.list
  rw [holds.drop_prices present stored]
  by_cases same : (list, price) = node.place
  · obtain ⟨rfl, rfl⟩ := Prod.mk.inj same
    have drained : (ladder.drop node.place key).queue (node.list, node.price) =
        (ladder.queue node.place).erase key := Ladder.drop_queue_self
    rw [drained, Ne, ← lone]
    by_cases last : level.summary.count = 1
    · simp [last, distinct.not_mem_erase]
    · simp [last, holds.price_of_order present]
  · rw [Ladder.drop_queue_ne same, ← holds.live]
    split
    · by_cases sameList : list = node.list
      · subst sameList
        have apart : price ≠ node.price := fun found => same (by rw [found]; rfl)
        rw [Function.update_self, List.mem_erase_of_ne apart]
      · rw [Function.update_of_ne sameList]
    · rfl

private theorem Represents.remove_sorted (list : ι) :
    ((ladder.drop node.place key).prices list).Pairwise (prec list) := by
  rw [holds.drop_prices present stored]
  split
  · by_cases same : list = node.list
    · subst same
      rw [Function.update_self]
      exact (holds.sorted node.list).sublist List.erase_sublist
    · rw [Function.update_of_ne same]
      exact holds.sorted list
  · exact holds.sorted list

theorem Represents.remove [∀ list, IsStrictOrder π (prec list)] :
    Represents prec (book.remove key node level) (ladder.drop node.place key) where
  sorted := holds.remove_sorted present stored
  head := holds.remove_head present stored
  priceChain := holds.remove_priceChain present stored
  live := holds.remove_live present stored
  summary := holds.remove_summary present stored
  orderChain := holds.remove_orderChain present
  increasing := holds.remove_increasing present
  member place other := by
    rw [holds.mem_drop present, holds.member, remove_order OrderNode.withPrev_place
      OrderNode.withNext_place]
    split <;> simp_all
  positive other amount found := by
    rw [remove_order OrderNode.withPrev_remaining OrderNode.withNext_remaining] at found
    split at found
    · cases found
    · exact holds.positive other amount found

end Remove

end Tidebook.Library
