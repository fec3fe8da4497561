import Tidebook.Library.Gap
import Tidebook.Library.LadderSteps

/-! # Arrivals

A new order joins the queue of its price, or opens that price between its two neighbours. Both
are the one operation `Ladder.rest`.
-/

namespace Tidebook.Library

variable {ι π κ γ : Type*} [DecidableEq ι] [DecidableEq π] [DecidableEq κ]
variable {prec : ι → π → π → Prop} [∀ list, DecidableRel (prec list)]
variable {book : Book ι π κ} {ladder : Ladder ι π κ} {place : ι × π} {key : κ}
variable {seq quantity : Nat}

omit [DecidableEq ι] [DecidableEq π] in
theorem arrive_order {project : OrderNode ι π κ → γ}
    (hidden : ∀ key node, project (OrderNode.withNext key node) = project node) (other : κ) :
    (book.arrive place key seq quantity other).map project =
      if other = key then some (project ⟨place.1, place.2, seq, quantity, ⟨book.tail place, none⟩⟩)
      else (book.order other).map project := by
  refine (map_amend_apply (hidden _) other).trans ?_
  split
  · next same => rw [same, Function.update_self, Option.map_some]
  · next different => rw [Function.update_of_ne different]

namespace Represents

variable (holds : Represents prec book ladder) (fresh : book.order key = none)

omit [DecidableEq κ] in
theorem mem_rest {other : κ} {here : ι × π} :
    other ∈ (ladder.rest prec place key).queue here ↔
      other = key ∧ here = place ∨ other ∈ ladder.queue here := by
  by_cases same : here = place
  · subst same
    simp [or_comm]
  · rw [Ladder.rest_queue_ne _ same]
    simp [same]

include holds fresh

theorem arrive_chain (here : ι × π) :
    Linked (orderLinks (book.arrive place key seq quantity)) none
      ((ladder.rest prec place key).queue here) none := by
  rw [Book.arrive, orderLinks_withNext, orderLinks_update, holds.tail_eq]
  by_cases same : here = place
  · subst same
    have chain := holds.orderChain here
    have placed := (List.append_nil (ladder.queue here)).symm ▸ chain
    have distinct := (List.append_nil (ladder.queue here)).symm ▸ holds.queue_nodup here
    have absent := (List.append_nil (ladder.queue here)).symm ▸ holds.fresh_not_mem fresh here
    have extended := placed.insert distinct absent
    rw [List.head?_nil, amend_none] at extended
    rw [Ladder.rest_queue_self]
    exact extended
  · rw [Ladder.rest_queue_ne _ same]
    refine (holds.orderChain here).congr fun other inside => ?_
    have away : (ladder.queue place).getLast? ≠ some other := fun found =>
      same (holds.place_unique inside (List.mem_of_getLast? found))
    rw [amend_ne _ away, Function.update_of_ne
      (ne_of_mem_of_not_mem inside (holds.fresh_not_mem fresh here))]

theorem arrive_increasing (later : ∀ other node, book.order other = some node → node.seq < seq)
    (level : ι × π → Option (LevelNode π κ)) (best : ι → Option π) (here : ι × π) :
    ((ladder.rest prec place key).queue here).Pairwise fun older newer =>
      Book.seq ⟨best, level, book.arrive place key seq quantity⟩ older <
        Book.seq ⟨best, level, book.arrive place key seq quantity⟩ newer := by
  have kept : ∀ other, other ≠ key →
      book.seq other = Book.seq ⟨best, level, book.arrive place key seq quantity⟩ other := by
    intro other different
    rw [Book.seq, Book.seq, arrive_order OrderNode.withNext_seq, if_neg different]
  have own : Book.seq ⟨best, level, book.arrive place key seq quantity⟩ key = seq := by
    rw [Book.seq, arrive_order OrderNode.withNext_seq, if_pos rfl, Option.getD_some]
  have older : (ladder.queue here).Pairwise fun older newer =>
      Book.seq ⟨best, level, book.arrive place key seq quantity⟩ older <
        Book.seq ⟨best, level, book.arrive place key seq quantity⟩ newer :=
    increasing_congr (fun other inside =>
      kept other (ne_of_mem_of_not_mem inside (holds.fresh_not_mem fresh here)))
      (holds.increasing here)
  by_cases same : here = place
  · subst same
    rw [Ladder.rest_queue_self, List.pairwise_append]
    refine ⟨older, List.pairwise_singleton _ _, fun other inside newest member => ?_⟩
    rw [List.mem_singleton.mp member, own,
      ← kept other (ne_of_mem_of_not_mem inside (holds.fresh_not_mem fresh here))]
    obtain ⟨node, stored, _⟩ := holds.mem_order inside
    simpa [Book.seq, stored] using later other node stored
  · rw [Ladder.rest_queue_ne _ same]
    exact older

theorem arrive_member (here : ι × π) (other : κ) :
    other ∈ (ladder.rest prec place key).queue here ↔
      (book.arrive place key seq quantity other).map OrderNode.place = some here := by
  rw [mem_rest, holds.member, arrive_order OrderNode.withNext_place]
  split
  · next same => simp [same, fresh, OrderNode.place, eq_comm]
  · next different => simp [different]

omit [DecidableEq ι] [DecidableEq π] [∀ list, DecidableRel (prec list)] fresh in
theorem arrive_positive (some_quantity : 0 < quantity) (other : κ) (amount : Nat)
    (stored : (book.arrive place key seq quantity other).map OrderNode.remaining = some amount) :
    0 < amount := by
  rw [arrive_order OrderNode.withNext_remaining] at stored
  split at stored
  · exact Option.some.inj stored ▸ some_quantity
  · exact holds.positive other amount stored

theorem arrive_summary (level : ι × π → Option (LevelNode π κ)) (best : ι → Option π)
    (here : ι × π) :
    summarize (Book.remaining ⟨best, level, book.arrive place key seq quantity⟩)
        ((ladder.rest prec place key).queue here) =
      if here = place then
        some ⟨(ladder.queue place ++ [key]).head?, some key,
          ((ladder.queue place).map book.remaining).sum + quantity,
          (ladder.queue place).length + 1⟩
      else summarize book.remaining (ladder.queue here) := by
  have kept : ∀ other ∈ ladder.queue here,
      Book.remaining ⟨best, level, book.arrive place key seq quantity⟩ other =
        book.remaining other := by
    intro other inside
    rw [Book.remaining, Book.remaining, arrive_order OrderNode.withNext_remaining,
      if_neg (ne_of_mem_of_not_mem inside (holds.fresh_not_mem fresh here))]
  have own : Book.remaining ⟨best, level, book.arrive place key seq quantity⟩ key = quantity := by
    rw [Book.remaining, arrive_order OrderNode.withNext_remaining, if_pos rfl, Option.getD_some]
  split
  · next same =>
      subst same
      rw [Ladder.rest_queue_self, summarize, if_neg (by simp)]
      simp [List.map_congr_left kept, own]
  · next different =>
      rw [Ladder.rest_queue_ne _ different]
      exact summarize_congr kept

end Represents

/-! ## Same-price arrivals -/

theorem Represents.append (holds : Represents prec book ladder) (fresh : book.order key = none)
    {level : LevelNode π κ} (stored : book.level place = some level)
    (later : ∀ other node, book.order other = some node → node.seq < seq)
    (some_quantity : 0 < quantity) :
    Represents prec (book.append place key seq quantity) (ladder.rest prec place key) := by
  obtain ⟨nonempty, summary⟩ := holds.level_summary stored
  have prices : (ladder.rest prec place key).prices = ladder.prices := by
    rw [Ladder.rest, if_neg nonempty]
  refine
    { sorted := prices ▸ holds.sorted
      head := prices ▸ holds.head
      priceChain := fun list => ?_
      live := fun list price => ?_
      summary := fun here => ?_
      member := holds.arrive_member fresh
      orderChain := holds.arrive_chain fresh
      increasing := holds.arrive_increasing fresh later _ _
      positive := holds.arrive_positive some_quantity }
  · rw [prices]
    refine (holds.priceChain list).congr fun price _ => ?_
    exact (map_amend_apply (LevelNode.onSummary_link _) (list, price)).symm
  · rw [prices, holds.live]
    by_cases same : (list, price) = place
    · rw [same, Ladder.rest_queue_self]
      simp [nonempty]
    · rw [Ladder.rest_queue_ne _ same]
  · refine Eq.trans ?_ (holds.arrive_summary fresh _ _ here).symm
    split
    · next same =>
        subst same
        have head : (ladder.queue here ++ [key]).head? = (ladder.queue here).head? :=
          List.head?_append_of_ne_nil _ nonempty
        simp [Book.append, amend, stored, LevelNode.onSummary, Summary.push, summary, head]
    · next different =>
        have kept : (book.append place key seq quantity).level here = book.level here :=
          amend_ne _ fun found => different (Option.some.inj found).symm
        rw [kept, holds.summary here]

/-! ## New prices -/

/-- The neighbours that a caller names really enclose the new price. -/
structure Adjacent (prec : ι → π → π → Prop) (book : Book ι π κ) (place : ι × π)
    (better worse : Option π) : Prop where
  above : ∀ price, better = some price → prec place.1 price place.2 ∧
    ∃ level, book.level (place.1, price) = some level ∧ level.link.next = worse
  below : ∀ price, worse = some price → prec place.1 place.2 price
  first : better = none → worse = book.best place.1

omit [DecidableEq π] in
theorem orderedInsert_between {r : π → π → Prop} [DecidableRel r] [IsStrictOrder π r] {price : π}
    {left right : List π} (before : ∀ other ∈ left, r other price)
    (after : ∀ other ∈ right, r price other) :
    (left ++ right).orderedInsert r price = left ++ price :: right := by
  induction left with
  | nil =>
      cases right with
      | nil => rfl
      | cons other rest => simp [after other (by simp)]
  | cons other rest ih =>
      have apart : ¬r price other := fun back => asymm back (before other (by simp))
      rw [List.cons_append, List.orderedInsert_cons, if_neg apart,
        ih fun found inside => before found (by simp [inside]), List.cons_append]

section Gaps

omit [DecidableEq ι] [DecidableEq π] [DecidableEq κ] [∀ list, DecidableRel (prec list)]

theorem Represents.sorted_links (holds : Represents prec book ladder) (list : ι) :
    SortedLinks (prec list) (priceLinks book.level list) (book.best list) (ladder.prices list) where
  sorted := holds.sorted list
  head := holds.head list
  chain := holds.priceChain list
  closed price link stored := by
    obtain ⟨level, shown, -⟩ := Option.map_eq_some_iff.mp stored
    exact holds.level_mem.mpr ⟨level, shown⟩

variable [∀ list, IsStrictOrder π (prec list)] (holds : Represents prec book ladder)
include holds

theorem Represents.adjacent_split {better worse : Option π}
    (adjacent : Adjacent prec book place better worse) :
    InGap (prec place.1) (ladder.prices place.1) place.2 better worse := by
  refine (holds.sorted_links place.1).gap_of_links (fun other named => ?_) adjacent.below
    adjacent.first
  obtain ⟨ordered, level, stored, next⟩ := adjacent.above other named
  refine ⟨ordered, ?_⟩
  simp [priceLinks, stored, next]

theorem Represents.adjacent_unique {better worse above below : Option π}
    (adjacent : Adjacent prec book place better worse)
    (also : Adjacent prec book place above below) : better = above ∧ worse = below :=
  (holds.adjacent_split adjacent).unique (holds.adjacent_split also)

end Gaps

section Insert

variable [∀ list, IsStrictOrder π (prec list)]
variable (holds : Represents prec book ladder) {better worse : Option π}
variable (adjacent : Adjacent prec book place better worse) (absent : book.level place = none)

include holds absent

omit [DecidableEq κ] in
theorem Represents.rest_prices {left right : List π} (split : ladder.prices place.1 = left ++ right)
    (before : ∀ price ∈ left, prec place.1 price place.2)
    (after : ∀ price ∈ right, prec place.1 place.2 price) :
    (ladder.rest prec place key).prices =
      Function.update ladder.prices place.1 (left ++ place.2 :: right) := by
  rw [Ladder.rest, if_pos (holds.level_none.mp absent), split, orderedInsert_between before after]

include adjacent

theorem Represents.insert (fresh : book.order key = none)
    (later : ∀ other node, book.order other = some node → node.seq < seq)
    (some_quantity : 0 < quantity) :
    Represents prec (book.insert place key seq quantity better worse)
      (ladder.rest prec place key) := by
  obtain ⟨left, right, split, betterIs, worseIs, before, after⟩ := holds.adjacent_split adjacent
  have prices : (ladder.rest prec place key).prices =
      Function.update ladder.prices place.1 (left ++ place.2 :: right) :=
    holds.rest_prices absent split before after
  have distinct := holds.prices_nodup place.1
  have newPrice : place.2 ∉ ladder.prices place.1 := fun inside => by
    obtain ⟨level, stored⟩ := holds.level_mem.mp inside
    exact nomatch absent.symm.trans stored
  refine
    { sorted := fun list => ?_
      head := fun list => ?_
      priceChain := fun list => ?_
      live := fun list price => ?_
      summary := fun here => ?_
      member := holds.arrive_member fresh
      orderChain := holds.arrive_chain fresh
      increasing := holds.arrive_increasing fresh later _ _
      positive := holds.arrive_positive some_quantity }
  · rw [prices]
    by_cases same : list = place.1
    · subst same
      have sorted := holds.sorted place.1
      rw [split] at sorted
      obtain ⟨leftSorted, rightSorted, across⟩ := List.pairwise_append.mp sorted
      rw [Function.update_self, List.pairwise_append, List.pairwise_cons]
      refine ⟨leftSorted, ⟨after, rightSorted⟩, fun price inside other also => ?_⟩
      rcases List.mem_cons.mp also with rfl | later
      · exact before price inside
      · exact across price inside other later
    · rw [Function.update_of_ne same]
      exact holds.sorted list
  · have head := holds.head place.1
    rw [split] at head
    rw [prices, Book.insert]
    simp only
    by_cases same : list = place.1
    · subst same
      rw [Function.update_self]
      cases left with
      | nil => simp [betterIs]
      | cons top rest => simpa [betterIs, List.getLast?_cons] using head
    · rw [Function.update_of_ne same]
      split
      · rw [Function.update_of_ne same, holds.head]
      · exact holds.head list
  · rw [prices, Book.insert]
    simp only
    by_cases same : list = place.1
    · subst same
      have chain := holds.priceChain place.1
      rw [split] at chain distinct newPrice
      rw [Function.update_self, priceLinks_withBetter, priceLinks_withWorse, priceLinks_update,
        betterIs, worseIs]
      exact chain.insert distinct newPrice
    · rw [Function.update_of_ne same, priceLinks_amend_ne (Ne.symm same),
        priceLinks_amend_ne (Ne.symm same), priceLinks_update_ne _ _ (Ne.symm same)]
      exact holds.priceChain list
  · rw [prices]
    by_cases same : (list, price) = place
    · subst same
      simp
    · rw [Ladder.rest_queue_ne _ same, ← holds.live]
      by_cases sameList : list = place.1
      · subst sameList
        have apart : price ≠ place.2 := fun found => same (by rw [found])
        rw [Function.update_self, split]
        simp [apart]
      · rw [Function.update_of_ne sameList]
  · refine Eq.trans ?_ (holds.arrive_summary fresh _ _ here).symm
    refine (map_amend_apply (LevelNode.withBetter_summary _) _).trans ?_
    refine (map_amend_apply (LevelNode.withWorse_summary _) _).trans ?_
    split
    · next same =>
        subst same
        rw [Function.update_self, holds.level_none.mp absent]
        simp
    · next different => rw [Function.update_of_ne different, holds.summary]

end Insert
end Tidebook.Library
