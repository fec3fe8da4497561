import Mathlib.Algebra.BigOperators.Group.List.Basic
import Tidebook.Library.Ladder

/-! # What the records of a ladder say -/

namespace Tidebook.Library

/-! ## Links under record updates -/

section Links

variable {ι π κ : Type*} [DecidableEq ι] [DecidableEq π]

theorem priceLinks_amend {levels : ι × π → Option (LevelNode π κ)} {list : ι}
    {price : Option π} {change : LevelNode π κ → LevelNode π κ} {image : Link π → Link π}
    (commute : ∀ level, (change level).link = image level.link) :
    priceLinks (amend levels (price.map (Prod.mk list)) change) list =
      amend (priceLinks levels list) price image := by
  funext other
  have keys : price.map (Prod.mk list) = some (list, other) ↔ price = some other := by
    cases price <;> simp
  simp only [priceLinks, amend, keys]
  split
  · cases levels (list, other) <;> simp [commute]
  · rfl

theorem priceLinks_withBetter {levels : ι × π → Option (LevelNode π κ)} {list : ι}
    {price : Option π} (value : Option π) :
    priceLinks (amend levels (price.map (Prod.mk list)) (LevelNode.withBetter value)) list =
      amend (priceLinks levels list) price (Link.withPrev value) :=
  priceLinks_amend fun _ => rfl

theorem priceLinks_withWorse {levels : ι × π → Option (LevelNode π κ)} {list : ι}
    {price : Option π} (value : Option π) :
    priceLinks (amend levels (price.map (Prod.mk list)) (LevelNode.withWorse value)) list =
      amend (priceLinks levels list) price (Link.withNext value) :=
  priceLinks_amend fun _ => rfl

theorem priceLinks_amend_ne {levels : ι × π → Option (LevelNode π κ)} {list other : ι}
    {price : Option π} {change : LevelNode π κ → LevelNode π κ} (different : list ≠ other) :
    priceLinks (amend levels (price.map (Prod.mk list)) change) other =
      priceLinks levels other := by
  funext found
  have apart : price.map (Prod.mk list) ≠ some (other, found) := by
    cases price <;> simp [different]
  simp only [priceLinks, amend_ne _ apart]

theorem priceLinks_update (levels : ι × π → Option (LevelNode π κ)) (place : ι × π)
    (value : Option (LevelNode π κ)) :
    priceLinks (Function.update levels place value) place.1 =
      Function.update (priceLinks levels place.1) place.2 (value.map LevelNode.link) := by
  funext other
  by_cases same : other = place.2
  · subst same
    simp [priceLinks]
  · have apart : (place.1, other) ≠ place := fun found => same (congrArg Prod.snd found)
    simp [priceLinks, Function.update_of_ne apart, Function.update_of_ne same]

theorem priceLinks_update_ne {levels : ι × π → Option (LevelNode π κ)} {list : ι}
    (place : ι × π) (value : Option (LevelNode π κ)) (different : place.1 ≠ list) :
    priceLinks (Function.update levels place value) list = priceLinks levels list := by
  funext other
  have apart : (list, other) ≠ place := fun found => different (congrArg Prod.fst found).symm
  simp [priceLinks, Function.update_of_ne apart]

end Links

section Links

variable {ι π κ : Type*} [DecidableEq κ] {orders : κ → Option (OrderNode ι π κ)} {key : Option κ}

theorem orderLinks_withNext (value : Option κ) :
    orderLinks (amend orders key (OrderNode.withNext value)) =
      amend (orderLinks orders) key (Link.withNext value) :=
  map_amend fun _ => rfl

theorem orderLinks_withPrev (value : Option κ) :
    orderLinks (amend orders key (OrderNode.withPrev value)) =
      amend (orderLinks orders) key (Link.withPrev value) :=
  map_amend fun _ => rfl

theorem orderLinks_update (key : κ) (value : Option (OrderNode ι π κ)) :
    orderLinks (Function.update orders key value) =
      Function.update (orderLinks orders) key (value.map OrderNode.link) :=
  map_update

end Links

variable {ι π κ : Type*}
variable {prec : ι → π → π → Prop} {book : Book ι π κ} {ladder : Ladder ι π κ}
variable {place : ι × π} {key : κ} {node : OrderNode ι π κ} {level : LevelNode π κ}

theorem sum_map_change {f g : κ → Nat} {queue : List κ} (distinct : queue.Nodup)
    (member : key ∈ queue) (same : ∀ other ∈ queue, other ≠ key → f other = g other) :
    (queue.map g).sum + f key = (queue.map f).sum + g key := by
  obtain ⟨left, right, rfl⟩ := List.append_of_mem member
  have nodup := List.nodup_middle.mp distinct
  have absent := (List.nodup_cons.mp nodup).1
  rw [List.mem_append, not_or] at absent
  have leftSame : left.map g = left.map f := List.map_congr_left fun other inside =>
    (same other (by simp [inside]) (ne_of_mem_of_not_mem inside absent.1)).symm
  have rightSame : right.map g = right.map f := List.map_congr_left fun other inside =>
    (same other (by simp [inside]) (ne_of_mem_of_not_mem inside absent.2)).symm
  simp only [List.map_append, List.map_cons, List.sum_append, List.sum_cons, leftSame, rightSame]
  omega

theorem summarize_congr {amounts changed : κ → Nat} {queue : List κ}
    (same : ∀ other ∈ queue, amounts other = changed other) :
    summarize amounts queue = summarize changed queue := by
  simp only [summarize, List.map_congr_left same]

theorem increasing_congr {f g : κ → Nat} {queue : List κ}
    (same : ∀ other ∈ queue, f other = g other)
    (increasing : queue.Pairwise fun older newer => f older < f newer) :
    queue.Pairwise fun older newer => g older < g newer :=
  increasing.imp_of_mem fun {older newer} inside also before => by
    rw [← same older inside, ← same newer also]
    exact before

namespace Represents

variable (holds : Represents prec book ladder)
include holds

theorem queue_nodup (place : ι × π) : (ladder.queue place).Nodup :=
  (holds.increasing place).imp fun before same => by
    subst same
    exact lt_irrefl _ before

theorem prices_nodup [∀ list, IsStrictOrder π (prec list)] (list : ι) :
    (ladder.prices list).Nodup :=
  (holds.sorted list).imp fun before => ne_of_irrefl before

theorem order_mem (present : book.order key = some node) : key ∈ ladder.queue node.place :=
  (holds.member node.place key).mpr (by rw [present]; rfl)

theorem mem_order (inside : key ∈ ladder.queue place) :
    ∃ node, book.order key = some node ∧ node.place = place := by
  simpa using (holds.member place key).mp inside

theorem place_unique {other : ι × π} (inside : key ∈ ladder.queue place)
    (also : key ∈ ladder.queue other) : place = other := by
  have first := (holds.member place key).mp inside
  have second := (holds.member other key).mp also
  exact Option.some.inj (first.symm.trans second)

theorem level_summary (present : book.level place = some level) :
    ladder.queue place ≠ [] ∧ level.summary = ⟨(ladder.queue place).head?,
      (ladder.queue place).getLast?, ((ladder.queue place).map book.remaining).sum,
      (ladder.queue place).length⟩ := by
  have stored := holds.summary place
  rw [present, summarize] at stored
  split at stored
  · cases stored
  · next nonempty => exact ⟨nonempty, Option.some.inj stored⟩

theorem last_mem (present : book.level place = some level)
    (last : level.summary.last = some key) : key ∈ ladder.queue place := by
  rw [(holds.level_summary present).2] at last
  exact List.mem_of_getLast? last

theorem level_none : book.level place = none ↔ ladder.queue place = [] := by
  have stored := holds.summary place
  constructor
  · intro absent
    by_contra nonempty
    rw [absent, summarize, if_neg nonempty] at stored
    cases stored
  · intro empty
    rw [empty, summarize, if_pos rfl] at stored
    exact Option.map_eq_none_iff.mp stored

theorem level_mem {list : ι} {price : π} :
    price ∈ ladder.prices list ↔ ∃ level, book.level (list, price) = some level := by
  rw [holds.live, Ne, ← holds.level_none, ← Ne, Option.ne_none_iff_exists']

theorem level_of_order (present : book.order key = some node) :
    ∃ level, book.level node.place = some level := by
  rw [← Option.ne_none_iff_exists', Ne, holds.level_none]
  exact List.ne_nil_of_mem (holds.order_mem present)

theorem price_of_order (present : book.order key = some node) :
    node.price ∈ ladder.prices node.list :=
  holds.level_mem.mpr (holds.level_of_order present)

theorem tail_eq (place : ι × π) : book.tail place = (ladder.queue place).getLast? := by
  rw [Book.tail]
  cases stored : book.level place with
  | none => rw [holds.level_none.mp stored]; rfl
  | some level => rw [Option.bind_some, (holds.level_summary stored).2]

theorem fresh_not_mem (fresh : book.order key = none) (place : ι × π) :
    key ∉ ladder.queue place := by
  rw [holds.member, fresh]
  simp

theorem queue_split (present : book.order key = some node) :
    ∃ left right, ladder.queue node.place = left ++ key :: right ∧
      node.link.prev = left.getLast? ∧ node.link.next = right.head? := by
  obtain ⟨left, right, split, links⟩ :=
    (holds.orderChain node.place).exists_split (holds.order_mem present)
  rw [orderLinks, present, Option.map_some, Option.some.injEq] at links
  exact ⟨left, right, split, by rw [links], by rw [links]⟩

theorem price_split {list : ι} {price : π} (present : book.level (list, price) = some level) :
    ∃ left right, ladder.prices list = left ++ price :: right ∧
      level.link.prev = left.getLast? ∧ level.link.next = right.head? := by
  obtain ⟨left, right, split, links⟩ :=
    (holds.priceChain list).exists_split (holds.level_mem.mpr ⟨level, present⟩)
  rw [priceLinks, present, Option.map_some, Option.some.injEq] at links
  exact ⟨left, right, split, by rw [links], by rw [links]⟩

/-! ## Neighbours -/

theorem prev_order {other : κ} (present : book.order key = some node)
    (link : node.link.prev = some other) :
    ∃ older, book.order other = some older ∧ older.place = node.place ∧
      older.link.next = some key ∧ older.seq < node.seq := by
  obtain ⟨left, right, split, prev, _⟩ := holds.queue_split present
  rw [link] at prev
  obtain ⟨front, rfl⟩ := List.getLast?_eq_some_iff.mp prev.symm
  rw [List.append_assoc, List.singleton_append] at split
  have inside : other ∈ ladder.queue node.place := by simp [split]
  obtain ⟨older, stored, samePlace⟩ := holds.mem_order inside
  have chain := holds.orderChain node.place
  have increasing := holds.increasing node.place
  rw [split] at chain increasing
  have own := chain.at_split
  rw [orderLinks, stored, Option.map_some, Option.some.injEq] at own
  have before := List.rel_of_pairwise_cons (List.pairwise_append.mp increasing).2.1
    (List.mem_cons_self (a := key) (l := right))
  refine ⟨older, stored, samePlace, by simp [own], ?_⟩
  simpa [Book.seq, stored, present] using before

theorem next_order {other : κ} (present : book.order key = some node)
    (link : node.link.next = some other) :
    ∃ newer, book.order other = some newer ∧ newer.place = node.place ∧
      newer.link.prev = some key ∧ node.seq < newer.seq := by
  obtain ⟨left, right, split, _, next⟩ := holds.queue_split present
  rw [link] at next
  obtain ⟨rest, rfl⟩ : ∃ rest, right = other :: rest := by
    cases right with
    | nil => simp at next
    | cons head rest => exact ⟨rest, by rw [Option.some.inj next]⟩
  have inside : other ∈ ladder.queue node.place := by simp [split]
  obtain ⟨newer, stored, samePlace⟩ := holds.mem_order inside
  have chain := holds.orderChain node.place
  have increasing := holds.increasing node.place
  rw [split] at chain increasing
  have own := (linked_append.mp chain).2.2.1
  rw [orderLinks, stored, Option.map_some, Option.some.injEq] at own
  have before := List.rel_of_pairwise_cons (List.pairwise_append.mp increasing).2.1
    (List.mem_cons_self (a := other) (l := rest))
  refine ⟨newer, stored, samePlace, by simp [own], ?_⟩
  simpa [Book.seq, stored, present] using before

theorem prev_ne_next {other : κ} (present : book.order key = some node)
    (prev : node.link.prev = some other) : node.link.next ≠ some other := by
  intro next
  obtain ⟨older, stored, _, _, before⟩ := holds.prev_order present prev
  obtain ⟨newer, also, _, _, after⟩ := holds.next_order present next
  rw [stored] at also
  cases also
  omega

theorem prev_level {list : ι} {price other : π}
    (present : book.level (list, price) = some level) (link : level.link.prev = some other) :
    ∃ better, book.level (list, other) = some better ∧ better.link.next = some price ∧
      prec list other price := by
  obtain ⟨left, right, split, prev, _⟩ := holds.price_split present
  rw [link] at prev
  obtain ⟨front, rfl⟩ := List.getLast?_eq_some_iff.mp prev.symm
  rw [List.append_assoc, List.singleton_append] at split
  have inside : other ∈ ladder.prices list := by simp [split]
  obtain ⟨better, stored⟩ := holds.level_mem.mp inside
  have chain := holds.priceChain list
  have sorted := holds.sorted list
  rw [split] at chain sorted
  have own := chain.at_split
  rw [priceLinks, stored, Option.map_some, Option.some.injEq] at own
  exact ⟨better, stored, by simp [own], List.rel_of_pairwise_cons
    (List.pairwise_append.mp sorted).2.1 (List.mem_cons_self (a := price) (l := right))⟩

theorem next_level {list : ι} {price other : π}
    (present : book.level (list, price) = some level) (link : level.link.next = some other) :
    ∃ worse, book.level (list, other) = some worse ∧ worse.link.prev = some price ∧
      prec list price other := by
  obtain ⟨left, right, split, _, next⟩ := holds.price_split present
  rw [link] at next
  obtain ⟨rest, rfl⟩ : ∃ rest, right = other :: rest := by
    cases right with
    | nil => simp at next
    | cons head rest => exact ⟨rest, by rw [Option.some.inj next]⟩
  have inside : other ∈ ladder.prices list := by simp [split]
  obtain ⟨worse, stored⟩ := holds.level_mem.mp inside
  have chain := holds.priceChain list
  have sorted := holds.sorted list
  rw [split] at chain sorted
  have own := (linked_append.mp chain).2.2.1
  rw [priceLinks, stored, Option.map_some, Option.some.injEq] at own
  exact ⟨worse, stored, by simp [own], List.rel_of_pairwise_cons
    (List.pairwise_append.mp sorted).2.1 (List.mem_cons_self (a := other) (l := rest))⟩

theorem order_alone (present : book.order key = some node)
    (stored : book.level node.place = some level) :
    (level.summary.count = 1 → node.link.prev = none ∧ node.link.next = none ∧
      level.summary.total = node.remaining ∧ level.summary.first = some key ∧
      level.summary.last = some key) ∧
    (level.summary.count ≠ 1 → (node.link.prev ≠ none ∨ node.link.next ≠ none) ∧
      node.remaining < level.summary.total) ∧
    0 < level.summary.count ∧ node.remaining ≤ level.summary.total := by
  obtain ⟨left, right, split, prev, next⟩ := holds.queue_split present
  have own : book.remaining key = node.remaining := by simp [Book.remaining, present]
  obtain ⟨_, summary⟩ := holds.level_summary stored
  rw [summary, split, prev, next]
  simp only [List.map_append, List.map_cons, List.sum_append, List.sum_cons, own,
    List.length_append, List.length_cons]
  have some_left : ∀ other ∈ left, 0 < book.remaining other := by
    intro other inside
    obtain ⟨found, known, _⟩ := holds.mem_order (by rw [split]; simp [inside] :
      other ∈ ladder.queue node.place)
    simpa [Book.remaining, known] using holds.positive other found.remaining (by simp [known])
  have some_right : ∀ other ∈ right, 0 < book.remaining other := by
    intro other inside
    obtain ⟨found, known, _⟩ := holds.mem_order (by rw [split]; simp [inside] :
      other ∈ ladder.queue node.place)
    simpa [Book.remaining, known] using holds.positive other found.remaining (by simp [known])
  cases left with
  | nil =>
      cases right with
      | nil => simp
      | cons head rest =>
          have positive := some_right head (by simp)
          simp only [List.length_nil, List.length_cons, List.map_nil, List.sum_nil, List.map_cons,
            List.sum_cons]
          refine ⟨fun single => ?_, fun _ => ⟨by simp, ?_⟩, ?_, ?_⟩ <;> omega
  | cons head rest =>
      have positive := some_left head (by simp)
      simp only [List.length_cons, List.map_cons, List.sum_cons]
      refine ⟨fun single => ?_, fun _ => ⟨by simp [List.getLast?_cons], ?_⟩, ?_, ?_⟩ <;> omega

theorem order_ends (present : book.order key = some node)
    (stored : book.level node.place = some level) :
    (level.summary.first = some key ↔ node.link.prev = none) ∧
      (level.summary.last = some key ↔ node.link.next = none) := by
  obtain ⟨left, right, split, prev, next⟩ := holds.queue_split present
  obtain ⟨_, summary⟩ := holds.level_summary stored
  have distinct := holds.queue_nodup node.place
  rw [split] at distinct summary
  have absent := (List.nodup_cons.mp (List.nodup_middle.mp distinct)).1
  rw [List.mem_append, not_or] at absent
  rw [summary, prev, next]
  constructor
  · cases left with
    | nil => simp
    | cons head rest =>
        have other : head ≠ key := fun same => absent.1 (by simp [same])
        simp [other, List.getLast?_cons]
  · cases right with
    | nil => simp
    | cons head rest =>
        have later : (left ++ key :: head :: rest).getLast? = (head :: rest).getLast? := by
          simp [List.getLast?_append, List.getLast?_cons]
        refine ⟨fun last => ?_, fun none_next => by simp at none_next⟩
        rw [later] at last
        exact absurd (List.mem_of_getLast? last) absent.2

/-! ## Priority -/

theorem first_order (present : book.level place = some level) :
    ∃ key node, level.summary.first = some key ∧ book.order key = some node ∧
      node.place = place ∧ node.link.prev = none := by
  obtain ⟨nonempty, summary⟩ := holds.level_summary present
  obtain ⟨key, rest, cons⟩ := List.exists_cons_of_ne_nil nonempty
  obtain ⟨node, stored, at_place⟩ := holds.mem_order (by rw [cons]; simp : key ∈ ladder.queue place)
  have links := holds.orderChain place
  rw [cons] at links
  have own := links.1
  rw [orderLinks, stored, Option.map_some, Option.some.injEq] at own
  exact ⟨key, node, by rw [summary, cons]; rfl, stored, at_place, by rw [own]⟩

theorem first_oldest (present : book.level place = some level)
    (first : level.summary.first = some key) {other : κ} {rival : OrderNode ι π κ}
    (stored : book.order other = some rival) (same : rival.place = place) :
    other = key ∨ book.seq key < rival.seq := by
  obtain ⟨_, summary⟩ := holds.level_summary present
  rw [summary] at first
  obtain ⟨rest, cons⟩ : ∃ rest, ladder.queue place = key :: rest := by
    cases shape : ladder.queue place with
    | nil => simp [shape] at first
    | cons head rest =>
        simp only [shape, List.head?_cons, Option.some.injEq] at first
        exact ⟨rest, by rw [first]⟩
  have inside := holds.order_mem stored
  rw [same, cons, List.mem_cons] at inside
  refine inside.imp_right fun later => ?_
  have increasing := holds.increasing place
  rw [cons] at increasing
  have before := List.rel_of_pairwise_cons increasing later
  simpa [Book.seq, stored] using before

theorem best_level {list : ι} {price : π} (best : book.best list = some price) :
    ∃ level, book.level (list, price) = some level ∧ level.link.prev = none := by
  rw [holds.head] at best
  obtain ⟨rest, cons⟩ : ∃ rest, ladder.prices list = price :: rest := by
    cases shape : ladder.prices list with
    | nil => simp [shape] at best
    | cons head rest =>
        simp only [shape, List.head?_cons, Option.some.injEq] at best
        exact ⟨rest, by rw [best]⟩
  have inside : price ∈ ladder.prices list := by simp [cons]
  obtain ⟨level, present⟩ := holds.level_mem.mp inside
  have links := holds.priceChain list
  rw [cons] at links
  have own := links.1
  rw [priceLinks, present, Option.map_some, Option.some.injEq] at own
  exact ⟨level, present, by rw [own]⟩

theorem level_ends (present : book.level place = some level) :
    level.summary.first ≠ none ∧ level.summary.last ≠ none ∧ 0 < level.summary.total := by
  obtain ⟨nonempty, summary⟩ := holds.level_summary present
  refine ⟨by simpa [summary] using nonempty, by simpa [summary] using nonempty, ?_⟩
  obtain ⟨key, node, -, stored, rfl, -⟩ := holds.first_order present
  have some_left := holds.positive key node.remaining (by rw [stored, Option.map_some])
  exact lt_of_lt_of_le some_left (holds.order_alone stored present).2.2.2

theorem top_level {list : ι} {price : π} (present : book.level (list, price) = some level) :
    book.best list = some price ↔ level.link.prev = none := by
  constructor
  · intro best
    obtain ⟨top, stored, alone⟩ := holds.best_level best
    rw [present, Option.some.injEq] at stored
    rw [stored, alone]
  · intro alone
    obtain ⟨left, right, split, prev, _⟩ := holds.price_split present
    rw [alone, eq_comm, List.getLast?_eq_none_iff] at prev
    rw [holds.head, split, prev]
    rfl

theorem best_first {list : ι} {price : π} (best : book.best list = some price)
    (stored : book.order key = some node) (same : node.list = list) :
    node.price = price ∨ prec list price node.price := by
  have inside := holds.price_of_order stored
  have sorted := holds.sorted list
  rw [holds.head] at best
  rw [same] at inside
  cases shape : ladder.prices list with
  | nil => simp [shape] at inside
  | cons head rest =>
      simp only [shape, List.head?_cons, Option.some.injEq] at best
      rw [shape, best] at sorted
      rw [shape, best, List.mem_cons] at inside
      exact inside.imp_right fun later => List.rel_of_pairwise_cons sorted later

end Represents
end Tidebook.Library
