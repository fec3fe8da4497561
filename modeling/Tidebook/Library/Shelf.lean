import Tidebook.Library.LadderArrivals
import Tidebook.Library.View

/-! # Shelves

A program keeps the orders and the levels of all its books in two stores and the best prices with
the book. A shelf says how the records are filed and read; `Sound` says that every book on it is a
price-time ladder. The four ways in which a program edits the records keep a shelf sound.
-/

namespace Tidebook.Library

structure Shelf (M ι π κ O L : Type*) where
  file : M → ι × π → κ
  home : O → M
  live : O → Bool
  node : O → OrderNode ι π κ
  levelNode : L → LevelNode π κ
  setNext : Option κ → O → O
  setPrevious : Option κ → O → O
  setWorse : Option π → L → L
  setBetter : Option π → L → L
  file_injective : ∀ {book place other found}, file book place = file other found →
    book = other ∧ place = found
  home_setNext : ∀ value order, home (setNext value order) = home order
  home_setPrevious : ∀ value order, home (setPrevious value order) = home order
  live_setNext : ∀ value order, live (setNext value order) = live order
  live_setPrevious : ∀ value order, live (setPrevious value order) = live order
  node_setNext : ∀ value order, node (setNext value order) = (node order).withNext value
  node_setPrevious : ∀ value order, node (setPrevious value order) = (node order).withPrev value
  levelNode_setWorse : ∀ value level, levelNode (setWorse value level) =
    (levelNode level).withWorse value
  levelNode_setBetter : ∀ value level, levelNode (setBetter value level) =
    (levelNode level).withBetter value

namespace Shelf

variable {M ι π κ O L : Type*} [DecidableEq M] [DecidableEq κ] (shelf : Shelf M ι π κ O L)

omit [DecidableEq κ] in
def shown (book : M) (order : O) : Option (OrderNode ι π κ) :=
  if shelf.home order = book ∧ shelf.live order then some (shelf.node order) else none

def book (heads : M → ι → Option π) (orders : Store κ O) (levels : Store κ L) (book : M) :
    Book ι π κ where
  best := heads book
  level := levels.filed (shelf.file book) shelf.levelNode
  order := orders.project (shelf.shown book)

/-- Rewrites the pointers that two neighbours of a queue position hold. -/
def relink (orders : Store κ O) (previous next after before : Option κ) : Store κ O :=
  (orders.modify previous (shelf.setNext after)).modify next (shelf.setPrevious before)

/-- Rewrites the pointers that the two levels around a price hold. -/
def relevel (book : M) (list : ι) (levels : Store κ L) (better worse towards back : Option π) :
    Store κ L :=
  (levels.modify (better.map fun price => shelf.file book (list, price))
    (shelf.setWorse towards)).modify (worse.map fun price => shelf.file book (list, price))
    (shelf.setBetter back)

def Sound (prec : ι → π → π → Prop) (heads : M → ι → Option π) (orders : Store κ O)
    (levels : Store κ L) : Prop :=
  ∀ book, ∃ ladder, Represents prec (shelf.book heads orders levels book) ladder

/-! ## Reading -/

section Reading

variable {shelf} {heads : M → ι → Option π} {orders : Store κ O} {levels : Store κ L} {book : M}

omit [DecidableEq κ] in
@[simp] theorem shown_eq_some {order : O} {node : OrderNode ι π κ} :
    shelf.shown book order = some node ↔
      shelf.home order = book ∧ shelf.live order ∧ node = shelf.node order := by
  simp only [shown, Option.ite_none_right_eq_some, Option.some.injEq, and_assoc]
  simp only [eq_comm]

omit [DecidableEq κ] in
theorem shown_closed {order : O} (closed : shelf.live order = false) :
    shelf.shown book order = none := by
  simp [shown, closed]

omit [DecidableEq κ] in
theorem shown_away {order : O} (away : shelf.home order ≠ book) : shelf.shown book order = none := by
  simp [shown, away]

omit [DecidableEq κ] in
theorem shown_home {order : O} (live : shelf.live order) :
    shelf.shown (shelf.home order) order = some (shelf.node order) := by
  simp [live]

omit [DecidableEq κ] in
theorem shown_setNext (value : Option κ) (order : O) :
    shelf.shown book (shelf.setNext value order) =
      (shelf.shown book order).map (OrderNode.withNext value) := by
  simp only [shown, shelf.home_setNext, shelf.live_setNext, shelf.node_setNext]
  split <;> rfl

omit [DecidableEq κ] in
theorem shown_setPrevious (value : Option κ) (order : O) :
    shelf.shown book (shelf.setPrevious value order) =
      (shelf.shown book order).map (OrderNode.withPrev value) := by
  simp only [shown, shelf.home_setPrevious, shelf.live_setPrevious, shelf.node_setPrevious]
  split <;> rfl

theorem book_order {key : κ} {node : OrderNode ι π κ} :
    (shelf.book heads orders levels book).order key = some node ↔ ∃ order,
      orders.get key = some order ∧ shelf.home order = book ∧ shelf.live order ∧
        node = shelf.node order := by
  simp [Shelf.book, Store.project, Option.bind_eq_some_iff]

variable (shelf heads levels) in
theorem book_shows {key : κ} {order : O} (stored : orders.get key = some order)
    (live : shelf.live order) :
    (shelf.book heads orders levels (shelf.home order)).order key = some (shelf.node order) :=
  book_order.mpr ⟨order, stored, rfl, live, rfl⟩

theorem book_level {place : ι × π} {node : LevelNode π κ} :
    (shelf.book heads orders levels book).level place = some node ↔ ∃ level,
      levels.get (shelf.file book place) = some level ∧ node = shelf.levelNode level := by
  simp [Shelf.book, Store.filed, eq_comm]

theorem book_level_none {place : ι × π} (vacant : levels.get (shelf.file book place) = none) :
    (shelf.book heads orders levels book).level place = none := by
  simp [Shelf.book, Store.filed, vacant]

theorem book_order_none {key : κ} (fresh : orders.get key = none) :
    (shelf.book heads orders levels book).order key = none := by
  simp [Shelf.book, Store.project, fresh]

theorem hidden {key : κ} {node : OrderNode ι π κ} {other : M}
    (shown : (shelf.book heads orders levels book).order key = some node) (different : other ≠ book) :
    orders.project (shelf.shown other) key = none := by
  obtain ⟨order, stored, rfl, -, -⟩ := book_order.mp shown
  simp [Store.project, stored, shown_away different.symm]

omit [DecidableEq M] [DecidableEq κ] in
theorem file_place (book : M) : Function.Injective (shelf.file book) :=
  fun _ _ same => (shelf.file_injective same).2

omit [DecidableEq M] [DecidableEq κ] in
theorem file_away {other : M} (different : book ≠ other) (place found : ι × π) :
    shelf.file book found ≠ shelf.file other place :=
  fun same => different (shelf.file_injective same).1

omit [DecidableEq M] [DecidableEq κ] in
theorem files_away {other : M} (different : book ≠ other) (list : ι) (price : Option π)
    (place : ι × π) :
    (price.map fun price => shelf.file other (list, price)) ≠ some (shelf.file book place) := by
  cases price with
  | none => simp
  | some price => exact fun same => file_away different _ _ (Option.some.inj same).symm

end Reading

/-! ## Relinking -/

section Relinking

variable {shelf} {orders : Store κ O} {previous next after before : Option κ}

omit [DecidableEq M] in
theorem relink_forall {P : κ → O → Prop}
    (blindNext : ∀ key value order, P key order → P key (shelf.setNext value order))
    (blindPrevious : ∀ key value order, P key order → P key (shelf.setPrevious value order))
    (holds : ∀ key order, orders.get key = some order → P key order) (key : κ) (order : O)
    (found : (shelf.relink orders previous next after before).get key = some order) :
    P key order := by
  simp only [relink, Store.get_modify, amend] at found
  cases stored : orders.get key with
  | none => simp [stored] at found
  | some old =>
      have start := holds key old stored
      simp only [stored, Option.map_some] at found
      split at found <;> split at found <;>
        simp only [Option.map_some, Option.some.injEq] at found <;> subst found
      · exact blindPrevious _ _ _ (blindNext _ _ _ start)
      · exact blindPrevious _ _ _ start
      · exact blindNext _ _ _ start
      · exact start

omit [DecidableEq M] in
theorem relink_total {f : κ → O → Nat}
    (blindNext : ∀ key value order, f key (shelf.setNext value order) = f key order)
    (blindPrevious : ∀ key value order, f key (shelf.setPrevious value order) = f key order) :
    (shelf.relink orders previous next after before).total f = orders.total f := by
  rw [relink, Store.total_modify fun key order => blindPrevious key _ order,
    Store.total_modify fun key order => blindNext key _ order]

omit [DecidableEq M] in
theorem relink_keyed {identity : O → κ}
    (blindNext : ∀ value order, identity (shelf.setNext value order) = identity order)
    (blindPrevious : ∀ value order, identity (shelf.setPrevious value order) = identity order)
    (keyed : orders.Keyed identity) :
    (shelf.relink orders previous next after before).Keyed identity := by
  have front : (orders.modify previous (shelf.setNext after)).Keyed identity :=
    keyed.modify fun _ => blindNext _ _
  exact front.modify fun _ => blindPrevious _ _

theorem relink_project (book : M) :
    (shelf.relink orders previous next after before).project (shelf.shown book) =
      amend (amend (orders.project (shelf.shown book)) previous (OrderNode.withNext after)) next
        (OrderNode.withPrev before) := by
  rw [relink, Store.project_modify (shown_setPrevious before),
    Store.project_modify (shown_setNext after)]

theorem relink_project_away {book : M}
    (foreignPrevious : ∀ key ∈ previous, orders.project (shelf.shown book) key = none)
    (foreignNext : ∀ key ∈ next, orders.project (shelf.shown book) key = none) :
    (shelf.relink orders previous next after before).project (shelf.shown book) =
      orders.project (shelf.shown book) := by
  rw [relink_project, amend_absent foreignPrevious, amend_absent foreignNext]

variable {levels : Store κ L} {home : M} {list : ι} {better worse towards back : Option π}

omit [DecidableEq M] in
theorem relevel_forall {P : κ → L → Prop}
    (blindWorse : ∀ key value level, P key level → P key (shelf.setWorse value level))
    (blindBetter : ∀ key value level, P key level → P key (shelf.setBetter value level))
    (holds : ∀ key level, levels.get key = some level → P key level) (key : κ) (level : L)
    (found : (shelf.relevel home list levels better worse towards back).get key = some level) :
    P key level := by
  simp only [relevel, Store.get_modify, amend] at found
  cases stored : levels.get key with
  | none => simp [stored] at found
  | some old =>
      have start := holds key old stored
      simp only [stored, Option.map_some] at found
      split at found <;> split at found <;>
        simp only [Option.map_some, Option.some.injEq] at found <;> subst found
      · exact blindBetter _ _ _ (blindWorse _ _ _ start)
      · exact blindBetter _ _ _ start
      · exact blindWorse _ _ _ start
      · exact start

omit [DecidableEq M] in
theorem relevel_keyed {identity : L → κ}
    (blindWorse : ∀ value level, identity (shelf.setWorse value level) = identity level)
    (blindBetter : ∀ value level, identity (shelf.setBetter value level) = identity level)
    (keyed : levels.Keyed identity) :
    (shelf.relevel home list levels better worse towards back).Keyed identity := by
  have front : (levels.modify (better.map fun price => shelf.file home (list, price))
      (shelf.setWorse towards)).Keyed identity := keyed.modify fun _ => blindWorse _ _
  exact front.modify fun _ => blindBetter _ _

variable [DecidableEq ι] [DecidableEq π]

omit [DecidableEq M] in
theorem relevel_filed :
    (shelf.relevel home list levels better worse towards back).filed (shelf.file home)
        shelf.levelNode =
      amend (amend (levels.filed (shelf.file home) shelf.levelNode) (better.map (Prod.mk list))
        (LevelNode.withWorse towards)) (worse.map (Prod.mk list)) (LevelNode.withBetter back) := by
  have keys : ∀ price : Option π, (price.map fun price => shelf.file home (list, price)) =
      (price.map (Prod.mk list)).map (shelf.file home) := fun price => by cases price <;> rfl
  rw [relevel, keys, keys,
    Store.filed_modify (file_place home) (shelf.levelNode_setBetter back),
    Store.filed_modify (file_place home) (shelf.levelNode_setWorse towards)]

omit [DecidableEq M] [DecidableEq ι] [DecidableEq π] in
theorem relevel_filed_away {book : M} (different : book ≠ home) :
    (shelf.relevel home list levels better worse towards back).filed (shelf.file book)
        shelf.levelNode = levels.filed (shelf.file book) shelf.levelNode := by
  rw [relevel, Store.filed_modify_ne fun place => files_away different list _ place,
    Store.filed_modify_ne fun place => files_away different list _ place]

end Relinking

/-! ## What a sound shelf says of its records -/

section Sound

variable {shelf} {prec : ι → π → π → Prop} {heads : M → ι → Option π} {orders : Store κ O}
variable {levels : Store κ L} (sound : shelf.Sound prec heads orders levels)
variable {key : κ} {order : O} (stored : orders.get key = some order) (live : shelf.live order)

include sound stored live

theorem Sound.previous {other : κ} (link : (shelf.node order).link.prev = some other) :
    other ≠ key ∧ (shelf.node order).link.next ≠ some other ∧ ∃ older,
      orders.get other = some older ∧ shelf.home older = shelf.home order ∧ shelf.live older ∧
        (shelf.node older).place = (shelf.node order).place ∧
        (shelf.node older).link.next = some key := by
  obtain ⟨ladder, represents⟩ := sound (shelf.home order)
  have shown := shelf.book_shows heads levels stored live
  obtain ⟨_, known, place, back, before⟩ := represents.prev_order shown link
  obtain ⟨older, present, atHome, rests, rfl⟩ := book_order.mp known
  refine ⟨?_, represents.prev_ne_next shown link, older, present, atHome, rests, place, back⟩
  rintro rfl
  rw [stored, Option.some.injEq] at present
  subst present
  exact lt_irrefl _ before

theorem Sound.following {other : κ} (link : (shelf.node order).link.next = some other) :
    other ≠ key ∧ ∃ newer, orders.get other = some newer ∧ shelf.home newer = shelf.home order ∧
      shelf.live newer ∧ (shelf.node newer).place = (shelf.node order).place ∧
      (shelf.node newer).link.prev = some key := by
  obtain ⟨ladder, represents⟩ := sound (shelf.home order)
  have shown := shelf.book_shows heads levels stored live
  obtain ⟨_, known, place, back, before⟩ := represents.next_order shown link
  obtain ⟨newer, present, atHome, rests, rfl⟩ := book_order.mp known
  refine ⟨?_, newer, present, atHome, rests, place, back⟩
  rintro rfl
  rw [stored, Option.some.injEq] at present
  subst present
  exact lt_irrefl _ before

theorem Sound.alone {level : L}
    (found : levels.get (shelf.file (shelf.home order) (shelf.node order).place) = some level) :
    ((shelf.levelNode level).summary.count = 1 → (shelf.node order).link.prev = none ∧
      (shelf.node order).link.next = none ∧
      (shelf.levelNode level).summary.total = (shelf.node order).remaining ∧
      (shelf.levelNode level).summary.first = some key ∧
      (shelf.levelNode level).summary.last = some key) ∧
    ((shelf.levelNode level).summary.count ≠ 1 → ((shelf.node order).link.prev ≠ none ∨
      (shelf.node order).link.next ≠ none) ∧
      (shelf.node order).remaining < (shelf.levelNode level).summary.total) ∧
    0 < (shelf.levelNode level).summary.count ∧
    (shelf.node order).remaining ≤ (shelf.levelNode level).summary.total := by
  obtain ⟨ladder, represents⟩ := sound (shelf.home order)
  have shown := shelf.book_shows heads levels stored live
  exact represents.order_alone shown (book_level.mpr ⟨level, found, rfl⟩)

theorem Sound.previous_older {other : κ} {older : O}
    (link : (shelf.node order).link.prev = some other) (found : orders.get other = some older) :
    (shelf.node older).seq < (shelf.node order).seq := by
  obtain ⟨ladder, represents⟩ := sound (shelf.home order)
  have shown := shelf.book_shows heads levels stored live
  obtain ⟨_, known, -, -, before⟩ := represents.prev_order shown link
  obtain ⟨record, present, -, -, rfl⟩ := book_order.mp known
  rw [found, Option.some.injEq] at present
  exact present ▸ before

theorem Sound.following_newer {other : κ} {newer : O}
    (link : (shelf.node order).link.next = some other) (found : orders.get other = some newer) :
    (shelf.node order).seq < (shelf.node newer).seq := by
  obtain ⟨ladder, represents⟩ := sound (shelf.home order)
  have shown := shelf.book_shows heads levels stored live
  obtain ⟨_, known, -, -, after⟩ := represents.next_order shown link
  obtain ⟨record, present, -, -, rfl⟩ := book_order.mp known
  rw [found, Option.some.injEq] at present
  exact present ▸ after

theorem Sound.ends {level : L}
    (found : levels.get (shelf.file (shelf.home order) (shelf.node order).place) = some level) :
    ((shelf.levelNode level).summary.first = some key ↔ (shelf.node order).link.prev = none) ∧
      ((shelf.levelNode level).summary.last = some key ↔ (shelf.node order).link.next = none) := by
  obtain ⟨ladder, represents⟩ := sound (shelf.home order)
  have shown := shelf.book_shows heads levels stored live
  exact represents.order_ends shown (book_level.mpr ⟨level, found, rfl⟩)

/-- Behind the first of several orders at a price another one waits. -/
theorem Sound.successor {level : L}
    (found : levels.get (shelf.file (shelf.home order) (shelf.node order).place) = some level)
    (first : (shelf.levelNode level).summary.first = some key)
    (several : (shelf.levelNode level).summary.count ≠ 1) :
    ∃ other newer, (shelf.node order).link.next = some other ∧ other ≠ key ∧
      orders.get other = some newer ∧ shelf.home newer = shelf.home order ∧ shelf.live newer ∧
      (shelf.node newer).place = (shelf.node order).place ∧
      (shelf.node newer).link.prev = some key := by
  have ahead := (sound.ends stored live found).1.mp first
  have some_next : (shelf.node order).link.next ≠ none :=
    ((sound.alone stored live found).2.1 several).1.resolve_left fun previous => previous ahead
  obtain ⟨other, link⟩ := Option.ne_none_iff_exists'.mp some_next
  obtain ⟨different, newer, behind⟩ := sound.following stored live link
  exact ⟨other, newer, link, different, behind⟩

theorem Sound.has_level :
    ∃ level, levels.get (shelf.file (shelf.home order) (shelf.node order).place) = some level := by
  obtain ⟨ladder, represents⟩ := sound (shelf.home order)
  have shown := shelf.book_shows heads levels stored live
  obtain ⟨_, known⟩ := represents.level_of_order shown
  obtain ⟨level, found, _⟩ := book_level.mp known
  exact ⟨level, found⟩

theorem Sound.best_reaches : ∃ best, heads (shelf.home order) (shelf.node order).list = some best ∧
    ((shelf.node order).price = best ∨
      prec (shelf.node order).list best (shelf.node order).price) := by
  obtain ⟨ladder, represents⟩ := sound (shelf.home order)
  have shown := shelf.book_shows heads levels stored live
  have inside := represents.price_of_order shown
  obtain ⟨best, rest, shape⟩ := List.exists_cons_of_ne_nil (List.ne_nil_of_mem inside)
  have top : heads (shelf.home order) (shelf.node order).list = some best := by
    have head := represents.head (shelf.node order).list
    rwa [shape] at head
  exact ⟨best, top, represents.best_first top shown rfl⟩

/-- The order comes first by price and then by age among the open orders of its list. -/
def Foremost (shelf : Shelf M ι π κ O L) (prec : ι → π → π → Prop) (orders : Store κ O) (key : κ)
    (order : O) : Prop :=
  ∀ other found, orders.get other = some found → shelf.home found = shelf.home order →
    shelf.live found → (shelf.node found).list = (shelf.node order).list → other ≠ key →
    prec (shelf.node order).list (shelf.node order).price (shelf.node found).price ∨
      (shelf.node found).price = (shelf.node order).price ∧
        (shelf.node order).seq < (shelf.node found).seq

theorem Sound.foremost {level : L}
    (found : levels.get (shelf.file (shelf.home order) (shelf.node order).place) = some level)
    (first : (shelf.levelNode level).summary.first = some key)
    (best : heads (shelf.home order) (shelf.node order).list = some (shelf.node order).price) :
    shelf.Foremost prec orders key order := by
  intro other rival present atHome rests listed different
  obtain ⟨ladder, represents⟩ := sound (shelf.home order)
  have shown := shelf.book_shows heads levels stored live
  have rivalShown := shelf.book_shows heads levels present rests
  rw [atHome] at rivalShown
  rcases represents.best_first best rivalShown listed with priced | before
  · refine .inr ⟨priced, ?_⟩
    have oldest := represents.first_oldest (book_level.mpr ⟨level, found, rfl⟩) first rivalShown
      (Prod.ext listed priced)
    rw [Book.seq, shown] at oldest
    exact oldest.resolve_left different
  · exact .inl before

end Sound

section Heads

variable {shelf} {prec : ι → π → π → Prop} {heads : M → ι → Option π} {orders : Store κ O}
variable {levels : Store κ L} (sound : shelf.Sound prec heads orders levels)

include sound

theorem Sound.head {book : M} {list : ι} {price : π} (best : heads book list = some price) :
    ∃ level key order, levels.get (shelf.file book (list, price)) = some level ∧
      (shelf.levelNode level).link.prev = none ∧
      (shelf.levelNode level).summary.first = some key ∧ orders.get key = some order ∧
      shelf.home order = book ∧ shelf.live order ∧ (shelf.node order).place = (list, price) ∧
      (shelf.node order).link.prev = none := by
  obtain ⟨ladder, represents⟩ := sound book
  obtain ⟨node, known, top⟩ := represents.best_level best
  obtain ⟨level, found, rfl⟩ := book_level.mp known
  obtain ⟨key, node, first, shown, place, front⟩ := represents.first_order known
  obtain ⟨order, stored, atHome, rests, rfl⟩ := book_order.mp shown
  exact ⟨level, key, order, found, top, first, stored, atHome, rests, place, front⟩

theorem Sound.occupied {book : M} {place : ι × π} {level : L}
    (found : levels.get (shelf.file book place) = some level) :
    0 < (shelf.levelNode level).summary.count := by
  obtain ⟨ladder, represents⟩ := sound book
  have present : (shelf.book heads orders levels book).level place =
      some (shelf.levelNode level) := book_level.mpr ⟨level, found, rfl⟩
  obtain ⟨key, node, _, shown, rfl, _⟩ := represents.first_order present
  obtain ⟨order, stored, rfl, rests, rfl⟩ := book_order.mp shown
  exact (sound.alone stored rests found).2.2.1

theorem Sound.filled {book : M} {place : ι × π} {level : L}
    (found : levels.get (shelf.file book place) = some level) :
    (shelf.levelNode level).summary.first ≠ none ∧ (shelf.levelNode level).summary.last ≠ none ∧
      0 < (shelf.levelNode level).summary.total := by
  obtain ⟨ladder, represents⟩ := sound book
  have shown : (shelf.book heads orders levels book).level place = some (shelf.levelNode level) :=
    book_level.mpr ⟨level, found, rfl⟩
  exact represents.level_ends shown

theorem Sound.top {book : M} {list : ι} {price : π} {level : L}
    (found : levels.get (shelf.file book (list, price)) = some level) :
    heads book list = some price ↔ (shelf.levelNode level).link.prev = none := by
  obtain ⟨ladder, represents⟩ := sound book
  have shown : (shelf.book heads orders levels book).level (list, price) =
      some (shelf.levelNode level) := book_level.mpr ⟨level, found, rfl⟩
  exact represents.top_level shown

theorem Sound.better {book : M} {list : ι} {price other : π} {level : L}
    (found : levels.get (shelf.file book (list, price)) = some level)
    (link : (shelf.levelNode level).link.prev = some other) :
    prec list other price ∧ ∃ better, levels.get (shelf.file book (list, other)) = some better ∧
      (shelf.levelNode better).link.next = some price := by
  obtain ⟨ladder, represents⟩ := sound book
  have shown : (shelf.book heads orders levels book).level (list, price) = _ :=
    book_level.mpr ⟨level, found, rfl⟩
  obtain ⟨_, known, back, before⟩ := represents.prev_level shown link
  obtain ⟨better, stored, rfl⟩ := book_level.mp known
  exact ⟨before, better, stored, back⟩

theorem Sound.worse {book : M} {list : ι} {price other : π} {level : L}
    (found : levels.get (shelf.file book (list, price)) = some level)
    (link : (shelf.levelNode level).link.next = some other) :
    prec list price other ∧ ∃ worse, levels.get (shelf.file book (list, other)) = some worse ∧
      (shelf.levelNode worse).link.prev = some price := by
  obtain ⟨ladder, represents⟩ := sound book
  have shown : (shelf.book heads orders levels book).level (list, price) = _ :=
    book_level.mpr ⟨level, found, rfl⟩
  obtain ⟨_, known, back, after⟩ := represents.next_level shown link
  obtain ⟨worse, stored, rfl⟩ := book_level.mp known
  exact ⟨after, worse, stored, back⟩

theorem Sound.best_level {book : M} {list : ι} {price : π} {level : L}
    (found : levels.get (shelf.file book (list, price)) = some level) :
    ∃ best, heads book list = some best ∧ (price = best ∨ prec list best price) := by
  obtain ⟨ladder, represents⟩ := sound book
  have present : (shelf.book heads orders levels book).level (list, price) =
      some (shelf.levelNode level) := book_level.mpr ⟨level, found, rfl⟩
  obtain ⟨key, node, _, shown, place, _⟩ := represents.first_order present
  obtain ⟨order, stored, rfl, live, rfl⟩ := book_order.mp shown
  obtain ⟨listed, priced⟩ := Prod.mk.inj place
  obtain ⟨best, top, reaches⟩ := sound.best_reaches stored live
  rw [listed] at top reaches
  rw [priced] at reaches
  exact ⟨best, top, reaches⟩

theorem Sound.tail {book : M} {place : ι × π} {level : L} {key : κ}
    (found : levels.get (shelf.file book place) = some level)
    (last : (shelf.levelNode level).summary.last = some key) : ∃ order,
    orders.get key = some order ∧ shelf.home order = book ∧ shelf.live order ∧
      (shelf.node order).place = place := by
  obtain ⟨ladder, represents⟩ := sound book
  have present : (shelf.book heads orders levels book).level place =
      some (shelf.levelNode level) := book_level.mpr ⟨level, found, rfl⟩
  obtain ⟨node, shown, rfl⟩ := represents.mem_order (represents.last_mem present last)
  obtain ⟨order, stored, rfl, live, rfl⟩ := book_order.mp shown
  exact ⟨order, stored, rfl, live, rfl⟩

theorem Sound.no_heads {book : M}
    (empty : ∀ key order, orders.get key = some order → shelf.home order = book →
      shelf.live order = false) (list : ι) : heads book list = none := by
  cases best : heads book list with
  | none => rfl
  | some price =>
      obtain ⟨_, key, order, _, _, _, stored, atHome, rests, _⟩ := sound.head best
      rw [empty key order stored atHome] at rests
      cases rests

theorem Sound.adjacent_unique [∀ list, IsStrictOrder π (prec list)] {book : M} {place : ι × π}
    {better worse above below : Option π}
    (adjacent : Adjacent prec (shelf.book heads orders levels book) place better worse)
    (also : Adjacent prec (shelf.book heads orders levels book) place above below) :
    better = above ∧ worse = below := by
  obtain ⟨ladder, represents⟩ := sound book
  exact represents.adjacent_unique adjacent also

end Heads

/-! ## Sound edits

Each edit is given with the heads it leaves: what it does to the book of its order, and that it
leaves the heads of every other book alone.
-/

section Edits

variable [DecidableEq ι] [DecidableEq π]
variable {shelf} {prec : ι → π → π → Prop} {heads headed : M → ι → Option π}
variable {orders : Store κ O} {levels : Store κ L}

omit [DecidableEq ι] [DecidableEq π] in
theorem Sound.empty (unheaded : ∀ book list, heads book list = none) :
    shelf.Sound prec heads (.empty : Store κ O) (.empty : Store κ L) := by
  intro book
  refine ⟨⟨fun _ => [], fun _ => []⟩, fun _ => .nil, fun list => unheaded book list,
    fun _ => trivial, fun _ _ => by simp, fun _ => rfl, fun _ _ => ?_, fun _ => trivial,
    fun _ => .nil, fun _ _ present => ?_⟩
  · simp [Shelf.book, Store.project]
  · simp [Shelf.book, Store.project] at present

omit [DecidableEq ι] [DecidableEq π] in
theorem Sound.congr (sound : shelf.Sound prec heads orders levels) (same : headed = heads) :
    shelf.Sound prec headed orders levels := same ▸ sound

section Arrival

variable [∀ list, DecidableRel (prec list)]
variable (order : O) (level : L) (key : κ)

omit [DecidableEq π] [DecidableEq ι] [∀ list, DecidableRel (prec list)] in
theorem arrival_away {book : M} (fresh : orders.get key = none)
    (different : book ≠ shelf.home order) :
    (orders.set key order).project (shelf.shown book) = orders.project (shelf.shown book) := by
  refine Store.project_set_same ?_
  rw [shown_away different.symm, Store.project, fresh, Option.bind_none]

theorem insert_here {better worse : Option π}
    (vacant : levels.get (shelf.file (shelf.home order) (shelf.node order).place) = none)
    (live : shelf.live order) (links : (shelf.node order).link = ⟨none, none⟩)
    (opened : shelf.levelNode level =
      ⟨⟨better, worse⟩, ⟨some key, some key, (shelf.node order).remaining, 1⟩⟩)
    (here : headed (shelf.home order) = if better = none then
      Function.update (heads (shelf.home order)) (shelf.node order).list
        (some (shelf.node order).price) else heads (shelf.home order)) :
    shelf.book headed (orders.set key order)
        (shelf.relevel (shelf.home order) (shelf.node order).list
          (levels.set (shelf.file (shelf.home order) (shelf.node order).place) level) better worse
          (some (shelf.node order).price) (some (shelf.node order).price)) (shelf.home order) =
      (shelf.book heads orders levels (shelf.home order)).insert (shelf.node order).place key
        (shelf.node order).seq (shelf.node order).remaining better worse := by
  have none_there : (shelf.book heads orders levels (shelf.home order)).level
      (shelf.node order).place = none := book_level_none vacant
  apply Book.ext
  · simp only [Shelf.book, Book.insert, here]
    rfl
  · simp only [Shelf.book, Book.insert, relevel_filed, Store.filed_set (file_place _), opened]
    rfl
  · have node : shelf.node order = ⟨(shelf.node order).list, (shelf.node order).price,
        (shelf.node order).seq, (shelf.node order).remaining, ⟨none, none⟩⟩ := by rw [← links]
    simp only [Book.insert, Book.arrive, Book.tail, none_there, Option.bind_none, amend_none]
    simp only [Shelf.book, Store.project_set, shown_home live]
    rw [node]
    rfl

theorem Sound.insert [∀ list, IsStrictOrder π (prec list)] {better worse : Option π}
    (sound : shelf.Sound prec heads orders levels) (fresh : orders.get key = none)
    (vacant : levels.get (shelf.file (shelf.home order) (shelf.node order).place) = none)
    (live : shelf.live order) (links : (shelf.node order).link = ⟨none, none⟩)
    (opened : shelf.levelNode level =
      ⟨⟨better, worse⟩, ⟨some key, some key, (shelf.node order).remaining, 1⟩⟩)
    (adjacent : Adjacent prec (shelf.book heads orders levels (shelf.home order))
      (shelf.node order).place better worse)
    (later : ∀ other found, orders.get other = some found → shelf.home found = shelf.home order →
      shelf.live found → (shelf.node found).seq < (shelf.node order).seq)
    (some_quantity : 0 < (shelf.node order).remaining)
    (here : headed (shelf.home order) = if better = none then
      Function.update (heads (shelf.home order)) (shelf.node order).list
        (some (shelf.node order).price) else heads (shelf.home order))
    (away : ∀ other, other ≠ shelf.home order → headed other = heads other) :
    shelf.Sound prec headed (orders.set key order)
      (shelf.relevel (shelf.home order) (shelf.node order).list
        (levels.set (shelf.file (shelf.home order) (shelf.node order).place) level) better worse
        (some (shelf.node order).price) (some (shelf.node order).price)) := by
  intro book
  obtain ⟨ladder, represents⟩ := sound book
  by_cases same : book = shelf.home order
  · subst same
    rw [insert_here order level key vacant live links opened here]
    refine ⟨_, represents.insert adjacent (book_level_none vacant) (book_order_none fresh) ?_
      some_quantity⟩
    intro other node shown
    obtain ⟨found, stored, atHome, rests, rfl⟩ := book_order.mp shown
    exact later other found stored atHome rests
  · refine ⟨ladder, ?_⟩
    simp only [Shelf.book, away book same, arrival_away order key fresh same,
      relevel_filed_away same, Store.filed_set_ne (file_away same _)]
    exact represents

theorem append_here {quantity : Nat} {found pushed : L} {tail : κ}
    (stored : levels.get (shelf.file (shelf.home order) (shelf.node order).place) = some found)
    (last : (shelf.levelNode found).summary.last = some tail)
    (live : shelf.live order) (links : (shelf.node order).link = ⟨some tail, none⟩)
    (remaining : (shelf.node order).remaining = quantity)
    (joined : shelf.levelNode pushed =
      (shelf.levelNode found).onSummary (Summary.push key quantity))
    (here : headed (shelf.home order) = heads (shelf.home order)) :
    shelf.book headed (shelf.relink (orders.set key order) (some tail) none (some key) none)
        (levels.set (shelf.file (shelf.home order) (shelf.node order).place) pushed)
        (shelf.home order) =
      (shelf.book heads orders levels (shelf.home order)).append (shelf.node order).place key
        (shelf.node order).seq quantity := by
  have shown : (shelf.book heads orders levels (shelf.home order)).level (shelf.node order).place =
      some (shelf.levelNode found) := book_level.mpr ⟨found, stored, rfl⟩
  have tailed : (shelf.book heads orders levels (shelf.home order)).tail (shelf.node order).place =
      some tail := by rw [Book.tail, shown, Option.bind_some, last]
  apply Book.ext
  · exact here
  · simp only [Book.append, amend_some shown]
    simp only [Shelf.book, Store.filed_set (file_place _), joined]
  · have node : shelf.node order = ⟨(shelf.node order).list, (shelf.node order).price,
        (shelf.node order).seq, quantity, ⟨some tail, none⟩⟩ := by rw [← links, ← remaining]
    simp only [Book.append, Book.arrive, tailed]
    simp only [Shelf.book, relink_project, Store.project_set, shown_home live, amend_none]
    rw [node]
    rfl

theorem Sound.append {found pushed : L} {tail : κ} (sound : shelf.Sound prec heads orders levels)
    (fresh : orders.get key = none)
    (stored : levels.get (shelf.file (shelf.home order) (shelf.node order).place) = some found)
    (last : (shelf.levelNode found).summary.last = some tail)
    (live : shelf.live order) (links : (shelf.node order).link = ⟨some tail, none⟩)
    (joined : shelf.levelNode pushed =
      (shelf.levelNode found).onSummary (Summary.push key (shelf.node order).remaining))
    (later : ∀ other found, orders.get other = some found → shelf.home found = shelf.home order →
      shelf.live found → (shelf.node found).seq < (shelf.node order).seq)
    (some_quantity : 0 < (shelf.node order).remaining) (same : headed = heads) :
    shelf.Sound prec headed (shelf.relink (orders.set key order) (some tail) none (some key) none)
      (levels.set (shelf.file (shelf.home order) (shelf.node order).place) pushed) := by
  subst same
  have shown : (shelf.book headed orders levels (shelf.home order)).level (shelf.node order).place =
      some (shelf.levelNode found) := book_level.mpr ⟨found, stored, rfl⟩
  intro book
  by_cases same : book = shelf.home order
  · subst same
    obtain ⟨ladder, represents⟩ := sound (shelf.home order)
    rw [append_here order key stored last live links rfl joined rfl]
    refine ⟨_, represents.append (book_order_none fresh) shown ?_ some_quantity⟩
    intro other node shown
    obtain ⟨found, stored, atHome, rests, rfl⟩ := book_order.mp shown
    exact later other found stored atHome rests
  · obtain ⟨ladder, represents⟩ := sound (shelf.home order)
    obtain ⟨node, there, _⟩ := represents.mem_order
      (represents.last_mem shown last)
    obtain ⟨other, also⟩ := sound book
    refine ⟨other, ?_⟩
    simp only [Shelf.book, Store.filed_set_ne (file_away same _)]
    rw [relink_project_away, arrival_away order key fresh same]
    · exact also
    · intro found here
      cases here
      rw [arrival_away order key fresh same]
      exact hidden there same
    · simp

end Arrival

section Departure

variable (order gone : O) (key : κ)

/-- The level store after an order has left: an emptied level is unlinked and erased. -/
def vacate (shelf : Shelf M ι π κ O L) (levels : Store κ L) (order : O) (level rest : L) :
    Store κ L :=
  if (shelf.levelNode level).summary.count = 1 then
    shelf.relevel (shelf.home order) (shelf.node order).list
      (levels.erase (shelf.file (shelf.home order) (shelf.node order).place))
      (shelf.levelNode level).link.prev (shelf.levelNode level).link.next
      (shelf.levelNode level).link.next (shelf.levelNode level).link.prev
  else levels.set (shelf.file (shelf.home order) (shelf.node order).place) rest

omit [DecidableEq M] [DecidableEq ι] [DecidableEq π] in
theorem vacate_last {level rest : L} (last : (shelf.levelNode level).summary.count = 1) :
    shelf.vacate levels order level rest = shelf.relevel (shelf.home order) (shelf.node order).list
      (levels.erase (shelf.file (shelf.home order) (shelf.node order).place))
      (shelf.levelNode level).link.prev (shelf.levelNode level).link.next
      (shelf.levelNode level).link.next (shelf.levelNode level).link.prev := if_pos last

omit [DecidableEq M] [DecidableEq ι] [DecidableEq π] in
theorem vacate_stays {level rest : L} (stays : (shelf.levelNode level).summary.count ≠ 1) :
    shelf.vacate levels order level rest =
      levels.set (shelf.file (shelf.home order) (shelf.node order).place) rest := if_neg stays

/-- The order store after an order has left: its neighbours point at each other. -/
def unlink (shelf : Shelf M ι π κ O L) (orders : Store κ O) (key : κ) (order gone : O) :
    Store κ O :=
  shelf.relink (orders.set key gone) (shelf.node order).link.prev (shelf.node order).link.next
    (shelf.node order).link.next (shelf.node order).link.prev

omit [DecidableEq M] [DecidableEq ι] [DecidableEq π] in
/-- What an order's departure leaves of every other order: itself, with its links led past the gap. -/
theorem unlink_get (shelf : Shelf M ι π κ O L) (orders : Store κ O) (order gone : O) {key other : κ}
    (different : other ≠ key) :
    (shelf.unlink orders key order gone).get other = (orders.get other).map fun record =>
      let relinked := if (shelf.node order).link.prev = some other then
        shelf.setNext (shelf.node order).link.next record else record
      if (shelf.node order).link.next = some other then
        shelf.setPrevious (shelf.node order).link.prev relinked else relinked := by
  simp only [unlink, relink, Store.get_modify, amend, Store.get_set_ne _ _ different]
  cases orders.get other <;> split <;> split <;> simp_all

omit [DecidableEq M] [DecidableEq ι] [DecidableEq π] in
theorem unlink_self (shelf : Shelf M ι π κ O L) (orders : Store κ O) (order gone : O) {key : κ}
    (before : (shelf.node order).link.prev ≠ some key)
    (after : (shelf.node order).link.next ≠ some key) :
    (shelf.unlink orders key order gone).get key = some gone := by
  simp only [unlink, relink, Store.get_modify, amend, if_neg before, if_neg after,
    Store.get_set_self]

theorem remove_here {level rest : L}
    (found : levels.get (shelf.file (shelf.home order) (shelf.node order).place) = some level)
    (closed : shelf.live gone = false)
    (left : shelf.levelNode rest =
      (shelf.levelNode level).onSummary (Summary.unlink (shelf.node order)))
    (here : headed (shelf.home order) =
      if (shelf.levelNode level).summary.count = 1 ∧ (shelf.levelNode level).link.prev = none then
        Function.update (heads (shelf.home order)) (shelf.node order).list
          (shelf.levelNode level).link.next
      else heads (shelf.home order)) :
    shelf.book headed (shelf.unlink orders key order gone) (shelf.vacate levels order level rest)
        (shelf.home order) =
      (shelf.book heads orders levels (shelf.home order)).remove key (shelf.node order)
        (shelf.levelNode level) := by
  have shown : (shelf.book heads orders levels (shelf.home order)).level (shelf.node order).place =
      some (shelf.levelNode level) := book_level.mpr ⟨level, found, rfl⟩
  apply Book.ext
  · exact here
  · simp only [Book.remove, vacate]
    split
    · simp only [Shelf.book, relevel_filed, Store.filed_erase (file_place _)]
    · rw [amend_some shown]
      simp only [Shelf.book, Store.filed_set (file_place _), left]
  · simp only [Shelf.book, unlink, Book.remove, relink_project, Store.project_set,
      shown_closed closed]

theorem Sound.remove [∀ list, DecidableRel (prec list)] [∀ list, IsStrictOrder π (prec list)]
    {level rest : L} (sound : shelf.Sound prec heads orders levels)
    (stored : orders.get key = some order) (live : shelf.live order)
    (found : levels.get (shelf.file (shelf.home order) (shelf.node order).place) = some level)
    (closed : shelf.live gone = false)
    (left : shelf.levelNode rest =
      (shelf.levelNode level).onSummary (Summary.unlink (shelf.node order)))
    (here : headed (shelf.home order) =
      if (shelf.levelNode level).summary.count = 1 ∧ (shelf.levelNode level).link.prev = none then
        Function.update (heads (shelf.home order)) (shelf.node order).list
          (shelf.levelNode level).link.next
      else heads (shelf.home order))
    (away : ∀ other, other ≠ shelf.home order → headed other = heads other) :
    shelf.Sound prec headed (shelf.unlink orders key order gone)
      (shelf.vacate levels order level rest) := by
  have shown := shelf.book_shows heads levels stored live
  have shownLevel : (shelf.book heads orders levels (shelf.home order)).level
      (shelf.node order).place = some (shelf.levelNode level) :=
    book_level.mpr ⟨level, found, rfl⟩
  obtain ⟨ladder, represents⟩ := sound (shelf.home order)
  intro book
  by_cases same : book = shelf.home order
  · subst same
    rw [remove_here order gone key found closed left here]
    exact ⟨_, represents.remove shown shownLevel⟩
  · obtain ⟨other, also⟩ := sound book
    have kept : (orders.set key gone).project (shelf.shown book) =
        orders.project (shelf.shown book) :=
      Store.project_set_same ((hidden shown same).trans (shown_closed closed).symm)
    refine ⟨other, ?_⟩
    have levelsKept : (shelf.vacate levels order level rest).filed (shelf.file book)
        shelf.levelNode = levels.filed (shelf.file book) shelf.levelNode := by
      rw [vacate]
      split
      · rw [relevel_filed_away same, Store.filed_erase_ne (file_away same _)]
      · rw [Store.filed_set_ne (file_away same _)]
    simp only [Shelf.book, away book same, levelsKept, unlink]
    rw [relink_project_away, kept]
    · exact also
    · intro found link
      rw [kept]
      obtain ⟨older, known, _⟩ := represents.prev_order shown link
      exact hidden known same
    · intro found link
      rw [kept]
      obtain ⟨newer, known, _⟩ := represents.next_order shown link
      exact hidden known same

end Departure

section Fill

variable (order filled : O) (key : κ)

theorem Sound.reduce {level reduced : L} {quantity : Nat}
    (sound : shelf.Sound prec heads orders levels) (stored : orders.get key = some order)
    (live : shelf.live order) (less : quantity < (shelf.node order).remaining)
    (found : levels.get (shelf.file (shelf.home order) (shelf.node order).place) = some level)
    (stays : shelf.home filled = shelf.home order) (stillLive : shelf.live filled)
    (changed : shelf.node filled = (shelf.node order).reduce quantity)
    (also : shelf.levelNode reduced =
      (shelf.levelNode level).onSummary (Summary.reduce quantity)) (same : headed = heads) :
    shelf.Sound prec headed (orders.set key filled)
      (levels.set (shelf.file (shelf.home order) (shelf.node order).place) reduced) := by
  subst same
  have shown := shelf.book_shows headed levels stored live
  have shownLevel : (shelf.book headed orders levels (shelf.home order)).level
      (shelf.node order).place = some (shelf.levelNode level) :=
    book_level.mpr ⟨level, found, rfl⟩
  intro book
  obtain ⟨ladder, represents⟩ := sound book
  by_cases same : book = shelf.home order
  · subst same
    have reshaped : shelf.book headed (orders.set key filled)
        (levels.set (shelf.file (shelf.home order) (shelf.node order).place) reduced)
        (shelf.home order) = (shelf.book headed orders levels (shelf.home order)).reduce key
          (shelf.node order).place quantity := by
      apply Book.ext
      · rfl
      · simp only [Book.reduce, amend_some shownLevel]
        simp only [Shelf.book, Store.filed_set (file_place _), also]
      · simp only [Book.reduce, amend_some shown]
        have visible := shown_home stillLive
        rw [stays] at visible
        simp only [Shelf.book, Store.project_set, visible, changed]
    rw [reshaped]
    exact ⟨ladder, represents.reduce shown less⟩
  · refine ⟨ladder, ?_⟩
    have unseen : shelf.shown book filled = none :=
      shown_away (stays.trans_ne (Ne.symm same))
    simp only [Shelf.book, Store.filed_set_ne (file_away same _),
      Store.project_set_same ((hidden shown same).trans unseen.symm)]
    exact represents

end Fill
end Edits
end Shelf
end Tidebook.Library
