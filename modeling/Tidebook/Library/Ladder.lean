import Mathlib.Algebra.GroupWithZero.Nat
import Mathlib.Data.List.Sort
import Tidebook.Library.Linked

/-! # Price-time ladders

A book of queues indexed by list and price, held as two levels of doubly linked records: price
levels linked by price, and the orders of one price linked by key. `Ladder` is what the records
stand for: for each list its prices in priority order, for each price its queue in arrival order.
-/

namespace Tidebook.Library

variable {ι π κ : Type*}

structure Summary (κ : Type*) where
  first : Option κ
  last : Option κ
  total : Nat
  count : Nat
  deriving DecidableEq

structure LevelNode (π κ : Type*) where
  link : Link π
  summary : Summary κ
  deriving DecidableEq

structure OrderNode (ι π κ : Type*) where
  list : ι
  price : π
  seq : Nat
  remaining : Nat
  link : Link κ
  deriving DecidableEq

@[ext] structure Book (ι π κ : Type*) where
  best : ι → Option π
  level : ι × π → Option (LevelNode π κ)
  order : κ → Option (OrderNode ι π κ)

structure Ladder (ι π κ : Type*) where
  prices : ι → List π
  queue : ι × π → List κ

/-! ## Record updates -/

def LevelNode.withBetter (price : Option π) (node : LevelNode π κ) : LevelNode π κ :=
  { node with link := node.link.withPrev price }

def LevelNode.withWorse (price : Option π) (node : LevelNode π κ) : LevelNode π κ :=
  { node with link := node.link.withNext price }

def OrderNode.withPrev (key : Option κ) (node : OrderNode ι π κ) : OrderNode ι π κ :=
  { node with link := node.link.withPrev key }

def OrderNode.withNext (key : Option κ) (node : OrderNode ι π κ) : OrderNode ι π κ :=
  { node with link := node.link.withNext key }

def Summary.reduce (quantity : Nat) (summary : Summary κ) : Summary κ :=
  { summary with total := summary.total - quantity }

def Summary.push (key : κ) (quantity : Nat) (summary : Summary κ) : Summary κ :=
  { summary with
    last := some key, total := summary.total + quantity, count := summary.count + 1 }

/-- What is left of a queue when one order, which knows its neighbours, leaves it. -/
def Summary.unlink [DecidableEq κ] (node : OrderNode ι π κ) (summary : Summary κ) : Summary κ where
  first := if node.link.prev = none then node.link.next else summary.first
  last := if node.link.next = none then node.link.prev else summary.last
  total := summary.total - node.remaining
  count := summary.count - 1

def LevelNode.onSummary (change : Summary κ → Summary κ) (node : LevelNode π κ) : LevelNode π κ :=
  { node with summary := change node.summary }

def OrderNode.reduce (quantity : Nat) (node : OrderNode ι π κ) : OrderNode ι π κ :=
  { node with remaining := node.remaining - quantity }

def OrderNode.place (node : OrderNode ι π κ) : ι × π := (node.list, node.price)

@[simp] theorem LevelNode.withBetter_summary (price : Option π) (node : LevelNode π κ) :
    (node.withBetter price).summary = node.summary := rfl

@[simp] theorem LevelNode.withWorse_summary (price : Option π) (node : LevelNode π κ) :
    (node.withWorse price).summary = node.summary := rfl

@[simp] theorem LevelNode.onSummary_link (change : Summary κ → Summary κ) (node : LevelNode π κ) :
    (node.onSummary change).link = node.link := rfl

@[simp] theorem OrderNode.withPrev_place (key : Option κ) (node : OrderNode ι π κ) :
    (node.withPrev key).place = node.place := rfl

@[simp] theorem OrderNode.withNext_place (key : Option κ) (node : OrderNode ι π κ) :
    (node.withNext key).place = node.place := rfl

@[simp] theorem OrderNode.withPrev_seq (key : Option κ) (node : OrderNode ι π κ) :
    (node.withPrev key).seq = node.seq := rfl

@[simp] theorem OrderNode.withNext_seq (key : Option κ) (node : OrderNode ι π κ) :
    (node.withNext key).seq = node.seq := rfl

@[simp] theorem OrderNode.withPrev_remaining (key : Option κ) (node : OrderNode ι π κ) :
    (node.withPrev key).remaining = node.remaining := rfl

@[simp] theorem OrderNode.withNext_remaining (key : Option κ) (node : OrderNode ι π κ) :
    (node.withNext key).remaining = node.remaining := rfl

@[simp] theorem OrderNode.reduce_place (quantity : Nat) (node : OrderNode ι π κ) :
    (node.reduce quantity).place = node.place := rfl

@[simp] theorem OrderNode.reduce_seq (quantity : Nat) (node : OrderNode ι π κ) :
    (node.reduce quantity).seq = node.seq := rfl

@[simp] theorem OrderNode.reduce_link (quantity : Nat) (node : OrderNode ι π κ) :
    (node.reduce quantity).link = node.link := rfl

def priceLinks (levels : ι × π → Option (LevelNode π κ)) (list : ι) : π → Option (Link π) :=
  fun price => (levels (list, price)).map LevelNode.link

def orderLinks (orders : κ → Option (OrderNode ι π κ)) : κ → Option (Link κ) :=
  fun key => (orders key).map OrderNode.link

namespace Book

def remaining (book : Book ι π κ) (key : κ) : Nat :=
  ((book.order key).map OrderNode.remaining).getD 0

def seq (book : Book ι π κ) (key : κ) : Nat := ((book.order key).map OrderNode.seq).getD 0

def tail (book : Book ι π κ) (place : ι × π) : Option κ :=
  (book.level place).bind fun level => level.summary.last

variable [DecidableEq ι] [DecidableEq π] [DecidableEq κ]

def arrive (book : Book ι π κ) (place : ι × π) (key : κ) (seq quantity : Nat) :
    κ → Option (OrderNode ι π κ) :=
  amend (Function.update book.order key
    (some ⟨place.1, place.2, seq, quantity, ⟨book.tail place, none⟩⟩))
    (book.tail place) (OrderNode.withNext (some key))

/-- A first order at a new price, spliced between two adjacent levels. -/
def insert (book : Book ι π κ) (place : ι × π) (key : κ) (seq quantity : Nat)
    (better worse : Option π) : Book ι π κ where
  best := if better = none then Function.update book.best place.1 (some place.2) else book.best
  level := amend (amend
    (Function.update book.level place
      (some ⟨⟨better, worse⟩, ⟨some key, some key, quantity, 1⟩⟩))
    (better.map (Prod.mk place.1)) (LevelNode.withWorse (some place.2)))
    (worse.map (Prod.mk place.1)) (LevelNode.withBetter (some place.2))
  order := book.arrive place key seq quantity

/-- A newest order at an existing price. -/
def append (book : Book ι π κ) (place : ι × π) (key : κ) (seq quantity : Nat) : Book ι π κ where
  best := book.best
  level := amend book.level (some place) (LevelNode.onSummary (Summary.push key quantity))
  order := book.arrive place key seq quantity

/-- Takes one order out of its queue; a level that empties leaves the price list. -/
def remove (book : Book ι π κ) (key : κ) (node : OrderNode ι π κ) (level : LevelNode π κ) :
    Book ι π κ where
  best := if level.summary.count = 1 ∧ level.link.prev = none then
    Function.update book.best node.list level.link.next else book.best
  level := if level.summary.count = 1 then
      amend (amend (Function.update book.level node.place none)
        (level.link.prev.map (Prod.mk node.list)) (LevelNode.withWorse level.link.next))
        (level.link.next.map (Prod.mk node.list)) (LevelNode.withBetter level.link.prev)
    else amend book.level (some node.place) (LevelNode.onSummary (Summary.unlink node))
  order := amend (amend (Function.update book.order key none)
    node.link.prev (OrderNode.withNext node.link.next))
    node.link.next (OrderNode.withPrev node.link.prev)

/-- A partial fill, which leaves every pointer alone. -/
def reduce (book : Book ι π κ) (key : κ) (place : ι × π) (quantity : Nat) : Book ι π κ where
  best := book.best
  level := amend book.level (some place) (LevelNode.onSummary (Summary.reduce quantity))
  order := amend book.order (some key) (OrderNode.reduce quantity)

end Book

namespace Ladder

variable [DecidableEq ι] [DecidableEq π] [DecidableEq κ]
variable (prec : ι → π → π → Prop) [∀ list, DecidableRel (prec list)]

def rest (ladder : Ladder ι π κ) (place : ι × π) (key : κ) : Ladder ι π κ where
  prices := if ladder.queue place = [] then
    Function.update ladder.prices place.1
      ((ladder.prices place.1).orderedInsert (prec place.1) place.2) else ladder.prices
  queue := Function.update ladder.queue place (ladder.queue place ++ [key])

def drop (ladder : Ladder ι π κ) (place : ι × π) (key : κ) : Ladder ι π κ where
  prices := if (ladder.queue place).erase key = [] then
    Function.update ladder.prices place.1 ((ladder.prices place.1).erase place.2)
    else ladder.prices
  queue := Function.update ladder.queue place ((ladder.queue place).erase key)

variable {ladder : Ladder ι π κ} {place other : ι × π} {key : κ}

omit [DecidableEq κ] in
@[simp] theorem rest_queue_self :
    (ladder.rest prec place key).queue place = ladder.queue place ++ [key] :=
  Function.update_self _ _ _

omit [DecidableEq κ] in
theorem rest_queue_ne (different : other ≠ place) :
    (ladder.rest prec place key).queue other = ladder.queue other :=
  Function.update_of_ne different _ _

@[simp] theorem drop_queue_self :
    (ladder.drop place key).queue place = (ladder.queue place).erase key :=
  Function.update_self _ _ _

theorem drop_queue_ne (different : other ≠ place) :
    (ladder.drop place key).queue other = ladder.queue other :=
  Function.update_of_ne different _ _

end Ladder

/-! ## Representation -/

def summarize (remaining : κ → Nat) (queue : List κ) : Option (Summary κ) :=
  if queue = [] then none
  else some ⟨queue.head?, queue.getLast?, (queue.map remaining).sum, queue.length⟩

structure Represents (prec : ι → π → π → Prop) (book : Book ι π κ) (ladder : Ladder ι π κ) :
    Prop where
  sorted : ∀ list, (ladder.prices list).Pairwise (prec list)
  head : ∀ list, book.best list = (ladder.prices list).head?
  priceChain : ∀ list, Linked (priceLinks book.level list) none (ladder.prices list) none
  live : ∀ list price, price ∈ ladder.prices list ↔ ladder.queue (list, price) ≠ []
  summary : ∀ place, (book.level place).map LevelNode.summary =
    summarize book.remaining (ladder.queue place)
  member : ∀ place key, key ∈ ladder.queue place ↔
    (book.order key).map OrderNode.place = some place
  orderChain : ∀ place, Linked (orderLinks book.order) none (ladder.queue place) none
  increasing : ∀ place, (ladder.queue place).Pairwise fun older newer =>
    book.seq older < book.seq newer
  positive : ∀ key amount, (book.order key).map OrderNode.remaining = some amount → 0 < amount

end Tidebook.Library
