import Tidebook.Library.Checked
import Tidebook.Library.Shelf

/-! # Depth

A reader follows a linked list from its head, at most so many records deep. On a sound shelf the
list of a side's prices names every price at which something rests, and the level of each one adds
up what rests there.
-/

namespace Tidebook.Library

/-! ## Bounded walks -/

section Walks

universe u

variable {π β : Type u} {ε : Type*}

/-- `seen` holds the keys that were read so far, first to last. -/
def gather (read : List π → π → Except ε β) (next : β → Option π) :
    Nat → List π → Option π → Except ε (List β × Option π)
  | 0, _, cursor => .ok ([], cursor)
  | _ + 1, _, none => .ok ([], none)
  | room + 1, seen, some here => do
      let record ← read seen here
      let (deeper, rest) ← gather read next room (seen ++ [here]) (next record)
      pure (record :: deeper, rest)

variable {read : List π → π → Except ε β} {next : β → Option π}

theorem gather_keys {keys : List π} {P : π → β → Prop}
    (reads : ∀ seen here rest, keys = seen ++ here :: rest → ∃ record,
      read seen here = .ok record ∧ next record = rest.head? ∧ P here record) (room : Nat) :
    ∃ records, gather read next room [] keys.head? = .ok (records, (keys.drop room).head?) ∧
      List.Forall₂ P (keys.take room) records := by
  have along : ∀ room seen ahead, keys = seen ++ ahead → ∃ records,
      gather read next room seen ahead.head? = .ok (records, (ahead.drop room).head?) ∧
        List.Forall₂ P (ahead.take room) records := by
    intro room
    induction room with
    | zero => exact fun seen ahead _ => ⟨[], rfl, .nil⟩
    | succ room ih =>
        intro seen ahead split
        cases ahead with
        | nil => exact ⟨[], rfl, .nil⟩
        | cons here ahead =>
            obtain ⟨record, got, leads, holds⟩ := reads seen here ahead split
            obtain ⟨records, deeper, each⟩ := ih (seen ++ [here]) ahead (by simp [split])
            refine ⟨record :: records, ?_, .cons holds each⟩
            rw [List.head?_cons, gather, got]
            show (do
              let (deeper, rest) ← gather read next room (seen ++ [here]) (next record)
              pure (record :: deeper, rest)) = _
            rw [leads, deeper]
            rfl
  exact along room [] keys rfl

/-- Records in which each one is where the one before it leads. -/
def Threaded (fits : Option π → π → β → Prop) (next : β → Option π) :
    Option π → Option π → List β → Option π → Prop
  | _, cursor, [], rest => cursor = rest
  | previous, cursor, record :: records, rest => ∃ here, cursor = some here ∧
      fits previous here record ∧ Threaded fits next (some here) (next record) records rest

theorem gather_threaded {fits : Option π → π → β → Prop}
    (checked : ∀ seen here record, read seen here = .ok record → fits seen.getLast? here record)
    {room : Nat} {seen : List π} {cursor rest : Option π} {records : List β}
    (accepted : gather read next room seen cursor = .ok (records, rest)) :
    Threaded fits next seen.getLast? cursor records rest ∧ records.length ≤ room ∧
      (rest ≠ none → records.length = room) := by
  induction room generalizing seen cursor records with
  | zero =>
      cases accepted
      exact ⟨rfl, le_refl 0, fun _ => rfl⟩
  | succ room ih =>
      cases cursor with
      | none =>
          cases accepted
          exact ⟨rfl, Nat.zero_le _, fun some_rest => absurd rfl some_rest⟩
      | some here =>
          simp only [gather, bind_eq_ok, pure_eq_ok, Prod.mk.injEq, Prod.exists] at accepted
          obtain ⟨record, got, deeper, left, walked, rfl, rfl⟩ := accepted
          obtain ⟨threaded, bounded, whole⟩ := ih walked
          rw [List.getLast?_concat] at threaded
          refine ⟨⟨here, rfl, checked seen here record got, threaded⟩, ?_, fun some_rest => ?_⟩
          · rw [List.length_cons]
            exact Nat.succ_le_succ bounded
          · rw [List.length_cons, whole some_rest]

end Walks

/-! ## Totals at one place -/

theorem Store.total_keys {K V : Type*} [DecidableEq K] {f : K → V → Nat} {g : K → Nat}
    {keys : List K} {store : Store K V} (distinct : keys.Nodup)
    (counted : ∀ key ∈ keys, ∃ value, store.get key = some value ∧ f key value = g key)
    (others : ∀ key value, store.get key = some value → key ∉ keys → f key value = 0) :
    store.total f = (keys.map g).sum := by
  induction keys generalizing store with
  | nil =>
      apply List.sum_eq_zero
      intro amount inside
      obtain ⟨⟨key, value⟩, stored, rfl⟩ := List.mem_map.mp inside
      exact others key value (Store.mem_entries.mpr stored) List.not_mem_nil
  | cons key keys ih =>
      obtain ⟨absent, distinct⟩ := List.nodup_cons.mp distinct
      obtain ⟨value, stored, weight⟩ := counted key List.mem_cons_self
      have rest : (store.erase key).total f = (keys.map g).sum := by
        apply ih distinct
        · intro other inside
          have apart : other ≠ key := fun same => absent (same ▸ inside)
          rw [Store.get_erase, if_neg apart]
          exact counted other (List.mem_cons_of_mem key inside)
        · intro other found present missing
          rw [Store.get_erase] at present
          split at present
          · cases present
          · next apart =>
              apply others other found present
              rintro (_ | ⟨_, inside⟩)
              · exact apart rfl
              · exact missing inside
      rw [List.map_cons, List.sum_cons, ← rest, ← weight, Nat.add_comm]
      exact (Store.total_erase_old stored).symm

namespace Shelf

variable {M ι π κ O L : Type*} [DecidableEq M] [DecidableEq κ] [DecidableEq ι] [DecidableEq π]
variable (shelf : Shelf M ι π κ O L)

/-- What the live orders at one place of a book add up to. -/
def tally (orders : Store κ O) (book : M) (place : ι × π) (weight : O → Nat) : Nat :=
  orders.total fun _ order =>
    if shelf.home order = book ∧ shelf.live order ∧ (shelf.node order).place = place then
      weight order else 0

variable {shelf} {prec : ι → π → π → Prop} {heads : M → ι → Option π} {orders : Store κ O}
variable {levels : Store κ L} {book : M}

theorem tally_queue {ladder : Ladder ι π κ}
    (represents : Represents prec (shelf.book heads orders levels book) ladder) (place : ι × π)
    {weight : O → Nat} {g : κ → Nat}
    (weighed : ∀ key order, orders.get key = some order → shelf.home order = book →
      shelf.live order → weight order = g key) :
    shelf.tally orders book place weight = ((ladder.queue place).map g).sum := by
  apply Store.total_keys (represents.queue_nodup place)
  · intro key inside
    obtain ⟨node, shown, at_place⟩ := Option.map_eq_some_iff.mp
      ((represents.member place key).mp inside)
    obtain ⟨order, stored, home, live, rfl⟩ := book_order.mp shown
    refine ⟨order, stored, ?_⟩
    rw [if_pos ⟨home, live, at_place⟩]
    exact weighed key order stored home live
  · intro key order stored outside
    apply if_neg
    rintro ⟨home, live, at_place⟩
    apply outside
    rw [represents.member, book_order.mpr ⟨order, stored, home, live, rfl⟩, Option.map_some,
      at_place]

theorem Sound.ranked (sound : shelf.Sound prec heads orders levels) (book : M) (list : ι) :
    ∃ prices : List π, prices.Pairwise (prec list) ∧ heads book list = prices.head? ∧
      (∀ price, price ∈ prices ↔ 0 < shelf.tally orders book (list, price) fun _ => 1) ∧
      ∀ seen price rest, prices = seen ++ price :: rest → ∃ level,
        levels.get (shelf.file book (list, price)) = some level ∧
        (shelf.levelNode level).link = ⟨seen.getLast?, rest.head?⟩ ∧
        (shelf.levelNode level).summary.first ≠ none ∧
        (shelf.levelNode level).summary.last ≠ none ∧
        (shelf.levelNode level).summary.count =
          shelf.tally orders book (list, price) (fun _ => 1) ∧
        (shelf.levelNode level).summary.total = shelf.tally orders book (list, price)
          fun order => (shelf.node order).remaining := by
  obtain ⟨ladder, represents⟩ := sound book
  have counts : ∀ place, shelf.tally orders book place (fun _ => 1) =
      (ladder.queue place).length := by
    intro place
    rw [tally_queue represents place (g := fun _ => 1) fun _ _ _ _ _ => rfl]
    simp
  have rests : ∀ price, price ∈ ladder.prices list ↔
      0 < shelf.tally orders book (list, price) fun _ => 1 := by
    intro price
    rw [counts, represents.live, List.length_pos_iff]
  refine ⟨ladder.prices list, represents.sorted list, represents.head list, rests, ?_⟩
  intro seen price rest split
  have linked := represents.priceChain list
  rw [split] at linked
  obtain ⟨node, shown, link⟩ := Option.map_eq_some_iff.mp (linked_append.mp linked).2.1
  obtain ⟨level, stored, rfl⟩ := book_level.mp shown
  have occupied : ladder.queue (list, price) ≠ [] := by
    rw [← represents.live, split]
    simp
  have summary := represents.summary (list, price)
  rw [shown, Option.map_some, summarize, if_neg occupied, Option.some.injEq] at summary
  have total : shelf.tally orders book (list, price) (fun order => (shelf.node order).remaining) =
      ((ladder.queue (list, price)).map (shelf.book heads orders levels book).remaining).sum := by
    apply tally_queue represents
    intro key order kept home live
    subst home
    rw [Book.remaining, shelf.book_shows heads levels kept live]
    rfl
  refine ⟨level, stored, ?_, ?_, ?_, ?_, ?_⟩
  · rw [link]
    simp
  · rw [summary]
    simpa using occupied
  · rw [summary]
    simpa using occupied
  · rw [summary, counts]
  · rw [summary, total]

end Shelf
end Tidebook.Library
