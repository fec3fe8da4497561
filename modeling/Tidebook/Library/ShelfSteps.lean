import Tidebook.Library.Shelf

/-! # Orders across a step

What one edit of a shelf does to its store of orders: it leaves them alone, files a new open one, or
writes a new version of one that is open. Identities are what no version changes.
-/

namespace Tidebook.Library.Shelf

variable {M ι π κ O L A : Type*} [DecidableEq κ] (shelf : Shelf M ι π κ O L)

/-- What the links of an order do not enter. -/
structure Blind (read : O → A) : Prop where
  next : ∀ value order, read (shelf.setNext value order) = read order
  previous : ∀ value order, read (shelf.setPrevious value order) = read order

inductive OrderStep (identity : O → A) (admitted : O → Prop) (target : Option κ)
    (orders : Store κ O) : Store κ O → Prop where
  | still : OrderStep identity admitted target orders orders
  | arrival {key : κ} {written : O} {previous next after before : Option κ}
      (fresh : orders.get key = none) (live : shelf.live written) (passed : admitted written) :
      OrderStep identity admitted target orders
        (shelf.relink (orders.set key written) previous next after before)
  | change {key : κ} {old written : O} {previous next after before : Option κ}
      (stored : orders.get key = some old) (live : shelf.live old)
      (same : identity written = identity old) (aimed : target = some key) :
      OrderStep identity admitted target orders
        (shelf.relink (orders.set key written) previous next after before)

section Frame

variable {shelf} {identity : O → A} {admitted : O → Prop} {target : Option κ}
variable {orders later : Store κ O}

theorem relink_map {previous next after before : Option κ} {read : O → A} (blind : shelf.Blind read)
    (key : κ) : ((shelf.relink orders previous next after before).get key).map read =
      (orders.get key).map read := by
  simp only [relink, Store.get_modify, amend]
  cases orders.get key with
  | none => simp
  | some order =>
      simp only [Option.map_some]
      split <;> split <;> simp [blind.next, blind.previous]

theorem relink_away {previous next after before : Option κ} {read : O → A} (blind : shelf.Blind read)
    {key other : κ} {written order version : O} (away : key ≠ other)
    (stored : orders.get key = some order)
    (found : (shelf.relink (orders.set other written) previous next after before).get key =
      some version) : read version = read order := by
  have shown : some (read version) = ((orders.set other written).get key).map read := by
    rw [← relink_map blind, found, Option.map_some]
  rw [Store.get_set_ne _ _ away, stored, Option.map_some, Option.some.injEq] at shown
  exact shown

variable (step : shelf.OrderStep identity admitted target orders later)

include step

theorem OrderStep.kept (blind : shelf.Blind identity) {key : κ} {order : O}
    (stored : orders.get key = some order) :
    ∃ version, later.get key = some version ∧ identity version = identity order := by
  suffices same : (later.get key).map identity = some (identity order) from
    Option.map_eq_some_iff.mp same
  cases step with
  | still => rw [stored, Option.map_some]
  | arrival fresh live passed =>
      rw [relink_map blind, Store.get_set, if_neg fun same => ?_, stored, Option.map_some]
      rw [same, fresh] at stored
      cases stored
  | @change found old written _ _ _ _ present live same aimed =>
      rw [relink_map blind, Store.get_set]
      split
      · next home =>
          rw [home, present, Option.some.injEq] at stored
          rw [Option.map_some, same, stored]
      · rw [stored, Option.map_some]

theorem OrderStep.elsewhere {B : Type*} {read : O → B} (blind : shelf.Blind read) {key : κ}
    {order : O} (stored : orders.get key = some order) (other : target ≠ some key) :
    ∃ version, later.get key = some version ∧ read version = read order := by
  suffices same : (later.get key).map read = some (read order) from
    Option.map_eq_some_iff.mp same
  cases step with
  | still => rw [stored, Option.map_some]
  | arrival fresh live passed =>
      rw [relink_map blind, Store.get_set, if_neg fun same => ?_, stored, Option.map_some]
      rw [same, fresh] at stored
      cases stored
  | change present live same aimed =>
      have away : ¬key = _ := fun home => other (aimed.trans (congrArg some home.symm))
      rw [relink_map blind, Store.get_set, if_neg away, stored, Option.map_some]

omit step in
theorem relink_origin (blind : shelf.Blind identity) {found key : κ} {written order : O}
    {previous next after before : Option κ}
    (stored : (shelf.relink (orders.set found written) previous next after before).get key =
      some order) (rests : shelf.live order) :
    key = found ∧ identity order = identity written ∨
      ∃ old, orders.get key = some old ∧ shelf.live old ∧ identity order = identity old := by
  have blindLive : shelf.Blind shelf.live := ⟨shelf.live_setNext, shelf.live_setPrevious⟩
  have shown : some (identity order) = ((orders.set found written).get key).map identity := by
    rw [← relink_map blind, stored, Option.map_some]
  have open_ : some (shelf.live order) = ((orders.set found written).get key).map shelf.live := by
    rw [← relink_map blindLive, stored, Option.map_some]
  rw [Store.get_set] at shown open_
  split at shown
  · next home => exact .inl ⟨home, by simpa using shown⟩
  · next away =>
      rw [if_neg away] at open_
      obtain ⟨old, present, same⟩ := Option.map_eq_some_iff.mp shown.symm
      rw [present, Option.map_some, Option.some.injEq] at open_
      exact .inr ⟨old, present, open_ ▸ rests, same.symm⟩

theorem OrderStep.origin (blind : shelf.Blind identity) :
    ∃ arrived : Option O, (∀ written ∈ arrived, admitted written) ∧
      ∀ key order, later.get key = some order → shelf.live order →
        (∃ old, orders.get key = some old ∧ shelf.live old ∧ identity order = identity old) ∨
          ∃ written ∈ arrived, identity order = identity written := by
  cases step with
  | still => exact ⟨none, by simp, fun key order stored rests => .inl ⟨order, stored, rests, rfl⟩⟩
  | @arrival found written _ _ _ _ fresh live passed =>
      refine ⟨some written, by simpa using passed, fun key order stored rests => ?_⟩
      obtain ⟨-, same⟩ | old := relink_origin blind stored rests
      · exact .inr ⟨written, rfl, same⟩
      · exact .inl old
  | @change found old written _ _ _ _ present live same aimed =>
      refine ⟨none, by simp, fun key order stored rests => .inl ?_⟩
      obtain ⟨rfl, alike⟩ | old := relink_origin blind stored rests
      · exact ⟨old, present, live, alike.trans same⟩
      · exact old

theorem OrderStep.known (blind : shelf.Blind identity) {key : κ} {order : O}
    (found : later.get key = some order) :
    (∃ old, orders.get key = some old ∧ identity order = identity old) ∨ shelf.live order := by
  have blindLive : shelf.Blind shelf.live := ⟨shelf.live_setNext, shelf.live_setPrevious⟩
  cases before : orders.get key with
  | some old =>
      obtain ⟨version, present, same⟩ := step.kept blind before
      cases found.symm.trans present
      exact .inl ⟨old, rfl, same⟩
  | none =>
      cases step with
      | still => cases before.symm.trans found
      | @arrival other written _ _ _ _ fresh live passed =>
          have shown : some (shelf.live order) =
              ((orders.set other written).get key).map shelf.live := by
            rw [← relink_map blindLive, found, Option.map_some]
          rw [Store.get_set] at shown
          split at shown
          · exact .inr ((Option.some.inj shown).trans live)
          · rw [before] at shown
            cases shown
      | @change other old written _ _ _ _ present live same aimed =>
          have shown : some (shelf.live order) =
              ((orders.set other written).get key).map shelf.live := by
            rw [← relink_map blindLive, found, Option.map_some]
          have away : key ≠ other := by
            rintro rfl
            cases before.symm.trans present
          rw [Store.get_set_ne _ _ away, before] at shown
          cases shown

/-- What identities determine holds of every order once it holds of what arrives. -/
theorem OrderStep.all {P : A → Prop} (blind : shelf.Blind identity)
    (holds : ∀ key order, orders.get key = some order → P (identity order))
    (arrives : ∀ written, admitted written → P (identity written)) {key : κ} {order : O}
    (found : later.get key = some order) : P (identity order) := by
  cases before : orders.get key with
  | some old =>
      obtain ⟨version, present, same⟩ := step.kept blind before
      cases found.symm.trans present
      exact same ▸ holds key old before
  | none =>
      cases step with
      | still => cases before.symm.trans found
      | @arrival other written _ _ _ _ fresh live passed =>
          have shown : some (identity order) =
              ((orders.set other written).get key).map identity := by
            rw [← relink_map blind, found, Option.map_some]
          rw [Store.get_set] at shown
          split at shown
          · exact (Option.some.inj shown) ▸ arrives written passed
          · rw [before] at shown
            cases shown
      | @change other old written _ _ _ _ present live same aimed =>
          have shown : some (identity order) =
              ((orders.set other written).get key).map identity := by
            rw [← relink_map blind, found, Option.map_some]
          have away : key ≠ other := by
            rintro rfl
            cases before.symm.trans present
          rw [Store.get_set_ne _ _ away, before] at shown
          cases shown

theorem OrderStep.closed {key : κ} {order version : O} (stored : orders.get key = some order)
    (ended : shelf.live order = false) (found : later.get key = some version) :
    shelf.live version = false := by
  have blind : shelf.Blind shelf.live := ⟨shelf.live_setNext, shelf.live_setPrevious⟩
  cases step with
  | still =>
      rw [stored, Option.some.injEq] at found
      rw [← found, ended]
  | @arrival other written _ _ _ _ fresh live passed =>
      have away : key ≠ other := by
        rintro rfl
        rw [fresh] at stored
        cases stored
      exact (relink_away blind away stored found).trans ended
  | @change other old written _ _ _ _ present live same aimed =>
      have away : key ≠ other := by
        rintro rfl
        rw [present, Option.some.injEq] at stored
        rw [stored, ended] at live
        cases live
      exact (relink_away blind away stored found).trans ended

theorem OrderStep.coarsen {B : Type*} (read : O → B) (coarse : A → B)
    (reads : ∀ order, read order = coarse (identity order)) :
    shelf.OrderStep read admitted target orders later := by
  cases step with
  | still => exact .still
  | arrival fresh live passed => exact .arrival fresh live passed
  | change stored live same aimed =>
      exact .change stored live (by rw [reads, reads, same]) aimed

/-- A relation between the identities of any two open orders survives a step whose arrival stands
in it with everything that is open. -/
theorem OrderStep.pairwise {apart : A → A → Prop} (blind : shelf.Blind identity)
    (holds : ∀ first second one two, orders.get first = some one → orders.get second = some two →
      shelf.live one → shelf.live two → apart (identity one) (identity two))
    (alone : ∀ written, admitted written → apart (identity written) (identity written))
    (arrives : ∀ written key order, admitted written → orders.get key = some order →
      shelf.live order → apart (identity written) (identity order) ∧
        apart (identity order) (identity written)) :
    ∀ first second one two, later.get first = some one → later.get second = some two →
      shelf.live one → shelf.live two → apart (identity one) (identity two) := by
  obtain ⟨arrived, passed, origin⟩ := step.origin blind
  intro first second one two storedOne storedTwo liveOne liveTwo
  obtain ⟨old, present, live, same⟩ | ⟨written, member, same⟩ := origin first one storedOne liveOne
  · obtain ⟨other, found, rests, alike⟩ | ⟨written, member, alike⟩ :=
      origin second two storedTwo liveTwo
    · rw [same, alike]
      exact holds first second old other present found live rests
    · rw [same, alike]
      exact (arrives written first old (passed written member) present live).2
  · obtain ⟨other, found, rests, alike⟩ | ⟨later, also, alike⟩ :=
      origin second two storedTwo liveTwo
    · rw [same, alike]
      exact (arrives written second other (passed written member) found rests).1
    · cases Option.mem_unique member also
      rw [same, alike]
      exact alone written (passed written member)

end Frame
end Tidebook.Library.Shelf
