import Tidebook.Indexer.Storage

/-! # Live checkpoints

The decisions on a live checkpoint against the true order of the chain, of which every observation
shows a part: the slot, and the place in the slot where the node knows it.
-/

namespace Tidebook.Proof
open Library Indexer

/-- The order in which the transactions ran. -/
structure Chain (Signature : Type) where
  before : Signature → Signature → Prop
  ordered : IsStrictTotalOrder Signature before
  slot : Signature → Nat
  index : Signature → Option Nat
  slots : ∀ {first second}, slot first < slot second → before first second
  indices : ∀ {first second i j}, slot first = slot second → index first = some i →
    index second = some j → i < j → before first second
  distinct : ∀ {first second i}, slot first = slot second → index first = some i →
    index second = some i → first = second

/-- What a node may truthfully report of a transaction. -/
def Chain.Observation {Signature : Type} (chain : Chain Signature) : Type :=
  { checkpoint : LiveCheckpoint Signature // checkpoint.slot = chain.slot checkpoint.signature ∧
    ∀ index ∈ checkpoint.transactionIndex, chain.index checkpoint.signature = some index }

namespace Chain
variable {Signature : Type} {chain : Chain Signature} {stored incoming later : chain.Observation}

theorem Observation.same_index (same : stored.1.signature = incoming.1.signature) {i j : Nat}
    (known : stored.1.transactionIndex = some i) (also : incoming.1.transactionIndex = some j) :
    i = j := by
  have first := stored.2.2 i known
  have second := incoming.2.2 j also
  rw [same, second] at first
  exact (Option.some.inj first).symm

/-- What follows a checkpoint in a run: more knowledge of its transaction, or a later one. -/
def Follows (stored later : chain.Observation) : Prop :=
  (later.1.signature = stored.1.signature ∧
    ∀ index ∈ stored.1.transactionIndex, later.1.transactionIndex = some index) ∨
  chain.before stored.1.signature later.1.signature

theorem Follows.refl : Follows stored stored := .inl ⟨rfl, fun _ known => known⟩

theorem Follows.trans {last : chain.Observation} (first : Follows stored later)
    (second : Follows later last) : Follows stored last := by
  have ordered := chain.ordered
  rcases first with ⟨same, kept⟩ | first
  · rcases second with ⟨also, keeps⟩ | second
    · exact .inl ⟨also.trans same, fun index known => keeps index (kept index known)⟩
    · exact .inr (same ▸ second)
  · rcases second with ⟨also, -⟩ | second
    · exact .inr (also ▸ first)
    · exact .inr (ordered.trans _ _ _ first second)

section
variable [DecidableEq Signature]

/-- The checkpoint after one update; a rejected update leaves it as it is. -/
def Observation.advance (stored incoming : chain.Observation) : chain.Observation :=
  match decideUpdate stored.1 incoming.1 with
  | .ok .replace => incoming
  | .ok .keep | .error _ => stored

theorem decideUpdate_cases (stored incoming : chain.Observation) :
    (stored.1.signature = incoming.1.signature ∧ stored.1.transactionIndex = none ∧
      incoming.1.transactionIndex.isSome ∧ decideUpdate stored.1 incoming.1 = .ok .replace) ∨
    (stored.1.signature = incoming.1.signature ∧
      (stored.1.transactionIndex = none → incoming.1.transactionIndex = none) ∧
      decideUpdate stored.1 incoming.1 = .ok .keep) ∨
    (chain.before stored.1.signature incoming.1.signature ∧
      decideUpdate stored.1 incoming.1 = .ok .replace) ∨
    (chain.before incoming.1.signature stored.1.signature ∧
      decideUpdate stored.1 incoming.1 = .error (.backward stored.1 incoming.1)) ∨
    (stored.1.signature ≠ incoming.1.signature ∧
      decideUpdate stored.1 incoming.1 = .error (.ambiguousSameSlot stored.1 incoming.1)) := by
  unfold decideUpdate
  by_cases same : stored.1.signature = incoming.1.signature
  · have slot : stored.1.slot = incoming.1.slot := by
      rw [stored.2.1, incoming.2.1, same]
    simp only [if_pos same]
    cases known : stored.1.transactionIndex with
    | none =>
        cases also : incoming.1.transactionIndex with
        | none => exact .inr (.inl ⟨same, fun _ => rfl, by simp [slot]⟩)
        | some index => exact .inl ⟨same, rfl, rfl, by simp [slot]⟩
    | some index =>
        cases also : incoming.1.transactionIndex with
        | none => exact .inr (.inl ⟨same, nofun, by simp [slot]⟩)
        | some other =>
            have equal := Observation.same_index same known also
            exact .inr (.inl ⟨same, nofun, by simp [slot, equal]⟩)
  · simp only [if_neg same]
    rcases lt_trichotomy stored.1.slot incoming.1.slot with later | equal | earlier
    · refine .inr (.inr (.inl ⟨?_, by simp [later]⟩))
      exact chain.slots (stored.2.1 ▸ incoming.2.1 ▸ later)
    · have slot : chain.slot stored.1.signature = chain.slot incoming.1.signature := by
        rw [← stored.2.1, equal, incoming.2.1]
      cases known : stored.1.transactionIndex with
      | none => exact .inr (.inr (.inr (.inr ⟨same, by simp [equal]⟩)))
      | some i =>
          cases also : incoming.1.transactionIndex with
          | none => exact .inr (.inr (.inr (.inr ⟨same, by simp [equal]⟩)))
          | some j =>
              have first := stored.2.2 i known
              have second := incoming.2.2 j also
              rcases lt_trichotomy i j with later | rfl | earlier
              · refine .inr (.inr (.inl ⟨chain.indices slot first second later, ?_⟩))
                simp [equal, later]
              · exact absurd (chain.distinct slot first second) same
              · refine .inr (.inr (.inr (.inl ⟨chain.indices slot.symm second first earlier, ?_⟩)))
                simp [equal, earlier, earlier.not_gt]
    · refine .inr (.inr (.inr (.inl ⟨?_, by simp [earlier, earlier.not_gt]⟩)))
      exact chain.slots (stored.2.1 ▸ incoming.2.1 ▸ earlier)

theorem Observation.advance_replace (decided : decideUpdate stored.1 incoming.1 = .ok .replace) :
    stored.advance incoming = incoming := by
  rw [advance, decided]

theorem Observation.advance_keep (decided : decideUpdate stored.1 incoming.1 = .ok .keep) :
    stored.advance incoming = stored := by
  rw [advance, decided]

theorem Observation.advance_error {failure : LiveCheckpointError Signature}
    (decided : decideUpdate stored.1 incoming.1 = .error failure) :
    stored.advance incoming = stored := by
  rw [advance, decided]

theorem follows_advance (stored incoming : chain.Observation) :
    Follows stored (stored.advance incoming) := by
  rcases decideUpdate_cases stored incoming with
    ⟨same, unknown, -, decided⟩ | ⟨-, -, decided⟩ | ⟨later, decided⟩ | ⟨-, decided⟩ | ⟨-, decided⟩
  · rw [Observation.advance_replace decided]
    exact .inl ⟨same.symm, fun index known => nomatch unknown.symm.trans known⟩
  · rw [Observation.advance_keep decided]
    exact .refl
  · rw [Observation.advance_replace decided]
    exact .inr later
  all_goals
    rw [Observation.advance_error decided]
    exact .refl

theorem follows_run (stored : chain.Observation) (updates : List chain.Observation) :
    Follows stored (updates.foldl Observation.advance stored) := by
  induction updates generalizing stored with
  | nil => exact .refl
  | cons incoming updates ih => exact (follows_advance stored incoming).trans (ih _)

theorem decideUpdate_self (checkpoint : LiveCheckpoint Signature) :
    decideUpdate checkpoint checkpoint = .ok .keep := by
  unfold decideUpdate
  cases checkpoint.transactionIndex with
  | none => simp
  | some index => simp

theorem advance_repeat {decision : UpdateDecision}
    (decided : decideUpdate stored.1 incoming.1 = .ok decision) :
    decideUpdate (stored.advance incoming).1 incoming.1 = .ok .keep := by
  cases decision with
  | keep => rwa [Observation.advance_keep decided]
  | replace =>
      rw [Observation.advance_replace decided]
      exact decideUpdate_self incoming.1

theorem saveLiveCheckpoint_ok {database written : Database Signature}
    (stands : database.liveCheckpoint = some stored.1)
    (saved : database.saveLiveCheckpoint incoming.1 = .ok written) :
    (∃ decision, decideUpdate stored.1 incoming.1 = .ok decision) ∧
    written = { database with liveCheckpoint := some (stored.advance incoming).1 } ∧
    written.saveLiveCheckpoint incoming.1 = .ok written := by
  simp only [Database.saveLiveCheckpoint, bind_eq_ok, require_eq_ok, stands] at saved
  obtain ⟨-, fits, ⟨⟩, ranged, decision, decided, saved⟩ := saved
  have shape : written = { database with liveCheckpoint := some (stored.advance incoming).1 } := by
    cases decision with
    | keep =>
        cases saved
        rw [Observation.advance_keep decided, ← stands]
    | replace =>
        cases saved
        rw [Observation.advance_replace decided]
  refine ⟨⟨decision, decided⟩, shape, ?_⟩
  simp only [Database.saveLiveCheckpoint, bind_eq_ok, require_eq_ok, shape]
  exact ⟨(), fits, (), ranged, .keep, advance_repeat decided, rfl⟩

/-- After any updates a decision agrees with the order of the chain, and nothing that comes later
moves the checkpoint back or takes away what it knows. -/
theorem checkpoints_follow_chain (chain : Chain Signature) (start incoming : chain.Observation)
    (updates more : List chain.Observation) :
    let stored := updates.foldl Observation.advance start
    let later := more.foldl Observation.advance stored
    (decideUpdate stored.1 incoming.1 = .ok .replace →
      stored.1.signature ≠ incoming.1.signature →
        chain.before stored.1.signature incoming.1.signature) ∧
    (∀ first second, decideUpdate stored.1 incoming.1 = .error (.backward first second) →
      chain.before incoming.1.signature stored.1.signature) ∧
    (∀ first second, decideUpdate stored.1 incoming.1 ≠ .error (.positionConflict first second)) ∧
    ¬chain.before later.1.signature stored.1.signature ∧
    (later.1.signature = stored.1.signature →
      ∀ index ∈ stored.1.transactionIndex, later.1.transactionIndex = some index) ∧
    (∀ decision, decideUpdate stored.1 incoming.1 = .ok decision →
      decideUpdate (stored.advance incoming).1 incoming.1 = .ok .keep) ∧
    (∀ database written : Database Signature, database.liveCheckpoint = some stored.1 →
      database.saveLiveCheckpoint incoming.1 = .ok written →
        written = { database with liveCheckpoint := some (stored.advance incoming).1 } ∧
        written.saveLiveCheckpoint incoming.1 = .ok written) := by
  intro stored later
  have ordered := chain.ordered
  have follows : Follows stored later := follows_run stored more
  refine ⟨fun decided apart => ?_, fun first second decided => ?_, fun first second decided => ?_,
    fun earlier => ?_, fun same => ?_, fun decision => advance_repeat,
    fun database written stands saved => (saveLiveCheckpoint_ok stands saved).2⟩
  · rcases decideUpdate_cases stored incoming with
      ⟨same, -⟩ | ⟨same, -⟩ | ⟨later, -⟩ | ⟨-, also⟩ | ⟨-, also⟩
    · exact absurd same apart
    · exact absurd same apart
    · exact later
    all_goals cases decided.symm.trans also
  · rcases decideUpdate_cases stored incoming with
      ⟨-, -, -, also⟩ | ⟨-, -, also⟩ | ⟨-, also⟩ | ⟨earlier, -⟩ | ⟨-, also⟩
    case inr.inr.inr.inl => exact earlier
    all_goals cases decided.symm.trans also
  · rcases decideUpdate_cases stored incoming with
      ⟨-, -, -, also⟩ | ⟨-, -, also⟩ | ⟨-, also⟩ | ⟨-, also⟩ | ⟨-, also⟩
    all_goals cases decided.symm.trans also
  · rcases follows with ⟨same, -⟩ | onward
    · exact ordered.irrefl _ (same ▸ earlier)
    · exact ordered.irrefl _ (ordered.trans _ _ _ onward earlier)
  · rcases follows with ⟨-, kept⟩ | onward
    · exact kept
    · exact absurd (same ▸ onward) (ordered.irrefl _)

/-! A chain that runs one transaction in each slot. -/

def counted : Chain Nat where
  before := (· < ·)
  ordered := inferInstance
  slot signature := signature
  index _ := some 0
  slots earlier := earlier
  indices _ first second before := by
    cases first
    cases second
    exact absurd before (Nat.lt_irrefl 0)
  distinct same _ _ := same

def seen (signature : Nat) : counted.Observation :=
  ⟨⟨signature, signature, some 0⟩, rfl, fun _ known => known⟩

theorem checkpoints_follow_chain_counted :
    decideUpdate (seen 1).1 (seen 2).1 = .ok .replace ∧
      counted.before (seen 1).1.signature (seen 2).1.signature := by
  have decided : decideUpdate (seen 1).1 (seen 2).1 = .ok .replace := rfl
  exact ⟨decided, (checkpoints_follow_chain counted (seen 1) (seen 2) [] []).1 decided (by decide)⟩

end
end Chain
end Tidebook.Proof
