import Mathlib.Data.List.Induction
import Tidebook.Proof.Outcome

/-! # Finality

A question only ever moves forward, and its outcome, once known, is the last accepted answer after
its whole review or the published timeout.
-/

namespace Tidebook.Proof
open Library Program

/-! ## Forward only -/

def stage : PredictionStatus → Nat
  | .draft => 0
  | .opened => 1
  | .frozen => 2
  | .proposed => 3
  | .resolved => 4

structure Onward (before after : PredictionMarket) : Prop where
  stage : stage before.status ≤ stage after.status
  phase : before.resolutionPhase = .fallback → after.resolutionPhase = .fallback
  final : ∀ outcome ∈ before.finalOutcome, outcome ∈ after.finalOutcome

theorem Onward.trans {first second third : PredictionMarket} (here : Onward first second)
    (there : Onward second third) : Onward first third where
  stage := here.stage.trans there.stage
  phase := there.phase ∘ here.phase
  final outcome known := there.final outcome (here.final outcome known)

theorem Onward.of_course {before after : PredictionMarket}
    (same : courseOf after = courseOf before) : Onward before after := by
  obtain ⟨status, phase, -, final⟩ := courseOf_eq.mp same
  exact ⟨by rw [status], by rw [phase]; exact id, by rw [final]; exact fun _ => id⟩

theorem Move.onward {now : Int} {act : Act} {before after : PredictionMarket}
    (moves : Move now act before after) : Onward before after := by
  cases moves with
  | opens draft early => exact ⟨by simp [stage, draft], id, fun _ => id⟩
  | freezes opened => exact ⟨by simp [stage, opened], id, fun _ => id⟩
  | proposes window turn unresolved ready stamped fits =>
      refine ⟨?_, id, fun _ => id⟩
      obtain ⟨is | is, -⟩ | ⟨is, -⟩ := ready <;> simp [stage, is]
  | activates stored ready unproposed primary available early =>
      refine ⟨?_, fun _ => rfl, fun _ => id⟩
      obtain is | is := ready <;> simp [stage, is]
  | finalizes proposed unresolved made ends mature =>
      exact ⟨by simp [stage, proposed], id, by simp [unresolved]⟩
  | expires stored closes ready unresolved unproposed late =>
      refine ⟨?_, fun _ => rfl, by simp [unresolved]⟩
      obtain is | is := ready <;> simp [stage, is]

/-- Every question is kept, and only moves forward. -/
theorem run_onward {world : World} (holds : Invariant world.state) (events : List Event)
    {key : Pubkey} {market : PredictionMarket}
    (stored : world.state.prediction.markets.get key = some market) :
    ∃ version, (world.run events).state.prediction.markets.get key = some version ∧
      Onward market version := by
  refine (reach_of_steps (P := fun world => ∃ version,
    world.state.prediction.markets.get key = some version ∧ Onward market version) ?_ holds
    ⟨market, stored, .of_course rfl⟩).2
  rintro world event after - holds ⟨version, present, onward⟩ applied reached -
  rw [reached]
  cases event with
  | instruction sent =>
      have step := (execute_effect holds.spot holds.prediction holds.shared applied).questions
      have known : world.state.prediction.markets.get key ≠ none := by simp [present]
      obtain ⟨later, found⟩ := Option.ne_none_iff_exists'.mp (step.kept known)
      obtain ⟨old, same, -, still | ⟨act, performs, moves⟩⟩ | ⟨absent, -⟩ := step.origin found
      · cases present.symm.trans same
        exact ⟨later, found, onward.trans (.of_course still)⟩
      · cases present.symm.trans same
        exact ⟨later, found, onward.trans moves.onward⟩
      · exact absurd absent known
  | outside happened =>
      rw [(occur_around applied).prediction]
      exact ⟨version, present, onward⟩

/-! ## Answers -/

def answer (resolver : Wallet) (key : Pubkey) (proposal : PredictionProposal) (correction : Bool) :
    Instruction :=
  .proposePrediction resolver key proposal.outcome proposal.evidenceUri proposal.evidenceHash
    correction

/-- No answer to the question is accepted among the later events. -/
def Unanswered (genesis : Genesis) (first later : List Event) (key : Pubkey) : Prop :=
  ∀ before after resolver outcome uri hash correction,
    later = before ++
      .instruction (.proposePrediction resolver key outcome uri hash correction) :: after →
    ¬Accepts (genesis.after (first ++ before)).state
      (.proposePrediction resolver key outcome uri hash correction)

/-- The proposal is the last accepted answer, which the resolver gave in its window. -/
def LastAnswer (genesis : Genesis) (events : List Event) (key : Pubkey)
    (proposal : PredictionProposal) : Prop :=
  ∃ first later resolver correction asked,
    events = first ++ .instruction (answer resolver key proposal correction) :: later ∧
    Accepts (genesis.after first).state (answer resolver key proposal correction) ∧
    (genesis.after first).state.prediction.markets.get key = some asked ∧
    InWindow asked (genesis.after first).state.now ∧
    currentResolver asked = some resolver.key ∧
    proposal.proposedAt = (genesis.after first).state.now ∧
    Unanswered genesis (first ++ [.instruction (answer resolver key proposal correction)]) later key

/-- The outcome was finalized from the last accepted answer, a whole delay after it was given, or,
where no answer was ever accepted, by the published timeout. -/
def Finalized (genesis : Genesis) (events : List Event) (key : Pubkey) (delay : Nat)
    (outcome : PredictionResolution) : Prop :=
  (∃ before after proposal,
    events = before ++ .instruction (.advancePrediction key 2) :: after ∧
    Accepts (genesis.after before).state (.advancePrediction key 2) ∧
    proposal.outcome = outcome ∧ LastAnswer genesis before key proposal ∧
    proposal.proposedAt + delay ≤ (genesis.after before).state.now) ∨
  outcome = .invalid ∧ ∃ before after asked fallback deadline,
    events = before ++ .instruction (.advancePrediction key 3) :: after ∧
    Accepts (genesis.after before).state (.advancePrediction key 3) ∧
    Unanswered genesis [] before key ∧
    (genesis.after before).state.prediction.markets.get key = some asked ∧
    asked.fallback = some fallback ∧ fallback.deadlineTs = some deadline ∧
    deadline ≤ (genesis.after before).state.now

section Extension

variable {genesis : Genesis} {events : List Event} {event : Event} {key : Pubkey}

/-- An event is not an accepted answer. -/
def NoAnswer (genesis : Genesis) (events : List Event) (event : Event) (key : Pubkey) : Prop :=
  ∀ resolver outcome uri hash correction,
    event = .instruction (.proposePrediction resolver key outcome uri hash correction) →
    ¬Accepts (genesis.after events).state
      (.proposePrediction resolver key outcome uri hash correction)

theorem after_snoc : genesis.after (events ++ [event]) = (genesis.after events).step event := by
  simp [Genesis.after, World.run, List.foldl_append]

theorem Unanswered.snoc {first later : List Event} (unanswered : Unanswered genesis first later key)
    (none_ : NoAnswer genesis (first ++ later) event key) :
    Unanswered genesis first (later ++ [event]) key := by
  intro before after resolver outcome uri hash correction same
  obtain rfl | ⟨rest, last, rfl⟩ := after.eq_nil_or_concat
  · obtain ⟨rfl, is⟩ := List.append_inj' same rfl
    exact none_ resolver outcome uri hash correction (List.singleton_inj.mp is)
  · rw [List.concat_eq_append, ← List.cons_append, ← List.append_assoc] at same
    obtain ⟨rfl, -⟩ := List.append_inj' same rfl
    exact unanswered before rest resolver outcome uri hash correction rfl

theorem LastAnswer.snoc {proposal : PredictionProposal}
    (last : LastAnswer genesis events key proposal) (none_ : NoAnswer genesis events event key) :
    LastAnswer genesis (events ++ [event]) key proposal := by
  obtain ⟨first, later, resolver, correction, asked, rfl, accepted, stored, window, turn, stamped,
    unanswered⟩ := last
  refine ⟨first, later ++ [event], resolver, correction, asked, by simp, accepted, stored, window,
    turn, stamped, unanswered.snoc ?_⟩
  rwa [List.append_assoc]

theorem Finalized.snoc {delay : Nat} {outcome : PredictionResolution}
    (final : Finalized genesis events key delay outcome) :
    Finalized genesis (events ++ [event]) key delay outcome := by
  obtain ⟨before, after, proposal, rfl, rest⟩ | ⟨invalid, before, after, asked, fallback, deadline,
    rfl, rest⟩ := final
  · exact .inl ⟨before, after ++ [event], proposal, by simp, rest⟩
  · exact .inr ⟨invalid, before, after ++ [event], asked, fallback, deadline, by simp, rest⟩

end Extension

/-! ## The history of a question -/

structure History (genesis : Genesis) (events : List Event) (key : Pubkey)
    (market : PredictionMarket) : Prop where
  answered : ∀ proposal ∈ market.proposal, LastAnswer genesis events key proposal
  unanswered : market.proposal = none → Unanswered genesis [] events key
  final : ∀ outcome ∈ market.finalOutcome,
    Finalized genesis events key market.resolutionDelaySeconds outcome

/-- The history of a stored question; one that is not stored was never answered. -/
structure Recorded (genesis : Genesis) (events : List Event) (key : Pubkey) : Prop where
  absent : (genesis.after events).state.prediction.markets.get key = none →
    Unanswered genesis [] events key
  stored : ∀ market, (genesis.after events).state.prediction.markets.get key = some market →
    History genesis events key market

section History

variable {genesis : Genesis} {events : List Event} {key : Pubkey} {market later : PredictionMarket}

theorem History.snoc {event : Event} (history : History genesis events key market)
    (none_ : NoAnswer genesis events event key)
    (terms : resolutionTerms later = resolutionTerms market)
    (same : courseOf later = courseOf market) :
    History genesis (events ++ [event]) key later := by
  obtain ⟨-, -, -, -, -, delay⟩ := resolutionTerms_eq.mp terms
  obtain ⟨-, -, proposal, final⟩ := courseOf_eq.mp same
  constructor
  · rw [proposal]
    exact fun made known => (history.answered made known).snoc none_
  · rw [proposal]
    exact fun unproposed => (history.unanswered unproposed).snoc none_
  · rw [final, delay]
    exact fun outcome known => (history.final outcome known).snoc

theorem History.moved {instruction : Instruction} {act : Act}
    (history : History genesis events key market)
    (none_ : NoAnswer genesis events (.instruction instruction) key)
    (stored : (genesis.after events).state.prediction.markets.get key = some market)
    (performs : Performs (genesis.after events).state.now key instruction act)
    (moves : Move (genesis.after events).state.now act market later)
    (accepted : Accepts (genesis.after events).state instruction) :
    History genesis (events ++ [.instruction instruction]) key later := by
  have answered : ∀ proposal ∈ market.proposal,
      LastAnswer genesis (events ++ [.instruction instruction]) key proposal :=
    fun proposal made => (history.answered proposal made).snoc none_
  have unanswered : market.proposal = none →
      Unanswered genesis [] (events ++ [.instruction instruction]) key :=
    fun unproposed => (history.unanswered unproposed).snoc none_
  cases moves with
  | opens draft early => exact ⟨answered, unanswered, fun outcome known =>
      (history.final outcome known).snoc⟩
  | freezes opened => exact ⟨answered, unanswered, fun outcome known =>
      (history.final outcome known).snoc⟩
  | proposes window turn unresolved ready stamped fits =>
      cases performs with
      | proposes resolver outcome uri hash correction =>
          exact absurd accepted (none_ resolver outcome uri hash correction rfl)
  | activates has ready unproposed primary available early =>
      exact ⟨answered, unanswered, fun outcome known => (history.final outcome known).snoc⟩
  | finalizes proposed unresolved made ends mature =>
      refine ⟨answered, unanswered, fun outcome known => .inl ?_⟩
      cases performs
      cases known
      obtain ⟨proposal, same, -, -, -, rfl⟩ := maturity_eq_ok.mp ends
      cases Option.mem_unique made same
      exact ⟨events, [], _, rfl, accepted, rfl, history.answered _ made, mature⟩
  | expires has closes ready unresolved unproposed late =>
      refine ⟨answered, unanswered, fun outcome known => .inr ?_⟩
      cases performs
      cases known
      exact ⟨rfl, events, [], market, _, _, rfl, accepted, history.unanswered unproposed, stored,
        has, closes, late⟩

theorem History.answer {resolver : Wallet} {outcome : PredictionResolution} {uri : List Char}
    {hash : Nat} {correction : Bool}
    (stored : (genesis.after events).state.prediction.markets.get key = some market)
    (moves : Move (genesis.after events).state.now
      (.proposes resolver.key ⟨outcome, (genesis.after events).state.now, uri, hash⟩) market later)
    (accepted : Accepts (genesis.after events).state
      (.proposePrediction resolver key outcome uri hash correction)) :
    History genesis
      (events ++ [.instruction (.proposePrediction resolver key outcome uri hash correction)]) key
      later := by
  cases moves with
  | proposes window turn unresolved ready stamped fits =>
      refine ⟨?_, by simp, by simp [unresolved]⟩
      intro proposal made
      cases made
      refine ⟨events, [], resolver, correction, market, rfl, accepted, stored, window, turn, rfl, ?_⟩
      intro before after _ _ _ _ _ same
      simp at same

theorem Recorded.still {event : Event} (recorded : Recorded genesis events key)
    (none_ : NoAnswer genesis events event key)
    (same : (genesis.after (events ++ [event])).state.prediction.markets.get key =
      (genesis.after events).state.prediction.markets.get key) :
    Recorded genesis (events ++ [event]) key where
  absent gone := (recorded.absent (same ▸ gone)).snoc none_
  stored market known := (recorded.stored market (same ▸ known)).snoc none_ rfl rfl

theorem Recorded.instruction {instruction : Instruction} {after : State}
    (recorded : Recorded genesis events key)
    (applied : execute (genesis.after events).state instruction = .ok after)
    (reached : (genesis.after (events ++ [.instruction instruction])).state = after) :
    Recorded genesis (events ++ [.instruction instruction]) key := by
  have holds := run_invariant genesis events
  have step := (execute_effect holds.spot holds.prediction holds.shared applied).questions
  by_cases none_ : NoAnswer genesis events (.instruction instruction) key
  · constructor
    · rw [reached]
      intro gone
      exact (recorded.absent (not_not.mp fun known => step.kept known gone)).snoc none_
    · rw [reached]
      intro later found
      obtain ⟨market, stored, terms, same | ⟨act, performs, moves⟩⟩ |
        ⟨gone, marketId, authority, mint, config, -, rfl⟩ := step.origin found
      · exact (recorded.stored market stored).snoc none_ terms same
      · exact (recorded.stored market stored).moved none_ stored performs moves ⟨after, applied⟩
      · exact ⟨fun _ made => (nomatch made), fun _ => (recorded.absent gone).snoc none_,
          fun _ known => (nomatch known)⟩
  · simp only [NoAnswer, not_forall, not_not] at none_
    obtain ⟨resolver, outcome, uri, hash, correction, same, accepted⟩ := none_
    cases same
    obtain ⟨market, later, act, stored, performs, moves, rfl⟩ := execute_moved rfl applied
    cases performs
    have found : (genesis.after (events ++ [.instruction (.proposePrediction resolver key outcome
        uri hash correction)])).state.prediction.markets.get key = some later := by
      rw [reached]
      exact Store.get_set_self _ _ _
    constructor
    · exact fun gone => nomatch gone.symm.trans found
    · intro version known
      cases known.symm.trans found
      exact .answer stored moves accepted

theorem run_recorded (genesis : Genesis) (events : List Event) (key : Pubkey) :
    Recorded genesis events key := by
  induction events using List.reverseRecOn with
  | nil =>
      refine ⟨fun _ before after _ _ _ _ _ same => ?_, fun market stored => nomatch stored⟩
      simp at same
  | append_singleton events event recorded =>
      cases applied : event.apply (genesis.after events).state with
      | error failure =>
          have reached : (genesis.after (events ++ [event])).state =
              (genesis.after events).state := by
            rw [after_snoc, World.step, applied]
          refine recorded.still ?_ (by rw [reached])
          rintro resolver outcome uri hash correction rfl ⟨after, accepted⟩
          cases applied.symm.trans accepted
      | ok after =>
          have reached : (genesis.after (events ++ [event])).state = after := by
            rw [after_snoc, World.step, applied]
          cases event with
          | instruction sent => exact recorded.instruction applied reached
          | outside happened =>
              refine recorded.still (fun _ _ _ _ _ same => nomatch same) ?_
              rw [reached, (occur_around applied).prediction]

end History

/-- The outcome is known exactly when the question is resolved, and stays; status and phase only
move forward; and the outcome is the last accepted answer, which its resolver gave in its window
a whole delay before, or the published timeout. -/
theorem resolution_final (genesis : Genesis) (events : List Event) {key : Pubkey}
    {market : PredictionMarket}
    (stored : (genesis.after events).state.prediction.markets.get key = some market) :
    (market.finalOutcome ≠ none ↔ market.status = .resolved) ∧
    (∀ later, ∃ version,
      (genesis.after (events ++ later)).state.prediction.markets.get key = some version ∧
      stage market.status ≤ stage version.status ∧
      (market.resolutionPhase = .fallback → version.resolutionPhase = .fallback) ∧
      ∀ outcome, market.finalOutcome = some outcome → version.finalOutcome = some outcome) ∧
    ∀ outcome, market.finalOutcome = some outcome →
      Finalized genesis events key market.resolutionDelaySeconds outcome := by
  refine ⟨(run_onCourse genesis events key market stored).resolved, fun later => ?_,
    ((run_recorded genesis events key).stored market stored).final⟩
  obtain ⟨version, found, onward⟩ := run_onward (run_invariant genesis events) later stored
  refine ⟨version, ?_, onward.stage, onward.phase, onward.final⟩
  rwa [Genesis.after, World.run, List.foldl_append]

set_option maxRecDepth 4096 in
/-- The sample question resolves to YES from the answer that proposed it. -/
theorem resolution_final_resolved : ∃ market,
    Sample.resolved.prediction.markets.get Sample.question = some market ∧
      Finalized Sample.start
        (Sample.funding ++ Sample.opening ++ Sample.trading ++ Sample.resolution) Sample.question
        market.resolutionDelaySeconds .yes := by
  obtain ⟨market, stored, known⟩ := (Option.any_eq_true (fun market : PredictionMarket =>
    market.finalOutcome = some .yes)
    (Sample.resolved.prediction.markets.get Sample.question)).mp (by decide +kernel)
  exact ⟨market, stored, (resolution_final Sample.start
    (Sample.funding ++ Sample.opening ++ Sample.trading ++ Sample.resolution) stored).2.2 .yes
    (of_decide_eq_true known)⟩

end Tidebook.Proof
