import Tidebook.Proof.Conservation
import Tidebook.Proof.Resolution

/-! # Outcomes

Exactly one way forward is open at every time after the earliest resolution time, and a final
outcome is the last accepted answer, unchallenged for the whole delay, or the published timeout.
-/

namespace Tidebook.Proof
open Library Program

def Accepts (state : State) (instruction : Instruction) : Prop :=
  ∃ after, execute state instruction = .ok after

def Evidence (uri : List Char) (hash : Nat) : Prop :=
  uri.length ≤ predictionUriMaxLength ∧ uri.all asciiGraphic ∧
    ((uriTarget uri).any fun target => !target.isEmpty) ∧ hash ≠ 0

/-- The review of an answer given now ends at a representable time. -/
def Representable (market : PredictionMarket) (now : Int) : Prop :=
  i64Min ≤ now + market.resolutionDelaySeconds ∧ now + market.resolutionDelaySeconds ≤ i64Max

theorem execute_proposePrediction (state : State) (resolver : Wallet) (key : Pubkey)
    (outcome : PredictionResolution) (uri : List Char) (hash : Nat) (correction : Bool) :
    execute state (.proposePrediction resolver key outcome uri hash correction) =
      handleProposePrediction state resolver key outcome uri hash correction := rfl

theorem execute_advancePrediction (state : State) (key : Pubkey) (action : UInt8) :
    execute state (.advancePrediction key action) =
      onPrediction state (handleAdvancePrediction state.prediction state.now key action.toNat) := rfl

theorem resolverWindow_intime {market : PredictionMarket} {signer : Pubkey} {now : Int} :
    resolverWindow market signer now ≠ .error .predictionTimestampOverflow := by
  intro failed
  unfold resolverWindow at failed
  cases phase : market.resolutionPhase with
  | primary =>
      simp only [phase, bind_eq_error, require_eq_error, pure_ne_error, reduceCtorEq, and_false,
        exists_false, or_self] at failed
  | fallback =>
      simp only [phase, bind_eq_error, require_eq_error, okOr_eq_error, pure_ne_error,
        reduceCtorEq, and_false, exists_false, or_self] at failed

section Acceptance

variable {state : State} {key : Pubkey} {market : PredictionMarket}

theorem maturity_made (proposal : PredictionProposal) (terms : TimedTerms market) :
    (∃ ends, maturity { market with proposal := some proposal } = .ok ends) ↔
      Representable market proposal.proposedAt := by
  simp only [maturity_eq_ok, Option.mem_some_iff, Representable]
  constructor
  · rintro ⟨_, _, rfl, -, low, high, -⟩
    exact ⟨low, high⟩
  · rintro ⟨low, high⟩
    exact ⟨_, proposal, rfl, terms.delay_fits, low, high, rfl⟩

variable (holds : Invariant state) (stored : state.prediction.markets.get key = some market)

include holds stored

theorem accepts_proposal (course : OnCourse state.now market) {resolver : Wallet}
    {outcome : PredictionResolution} {uri : List Char} {hash : Nat} :
    Accepts state (.proposePrediction resolver key outcome uri hash false) ↔
      state.protocol.loadActiveAdmin resolver = .ok () ∧
      (InWindow market state.now ∧ currentResolver market = some resolver.key) ∧
      (market.status = .opened ∨ market.status = .frozen) ∧ Evidence uri hash ∧
      Representable market state.now := by
  have made := maturity_made ⟨outcome, state.now, uri, hash⟩ course.terms
  simp only [Accepts, execute_proposePrediction, handleProposePrediction,
    loadPredictionMarket_total holds stored, bind_eq_ok, Except.ok.injEq, exists_eq_left',
    Bool.false_eq_true, if_false, require_eq_ok, exists_const, pure_eq_ok, resolverWindow_eq_ok,
    Option.isNone_iff_eq_none]
  constructor
  · rintro ⟨after, _, admin, window, -, ⟨ready, -⟩, cited, ends, fits, -⟩
    exact ⟨admin, window, ready, cited, made.mp ⟨ends, fits⟩⟩
  · rintro ⟨admin, window, ready, cited, fits⟩
    obtain ⟨ends, matures⟩ := made.mpr fits
    have open_ : market.finalOutcome = none := by
      by_contra ended
      have status := course.resolved.mp ended
      rcases ready with is | is <;> cases is.symm.trans status
    exact ⟨_, (), admin, window, open_, ⟨ready, course.unproposed (.inr ready)⟩, cited, ends, matures,
      rfl⟩

theorem accepts_correction (course : OnCourse state.now market) {ends : Int}
    (known : maturity market = .ok ends) (resolver : Wallet) (outcome : PredictionResolution)
    (uri : List Char) (hash : Nat) :
    Accepts state (.proposePrediction resolver key outcome uri hash true) ↔
      state.protocol.loadActiveAdmin resolver = .ok () ∧
      (InWindow market state.now ∧ currentResolver market = some resolver.key) ∧
      (market.status = .proposed ∧ state.now < ends) ∧ Evidence uri hash ∧
      Representable market state.now := by
  have made := maturity_made ⟨outcome, state.now, uri, hash⟩ course.terms
  simp only [Accepts, execute_proposePrediction, handleProposePrediction,
    loadPredictionMarket_total holds stored, bind_eq_ok, Except.ok.injEq, exists_eq_left', if_true,
    require_eq_ok, known, exists_const, pure_eq_ok, resolverWindow_eq_ok]
  constructor
  · rintro ⟨after, _, admin, window, -, ready, cited, later, fits, -⟩
    exact ⟨admin, window, ready, cited, made.mp ⟨later, fits⟩⟩
  · rintro ⟨admin, window, ready, cited, fits⟩
    obtain ⟨later, matures⟩ := made.mpr fits
    have open_ : market.finalOutcome = none := by
      by_contra ended
      cases ready.1.symm.trans (course.resolved.mp ended)
    exact ⟨_, (), admin, window, open_, ready, cited, later, matures, rfl⟩

theorem accepts_activation (course : OnCourse state.now market) :
    Accepts state (.advancePrediction key 1) ↔ ∃ fallback ∈ market.fallback,
      (market.status = .opened ∨ market.status = .frozen) ∧ market.resolutionPhase = .primary ∧
      fallback.availableTs ≤ state.now ∧ ∀ deadline ∈ fallback.deadlineTs, state.now < deadline := by
  simp only [Accepts, execute_advancePrediction, onPrediction, handleAdvancePrediction,
    UInt8.toNat_ofNat, Nat.reducePow, Nat.reduceMod, PredictionMarket.advance,
    loadPredictionMarket_total holds stored, bind_eq_ok, Except.ok.injEq, exists_eq_left',
    require_eq_ok, okOr_eq_ok, exists_const, pure_eq_ok, Option.isNone_iff_eq_none, Option.mem_def,
    ge_iff_le]
  constructor
  · rintro ⟨after, _, ⟨-, _, ⟨fallback, has, ⟨ready, -, primary, available, early⟩, -⟩, -⟩, -⟩
    exact ⟨fallback, has, ready, primary, available, early⟩
  · rintro ⟨fallback, has, ready, primary, available, early⟩
    have open_ : market.finalOutcome = none := by
      by_contra ended
      have status := course.resolved.mp ended
      rcases ready with is | is <;> cases is.symm.trans status
    exact ⟨_, _, ⟨open_, _, ⟨fallback, has,
      ⟨ready, course.unproposed (.inr ready), primary, available, early⟩, rfl⟩, rfl⟩, rfl⟩

theorem accepts_timeout (course : OnCourse state.now market) :
    Accepts state (.advancePrediction key 3) ↔ ∃ fallback ∈ market.fallback,
      ∃ deadline ∈ fallback.deadlineTs,
        (market.status = .opened ∨ market.status = .frozen) ∧ deadline ≤ state.now := by
  simp only [Accepts, execute_advancePrediction, onPrediction, handleAdvancePrediction,
    UInt8.toNat_ofNat, Nat.reducePow, Nat.reduceMod, PredictionMarket.advance,
    loadPredictionMarket_total holds stored, bind_eq_ok, Except.ok.injEq, exists_eq_left',
    require_eq_ok, okOr_eq_ok, exists_const, pure_eq_ok, Option.isNone_iff_eq_none, Option.mem_def,
    Option.bind_eq_some_iff, ge_iff_le]
  constructor
  · rintro ⟨after, _, ⟨-, _, ⟨deadline, ⟨fallback, has, closes⟩, ⟨ready, -, late⟩, -⟩, -⟩, -⟩
    exact ⟨fallback, has, deadline, closes, ready, late⟩
  · rintro ⟨fallback, has, deadline, closes, ready, late⟩
    have open_ : market.finalOutcome = none := by
      by_contra ended
      have status := course.resolved.mp ended
      rcases ready with is | is <;> cases is.symm.trans status
    exact ⟨_, _, ⟨open_, _, ⟨deadline, ⟨fallback, has, closes⟩,
      ⟨ready, course.unproposed (.inr ready), late⟩, rfl⟩, rfl⟩, rfl⟩

theorem accepts_finalization (course : OnCourse state.now market) {ends : Int}
    (known : maturity market = .ok ends) (now : Int) :
    Accepts { state with now := now } (.advancePrediction key 2) ↔
      market.status = .proposed ∧ ends ≤ now := by
  simp only [Accepts, execute_advancePrediction, onPrediction, handleAdvancePrediction,
    UInt8.toNat_ofNat, Nat.reducePow, Nat.reduceMod, PredictionMarket.advance,
    loadPredictionMarket_total holds stored, bind_eq_ok, Except.ok.injEq, exists_eq_left',
    require_eq_ok, okOr_eq_ok, exists_const, pure_eq_ok, known, ge_iff_le]
  constructor
  · rintro ⟨after, _, ⟨-, _, ⟨proposed, mature, -⟩, -⟩, -⟩
    exact ⟨proposed, mature⟩
  · rintro ⟨proposed, mature⟩
    have open_ : market.finalOutcome = none := by
      by_contra ended
      cases proposed.symm.trans (course.resolved.mp ended)
    obtain ⟨proposal, made⟩ := Option.ne_none_iff_exists'.mp (course.proposed proposed)
    exact ⟨_, _, ⟨open_, _, ⟨proposed, mature, proposal, made, rfl⟩, rfl⟩, rfl⟩

end Acceptance

/-! ## No dead end -/

def OneOf (first second third : Prop) : Prop :=
  first ∧ ¬second ∧ ¬third ∨ ¬first ∧ second ∧ ¬third ∨ ¬first ∧ ¬second ∧ third

section Progress

variable {state : State} {key : Pubkey} {market : PredictionMarket}
variable (holds : Invariant state) (stored : state.prediction.markets.get key = some market)
variable (course : OnCourse state.now market)

include holds stored course

theorem one_way_forward (ready : market.status = .opened ∨ market.status = .frozen)
    (begun : earliestOf market ≤ state.now) (fits : Representable market state.now)
    {resolver : Wallet} (turn : currentResolver market = some resolver.key)
    (admin : state.protocol.loadActiveAdmin resolver = .ok ()) {outcome : PredictionResolution}
    {uri : List Char} {hash : Nat} (cited : Evidence uri hash) :
    OneOf (Accepts state (.proposePrediction resolver key outcome uri hash false))
      (Accepts state (.advancePrediction key 1)) (Accepts state (.advancePrediction key 3)) := by
  have closed : market.closeTs ≤ state.now := course.terms.earliest.trans begun
  have answered : Accepts state (.proposePrediction resolver key outcome uri hash false) ↔
      InWindow market state.now := by
    rw [accepts_proposal holds stored course]
    exact ⟨fun passed => passed.2.1.1, fun window => ⟨admin, ⟨window, turn⟩, ready, cited, fits⟩⟩
  rw [OneOf, answered, accepts_activation holds stored course, accepts_timeout holds stored course,
    InWindow]
  have ordered := course.terms.deadline
  cases phase : market.resolutionPhase with
  | primary =>
      cases has : market.fallback with
      | none => simp [closed, begun]
      | some fallback =>
          have ordered := ordered fallback has
          simp only [closed, begun, true_and, forall_eq', exists_eq_left', Option.mem_def, ready,
            Option.some.injEq]
          cases closes : fallback.deadlineTs with
          | none =>
              simp only [reduceCtorEq, false_implies, implies_true, and_true, false_and,
                exists_false, not_false_eq_true, and_false, or_false]
              omega
          | some deadline =>
              have := ordered deadline closes
              simp only [Option.some.injEq, forall_eq', exists_eq_left']
              omega
  | fallback =>
      obtain ⟨fallback, has, available⟩ := course.handed phase
      have has : market.fallback = some fallback := has
      simp only [closed, begun, has, true_and, exists_eq_left', available, Option.mem_def, ready,
        reduceCtorEq, false_and, and_false, Option.some.injEq]
      cases closes : fallback.deadlineTs with
      | none => simp
      | some deadline =>
          simp only [Option.some.injEq, forall_eq', exists_eq_left', exists_false,
            not_false_eq_true, false_and, and_false, true_and, false_or]
          omega

omit holds stored in
/-- Inside a bounded window every answer matures at a representable time. -/
theorem window_representable (window : InWindow market state.now)
    (bounded : ∃ fallback ∈ market.fallback, fallback.deadlineTs ≠ none) :
    Representable market state.now := by
  obtain ⟨fallback, has, open_⟩ := bounded
  obtain ⟨deadline, closes⟩ := Option.ne_none_iff_exists'.mp open_
  obtain ⟨after, latest⟩ := course.terms.deadline fallback has deadline closes
  obtain ⟨-, available⟩ := course.terms.available fallback has
  have first := course.terms.first
  obtain ⟨-, begun, inside⟩ := window
  refine ⟨by omega, ?_⟩
  cases phase : market.resolutionPhase with
  | primary =>
      rw [phase] at inside
      have := inside fallback has
      omega
  | fallback =>
      rw [phase] at inside
      obtain ⟨other, same, -, before⟩ := inside
      cases Option.mem_unique has same
      have := before deadline closes
      omega

/-- Inside a bounded window no answer fails for its time. -/
theorem never_overflows (window : InWindow market state.now)
    (bounded : ∃ fallback ∈ market.fallback, fallback.deadlineTs ≠ none) (resolver : Wallet)
    (outcome : PredictionResolution) (uri : List Char) (hash : Nat) (correction : Bool) :
    execute state (.proposePrediction resolver key outcome uri hash correction) ≠
      .error .predictionTimestampOverflow := by
  intro failed
  obtain ⟨ends, made⟩ := (maturity_made ⟨outcome, state.now, uri, hash⟩ course.terms).mpr
    (window_representable course window bounded)
  simp only [execute_proposePrediction, handleProposePrediction,
    loadPredictionMarket_total holds stored, made, bind_eq_error, reduceCtorEq, false_or,
    Except.ok.injEq, exists_eq_left', require_eq_error, pure_ne_error, exists_false, or_false,
    and_false] at failed
  obtain unknown | ⟨_, -, outside | ⟨_, -, ready⟩⟩ := failed
  · simp [Protocol.loadActiveAdmin, bind_eq_error, load_eq_error] at unknown
  · exact resolverWindow_intime outside
  · cases correction with
    | false => simp at ready
    | true =>
        simp only [if_true, bind_eq_error, require_eq_error, reduceCtorEq, and_false, false_or,
          require_eq_ok, exists_const] at ready
        obtain ⟨-, proposed, ended | ⟨_, -, ⟨⟩⟩⟩ := ready
        obtain ⟨proposal, has⟩ := Option.ne_none_iff_exists'.mp (course.proposed proposed)
        obtain ⟨-, ends, known⟩ := course.matures proposal has
        rw [known] at ended
        cases ended

end Progress

/-- After the earliest resolution time an unanswered question has exactly one way forward, an
answered one is corrected before its review ends and finalized from then on, and in a bounded
window no answer fails for its time. -/
theorem resolution_never_dead_ends (genesis : Genesis) (events : List Event) {state : State}
    (reached : (genesis.after events).state = state) {key : Pubkey} {market : PredictionMarket}
    (stored : state.prediction.markets.get key = some market) :
    (market.status = .opened ∨ market.status = .frozen → earliestOf market ≤ state.now →
      Representable market state.now → ∀ (resolver : Wallet) outcome uri hash,
      currentResolver market = some resolver.key →
      state.protocol.loadActiveAdmin resolver = .ok () → Evidence uri hash →
      OneOf (Accepts state (.proposePrediction resolver key outcome uri hash false))
        (Accepts state (.advancePrediction key 1)) (Accepts state (.advancePrediction key 3))) ∧
    (market.status = .proposed → ∃ ends, maturity market = .ok ends ∧
      (∀ now, Accepts { state with now := now } (.advancePrediction key 2) ↔ ends ≤ now) ∧
      ∀ (resolver : Wallet) outcome uri hash,
        (Accepts state (.proposePrediction resolver key outcome uri hash true) →
          ¬Accepts state (.advancePrediction key 2)) ∧
        (InWindow market state.now → currentResolver market = some resolver.key →
          state.protocol.loadActiveAdmin resolver = .ok () → Evidence uri hash →
          Representable market state.now → ¬Accepts state (.advancePrediction key 2) →
          Accepts state (.proposePrediction resolver key outcome uri hash true))) ∧
    ((∃ fallback ∈ market.fallback, fallback.deadlineTs ≠ none) → InWindow market state.now →
      ∀ resolver outcome uri hash correction,
        execute state (.proposePrediction resolver key outcome uri hash correction) ≠
          .error .predictionTimestampOverflow) := by
  subst reached
  have holds := run_invariant genesis events
  have course := run_onCourse genesis events key market stored
  refine ⟨?_, ?_, ?_⟩
  · intro ready begun fits resolver outcome uri hash turn admin cited
    exact one_way_forward holds stored course ready begun fits turn admin cited
  · intro proposed
    obtain ⟨proposal, made⟩ := Option.ne_none_iff_exists'.mp (course.proposed proposed)
    obtain ⟨-, ends, known⟩ := course.matures proposal made
    have finalized := accepts_finalization holds stored course known
    refine ⟨ends, known, fun now => by simp [finalized now, proposed], ?_⟩
    intro resolver outcome uri hash
    have corrected := accepts_correction holds stored course known resolver outcome uri hash
    have matured : Accepts (genesis.after events).state (.advancePrediction key 2) ↔
        market.status = .proposed ∧ ends ≤ (genesis.after events).state.now := finalized _
    rw [corrected, matured]
    refine ⟨fun passed mature => ?_, fun window turn admin cited fits early => ?_⟩
    · exact absurd mature.2 (not_le.mpr passed.2.2.1.2)
    · refine ⟨admin, ⟨window, turn⟩, ⟨proposed, ?_⟩, cited, fits⟩
      exact not_le.mp fun mature => early ⟨proposed, mature⟩
  · intro bounded window resolver outcome uri hash correction
    exact never_overflows holds stored course window bounded resolver outcome uri hash correction

/-- The sample run when its question closes. -/
def Sample.closed : State :=
  (start.after (funding ++ opening ++ trading ++ [.outside (.wait 100)])).state

set_option maxRecDepth 4096 in
/-- The sample question then waits for its resolver, its fallback or its timeout. -/
theorem resolution_never_dead_ends_closed :
    OneOf
      (Accepts Sample.closed (.proposePrediction Sample.admin Sample.question .yes
        "ar://proof".toList 1 false))
      (Accepts Sample.closed (.advancePrediction Sample.question 1))
      (Accepts Sample.closed (.advancePrediction Sample.question 3)) := by
  obtain ⟨market, stored, known⟩ := (Option.any_eq_true (fun market : PredictionMarket =>
    market.status = .opened ∧ earliestOf market ≤ 100 ∧ market.resolutionDelaySeconds = 10 ∧
      currentResolver market = some Sample.admin.key)
    (Sample.closed.prediction.markets.get Sample.question)).mp (by decide +kernel)
  obtain ⟨opened, begun, delay, turn⟩ := of_decide_eq_true known
  have now : Sample.closed.now = 100 := by decide +kernel
  have admin : Sample.closed.protocol.loadActiveAdmin Sample.admin = .ok () := by decide +kernel
  have fits : Representable market Sample.closed.now := by
    rw [Representable, now, delay]
    decide
  have begun : earliestOf market ≤ Sample.closed.now := by
    rw [now]
    exact begun
  have cited : Evidence "ar://proof".toList 1 := by
    unfold Evidence
    decide +kernel
  have reached : (Sample.start.after (Sample.funding ++ Sample.opening ++ Sample.trading ++
      [.outside (.wait 100)])).state = Sample.closed := rfl
  exact (resolution_never_dead_ends Sample.start _ reached stored).1 (.inl opened) begun fits
    Sample.admin .yes _ 1 turn admin cited

end Tidebook.Proof
