import Tidebook.Proof.Run

/-! # The path to an outcome

The moves by which a question is opened, frozen, answered, handed to its fallback resolver and
finalized, and what holds of every question on that path.
-/

namespace Tidebook.Proof
open Library Program

/-! ## Windows -/

/-- The resolver whose turn it is. -/
def currentResolver (market : PredictionMarket) : Option Pubkey :=
  match market.resolutionPhase with
  | .primary => some market.resolver
  | .fallback => market.fallback.map PredictionFallback.resolver

def earliestOf (market : PredictionMarket) : Int :=
  market.earliestResolutionTs.getD market.closeTs

/-- The window in which that resolver may speak: the primary one before the fallback window opens,
the fallback one until its deadline. -/
def InWindow (market : PredictionMarket) (now : Int) : Prop :=
  market.closeTs ≤ now ∧ earliestOf market ≤ now ∧
    match market.resolutionPhase with
    | .primary => ∀ fallback ∈ market.fallback, now < fallback.availableTs
    | .fallback => ∃ fallback ∈ market.fallback, fallback.availableTs ≤ now ∧
        ∀ deadline ∈ fallback.deadlineTs, now < deadline

theorem resolverWindow_eq_ok {market : PredictionMarket} {signer : Pubkey} {now : Int}
    {done : Unit} : resolverWindow market signer now = .ok done ↔
      InWindow market now ∧ currentResolver market = some signer := by
  simp only [resolverWindow, InWindow, earliestOf, currentResolver, bind_eq_ok, require_eq_ok,
    exists_const, ge_iff_le]
  cases market.resolutionPhase with
  | primary =>
      simp only [bind_eq_ok, require_eq_ok, exists_const, pure_eq_ok, exists_and_left,
        exists_eq_left', Option.some.injEq, and_assoc]
  | fallback =>
      cases market.fallback with
      | none => simp [bind_eq_ok]
      | some fallback =>
          simp only [bind_eq_ok, okOr_eq_ok, require_eq_ok, exists_const, pure_eq_ok,
            Option.some.injEq, Option.mem_def, exists_and_left, exists_eq_left', Option.map_some,
            and_assoc]

theorem maturity_eq_ok {market : PredictionMarket} {matures : Int} :
    maturity market = .ok matures ↔ ∃ proposal ∈ market.proposal,
      (market.resolutionDelaySeconds : Int) ≤ i64Max ∧
      i64Min ≤ proposal.proposedAt + market.resolutionDelaySeconds ∧
      proposal.proposedAt + market.resolutionDelaySeconds ≤ i64Max ∧
      matures = proposal.proposedAt + market.resolutionDelaySeconds := by
  simp only [maturity, bind_eq_ok, okOr_eq_ok, delayTs, checkedAddTs, require_eq_ok, exists_const,
    pure_eq_ok, Option.mem_def]
  constructor
  · rintro ⟨proposal, made, delay, ⟨fits, rfl⟩, ⟨low, high⟩, rfl⟩
    exact ⟨proposal, made, fits, low, high, rfl⟩
  · rintro ⟨proposal, made, fits, low, high, rfl⟩
    exact ⟨proposal, made, _, ⟨fits, rfl⟩, ⟨low, high⟩, rfl⟩

/-! ## Moves -/

inductive Act where
  | opens
  | freezes
  | proposes (resolver : Pubkey) (proposal : PredictionProposal)
  | activates
  | finalizes
  | expires

inductive Move (now : Int) : Act → PredictionMarket → PredictionMarket → Prop where
  | opens {market : PredictionMarket} (draft : market.status = .draft)
      (early : now < market.closeTs) : Move now .opens market { market with status := .opened }
  | freezes {market : PredictionMarket} (opened : market.status = .opened) :
      Move now .freezes market { market with status := .frozen }
  | proposes {market : PredictionMarket} {resolver : Pubkey} {proposal : PredictionProposal}
      {matures : Int} (window : InWindow market now)
      (turn : currentResolver market = some resolver) (unresolved : market.finalOutcome = none)
      (ready : (market.status = .opened ∨ market.status = .frozen) ∧ market.proposal = none ∨
        market.status = .proposed ∧ ∃ ends, maturity market = .ok ends ∧ now < ends)
      (stamped : proposal.proposedAt = now)
      (fits : maturity { market with proposal := some proposal } = .ok matures) :
      Move now (.proposes resolver proposal) market
        { market with proposal := some proposal, status := .proposed }
  | activates {market : PredictionMarket} {fallback : PredictionFallback}
      (stored : market.fallback = some fallback)
      (ready : market.status = .opened ∨ market.status = .frozen)
      (unproposed : market.proposal = none) (primary : market.resolutionPhase = .primary)
      (available : fallback.availableTs ≤ now)
      (early : ∀ deadline ∈ fallback.deadlineTs, now < deadline) :
      Move now .activates market { market with status := .frozen, resolutionPhase := .fallback }
  | finalizes {market : PredictionMarket} {proposal : PredictionProposal} {matures : Int}
      (proposed : market.status = .proposed) (unresolved : market.finalOutcome = none)
      (made : market.proposal = some proposal) (ends : maturity market = .ok matures)
      (mature : matures ≤ now) :
      Move now .finalizes market
        { market with finalOutcome := some proposal.outcome, status := .resolved }
  | expires {market : PredictionMarket} {fallback : PredictionFallback} {deadline : Int}
      (stored : market.fallback = some fallback) (closes : fallback.deadlineTs = some deadline)
      (ready : market.status = .opened ∨ market.status = .frozen)
      (unresolved : market.finalOutcome = none) (unproposed : market.proposal = none)
      (late : deadline ≤ now) :
      Move now .expires market
        { market with
          resolutionPhase := .fallback, finalOutcome := some .invalid, status := .resolved }

/-- The instructions that make each move. -/
inductive Performs (now : Int) (key : Pubkey) : Instruction → Act → Prop where
  | opens (authority : Wallet) : Performs now key (.openPredictionMarket authority key) .opens
  | closes (resolver : Wallet) : Performs now key (.closePredictionTrading resolver key) .freezes
  | freezes : Performs now key (.advancePrediction key 0) .freezes
  | proposes (resolver : Wallet) (outcome : PredictionResolution) (uri : List Char) (hash : Nat)
      (correction : Bool) :
      Performs now key (.proposePrediction resolver key outcome uri hash correction)
        (.proposes resolver.key ⟨outcome, now, uri, hash⟩)
  | activates : Performs now key (.advancePrediction key 1) .activates
  | finalizes : Performs now key (.advancePrediction key 2) .finalizes
  | expires : Performs now key (.advancePrediction key 3) .expires

section Moves

variable {state after : State} {key : Pubkey}

/-- What an instruction on the path to an outcome does: one move of one stored question. -/
def Moved (state : State) (instruction : Instruction) (key : Pubkey) (after : State) : Prop :=
  ∃ market later act, state.prediction.markets.get key = some market ∧
    Performs state.now key instruction act ∧ Move state.now act market later ∧
    after = { state with prediction := { state.prediction with
      markets := state.prediction.markets.set key later } }

theorem open_moved {authority : Wallet}
    (done : handleOpenPredictionMarket state authority key = .ok after) :
    Moved state (.openPredictionMarket authority key) key after := by
  simp only [handleOpenPredictionMarket, bind_eq_ok, require_eq_ok, pure_eq_ok] at done
  obtain ⟨market, ownMarket, _, -, _, -, _, -, _, draft, _, early, rfl⟩ := done
  obtain ⟨filed, stored, _⟩ := loadPredictionMarket_ok ownMarket
  rw [filed]
  exact ⟨market.val, _, _, stored, .opens authority, .opens draft early, rfl⟩

theorem close_moved {resolver : Wallet}
    (done : handleClosePredictionTrading state resolver key = .ok after) :
    Moved state (.closePredictionTrading resolver key) key after := by
  simp only [handleClosePredictionTrading, bind_eq_ok, require_eq_ok, pure_eq_ok] at done
  obtain ⟨market, ownMarket, _, -, _, -, _, opened, rfl⟩ := done
  obtain ⟨filed, stored, _⟩ := loadPredictionMarket_ok ownMarket
  rw [filed]
  exact ⟨market.val, _, _, stored, .closes resolver, .freezes opened, rfl⟩

theorem propose_moved {resolver : Wallet} {outcome : PredictionResolution} {uri : List Char}
    {hash : Nat} {correction : Bool}
    (done : handleProposePrediction state resolver key outcome uri hash correction = .ok after) :
    Moved state (.proposePrediction resolver key outcome uri hash correction) key after := by
  simp only [handleProposePrediction, bind_eq_ok, require_eq_ok, pure_eq_ok] at done
  obtain ⟨market, ownMarket, _, -, _, window, _, unresolved, _, ready, _, -, matures, fits, rfl⟩ :=
    done
  obtain ⟨filed, stored, _⟩ := loadPredictionMarket_ok ownMarket
  obtain ⟨inside, turn⟩ := resolverWindow_eq_ok.mp window
  rw [filed]
  refine ⟨market.val, _, _, stored, .proposes resolver outcome uri hash correction,
    .proposes inside turn unresolved ?_ rfl fits, rfl⟩
  cases correction with
  | false =>
      simp only [Bool.false_eq_true, if_false, require_eq_ok] at ready
      exact .inl ⟨ready.1, Option.isNone_iff_eq_none.mp ready.2⟩
  | true =>
      simp only [if_true, bind_eq_ok, require_eq_ok] at ready
      obtain ⟨_, proposed, ends, known, before⟩ := ready
      exact .inr ⟨proposed, ends, known, before⟩

theorem advance_eq_ok {market advanced : PredictionMarket} {now : Int} {action : UInt8}
    (passed : market.advance now action.toNat = .ok advanced) :
    action = 0 ∨ action = 1 ∨ action = 2 ∨ action = 3 := by
  by_contra other
  push Not at other
  obtain ⟨zero, one, two, three⟩ := other
  have apart : ∀ code : UInt8, action ≠ code → action.toNat ≠ code.toNat :=
    fun code different same => different (UInt8.toNat.inj same)
  have := apart 0 zero
  have := apart 1 one
  have := apart 2 two
  have := apart 3 three
  unfold PredictionMarket.advance at passed
  split at passed <;> simp_all

theorem advance_moved {prediction : Prediction} {action : UInt8}
    (done : handleAdvancePrediction state.prediction state.now key action.toNat = .ok prediction) :
    Moved state (.advancePrediction key action) key { state with prediction := prediction } := by
  simp only [handleAdvancePrediction, bind_eq_ok, require_eq_ok, pure_eq_ok] at done
  obtain ⟨market, ownMarket, _, unresolved, advanced, passed, rfl⟩ := done
  obtain ⟨filed, stored, _⟩ := loadPredictionMarket_ok ownMarket
  rw [filed]
  obtain rfl | rfl | rfl | rfl := advance_eq_ok passed
  · simp only [UInt8.toNat_ofNat, Nat.zero_mod, PredictionMarket.advance, bind_eq_ok, require_eq_ok,
      pure_eq_ok] at passed
    obtain ⟨_, ⟨opened, -⟩, rfl⟩ := passed
    exact ⟨market.val, _, _, stored, .freezes, .freezes opened, rfl⟩
  · simp only [UInt8.toNat_ofNat, Nat.reducePow, Nat.reduceMod, PredictionMarket.advance,
      bind_eq_ok, okOr_eq_ok, require_eq_ok, pure_eq_ok, Option.isNone_iff_eq_none] at passed
    obtain ⟨fallback, has, _, ⟨ready, unproposed, primary, available, early⟩, rfl⟩ := passed
    exact ⟨market.val, _, _, stored, .activates,
      .activates has ready unproposed primary available early, rfl⟩
  · simp only [UInt8.toNat_ofNat, Nat.reducePow, Nat.reduceMod, PredictionMarket.advance,
      bind_eq_ok, okOr_eq_ok, require_eq_ok, pure_eq_ok] at passed
    obtain ⟨_, proposed, matures, ends, _, mature, proposal, made, rfl⟩ := passed
    exact ⟨market.val, _, _, stored, .finalizes,
      .finalizes proposed unresolved made ends mature, rfl⟩
  · simp only [UInt8.toNat_ofNat, Nat.reducePow, Nat.reduceMod, PredictionMarket.advance,
      bind_eq_ok, okOr_eq_ok, require_eq_ok, pure_eq_ok, Option.isNone_iff_eq_none,
      Option.bind_eq_some_iff] at passed
    obtain ⟨deadline, ⟨fallback, has, closes⟩, _, ⟨ready, unproposed, late⟩, rfl⟩ := passed
    exact ⟨market.val, _, _, stored, .expires,
      .expires has closes ready unresolved unproposed late, rfl⟩

theorem execute_moved {instruction : Instruction} (named : resolves instruction = some key)
    (done : execute state instruction = .ok after) : Moved state instruction key after := by
  cases instruction <;> cases named
  · exact open_moved done
  · exact propose_moved done
  · exact close_moved done
  · obtain ⟨_, changed, rfl⟩ := onPrediction_ok done
    exact advance_moved changed

end Moves

/-! ## Questions across an instruction -/

inductive QuestionStep (state : State) (instruction : Instruction) :
    Store Pubkey PredictionMarket → Prop where
  | still : QuestionStep state instruction state.prediction.markets
  | update {key : Pubkey} {market changed : PredictionMarket}
      (stored : state.prediction.markets.get key = some market)
      (terms : resolutionTerms changed = resolutionTerms market)
      (course : courseOf changed = courseOf market) :
      QuestionStep state instruction (state.prediction.markets.set key changed)
  | move {key : Pubkey} {market later : PredictionMarket} {act : Act}
      (stored : state.prediction.markets.get key = some market)
      (performs : Performs state.now key instruction act) (moves : Move state.now act market later) :
      QuestionStep state instruction (state.prediction.markets.set key later)
  | opening {marketId : Nat} {authority collateralMint : Pubkey} {config : PredictionMarketConfig}
      (absent : state.prediction.markets.get (.predictionMarket marketId) = none)
      (valid : validatePredictionMarketConfig config state.now = .ok ()) :
      QuestionStep state instruction (state.prediction.markets.set (.predictionMarket marketId)
        (newPredictionMarket marketId authority collateralMint config))

theorem SetCrossing.questions {state : State} {instruction : Instruction} {market owner : Pubkey}
    {out into : Bucket → Nat} {paid funded : Nat}
    (crossing : SetCrossing state.prediction market owner out into paid funded) :
    QuestionStep state instruction crossing.result.markets :=
  .update crossing.stored crossing.question.resolution crossing.course

theorem Effect.questions {state after : State} {instruction : Instruction}
    (effect : Effect state instruction after) :
    QuestionStep state instruction after.prediction.markets := by
  cases effect with
  | initializePredictionMarket opening => exact .opening opening.absent opening.valid
  | restate silent named restates done =>
      obtain ⟨market, later, act, stored, performs, moves, same⟩ := execute_moved named done
      rw [same]
      exact .move stored performs moves
  | splitPredictionCompleteSet crossing => exact crossing.questions
  | mergePredictionCompleteSet crossing => exact crossing.questions
  | sharedSplit crossing => exact crossing.toSetCrossing.questions
  | sharedMerge crossing => exact crossing.toSetCrossing.questions
  | redeemPrediction crossing final worth => exact crossing.toSetCrossing.questions
  | insertPredictionOrder placed => exact .update placed.stored rfl rfl
  | placePredictionOrder placed => exact .update placed.stored rfl rfl
  | appendPredictionOrder placed => exact .update placed.stored rfl rfl
  | cancelPredictionOrder leaving => exact .update leaving.stored rfl rfl
  | matchPredictionOrder configured fill =>
      show QuestionStep state _ (if _ then fill.markets else _)
      split
      · exact .update fill.stored rfl rfl
      · have stored := (congrArg state.prediction.markets.get fill.home).symm.trans fill.stored
        exact .update stored rfl rfl
  | _ => exact .still

/-! ## Sound courses -/

/-- The order of the published timestamps, and that the latest proposal in every bounded window
still matures at a representable time. -/
structure TimedTerms (market : PredictionMarket) : Prop where
  earliest : market.closeTs ≤ earliestOf market
  delay_pos : 0 < market.resolutionDelaySeconds
  delay_fits : (market.resolutionDelaySeconds : Int) ≤ i64Max
  first : i64Min ≤ earliestOf market + market.resolutionDelaySeconds
  available : ∀ fallback ∈ market.fallback, earliestOf market < fallback.availableTs ∧
    fallback.availableTs + market.resolutionDelaySeconds ≤ i64Max
  deadline : ∀ fallback ∈ market.fallback, ∀ deadline ∈ fallback.deadlineTs,
    fallback.availableTs < deadline ∧ deadline - 1 + market.resolutionDelaySeconds ≤ i64Max

structure OnCourse (now : Int) (market : PredictionMarket) : Prop where
  terms : TimedTerms market
  resolved : market.finalOutcome ≠ none ↔ market.status = .resolved
  unproposed : market.status = .draft ∨ market.status = .opened ∨ market.status = .frozen →
    market.proposal = none
  proposed : market.status = .proposed → market.proposal ≠ none
  matures : ∀ proposal ∈ market.proposal, proposal.proposedAt ≤ now ∧
    ∃ ends, maturity market = .ok ends
  handed : market.resolutionPhase = .fallback →
    ∃ fallback ∈ market.fallback, fallback.availableTs ≤ now
  frozen : market.resolutionPhase = .fallback → market.status ≠ .draft ∧ market.status ≠ .opened

theorem OnCourse.wait {now later : Int} {market : PredictionMarket} (course : OnCourse now market)
    (onward : now ≤ later) : OnCourse later market :=
  { course with
    matures := fun proposal made =>
      ⟨(course.matures proposal made).1.trans onward, (course.matures proposal made).2⟩
    handed := fun phase =>
      let ⟨fallback, has, available⟩ := course.handed phase
      ⟨fallback, has, available.trans onward⟩ }

section Course

variable {now : Int} {market changed : PredictionMarket}

theorem resolutionTerms_eq : resolutionTerms changed = resolutionTerms market ↔
    changed.collateralVault = market.collateralVault ∧ changed.resolver = market.resolver ∧
      changed.fallback = market.fallback ∧ changed.closeTs = market.closeTs ∧
      changed.earliestResolutionTs = market.earliestResolutionTs ∧
      changed.resolutionDelaySeconds = market.resolutionDelaySeconds := by
  simp only [resolutionTerms, Prod.mk.injEq]

theorem courseOf_eq : courseOf changed = courseOf market ↔
    changed.status = market.status ∧ changed.resolutionPhase = market.resolutionPhase ∧
      changed.proposal = market.proposal ∧ changed.finalOutcome = market.finalOutcome := by
  simp only [courseOf, Prod.mk.injEq]

theorem TimedTerms.congr (terms : TimedTerms market)
    (same : resolutionTerms changed = resolutionTerms market) : TimedTerms changed := by
  obtain ⟨-, -, fallback, close, early, delay⟩ := resolutionTerms_eq.mp same
  have earliest : earliestOf changed = earliestOf market := by rw [earliestOf, early, close, earliestOf]
  constructor
  · rw [earliest, close]
    exact terms.earliest
  · rw [delay]
    exact terms.delay_pos
  · rw [delay]
    exact terms.delay_fits
  · rw [earliest, delay]
    exact terms.first
  · rw [earliest, delay, fallback]
    exact terms.available
  · rw [delay, fallback]
    exact terms.deadline

theorem OnCourse.update (course : OnCourse now market)
    (terms : resolutionTerms changed = resolutionTerms market)
    (same : courseOf changed = courseOf market) : OnCourse now changed := by
  obtain ⟨-, -, fallback, -, -, delay⟩ := resolutionTerms_eq.mp terms
  obtain ⟨status, phase, proposal, final⟩ := courseOf_eq.mp same
  refine ⟨course.terms.congr terms, ?_, ?_, ?_, ?_, ?_, ?_⟩
  · rw [status, final]
    exact course.resolved
  · rw [status, proposal]
    exact course.unproposed
  · rw [status, proposal]
    exact course.proposed
  · simp only [maturity, proposal, delay]
    exact course.matures
  · rw [phase, fallback]
    exact course.handed
  · rw [phase, status]
    exact course.frozen

theorem Move.terms {act : Act} (moves : Move now act market changed) :
    resolutionTerms changed = resolutionTerms market := by
  cases moves <;> rfl

theorem Move.onCourse {act : Act} (moves : Move now act market changed)
    (course : OnCourse now market) : OnCourse now changed := by
  have terms := course.terms.congr moves.terms
  have unresolved : market.finalOutcome = none → market.status ≠ .resolved :=
    fun open_ ended => course.resolved.mpr ended open_
  cases moves with
  | opens draft early =>
      have unproposed := course.unproposed (.inl draft)
      have open_ : market.finalOutcome = none := by
        by_contra ended
        cases draft.symm.trans (course.resolved.mp ended)
      refine ⟨terms, by simp [open_], fun _ => unproposed, by simp, course.matures,
        course.handed, fun phase => ?_⟩
      exact absurd draft (course.frozen phase).1
  | freezes opened =>
      have unproposed := course.unproposed (.inr (.inl opened))
      have open_ : market.finalOutcome = none := by
        by_contra ended
        cases opened.symm.trans (course.resolved.mp ended)
      exact ⟨terms, by simp [open_], fun _ => unproposed, by simp, course.matures,
        course.handed, by simp⟩
  | proposes window turn open_ ready stamped fits =>
      refine ⟨terms, by simp [open_], by simp, by simp, ?_, course.handed, by simp⟩
      intro made found
      cases found
      exact ⟨le_of_eq stamped, _, fits⟩
  | activates stored ready unproposed primary available early =>
      have open_ : market.finalOutcome = none := by
        by_contra ended
        have status := course.resolved.mp ended
        rcases ready with is | is <;> cases is.symm.trans status
      exact ⟨terms, by simp [open_], fun _ => unproposed, by simp, course.matures,
        fun _ => ⟨_, stored, available⟩, by simp⟩
  | finalizes proposed open_ made ends mature =>
      exact ⟨terms, by simp, by simp, by simp, course.matures, course.handed, by simp⟩
  | expires stored closes ready open_ unproposed late =>
      have ordered := course.terms.deadline _ stored _ closes
      exact ⟨terms, by simp, by simp, by simp, course.matures,
        fun _ => ⟨_, stored, by omega⟩, by simp⟩

theorem validated_timed {config : PredictionMarketConfig} {marketId : Nat}
    {authority collateralMint : Pubkey}
    (valid : validatePredictionMarketConfig config now = .ok ()) :
    TimedTerms (newPredictionMarket marketId authority collateralMint config) := by
  simp only [validatePredictionMarketConfig, delayTs, checkedAddTs, bind_eq_ok, require_eq_ok,
    pure_eq_ok, exists_const, gt_iff_lt, ge_iff_le] at valid
  obtain ⟨-, earliest, -, _, ⟨fits, rfl⟩, positive, _, ⟨⟨first, -⟩, -⟩, _, ordered, -⟩ := valid
  refine ⟨earliest, by exact_mod_cast positive, fits, first, ?_, ?_⟩
  · intro fallback has
    rw [show config.fallback = some fallback from has] at ordered
    simp only [validateFallback, checkedAddTs, bind_eq_ok, require_eq_ok, pure_eq_ok, exists_const,
      gt_iff_lt] at ordered
    obtain ⟨-, after, _, ⟨⟨-, available⟩, -⟩, -⟩ := ordered
    exact ⟨after, available⟩
  · intro fallback has deadline closes
    rw [show config.fallback = some fallback from has] at ordered
    simp only [validateFallback, show fallback.deadlineTs = some deadline from closes, checkedAddTs,
      bind_eq_ok, require_eq_ok, pure_eq_ok, exists_const, gt_iff_lt] at ordered
    obtain ⟨-, -, _, -, after, _, ⟨-, rfl⟩, _, ⟨⟨-, latest⟩, -⟩, -⟩ := ordered
    exact ⟨after, latest⟩

theorem newQuestion_onCourse {config : PredictionMarketConfig} {marketId : Nat}
    {authority collateralMint : Pubkey}
    (valid : validatePredictionMarketConfig config now = .ok ()) :
    OnCourse now (newPredictionMarket marketId authority collateralMint config) :=
  ⟨validated_timed valid, by simp [newPredictionMarket], fun _ => rfl,
    by simp [newPredictionMarket], by simp [newPredictionMarket], by simp [newPredictionMarket],
    by simp [newPredictionMarket]⟩

end Course

/-! ## Runs -/

theorem Effect.same_now {state after : State} {instruction : Instruction}
    (effect : Effect state instruction after) : after.now = state.now := by
  cases effect <;> rfl

theorem occur_now {state after : State} {happened : Outside}
    (done : occur state happened = .ok after) : state.now ≤ after.now := by
  cases happened with
  | wait seconds =>
      simp only [occur, pure_eq_ok] at done
      rw [← done]
      exact Int.le_add_of_nonneg_right (Int.natCast_nonneg seconds)
  | createAccount id mint owner =>
      simp only [occur, onTokens, bind_eq_ok, pure_eq_ok] at done
      obtain ⟨_, -, _, -, rfl⟩ := done
      exact le_rfl
  | _ =>
      simp only [occur, onTokens, bind_eq_ok, pure_eq_ok] at done
      obtain ⟨_, -, rfl⟩ := done
      exact le_rfl

theorem QuestionStep.origin {state : State} {instruction : Instruction}
    {markets : Store Pubkey PredictionMarket} (step : QuestionStep state instruction markets)
    {key : Pubkey} {later : PredictionMarket} (found : markets.get key = some later) :
    (∃ market, state.prediction.markets.get key = some market ∧
      resolutionTerms later = resolutionTerms market ∧
      (courseOf later = courseOf market ∨
        ∃ act, Performs state.now key instruction act ∧ Move state.now act market later)) ∨
    state.prediction.markets.get key = none ∧ ∃ marketId authority collateralMint config,
      validatePredictionMarketConfig config state.now = .ok () ∧
      later = newPredictionMarket marketId authority collateralMint config := by
  cases step with
  | still => exact .inl ⟨later, found, rfl, .inl rfl⟩
  | @update home market changed stored terms course =>
      rw [Store.get_set] at found
      split at found
      · next same =>
          cases found
          exact .inl ⟨market, same ▸ stored, terms, .inl course⟩
      · exact .inl ⟨later, found, rfl, .inl rfl⟩
  | @move home market moved act stored performs moves =>
      rw [Store.get_set] at found
      split at found
      · next same =>
          cases found
          subst same
          exact .inl ⟨market, stored, moves.terms, .inr ⟨act, performs, moves⟩⟩
      · exact .inl ⟨later, found, rfl, .inl rfl⟩
  | @opening marketId authority collateralMint config absent valid =>
      rw [Store.get_set] at found
      split at found
      · next same =>
          cases found
          exact .inr ⟨same ▸ absent, marketId, authority, collateralMint, config, valid, rfl⟩
      · exact .inl ⟨later, found, rfl, .inl rfl⟩

theorem QuestionStep.kept {state : State} {instruction : Instruction}
    {markets : Store Pubkey PredictionMarket} (step : QuestionStep state instruction markets)
    {key : Pubkey} (stored : state.prediction.markets.get key ≠ none) : markets.get key ≠ none := by
  cases step with
  | still => exact stored
  | _ => exact Store.set_ne_none stored

theorem run_onCourse (genesis : Genesis) (events : List Event) :
    ∀ key market, (genesis.after events).state.prediction.markets.get key = some market →
      OnCourse (genesis.after events).state.now market := by
  refine (reach_of_steps (P := fun world => ∀ key market,
    world.state.prediction.markets.get key = some market → OnCourse world.state.now market) ?_
    (.genesis genesis) ?_).2
  · rintro world event after - holds course applied reached -
    rw [reached]
    intro key later found
    cases event with
    | instruction sent =>
        have effect := execute_effect holds.spot holds.prediction holds.shared applied
        rw [effect.same_now]
        obtain ⟨market, stored, terms, same | ⟨act, performs, moves⟩⟩ |
          ⟨-, marketId, authority, mint, config, valid, rfl⟩ := effect.questions.origin found
        · exact (course key market stored).update terms same
        · exact moves.onCourse (course key market stored)
        · exact newQuestion_onCourse valid
    | outside happened =>
        rw [(occur_around applied).prediction] at found
        exact (course key later found).wait (occur_now applied)
  · intro key market stored
    cases stored

end Tidebook.Proof
