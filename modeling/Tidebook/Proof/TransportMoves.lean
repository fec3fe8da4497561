import Tidebook.Client.RpcTransport

/-! # Moves of the RPC transport

What one action can do, once for all invariants of the transport.
-/

namespace Tidebook.Proof
open Library Client

namespace Transport

variable {s t : Transport}

inductive Ready (s : Transport) (index : Nat) (rest : List Nat) : ExecutionStage → Prop
  | verified : Ready s index rest (.verified index rest)
  | probed (probe : Nat) (check : Probe) (known : s.probes.get probe = some check)
      (passed : check.stage = .settled (.ok ())) : Ready s index rest (.verifying index rest probe)

/-- What `resume` does with an execution. -/
inductive Resumed (s : Transport) (item : Nat) (execution : Execution) : Transport → Prop
  | requested (index : Nat) (rest : List Nat) (ready : Ready s index rest execution.stage) :
      Resumed s item execution (s.requestFrom item execution.toJob index rest)
  | unverified (index : Nat) (rest : List Nat) (probe : Nat) (cause : String)
      (stage : execution.stage = .verifying index rest probe) :
      Resumed s item execution (s.finish item execution.toJob (.error cause))
  | passedOver (index : Nat) (rest : List Nat) (probe : Nat)
      (stage : execution.stage = .verifying index rest probe) :
      Resumed s item execution
        ((s.cool index (s.now + 30000)).tryEndpoints item execution.toJob rest)
  | settled (index : Nat) (rest : List Nat) (id : Nat) (request : Request)
      (outcome : Except String RpcReply) (stage : execution.stage = .requesting index rest id)
      (known : s.requests.get id = some request) (settled : request.stage = .settled outcome) :
      Resumed s item execution
        (s.requestSettled item execution.toJob index rest request outcome)

theorem resume_cases {item : Nat} (resumed : s.resume item = some t) :
    ∃ execution, s.executions.get item = some execution ∧ Resumed s item execution t := by
  unfold Transport.resume at resumed
  cases known : s.executions.get item with
  | none => simp [known] at resumed
  | some execution =>
      simp only [known, Option.bind_eq_bind, Option.bind_some] at resumed
      refine ⟨execution, rfl, ?_⟩
      cases stage : execution.stage with
      | verified index rest =>
          simp only [stage, Option.some_inj] at resumed
          exact resumed ▸ .requested index rest (stage ▸ .verified)
      | verifying index rest probe =>
          simp only [stage] at resumed
          cases found : s.probes.get probe with
          | none => simp [found] at resumed
          | some check =>
              simp only [found, Option.bind_some] at resumed
              split at resumed
              · next passed =>
                  cases Option.some_inj.mp resumed
                  exact .requested index rest (stage ▸ .probed probe check found passed)
              · split at resumed
                · cases Option.some_inj.mp resumed
                  exact .unverified index rest probe _ stage
                · cases Option.some_inj.mp resumed
                  exact .passedOver index rest probe stage
              · nomatch resumed
      | requesting index rest id =>
          simp only [stage] at resumed
          cases found : s.requests.get id with
          | none => simp [found] at resumed
          | some request =>
              simp only [found, Option.bind_some] at resumed
              split at resumed
              · next outcome settled =>
                  cases Option.some_inj.mp resumed
                  exact .settled index rest id request outcome stage found settled
              · nomatch resumed
      | done outcome settledAt => simp [stage] at resumed

/-- What an action does to a request. -/
inductive Progressed (s : Transport) (id : Nat) (request : Request) : Transport → Prop
  | entered (stage : request.stage = .admitted) :
      Progressed s id request
        { s.setRequest id { request with stage := .pacing } with pacing := s.pacing ++ [id] }
  | turned (rest : List Nat) (stage : request.stage = .pacing) :
      Progressed s id request
        { s.setRequest id { request with stage := .paced } with
          pacing := rest
          nextStart := s.now + 300 }
  | refused (cause : String) (stage : request.stage = .paced) :
      Progressed s id request (s.settleRequest id request (.error cause))
  | handed (stage : request.stage = .paced) :
      Progressed s id request
        { s.setRequest id { request with stage := .sent, handedAt := some s.ticks } with
          trace := s.trace ++ [.handed id request.owner request.index request.message] }
  | failed (cause : String) (stage : request.stage = .sent) :
      Progressed s id request (s.settleRequest id request (.error cause))
  | throttled (time : Nat) (stage : request.stage = .sent) :
      Progressed s id request
        ((s.cool request.index time).settleRequest id request (.error Transport.busyText))
  | busied (reply : RpcReply) (time : Nat) (stage : request.stage = .sent) :
      Progressed s id request
        (({ s with trace := s.trace ++
            [.answered id request.index request.message reply] } : Transport).cool
          request.index time |>.settleRequest id request (.error Transport.busyText))
  | answered (reply : RpcReply) (outcome : Except String RpcReply) (stage : request.stage = .sent)
      (faithful : ∀ given, outcome = .ok given → given = reply) :
      Progressed s id request
        (({ s with trace := s.trace ++
            [.answered id request.index request.message reply] } : Transport).settleRequest id
          request outcome)

theorem enterPacing_cases {id : Nat} (entered : s.enterPacing id = some t) :
    ∃ request, s.requests.get id = some request ∧ Progressed s id request t := by
  unfold Transport.enterPacing at entered
  cases known : s.requests.get id with
  | none => simp [known] at entered
  | some request =>
      simp only [known, Option.bind_eq_bind, Option.bind_some] at entered
      split at entered
      · next stage =>
          cases Option.some_inj.mp entered
          exact ⟨request, rfl, .entered stage⟩
      · nomatch entered

theorem takeTurn_cases (turned : s.takeTurn = some t) :
    ∃ id request, s.requests.get id = some request ∧ Progressed s id request t := by
  unfold Transport.takeTurn at turned
  split at turned
  · next id rest _ =>
      split at turned
      · cases known : s.requests.get id with
        | none => simp [known] at turned
        | some request =>
            simp only [known, Option.bind_eq_bind, Option.bind_some] at turned
            split at turned
            · next stage =>
                cases Option.some_inj.mp turned
                exact ⟨id, request, known, .turned rest stage⟩
            · nomatch turned
      · nomatch turned
  · nomatch turned

theorem launch_cases {id : Nat} (launched : s.launch id = some t) :
    ∃ request, s.requests.get id = some request ∧ Progressed s id request t := by
  unfold Transport.launch at launched
  cases known : s.requests.get id with
  | none => simp [known] at launched
  | some request =>
      simp only [known, Option.bind_eq_bind, Option.bind_some] at launched
      refine ⟨request, rfl, ?_⟩
      split at launched
      · next stage =>
          split at launched
          · cases Option.some_inj.mp launched
            exact .refused _ stage
          · split at launched
            · cases Option.some_inj.mp launched
              exact .refused _ stage
            · cases Option.some_inj.mp launched
              exact .handed stage
      · nomatch launched

theorem respond_cases {id : Nat} {upstream : Transport.Upstream}
    (responded : s.respond id upstream = some t) :
    ∃ request, s.requests.get id = some request ∧ Progressed s id request t := by
  unfold Transport.respond at responded
  cases known : s.requests.get id with
  | none => simp [known] at responded
  | some request =>
      simp only [known, Option.bind_eq_bind, Option.bind_some] at responded
      refine ⟨request, rfl, ?_⟩
      split at responded
      · next stage =>
          cases upstream with
          | failed cause =>
              cases Option.some_inj.mp responded
              exact .failed cause stage
          | refused retryMs =>
              cases Option.some_inj.mp responded
              exact .throttled _ stage
          | replied reply =>
              simp only at responded
              split at responded
              · cases Option.some_inj.mp responded
                exact .busied reply _ stage
              · split at responded
                · cases Option.some_inj.mp responded
                  exact .answered reply _ stage fun _ => nofun
                · cases Option.some_inj.mp responded
                  exact .answered reply _ stage fun _ same => (Except.ok.inj same).symm
      · nomatch responded

/-- What happens to a cluster check. -/
inductive Probed (s : Transport) (id : Nat) (probe : Probe) : Transport → Prop
  | failed (cause : String) (stage : probe.stage = .waiting) :
      Probed s id probe
        { s with probes := s.probes.set id { probe with stage := .checked (.error cause) } }
  | wrong (cause : String) (stage : probe.stage = .waiting) :
      Probed s id probe
        { s.setEndpoint probe.index { s.endpoints probe.index with wrongCluster := true } with
          probes := s.probes.set id { probe with stage := .checked (.error cause) } }
  | passed (request : Request) (reply : RpcReply) (stage : probe.stage = .waiting)
      (known : s.requests.get id = some request) (settled : request.stage = .settled (.ok reply))
      (fine : reply.error = none) (devnet : reply.result = some devnetGenesis) :
      Probed s id probe
        { s.setEndpoint probe.index { s.endpoints probe.index with verified := true } with
          probes := s.probes.set id { probe with stage := .checked (.ok ()) } }
  | cleared (outcome : Except String Unit) (stage : probe.stage = .checked outcome) :
      Probed s id probe
        { s.setEndpoint probe.index { s.endpoints probe.index with probe := none } with
          probes := s.probes.set id { probe with stage := .settled outcome } }

theorem checkProbe_cases {id : Nat} (checked : s.checkProbe id = some t) :
    ∃ probe, s.probes.get id = some probe ∧ Probed s id probe t := by
  unfold Transport.checkProbe at checked
  cases known : s.probes.get id with
  | none => simp [known] at checked
  | some probe =>
      cases found : s.requests.get id with
      | none => simp [known, found] at checked
      | some request =>
          simp only [known, found, Option.bind_eq_bind, Option.bind_some] at checked
          refine ⟨probe, rfl, ?_⟩
          split at checked
          · next stage _ =>
              cases Option.some_inj.mp checked
              exact .failed _ stage
          · next reply stage settled =>
              split at checked
              · cases Option.some_inj.mp checked
                exact .failed _ stage
              · next fine =>
                  split at checked
                  · cases Option.some_inj.mp checked
                    exact .wrong _ stage
                  · next devnet =>
                      cases Option.some_inj.mp checked
                      exact .passed request reply stage found settled (not_not.mp fine)
                        (not_not.mp devnet)
          · nomatch checked

theorem clearProbe_cases {id : Nat} (cleared : s.clearProbe id = some t) :
    ∃ probe, s.probes.get id = some probe ∧ Probed s id probe t := by
  unfold Transport.clearProbe at cleared
  cases known : s.probes.get id with
  | none => simp [known] at cleared
  | some probe =>
      simp only [known, Option.bind_eq_bind, Option.bind_some] at cleared
      split at cleared
      · next outcome stage =>
          cases Option.some_inj.mp cleared
          exact ⟨probe, rfl, .cleared outcome stage⟩
      · nomatch cleared

/-- What happens behind a shared execution. -/
inductive Shared (s : Transport) (id : Nat) (work : Work) : Transport → Prop
  | stored (execution : Execution) (outcome : Except String Answer) (settledAt : Nat)
      (stage : work.stage = .running) (known : s.executions.get id = some execution)
      (done : execution.stage = .done outcome settledAt) :
      Shared s id work { s with works := s.works.set id { work with stage := .stored outcome } }
  | cached (execution : Execution) (answer : Answer) (settledAt : Nat)
      (stage : work.stage = .running) (known : s.executions.get id = some execution)
      (done : execution.stage = .done (.ok answer) settledAt) :
      Shared s id work
        { s with
          works := s.works.set id { work with stage := .stored (.ok answer) }
          cache := s.cacheReply work.key ⟨s.now + work.ttl, answer⟩ }
  | forgotten (outcome : Except String Answer) (stage : work.stage = .stored outcome) :
      Shared s id work
        { s with
          works := s.works.set id { work with stage := .settled outcome }
          pending := s.pending.filter fun entry => entry.1 ≠ work.key }

theorem storeWork_cases {id : Nat} (stored : s.storeWork id = some t) :
    ∃ work, s.works.get id = some work ∧ Shared s id work t := by
  unfold Transport.storeWork at stored
  cases known : s.works.get id with
  | none => simp [known] at stored
  | some work =>
      cases found : s.executions.get id with
      | none => simp [known, found] at stored
      | some execution =>
          simp only [known, found, Option.bind_eq_bind, Option.bind_some] at stored
          refine ⟨work, rfl, ?_⟩
          split at stored
          · next outcome settledAt stage done =>
              cases outcome with
              | error cause =>
                  cases Option.some_inj.mp stored
                  exact .stored execution _ settledAt stage found done
              | ok answer =>
                  simp only at stored
                  split at stored
                  · cases Option.some_inj.mp stored
                    exact .cached execution answer settledAt stage found done
                  · cases Option.some_inj.mp stored
                    exact .stored execution _ settledAt stage found done
          · nomatch stored

theorem forgetWork_cases {id : Nat} (forgotten : s.forgetWork id = some t) :
    ∃ work, s.works.get id = some work ∧ Shared s id work t := by
  unfold Transport.forgetWork at forgotten
  cases known : s.works.get id with
  | none => simp [known] at forgotten
  | some work =>
      simp only [known, Option.bind_eq_bind, Option.bind_some] at forgotten
      split at forgotten
      · next outcome stage =>
          cases Option.some_inj.mp forgotten
          exact ⟨work, rfl, .forgotten outcome stage⟩
      · nomatch forgotten

/-- What `single` does with a message. -/
inductive Issued (s : Transport) (message : RpcMessage) (signal : Option Nat) : Transport → Prop
  | cached (saved : Saved) (read : isRead message = true)
      (found : s.cache.lookup (s.cacheKey message) = some saved) (valid : s.now < saved.validUntil) :
      Issued s message signal
        (({ s with nextId := s.nextId + 1 } : Transport).addItem s.nextId message signal
          (.cached saved.answer))
  | joined (work : Nat) (read : isRead message = true)
      (found : s.pending.lookup (s.cacheKey message) = some work) :
      Issued s message signal
        (({ s with nextId := s.nextId + 1 } : Transport).addItem s.nextId message signal
          (.work work))
  | shared (read : isRead message = true) (absent : s.pending.lookup (s.cacheKey message) = none) :
      Issued s message signal
        (((({ s with nextId := s.nextId + 1 } : Transport).execute s.nextId
          ⟨message, signal⟩).shareExecution s.nextId (s.cacheKey message) (ttlOf message)).addItem
            s.nextId message signal (.work s.nextId))
  | direct :
      Issued s message signal
        ((({ s with nextId := s.nextId + 1 } : Transport).execute s.nextId
          ⟨message, signal⟩).addItem s.nextId message signal .execution)

theorem single_cases (s : Transport) (message : RpcMessage) (signal : Option Nat) :
    Issued s message signal (s.single message signal) := by
  unfold Transport.single
  split
  · next read =>
      dsimp only
      split
      · next saved found =>
          obtain ⟨kept, valid⟩ := Option.filter_eq_some_iff.mp found
          exact .cached saved read.1 kept (of_decide_eq_true valid)
      · split
        · next work found => exact .joined work read.1 found
        · next absent => exact .shared read.1 absent
  · exact .direct

theorem issue_rule {I : Transport → Prop}
    (single : ∀ s message signal, I s → I (Transport.single s message signal)) (start : I s)
    (messages : List (Option RpcMessage)) (signal : Option Nat) : I (s.issue messages signal) := by
  unfold Transport.issue
  induction messages generalizing s with
  | nil => exact start
  | cons first rest ih =>
      refine ih ?_
      cases first with
      | none => exact start
      | some message => exact single s message signal start

theorem verify_cases (s : Transport) (index : Nat) (signal : Option Nat) :
    ((s.endpoints index).verified = true ∧ s.verify index signal = .ok (s, none)) ∨
    (∃ cause, s.verify index signal = .error cause) ∨
    (∃ probe, (s.endpoints index).probe = some probe ∧
      s.verify index signal = .ok (s, some probe)) ∨
    s.verify index signal = .ok (s.startProbe index signal, some s.nextId) := by
  unfold Transport.verify
  dsimp only
  split
  · next verified => exact .inl ⟨verified, rfl⟩
  · split
    · exact .inr (.inl ⟨_, rfl⟩)
    · split
      · next probe found => exact .inr (.inr (.inl ⟨probe, found, rfl⟩))
      · exact .inr (.inr (.inr rfl))

/-- The loop over the endpoints passes some over, which only cools them, and ends in one of four
ways. -/
theorem tryEndpoints_rule {I P : Transport → Prop} {item : Nat} {job : Job} {list : List Nat}
    (cool : ∀ s index time, I s → I (Transport.cool s index time))
    (finish : ∀ s cause, I s → P (Transport.finish s item job (.error cause)))
    (verified : ∀ s index rest, index :: rest <:+ list → I s →
      (s.endpoints index).verified = true → P (Transport.setStage s item job (.verified index rest)))
    (joined : ∀ s index rest probe, index :: rest <:+ list → I s →
      (s.endpoints index).probe = some probe →
      P (Transport.setStage s item job (.verifying index rest probe)))
    (started : ∀ s index rest, index :: rest <:+ list → I s →
      P ((Transport.startProbe s index job.signal).setStage item job
        (.verifying index rest s.nextId)))
    (start : I s) : P (s.tryEndpoints item job list) := by
  induction list generalizing s with
  | nil => exact finish s _ start
  | cons index rest ih =>
      have later {s : Transport} : I s → P (s.tryEndpoints item job rest) := ih
        (fun s index rest suffix => verified s index rest (suffix.trans (List.suffix_cons _ _)))
        (fun s index rest probe suffix =>
          joined s index rest probe (suffix.trans (List.suffix_cons _ _)))
        (fun s index rest suffix => started s index rest (suffix.trans (List.suffix_cons _ _)))
      unfold Transport.tryEndpoints
      split
      · exact later start
      · rcases verify_cases s index job.signal with
          ⟨known, outcome⟩ | ⟨cause, outcome⟩ | ⟨probe, found, outcome⟩ | outcome
        · rw [outcome]
          exact verified s index rest (List.suffix_refl _) start known
        · rw [outcome]
          dsimp only
          split
          · exact finish s cause start
          · exact later (cool s _ _ start)
        · rw [outcome]
          exact joined s index rest probe (List.suffix_refl _) start found
        · rw [outcome]
          exact started s index rest (List.suffix_refl _) start

end Transport

end Tidebook.Proof
