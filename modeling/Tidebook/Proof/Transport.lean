import Tidebook.Proof.TransportTraffic

/-! # The RPC transport repeats no broadcast

What holds in every state that the transport can reach, in whatever order its calls, its upstreams
and its own continuations act.
-/

namespace Tidebook.Proof
open Library Client

namespace Transport

/-- The states of a transport, from its creation on. -/
inductive Reach (endpoints : List String) : Transport → Prop
  | start {s : Transport} (created : createRpcFetch endpoints = .ok s) : Reach endpoints s
  | step {s t : Transport} (action : Transport.Action) (before : Reach endpoints s)
      (stepped : s.step action = some t) : Reach endpoints t

theorem step_act {s t : Transport} {action : Transport.Action} (stepped : s.step action = some t) :
    ∃ u, s.act action = some u ∧ t = { u with ticks := s.ticks + 1 } := by
  obtain ⟨u, acted, rfl⟩ := Option.map_eq_some_iff.mp stepped
  exact ⟨u, acted, rfl⟩

/-! ## Items -/

/-- Every execution carries the message of its item. -/
structure Itemized (s : Transport) : Prop where
  carries : ∀ item execution, s.executions.get item = some execution →
    ∃ entry, s.items.get item = some entry ∧ entry.message = execution.message
  fresh : ∀ item entry, s.items.get item = some entry → item < s.nextId

/-- Only the execution of one item changes. -/
structure Touches (s : Transport) (item : Nat) (job : Job) (t : Transport) : Prop where
  items : t.items = s.items
  grows : s.nextId ≤ t.nextId
  executions : ∀ other execution, t.executions.get other = some execution →
    other = item ∧ execution.message = job.message ∨ s.executions.get other = some execution

theorem touches_setStage {s u : Transport} (item : Nat) (job : Job) (stage : ExecutionStage)
    (items : u.items = s.items) (grows : s.nextId ≤ u.nextId)
    (executions : u.executions = s.executions) : Touches s item job (u.setStage item job stage) where
  items := items
  grows := grows
  executions other execution present := by
    change (u.executions.set item { job with stage }).get other = some execution at present
    rw [Store.get_set] at present
    split at present
    · next same =>
        cases present
        exact .inl ⟨same, rfl⟩
    · exact .inr (executions ▸ present)

theorem startRequest_frame (s : Transport) (index : Nat) (message : RpcMessage)
    (signal : Option Nat) (owner : Owner) :
    (s.startRequest index message signal owner).items = s.items ∧
      s.nextId ≤ (s.startRequest index message signal owner).nextId ∧
      (s.startRequest index message signal owner).executions = s.executions := by
  unfold Transport.startRequest
  dsimp only
  split
  · exact ⟨rfl, Nat.le_succ _, rfl⟩
  · exact ⟨rfl, Nat.le_succ _, rfl⟩

theorem touches_tryEndpoints {s u : Transport} (item : Nat) (job : Job) (list : List Nat)
    (items : u.items = s.items) (grows : s.nextId ≤ u.nextId)
    (executions : u.executions = s.executions) :
    Touches s item job (u.tryEndpoints item job list) := by
  refine tryEndpoints_rule
    (I := fun u => u.items = s.items ∧ s.nextId ≤ u.nextId ∧ u.executions = s.executions)
    (fun _ _ _ same => same) (fun _ _ same => touches_setStage item job _ same.1 same.2.1 same.2.2)
    (fun _ _ _ _ same _ => touches_setStage item job _ same.1 same.2.1 same.2.2)
    (fun _ _ _ _ _ same _ => touches_setStage item job _ same.1 same.2.1 same.2.2)
    (fun u index _ _ same => ?_) ⟨items, grows, executions⟩
  obtain ⟨kept, later, running⟩ := startRequest_frame u index clusterCheck job.signal (.probe index)
  exact touches_setStage item job _ (kept.trans same.1) (same.2.1.trans later)
    (running.trans same.2.2)

theorem Itemized.touch {s t : Transport} {item : Nat} {job : Job} (itemized : Itemized s)
    (touches : Touches s item job t)
    (known : ∃ entry, s.items.get item = some entry ∧ entry.message = job.message) :
    Itemized t where
  carries other execution present := by
    rw [touches.items]
    rcases touches.executions other execution present with ⟨rfl, same⟩ | before
    · obtain ⟨entry, there, carries⟩ := known
      exact ⟨entry, there, carries.trans same.symm⟩
    · exact itemized.carries other execution before
  fresh other entry present :=
    (itemized.fresh other entry (touches.items ▸ present)).trans_le touches.grows

theorem resumed_touches {s t : Transport} {item : Nat} {execution : Execution}
    (resumed : Resumed s item execution t) : Touches s item execution.toJob t := by
  cases resumed with
  | requested index rest ready =>
      obtain ⟨items, grows, executions⟩ :=
        startRequest_frame s index execution.message execution.signal (.item item)
      exact touches_setStage item _ _ items grows executions
  | unverified index rest probe cause stage => exact touches_setStage item _ _ rfl le_rfl rfl
  | passedOver index rest probe stage => exact touches_tryEndpoints item _ rest rfl le_rfl rfl
  | settled index rest id request outcome stage present settled =>
      unfold Transport.requestSettled
      cases outcome with
      | ok reply =>
          dsimp only
          split
          · exact touches_setStage item _ _ rfl le_rfl rfl
          · exact touches_setStage item _ _ rfl le_rfl rfl
      | error cause =>
          dsimp only
          split
          · exact touches_setStage item _ _ rfl le_rfl rfl
          · split
            · exact touches_tryEndpoints item _ rest rfl le_rfl rfl
            · exact touches_setStage item _ _ rfl le_rfl rfl

theorem touches_execute (s : Transport) (item : Nat) (job : Job) :
    Touches s item job (s.execute item job) := by
  unfold Transport.execute
  dsimp only
  split
  · exact touches_tryEndpoints item job _ rfl le_rfl rfl
  · exact touches_tryEndpoints item job _ rfl le_rfl rfl

theorem Itemized.add {s t : Transport} {job : Job} (itemized : Itemized s)
    (touches : Touches { s with nextId := s.nextId + 1 } s.nextId job t) (source : Source) :
    Itemized (t.addItem s.nextId job.message job.signal source) where
  carries other execution present := by
    change ∃ entry, (t.items.set s.nextId _).get other = some entry ∧ _
    rw [Store.get_set]
    rcases touches.executions other execution present with ⟨rfl, same⟩ | before
    · rw [if_pos rfl]
      exact ⟨_, rfl, same.symm⟩
    · obtain ⟨entry, there, carries⟩ := itemized.carries other execution before
      rw [if_neg (itemized.fresh other entry there).ne, touches.items]
      exact ⟨entry, there, carries⟩
  fresh other entry present := by
    change (t.items.set s.nextId _).get other = some entry at present
    rw [Store.get_set] at present
    split at present
    · next same => exact same ▸ touches.grows
    · refine (itemized.fresh other entry ?_).trans ((Nat.lt_succ_self _).trans_le touches.grows)
      exact touches.items ▸ present

theorem Itemized.single {s : Transport} (itemized : Itemized s) (message : RpcMessage)
    (signal : Option Nat) : Itemized (s.single message signal) := by
  have issued := single_cases s message signal
  generalize s.single message signal = t at issued ⊢
  have untouched : Touches { s with nextId := s.nextId + 1 } s.nextId ⟨message, signal⟩
      { s with nextId := s.nextId + 1 } := ⟨rfl, le_rfl, fun _ _ known => .inr known⟩
  have executed := touches_execute { s with nextId := s.nextId + 1 } s.nextId ⟨message, signal⟩
  cases issued with
  | cached saved read found valid => exact itemized.add untouched _
  | joined work read found => exact itemized.add untouched _
  | shared read absent =>
      have shared : Touches { s with nextId := s.nextId + 1 } s.nextId ⟨message, signal⟩
          ((Transport.execute { s with nextId := s.nextId + 1 } s.nextId
            ⟨message, signal⟩).shareExecution s.nextId (s.cacheKey message) (ttlOf message)) :=
        ⟨executed.items, executed.grows, executed.executions⟩
      exact itemized.add shared _
  | direct => exact itemized.add executed _

theorem Itemized.progress {s t : Transport} {id : Nat} {request : Request} (itemized : Itemized s)
    (progressed : Progressed s id request t) : Itemized t := by
  have settle (s : Transport) (itemized : Itemized s) (outcome : Except String RpcReply) :
      Itemized (s.settleRequest id request outcome) := by
    rw [settleRequest_eq]
    exact ⟨itemized.carries, itemized.fresh⟩
  cases progressed with
  | entered stage => exact ⟨itemized.carries, itemized.fresh⟩
  | turned rest stage => exact ⟨itemized.carries, itemized.fresh⟩
  | refused cause stage => exact settle s itemized _
  | handed stage => exact ⟨itemized.carries, itemized.fresh⟩
  | failed cause stage => exact settle s itemized _
  | throttled time stage =>
      refine settle _ ?_ _
      exact ⟨itemized.carries, itemized.fresh⟩
  | busied reply time stage =>
      refine settle _ ?_ _
      exact ⟨itemized.carries, itemized.fresh⟩
  | answered reply outcome stage faithful =>
      refine settle _ ?_ _
      exact ⟨itemized.carries, itemized.fresh⟩

theorem Itemized.act {s t : Transport} {action : Transport.Action} (itemized : Itemized s)
    (acted : s.act action = some t) : Itemized t := by
  cases action with
  | issue messages signal =>
      cases acted
      exact issue_rule (I := Itemized)
        (fun _ message signal itemized => itemized.single message signal) itemized messages signal
  | resume item =>
      obtain ⟨execution, known, resumed⟩ := resume_cases acted
      exact itemized.touch (resumed_touches resumed) (itemized.carries item execution known)
  | storeWork id =>
      obtain ⟨work, -, shared⟩ := storeWork_cases acted
      cases shared <;> exact ⟨itemized.carries, itemized.fresh⟩
  | forgetWork id =>
      obtain ⟨work, -, shared⟩ := forgetWork_cases acted
      cases shared <;> exact ⟨itemized.carries, itemized.fresh⟩
  | enterPacing id =>
      obtain ⟨request, -, progressed⟩ := enterPacing_cases acted
      exact itemized.progress progressed
  | takeTurn =>
      obtain ⟨id, request, -, progressed⟩ := takeTurn_cases acted
      exact itemized.progress progressed
  | launch id =>
      obtain ⟨request, -, progressed⟩ := launch_cases acted
      exact itemized.progress progressed
  | respond id upstream =>
      obtain ⟨request, -, progressed⟩ := respond_cases acted
      exact itemized.progress progressed
  | checkProbe id =>
      obtain ⟨probe, -, probed⟩ := checkProbe_cases acted
      cases probed <;> exact ⟨itemized.carries, itemized.fresh⟩
  | clearProbe id =>
      obtain ⟨probe, -, probed⟩ := clearProbe_cases acted
      cases probed <;> exact ⟨itemized.carries, itemized.fresh⟩
  | abort signal =>
      cases acted
      exact ⟨itemized.carries, itemized.fresh⟩
  | wait ms =>
      cases acted
      exact ⟨itemized.carries, itemized.fresh⟩

/-! ## Runs -/

/-- What holds of every state that can be reached. -/
structure Sound (s : Transport) : Prop where
  safe : Safe s
  tries : TriesOf s
  itemized : Itemized s

theorem created_sound {endpoints : List String} {s : Transport}
    (created : createRpcFetch endpoints = .ok s) : Sound s := by
  unfold createRpcFetch at created
  dsimp only at created
  split at created
  · nomatch created
  · cases created
    have empty {T : Type} {P : Prop} {id : Nat} {value : T}
        (known : (Store.empty : Store Nat T).get id = some value) : P := by
      rw [Store.get_empty] at known
      nomatch known
    have slots : Slots 0 .empty [] 0 0 :=
      { count := rfl
        limit := Nat.zero_le _
        full := fun some => absurd rfl some
        distinct := List.nodup_nil
        waiting := by simp
        fresh := fun _ _ known => empty known }
    have traced : Traced .empty [] :=
      { once := List.nodup_nil
        handed := fun _ _ _ _ member => absurd member List.not_mem_nil
        answered := fun _ _ _ known => empty known }
    have checked : Checked (fun _ => ⟨0, false, false, none⟩) .empty .empty .empty [] :=
      { verified := fun _ known => nomatch known
        probe := fun _ _ known => empty known
        probing := fun _ _ _ known => empty known
        passed := fun _ _ known => empty known
        joined := fun _ _ known => nomatch known
        verifying := fun _ _ _ _ _ known => empty known
        chosen := fun _ _ _ _ known => empty known
        owned := fun _ _ _ known => empty known
        ordered := fun _ _ _ _ _ _ split => absurd split (by simp) }
    have tries : Tries .empty .empty 0 :=
      { freshRequest := fun _ _ known => empty known
        freshExecution := fun _ _ known => empty known
        owned := fun _ _ _ known => empty known
        once := fun _ _ _ _ _ known => empty known
        distinct := fun _ _ known => empty known
        untried := fun _ _ known => empty known }
    exact ⟨⟨slots, traced, checked⟩, tries,
      ⟨fun _ _ known => empty known, fun _ _ known => empty known⟩⟩

theorem Sound.step {s t : Transport} {action : Transport.Action} (sound : Sound s)
    (stepped : s.step action = some t) : Sound t := by
  obtain ⟨u, acted, rfl⟩ := step_act stepped
  have safe := sound.safe.act acted
  have tries := sound.tries.act sound.safe.slots acted
  have itemized := sound.itemized.act acted
  exact ⟨⟨safe.slots, safe.traced, safe.checked⟩, tries, ⟨itemized.carries, itemized.fresh⟩⟩

theorem Reach.sound {endpoints : List String} {s : Transport} (reach : Reach endpoints s) :
    Sound s := by
  induction reach with
  | start created => exact created_sound created
  | step action before stepped ih => exact ih.step stepped

/-! ## Bounds -/

def handsOver (item : Nat) : Traffic → Bool
  | .handed _ (.item other) _ _ => other = item
  | _ => false

def handsOverTo (item index : Nat) : Traffic → Bool
  | .handed _ (.item other) at_ _ => other = item ∧ at_ = index
  | _ => false

def inFlight (request : Request) : Bool :=
  match request.stage with
  | .sent => true
  | _ => false

def isSettled (request : Request) : Bool :=
  match request.stage with
  | .settled _ => true
  | _ => false

theorem filter_once {trace : List Traffic} {test : Traffic → Bool}
    (once : (trace.filterMap handedId).Nodup)
    (same : ∀ first ∈ trace, ∀ second ∈ trace, test first = true → test second = true →
      ∃ id, handedId first = some id ∧ handedId second = some id) :
    (trace.filter test).length ≤ 1 := by
  induction trace with
  | nil => exact Nat.zero_le _
  | cons first rest ih =>
      have later : (rest.filterMap handedId).Nodup := by
        rw [List.filterMap_cons] at once
        cases named : handedId first with
        | none => simpa [named] using once
        | some id => exact (List.nodup_cons.mp (by simpa [named] using once)).2
      by_cases passes : test first = true
      · have alone : rest.filter test = [] := by
          refine List.filter_eq_nil_iff.mpr fun second member also => ?_
          obtain ⟨id, named, again⟩ := same first List.mem_cons_self second
            (List.mem_cons_of_mem _ member) passes also
          rw [List.filterMap_cons, named] at once
          exact (List.nodup_cons.mp once).1 (List.mem_filterMap.mpr ⟨second, member, again⟩)
        rw [List.filter_cons_of_pos passes, alone]
        exact le_rfl
      · rw [List.filter_cons_of_neg passes]
        exact ih later fun one left two right => same one (List.mem_cons_of_mem _ left) two
          (List.mem_cons_of_mem _ right)

theorem Sound.handed_once {s : Transport} (sound : Sound s) (item : Nat) {test : Traffic → Bool}
    (handed : ∀ event, test event = true → ∃ id index message, event = .handed id (.item item) index
      message)
    (alike : ∀ first second id other index indexed message messaged,
      first = .handed id (.item item) index message → second = .handed other (.item item) indexed
        messaged → test first = true → test second = true → first ∈ s.trace →
      index = indexed ∨ isRead message = false) :
    (s.trace.filter test).length ≤ 1 := by
  refine filter_once sound.safe.traced.once fun first within second withinToo passes also => ?_
  obtain ⟨id, index, message, rfl⟩ := handed first passes
  obtain ⟨other, indexed, messaged, rfl⟩ := handed second also
  have alike := alike _ _ _ _ _ _ _ _ rfl rfl passes also within
  obtain ⟨request, known, owner, indexes, carries, -⟩ := sound.safe.traced.handed _ _ _ _ within
  obtain ⟨second, there, owned, at_, -⟩ := sound.safe.traced.handed _ _ _ _ withinToo
  have same := sound.tries.once id other request second item known there owner owned (by
    rw [indexes, at_, carries]
    exact alike)
  exact ⟨id, rfl, congrArg some same.symm⟩

/-- The message of a hand-over is that of its item. -/
theorem Sound.carried {s : Transport} (sound : Sound s) {id item index : Nat} {message : RpcMessage}
    (within : .handed id (.item item) index message ∈ s.trace) :
    ∃ entry, s.items.get item = some entry ∧ entry.message = message := by
  obtain ⟨request, known, owner, -, carries, -⟩ := sound.safe.traced.handed _ _ _ _ within
  obtain ⟨execution, running, message_eq⟩ := sound.tries.owned id request item known owner
  obtain ⟨entry, there, named⟩ := sound.itemized.carries item execution running
  exact ⟨entry, there, named.trans (message_eq.trans carries)⟩

theorem transport_repeats_no_broadcast {endpoints : List String} {s : Transport}
    (reach : Reach endpoints s) :
    (∀ item entry, s.items.get item = some entry → isRead entry.message = false →
      (s.trace.filter (handsOver item)).length ≤ 1) ∧
    (∀ before id owner index message after,
      s.trace = before ++ .handed id owner index message :: after → isRead message = false →
      Genesis before index ∧ ∃ item entry, owner = .item item ∧ s.items.get item = some entry ∧
        entry.message = message) ∧
    (∀ item index, (s.trace.filter (handsOverTo item index)).length ≤ 1) ∧
    (s.requests.total fun _ request => if inFlight request then 1 else 0) ≤ 3 ∧
    ((∀ id request, s.requests.get id = some request → request.stage = .queued ∨
      isSettled request = true) → s.active = 0 ∧ s.waiters = []) := by
  have sound := reach.sound
  refine ⟨fun item entry known write => ?_, fun before id owner index message after split write => ?_,
    fun item index => ?_, ?_, fun settled => ?_⟩
  · refine sound.handed_once item (fun event passes => ?_) ?_
    · cases event with
      | answered _ _ _ _ => nomatch passes
      | handed id owner index message =>
          cases owner with
          | probe _ => nomatch passes
          | item other => exact ⟨id, index, message, by rw [of_decide_eq_true passes]⟩
    · rintro first second id other index indexed message messaged rfl rfl - - within
      obtain ⟨found, there, carries⟩ := sound.carried within
      rw [known] at there
      cases there
      exact .inr (carries ▸ write)
  · have within : .handed id owner index message ∈ s.trace := by simp [split]
    obtain ⟨request, known, owned, -, carries, -⟩ := sound.safe.traced.handed _ _ _ _ within
    cases owner with
    | probe probed =>
        rw [← carries, sound.safe.checked.probing id request probed known owned] at write
        exact absurd write (by decide)
    | item item =>
        obtain ⟨entry, there, named⟩ := sound.carried within
        exact ⟨sound.safe.checked.ordered _ _ _ _ _ _ split, item, entry, rfl, there, named⟩
  · refine sound.handed_once item (fun event passes => ?_) ?_
    · cases event with
      | answered _ _ _ _ => nomatch passes
      | handed id owner at_ message =>
          cases owner with
          | probe _ => nomatch passes
          | item other => exact ⟨id, at_, message, by rw [(of_decide_eq_true passes).1]⟩
    · rintro first second id other at_ indexed message messaged rfl rfl passes also -
      exact .inl ((of_decide_eq_true passes).2.trans (of_decide_eq_true also).2.symm)
  · have few : holders s.requests ≤ 3 :=
      le_of_eq_of_le (b := s.active) sound.safe.slots.count.symm sound.safe.slots.limit
    refine (Store.total_le_total fun id request known => ?_).trans few
    cases stage : request.stage <;> simp [inFlight, holds, stage]
  · have none_held : holders s.requests = 0 := by
      refine Store.total_eq_zero.mpr fun id request known => ?_
      rcases settled id request known with queued | ended
      · simp [holds, queued]
      · cases stage : request.stage <;> simp_all [holds, isSettled]
    have free : s.active = 0 := sound.safe.slots.count.trans none_held
    refine ⟨free, ?_⟩
    by_contra waiting
    exact absurd (free.symm.trans (sound.safe.slots.full waiting)) (by decide)

theorem run_rule {endpoints : List String} {step : Transport → Transport.Action → Option Transport}
    {P : Transport → Prop} (start : ∀ s, createRpcFetch endpoints = .ok s → P s)
    (steps : ∀ s t action, P s → step s action = some t → P t) {actions : List Transport.Action}
    {t : Transport}
    (run : ((createRpcFetch endpoints).toOption.bind fun s => actions.foldlM step s) = some t) :
    P t := by
  have later (actions : List Transport.Action) (s : Transport) (holds : P s)
      (run : actions.foldlM step s = some t) : P t := by
    induction actions generalizing s with
    | nil => exact Option.some_inj.mp run ▸ holds
    | cons action rest ih =>
        obtain ⟨u, stepped, run⟩ := Option.bind_eq_some_iff.mp run
        exact ih u (steps s u action holds stepped) run
  obtain ⟨s, created, run⟩ := Option.bind_eq_some_iff.mp run
  refine later actions s (start s ?_) run
  cases outcome : createRpcFetch endpoints with
  | error cause => simp [outcome, Except.toOption] at created
  | ok first =>
      simp only [outcome, Except.toOption, Option.some_inj] at created
      rw [created]

theorem reach_of_run {endpoints : List String} {actions : List Transport.Action} {t : Transport}
    (run : ((createRpcFetch endpoints).toOption.bind fun s => actions.foldlM Transport.step s) =
      some t) : Reach endpoints t :=
  run_rule (fun _ => .start) (fun _ _ action reach stepped => .step action reach stepped) run

end Transport

namespace Sample
open Transport Client.Transport

def broadcast : RpcMessage := ⟨.other "1", "sendTransaction".toList, none⟩

def discovery : RpcMessage := ⟨.other "2", "getProgramAccounts".toList, none⟩

/-- A read starts while a write is under way and is answered; the write then fails, and the read is
asked for again. -/
def lostWrite : List Action :=
  [.issue [some broadcast] none, .enterPacing 1, .takeTurn, .launch 1,
   .respond 1 (.replied ⟨none, some devnetGenesis, none⟩), .checkProbe 1, .clearProbe 1, .resume 0,
   .enterPacing 2, .issue [some discovery] none, .resume 3, .enterPacing 4, .wait 300, .takeTurn,
   .launch 2, .wait 300, .takeTurn, .launch 4,
   .respond 4 (.replied ⟨none, some (.other "[]"), none⟩), .resume 3, .storeWork 3, .forgetWork 3,
   .respond 2 (.failed "fetch failed"), .resume 0, .issue [some discovery] none]

def lostWriteRun : Option Client.Transport :=
  (createRpcFetch ["rpc"]).toOption.bind fun s => lostWrite.foldlM Client.Transport.step s

theorem broadcast_handed_once : ∃ s entry, Reach ["rpc"] s ∧ s.items.get 0 = some entry ∧
    isRead entry.message = false ∧ (s.trace.filter (handsOver 0)).length ≤ 1 := by
  have reached : (lostWriteRun.any fun s =>
      (s.items.get 0).any fun entry => !isRead entry.message) = true := by decide +kernel
  obtain ⟨s, run, found⟩ := (Option.any_eq_true _ _).mp reached
  obtain ⟨entry, known, write⟩ := (Option.any_eq_true _ _).mp found
  have write : isRead entry.message = false := by simpa using write
  have reach : Reach ["rpc"] s := reach_of_run run
  exact ⟨s, entry, reach, known, write,
    (transport_repeats_no_broadcast reach).1 0 entry known write⟩

end Sample

end Tidebook.Proof
