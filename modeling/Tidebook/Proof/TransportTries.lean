import Tidebook.Proof.TransportSlots

/-! # Tries of the RPC transport

An execution makes at most one request to an endpoint, and one that carries a write makes no other
request at all.
-/

namespace Tidebook.Proof
open Library Client

namespace Transport

/-- The endpoints that an execution may still come to. -/
def ahead : ExecutionStage → List Nat
  | .verifying index rest _ | .verified index rest => index :: rest
  | .requesting _ rest _ => rest
  | .done .. => []

def choosing : ExecutionStage → Bool
  | .verifying .. | .verified .. => true
  | .requesting .. | .done .. => false

structure Tries (requests : Store Nat Request) (executions : Store Nat Execution) (nextId : Nat) :
    Prop where
  freshRequest : ∀ id request, requests.get id = some request → id < nextId
  freshExecution : ∀ item execution, executions.get item = some execution → item < nextId
  owned : ∀ id request item, requests.get id = some request → request.owner = .item item →
    ∃ execution, executions.get item = some execution ∧ execution.message = request.message
  once : ∀ id other request second item, requests.get id = some request →
    requests.get other = some second → request.owner = .item item → second.owner = .item item →
    request.index = second.index ∨ isRead request.message = false → id = other
  distinct : ∀ item execution, executions.get item = some execution → (ahead execution.stage).Nodup
  untried : ∀ item execution, executions.get item = some execution →
    ∀ id request, requests.get id = some request → request.owner = .item item →
      request.index ∉ ahead execution.stage ∧
      (isRead execution.message = false → choosing execution.stage = false)

abbrev TriesOf (s : Transport) : Prop := Tries s.requests s.executions s.nextId

structure Untried (requests : Store Nat Request) (item : Nat) (job : Job) (list : List Nat) :
    Prop where
  distinct : list.Nodup
  untried : ∀ id request, requests.get id = some request → request.owner = .item item →
    request.index ∉ list ∧ isRead request.message = true ∧ request.message = job.message

section Stores

variable {requests : Store Nat Request} {executions : Store Nat Execution} {nextId : Nat}

theorem Tries.allocate (tries : Tries requests executions nextId) :
    Tries requests executions (nextId + 1) :=
  { tries with
    freshRequest := fun id request known => (tries.freshRequest id request known).trans
      (Nat.lt_succ_self _)
    freshExecution := fun item execution known => (tries.freshExecution item execution known).trans
      (Nat.lt_succ_self _) }

theorem Tries.advance {later : Store Nat Request} (tries : Tries requests executions nextId)
    (same : ∀ id request, later.get id = some request → ∃ old, requests.get id = some old ∧
      old.index = request.index ∧ old.message = request.message ∧ old.owner = request.owner) :
    Tries later executions nextId where
  freshRequest id request known := by
    obtain ⟨old, before, -⟩ := same id request known
    exact tries.freshRequest id old before
  freshExecution := tries.freshExecution
  owned id request item known owner := by
    obtain ⟨old, before, -, message, owned⟩ := same id request known
    obtain ⟨execution, found, carries⟩ := tries.owned id old item before (owned.trans owner)
    exact ⟨execution, found, carries.trans message⟩
  once id other request second item known found owner shared alike := by
    obtain ⟨old, before, index, message, owned⟩ := same id request known
    obtain ⟨older, earlier, indexed, -, ownedToo⟩ := same other second found
    refine tries.once id other old older item before earlier (owned.trans owner)
      (ownedToo.trans shared) ?_
    rwa [index, indexed, message]
  distinct := tries.distinct
  untried item execution running id request known owner := by
    obtain ⟨old, before, index, -, owned⟩ := same id request known
    rw [← index]
    exact tries.untried item execution running id old before (owned.trans owner)

/-- A request of a probe is no try of an execution. -/
theorem Tries.addProbe (tries : Tries requests executions nextId) {request : Request} {index : Nat}
    (owner : request.owner = .probe index) :
    Tries (requests.set nextId request) executions (nextId + 1) := by
  have older {id item : Nat} {found : Request}
      (known : (requests.set nextId request).get id = some found) (owned : found.owner = .item item) :
      requests.get id = some found := by
    rw [Store.get_set] at known
    split at known
    · cases known
      rw [owner] at owned
      nomatch owned
    · exact known
  constructor
  · intro id found known
    rw [Store.get_set] at known
    split at known
    · next same => exact same ▸ Nat.lt_succ_self _
    · exact (tries.freshRequest id found known).trans (Nat.lt_succ_self _)
  · exact fun item execution known =>
      (tries.freshExecution item execution known).trans (Nat.lt_succ_self _)
  · exact fun id found item known owned => tries.owned id found item (older known owned) owned
  · exact fun id other found second item known present owned shared =>
      tries.once id other found second item (older known owned) (older present shared) owned shared
  · exact tries.distinct
  · exact fun item execution running id found known owned =>
      tries.untried item execution running id found (older known owned) owned

theorem Tries.setStage (tries : Tries requests executions nextId) {item : Nat} {job : Job}
    {stage : ExecutionStage} (known : item < nextId)
    (job_eq : ∀ id request, requests.get id = some request → request.owner = .item item →
      request.message = job.message)
    (distinct : (ahead stage).Nodup)
    (untried : ∀ id request, requests.get id = some request → request.owner = .item item →
      request.index ∉ ahead stage ∧ (isRead job.message = false → choosing stage = false)) :
    Tries requests (executions.set item { job with stage }) nextId where
  freshRequest := tries.freshRequest
  freshExecution other execution found := by
    rw [Store.get_set] at found
    split at found
    · next same => exact same ▸ known
    · exact tries.freshExecution other execution found
  owned id request other found owner := by
    rw [Store.get_set]
    split
    · next same => exact ⟨_, rfl, (job_eq id request found (same ▸ owner)).symm⟩
    · exact tries.owned id request other found owner
  once := tries.once
  distinct other execution found := by
    rw [Store.get_set] at found
    split at found
    · cases found
      exact distinct
    · exact tries.distinct other execution found
  untried other execution found id request present owner := by
    rw [Store.get_set] at found
    split at found
    · next same =>
        cases found
        exact untried id request present (same ▸ owner)
    · exact tries.untried other execution found id request present owner

end Stores

section Endpoints

variable {s : Transport} {item : Nat} {job : Job} {list : List Nat}

/-- What the loop over the endpoints keeps. -/
structure Looping (s : Transport) (item : Nat) (job : Job) (list : List Nat) : Prop where
  tries : TriesOf s
  known : item < s.nextId
  left : Untried s.requests item job list

theorem Looping.choose (looping : Looping s item job list) {index : Nat} {rest : List Nat}
    (suffix : index :: rest <:+ list) {stage : ExecutionStage} (left : ahead stage = index :: rest) :
    TriesOf (s.setStage item job stage) := by
  refine looping.tries.setStage looping.known ?_ ?_ ?_
  · exact fun id request known owner => (looping.left.untried id request known owner).2.2
  · rw [left]
    exact looping.left.distinct.sublist suffix.sublist
  · intro id request known owner
    obtain ⟨absent, read, message⟩ := looping.left.untried id request known owner
    rw [left]
    refine ⟨fun within => absent (suffix.subset within), fun write => ?_⟩
    rw [message, write] at read
    nomatch read

theorem Looping.startProbe (looping : Looping s item job list) (index : Nat) (signal : Option Nat) :
    Looping (s.startProbe index signal) item job list := by
  have old {id : Nat} {request new : Request} (owner : request.owner = .item item)
      (probing : new.owner = .probe index)
      (known : (s.requests.set s.nextId new).get id = some request) :
      s.requests.get id = some request := by
    rw [Store.get_set] at known
    split at known
    · cases known
      rw [probing] at owner
      nomatch owner
    · exact known
  unfold Transport.startProbe Transport.startRequest
  dsimp only
  split
  · refine ⟨looping.tries.addProbe rfl, looping.known.trans (Nat.lt_succ_self _),
      looping.left.distinct, fun id request known owner => ?_⟩
    exact looping.left.untried id request (old owner rfl known) owner
  · refine ⟨looping.tries.addProbe rfl, looping.known.trans (Nat.lt_succ_self _),
      looping.left.distinct, fun id request known owner => ?_⟩
    exact looping.left.untried id request (old owner rfl known) owner

theorem Looping.finish (looping : Looping s item job list) (outcome : Except String Answer) :
    TriesOf (s.finish item job outcome) := by
  refine looping.tries.setStage looping.known ?_ List.nodup_nil fun _ _ _ _ =>
    ⟨List.not_mem_nil, fun _ => rfl⟩
  exact fun id request known owner => (looping.left.untried id request known owner).2.2

theorem Looping.tryEndpoints (looping : Looping s item job list) :
    TriesOf (s.tryEndpoints item job list) :=
  tryEndpoints_rule (I := fun s => Looping s item job list)
    (fun _ _ _ looping => ⟨looping.tries, looping.known, looping.left⟩)
    (fun _ cause looping => looping.finish (.error cause))
    (fun _ _ _ suffix looping _ => looping.choose suffix rfl)
    (fun _ _ _ _ suffix looping _ => looping.choose suffix rfl)
    (fun _ index _ suffix looping => (looping.startProbe index job.signal).choose suffix rfl) looping

end Endpoints

/-! ## Actions -/

theorem Tries.request {requests : Store Nat Request} {executions : Store Nat Execution}
    {nextId item index : Nat} {rest : List Nat} {execution : Execution} {new : Request}
    (tries : Tries requests executions nextId) (known : executions.get item = some execution)
    (left : ahead execution.stage = index :: rest) (chosen : choosing execution.stage = true)
    (owner : new.owner = .item item) (indexed : new.index = index)
    (message : new.message = execution.message) :
    Tries (requests.set nextId new) (executions.set item { execution.toJob with
      stage := .requesting index rest nextId }) (nextId + 1) := by
  have distinct := tries.distinct item execution known
  rw [left] at distinct
  obtain ⟨last, distinct⟩ := List.nodup_cons.mp distinct
  have untried := tries.untried item execution known
  simp only [left, chosen, List.mem_cons, not_or] at untried
  constructor
  · intro id found present
    rw [Store.get_set] at present
    split at present
    · next same => exact same ▸ Nat.lt_succ_self _
    · exact (tries.freshRequest id found present).trans (Nat.lt_succ_self _)
  · intro other found present
    rw [Store.get_set] at present
    split at present
    · next same => exact same ▸ (tries.freshExecution item execution known).trans (Nat.lt_succ_self _)
    · exact (tries.freshExecution other found present).trans (Nat.lt_succ_self _)
  · intro id found other present owned
    have carried : ∃ execution, executions.get other = some execution ∧
        execution.message = found.message := by
      rw [Store.get_set] at present
      split at present
      · cases present
        rw [owner] at owned
        cases owned
        exact ⟨execution, known, message.symm⟩
      · exact tries.owned id found other present owned
    rw [Store.get_set]
    split
    · next same =>
        obtain ⟨carrying, there, carries⟩ := carried
        rw [same, known] at there
        cases there
        exact ⟨_, rfl, carries⟩
    · exact carried
  · intro id other found second shared present presentToo owned ownedToo alike
    rw [Store.get_set] at present presentToo
    split at present
    · next first =>
        cases present
        split at presentToo
        · next second => exact first.trans second.symm
        · rw [owner] at owned
          cases owned
          obtain ⟨⟨other, -⟩, read⟩ := untried _ _ presentToo ownedToo
          rcases alike with same | write
          · exact absurd (indexed ▸ same.symm) other
          · exact absurd (read (message ▸ write)) nofun
    · split at presentToo
      · cases presentToo
        rw [owner] at ownedToo
        cases ownedToo
        obtain ⟨⟨other, -⟩, read⟩ := untried _ _ present owned
        rcases alike with same | write
        · exact absurd (indexed ▸ same) other
        · obtain ⟨execution', there, carries⟩ := tries.owned id found _ present owned
          rw [known] at there
          cases there
          exact absurd (read (carries ▸ write)) nofun
      · exact tries.once id other found second shared present presentToo owned ownedToo alike
  · intro other found present
    rw [Store.get_set] at present
    split at present
    · cases present
      exact distinct
    · exact tries.distinct other found present
  · intro other found present id asked there owned
    rw [Store.get_set] at present there
    split at present
    · next same =>
        cases present
        refine ⟨?_, fun _ => rfl⟩
        split at there
        · cases there
          rw [indexed]
          exact last
        · exact (untried id asked there (same ▸ owned)).1.2
    · next different =>
        split at there
        · cases there
          rw [owner] at owned
          cases owned
          exact absurd rfl different
        · exact tries.untried other found present id asked there owned

section Actions

variable {s t : Transport} (tries : TriesOf s)
include tries

theorem TriesOf.requestFrom {item index : Nat} {rest : List Nat} {execution : Execution}
    (known : s.executions.get item = some execution) (left : ahead execution.stage = index :: rest)
    (chosen : choosing execution.stage = true) :
    TriesOf (s.requestFrom item execution.toJob index rest) := by
  unfold Transport.requestFrom Transport.startRequest
  dsimp only
  split
  · exact tries.request known left chosen rfl rfl rfl
  · exact tries.request known left chosen rfl rfl rfl

theorem TriesOf.looping {item : Nat} {execution : Execution}
    (known : s.executions.get item = some execution) (list : List Nat)
    (suffix : list <:+ ahead execution.stage)
    (repeats : choosing execution.stage = true ∨ isRead execution.message = true) :
    Looping s item execution.toJob list := by
  refine ⟨tries, tries.freshExecution item execution known,
    (tries.distinct item execution known).sublist suffix.sublist, fun id request present owner => ?_⟩
  obtain ⟨found, there, carries⟩ := tries.owned id request item present owner
  rw [known] at there
  cases there
  obtain ⟨absent, write⟩ := tries.untried item execution known id request present owner
  refine ⟨fun within => absent (suffix.subset within), ?_, carries.symm⟩
  rw [← carries]
  rcases repeats with chosen | read
  · by_contra other
    exact absurd ((write (by simpa using other)).symm.trans chosen) nofun
  · exact read

theorem TriesOf.finish {item : Nat} {execution : Execution}
    (known : s.executions.get item = some execution) (outcome : Except String Answer) :
    TriesOf (s.finish item execution.toJob outcome) := by
  refine tries.setStage (tries.freshExecution item execution known) ?_ List.nodup_nil
    fun _ _ _ _ => ⟨List.not_mem_nil, fun _ => rfl⟩
  intro id request present owner
  obtain ⟨found, there, carries⟩ := tries.owned id request item present owner
  rw [known] at there
  cases there
  exact carries.symm

theorem TriesOf.resumed {item : Nat} {execution : Execution}
    (known : s.executions.get item = some execution) (resumed : Resumed s item execution t) :
    TriesOf t := by
  cases resumed with
  | requested index rest ready =>
      refine tries.requestFrom known ?_ ?_
      · generalize execution.stage = stage at ready
        cases ready <;> rfl
      · generalize execution.stage = stage at ready
        cases ready <;> rfl
  | unverified index rest probe cause stage => exact tries.finish known _
  | passedOver index rest probe stage =>
      have looping := tries.looping known rest (by rw [stage]; exact List.suffix_cons _ _)
        (.inl (by rw [stage]; rfl))
      exact Looping.tryEndpoints ⟨looping.tries, looping.known, looping.left⟩
  | settled index rest id request outcome stage present settled =>
      unfold Transport.requestSettled
      cases outcome with
      | ok reply =>
          dsimp only
          split
          · exact tries.finish known _
          · exact tries.finish known _
      | error cause =>
          dsimp only
          split
          · exact tries.finish known _
          · split
            · next read =>
                have looping := tries.looping known rest
                  (by rw [stage]; exact List.suffix_refl _) (.inr read)
                exact Looping.tryEndpoints ⟨looping.tries, looping.known, looping.left⟩
            · exact tries.finish known _

end Actions

theorem eraseDups_nodup {K : Type} [DecidableEq K] (list : List K) :
    list.eraseDups.Nodup ∧ ∀ key ∈ list.eraseDups, key ∈ list := by
  induction size : list.length using Nat.strong_induction_on generalizing list with
  | _ bound ih =>
      cases list with
      | nil => simp
      | cons first rest =>
          have shorter : (rest.filter fun key => !key == first).length < bound := by
            rw [← size, List.length_cons]
            exact Nat.lt_succ_of_le (List.length_filter_le _ _)
          obtain ⟨distinct, within⟩ := ih _ shorter _ rfl
          rw [List.eraseDups_cons]
          refine ⟨List.nodup_cons.mpr ⟨fun again => ?_, distinct⟩, fun key member => ?_⟩
          · simpa using within first again
          · rcases List.mem_cons.mp member with rfl | later
            · exact List.mem_cons_self
            · exact List.mem_cons_of_mem _ (List.mem_filter.mp (within key later)).1

section Issues

variable {s t : Transport}

theorem TriesOf.execute (tries : TriesOf s) (job : Job) :
    TriesOf (Transport.execute { s with nextId := s.nextId + 1 } s.nextId job) := by
  have looping (list : List Nat) (distinct : list.Nodup) :
      Looping { s with nextId := s.nextId + 1 } s.nextId job list := by
    refine ⟨Tries.allocate tries, Nat.lt_succ_self _, distinct, fun id request present owner => ?_⟩
    obtain ⟨execution, running, -⟩ := tries.owned id request _ present owner
    exact absurd (tries.freshExecution _ execution running) (lt_irrefl _)
  unfold Transport.execute
  dsimp only
  split
  · exact (looping _ (eraseDups_nodup _).1).tryEndpoints
  · have looping := looping (Transport.order (Transport.clearCache
      { s with nextId := s.nextId + 1 })) (eraseDups_nodup _).1
    exact Looping.tryEndpoints ⟨looping.tries, looping.known, looping.left⟩

theorem TriesOf.single (tries : TriesOf s) (message : RpcMessage) (signal : Option Nat) :
    TriesOf (s.single message signal) := by
  have issued := single_cases s message signal
  generalize s.single message signal = t at issued ⊢
  cases issued with
  | cached saved read found valid => exact Tries.allocate tries
  | joined work read found => exact Tries.allocate tries
  | shared read absent => exact tries.execute ⟨message, signal⟩
  | direct => exact tries.execute ⟨message, signal⟩

theorem settleRequest_same {id : Nat} {request : Request} (slots : SlotsOf s)
    (known : s.requests.get id = some request) (running : request.stage ≠ .queued)
    (outcome : Except String RpcReply) {other : Nat} {found : Request}
    (present : (s.settleRequest id request outcome).requests.get other = some found) :
    ∃ old, s.requests.get other = some old ∧ found = { old with stage := found.stage } := by
  rw [settleRequest_get known (slots.idle known running)] at present
  obtain ⟨old, before, rfl⟩ := Option.map_eq_some_iff.mp present
  refine ⟨old, before, ?_⟩
  split
  · rfl
  · split <;> rfl

theorem TriesOf.settleRequest {id : Nat} {request : Request} (tries : TriesOf s) (slots : SlotsOf s)
    (known : s.requests.get id = some request) (running : request.stage ≠ .queued)
    (outcome : Except String RpcReply) : TriesOf (s.settleRequest id request outcome) := by
  rw [settleRequest_eq]
  refine Tries.advance tries fun other found present => ?_
  obtain ⟨old, before, same⟩ := settleRequest_same slots known running outcome present
  exact ⟨old, before, by rw [same], by rw [same], by rw [same]⟩

theorem TriesOf.setRequest {id : Nat} {request new : Request} (tries : TriesOf s)
    (known : s.requests.get id = some request) (index : request.index = new.index)
    (message : request.message = new.message) (owner : request.owner = new.owner) :
    TriesOf (s.setRequest id new) := by
  refine Tries.advance tries fun other found present => ?_
  change (s.requests.set id new).get other = some found at present
  rw [Store.get_set] at present
  split at present
  · next same =>
      cases present
      exact ⟨request, same ▸ known, index, message, owner⟩
  · exact ⟨found, present, rfl, rfl, rfl⟩

theorem TriesOf.progress {id : Nat} {request : Request} (tries : TriesOf s) (slots : SlotsOf s)
    (known : s.requests.get id = some request) (progressed : Progressed s id request t) :
    TriesOf t := by
  have running {stage : RequestStage} (now : request.stage = stage) (moved : stage ≠ .queued) :
      request.stage ≠ .queued := now ▸ moved
  cases progressed with
  | entered stage => exact tries.setRequest known rfl rfl rfl
  | turned rest stage => exact tries.setRequest known rfl rfl rfl
  | refused cause stage => exact tries.settleRequest slots known (running stage nofun) _
  | handed stage => exact tries.setRequest known rfl rfl rfl
  | failed cause stage => exact tries.settleRequest slots known (running stage nofun) _
  | throttled time stage =>
      have cooled : TriesOf (s.cool request.index time) := tries
      exact cooled.settleRequest slots known (running stage nofun) _
  | busied reply time stage =>
      have cooled : TriesOf (Transport.cool { s with trace := s.trace ++
        [.answered id request.index request.message reply] } request.index time) := tries
      exact cooled.settleRequest slots known (running stage nofun) _
  | answered reply outcome stage faithful =>
      have traced : TriesOf { s with trace := s.trace ++
        [.answered id request.index request.message reply] } := tries
      exact traced.settleRequest slots known (running stage nofun) _

theorem TriesOf.act {action : Transport.Action} (tries : TriesOf s) (slots : SlotsOf s)
    (acted : s.act action = some t) : TriesOf t := by
  cases action with
  | issue messages signal =>
      cases acted
      exact issue_rule (I := TriesOf)
        (fun _ message signal tries => TriesOf.single tries message signal) tries messages signal
  | resume item =>
      obtain ⟨execution, known, resumed⟩ := resume_cases acted
      exact tries.resumed known resumed
  | storeWork id =>
      obtain ⟨work, -, shared⟩ := storeWork_cases acted
      cases shared <;> exact tries
  | forgetWork id =>
      obtain ⟨work, -, shared⟩ := forgetWork_cases acted
      cases shared <;> exact tries
  | enterPacing id =>
      obtain ⟨request, known, progressed⟩ := enterPacing_cases acted
      exact tries.progress slots known progressed
  | takeTurn =>
      obtain ⟨id, request, known, progressed⟩ := takeTurn_cases acted
      exact tries.progress slots known progressed
  | launch id =>
      obtain ⟨request, known, progressed⟩ := launch_cases acted
      exact tries.progress slots known progressed
  | respond id upstream =>
      obtain ⟨request, known, progressed⟩ := respond_cases acted
      exact tries.progress slots known progressed
  | checkProbe id =>
      obtain ⟨probe, -, probed⟩ := checkProbe_cases acted
      cases probed <;> exact tries
  | clearProbe id =>
      obtain ⟨probe, -, probed⟩ := clearProbe_cases acted
      cases probed <;> exact tries
  | abort signal =>
      cases acted
      exact tries
  | wait ms =>
      cases acted
      exact tries

end Issues

end Transport

end Tidebook.Proof
