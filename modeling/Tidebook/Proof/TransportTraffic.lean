import Tidebook.Proof.TransportTries

/-! # Traffic of the RPC transport

Every request is handed to its upstream at most once, and a message of a call only to an endpoint
whose cluster check was answered with the devnet hash.
-/

namespace Tidebook.Proof
open Library Client

namespace Transport

/-- The cluster check of the endpoint was answered with the devnet hash. -/
def Genesis (trace : List Traffic) (index : Nat) : Prop :=
  ∃ request reply, .answered request index clusterCheck reply ∈ trace ∧ reply.error = none ∧
    reply.result = some devnetGenesis

theorem Genesis.later {trace : List Traffic} {index : Nat} (seen : Genesis trace index)
    (rest : List Traffic) : Genesis (trace ++ rest) index := by
  obtain ⟨request, reply, member, fine, devnet⟩ := seen
  exact ⟨request, reply, List.mem_append_left _ member, fine, devnet⟩

def handedId : Traffic → Option Nat
  | .handed request .. => some request
  | .answered .. => none

def late (request : Request) : Bool :=
  match request.stage with
  | .sent | .settled _ => true
  | .queued | .admitted | .pacing | .paced => false

structure Traced (requests : Store Nat Request) (trace : List Traffic) : Prop where
  once : (trace.filterMap handedId).Nodup
  handed : ∀ id owner index message, .handed id owner index message ∈ trace →
    ∃ request, requests.get id = some request ∧ request.owner = owner ∧ request.index = index ∧
      request.message = message ∧ late request = true
  answered : ∀ id request reply, requests.get id = some request →
    request.stage = .settled (.ok reply) →
    .answered id request.index request.message reply ∈ trace

abbrev TracedOf (s : Transport) : Prop := Traced s.requests s.trace

section Traced

variable {requests : Store Nat Request} {trace : List Traffic}

theorem Traced.move {later : Store Nat Request} (traced : Traced requests trace)
    (same : ∀ id, (later.get id).isSome = (requests.get id).isSome)
    (moves : ∀ id old new, requests.get id = some old → later.get id = some new →
      new.owner = old.owner ∧ new.index = old.index ∧ new.message = old.message ∧
      (late old = true → late new = true) ∧ ∀ reply, new.stage = .settled (.ok reply) →
        .answered id old.index old.message reply ∈ trace) :
    Traced later trace where
  once := traced.once
  handed id owner index message member := by
    obtain ⟨old, before, owned, indexed, carried, sent⟩ := traced.handed id owner index message member
    obtain ⟨new, after⟩ := Option.isSome_iff_exists.mp ((same id).trans (by rw [before]; rfl))
    obtain ⟨owner_eq, index_eq, message_eq, stays, -⟩ := moves id old new before after
    exact ⟨new, after, owner_eq.trans owned, index_eq.trans indexed, message_eq.trans carried,
      stays sent⟩
  answered id new reply after settled := by
    obtain ⟨old, before⟩ := Option.isSome_iff_exists.mp ((same id).symm.trans (by rw [after]; rfl))
    obtain ⟨-, index_eq, message_eq, -, known⟩ := moves id old new before after
    rw [index_eq, message_eq]
    exact known reply settled

theorem Traced.set {id : Nat} {old new : Request} (traced : Traced requests trace)
    (known : requests.get id = some old) (owner : new.owner = old.owner)
    (index : new.index = old.index) (message : new.message = old.message)
    (stays : late old = true → late new = true)
    (settled : ∀ reply, new.stage ≠ .settled (.ok reply)) : Traced (requests.set id new) trace := by
  refine traced.move (fun other => ?_) fun other before after present found => ?_
  · rw [Store.get_set]
    split
    · next same =>
        rw [same, known]
        rfl
    · rfl
  · rw [Store.get_set] at found
    split at found
    · next same =>
        cases found
        rw [same, known] at present
        cases present
        exact ⟨owner, index, message, stays, fun reply ended => absurd ended (settled reply)⟩
    · rw [present] at found
      cases found
      exact ⟨rfl, rfl, rfl, fun sent => sent, fun reply =>
        traced.answered other before reply present⟩

theorem Traced.add {id : Nat} {new : Request} (traced : Traced requests trace)
    (fresh : requests.get id = none) (running : ∀ outcome, new.stage ≠ .settled outcome) :
    Traced (requests.set id new) trace where
  once := traced.once
  handed other owner index message member := by
    obtain ⟨old, before, rest⟩ := traced.handed other owner index message member
    refine ⟨old, ?_, rest⟩
    rw [Store.get_set, if_neg, before]
    rintro rfl
    rw [fresh] at before
    nomatch before
  answered other found reply present settled := by
    rw [Store.get_set] at present
    split at present
    · cases present
      exact absurd settled (running _)
    · exact traced.answered other found reply present settled

theorem Traced.answer (traced : Traced requests trace) (id index : Nat) (message : RpcMessage)
    (reply : RpcReply) : Traced requests (trace ++ [.answered id index message reply]) where
  once := by
    rw [List.filterMap_append]
    change (trace.filterMap handedId ++ []).Nodup
    rw [List.append_nil]
    exact traced.once
  handed other owner index message member := by
    rcases List.mem_append.mp member with earlier | last
    · exact traced.handed other owner index message earlier
    · exact nomatch List.mem_singleton.mp last
  answered other found reply present settled :=
    List.mem_append_left _ (traced.answered other found reply present settled)

theorem Traced.hand {id time : Nat} {request : Request} (traced : Traced requests trace)
    (known : requests.get id = some request) (stage : request.stage = .paced) :
    Traced (requests.set id { request with stage := .sent, handedAt := some time })
      (trace ++ [.handed id request.owner request.index request.message]) where
  once := by
    rw [List.filterMap_append]
    refine List.nodup_append.mpr ⟨traced.once, List.nodup_singleton id, ?_⟩
    rintro other member again single rfl
    obtain ⟨event, within, named⟩ := List.mem_filterMap.mp member
    cases event with
    | answered _ _ _ _ => nomatch named
    | handed first owner index message =>
        obtain ⟨old, before, -, -, -, sent⟩ := traced.handed first owner index message within
        cases Option.some_inj.mp named
        rw [List.mem_singleton.mp single, known] at before
        cases before
        rw [late, stage] at sent
        nomatch sent
  handed other owner index message member := by
    rw [Store.get_set]
    rcases List.mem_append.mp member with earlier | last
    · obtain ⟨old, before, owned, indexed, carried, sent⟩ :=
        traced.handed other owner index message earlier
      split
      · next same =>
          rw [same, known] at before
          cases before
          exact ⟨_, rfl, owned, indexed, carried, rfl⟩
      · exact ⟨old, before, owned, indexed, carried, sent⟩
    · cases List.mem_singleton.mp last
      rw [if_pos rfl]
      exact ⟨_, rfl, rfl, rfl, rfl, rfl⟩
  answered other found reply present settled := by
    rw [Store.get_set] at present
    refine List.mem_append_left _ ?_
    split at present
    · cases present
      nomatch settled
    · exact traced.answered other found reply present settled

end Traced

section Settling

variable {s : Transport} {id : Nat} {request : Request}

theorem TracedOf.settleRequest (traced : TracedOf s) (slots : SlotsOf s)
    (known : s.requests.get id = some request) (running : request.stage ≠ .queued)
    (outcome : Except String RpcReply)
    (answered : ∀ reply, outcome = .ok reply →
      .answered id request.index request.message reply ∈ s.trace) :
    TracedOf (s.settleRequest id request outcome) := by
  rw [settleRequest_eq]
  refine Traced.move traced (fun other => ?_) fun other old new before after => ?_
  · rw [settleRequest_get known (slots.idle known running), Option.isSome_map]
  · rw [settleRequest_get known (slots.idle known running), before, Option.map_some,
      Option.some_inj] at after
    rw [← after]
    split
    · next same =>
        rw [same, known] at before
        cases before
        refine ⟨rfl, rfl, rfl, fun _ => rfl, fun reply settled => ?_⟩
        exact same ▸ answered reply (RequestStage.settled.inj settled)
    · split
      · next next =>
          refine ⟨rfl, rfl, rfl, fun sent => ?_, fun reply settled => nomatch settled⟩
          obtain ⟨waiter, there, queued⟩ := (slots.waiting other).mp (List.mem_of_mem_head? next)
          rw [before] at there
          cases there
          rw [late, queued] at sent
          nomatch sent
      · exact ⟨rfl, rfl, rfl, fun sent => sent, fun reply => traced.answered other old reply before⟩

end Settling

/-! ## Cluster checks -/

def Passes (probe : Probe) : Prop :=
  probe.stage = .checked (.ok ()) ∨ probe.stage = .settled (.ok ())

structure Checked (endpoints : Nat → Endpoint) (requests : Store Nat Request)
    (probes : Store Nat Probe) (executions : Store Nat Execution) (trace : List Traffic) :
    Prop where
  verified : ∀ index, (endpoints index).verified = true → Genesis trace index
  probe : ∀ id probe, probes.get id = some probe → ∃ request, requests.get id = some request ∧
    request.index = probe.index ∧ request.message = clusterCheck
  probing : ∀ id request index, requests.get id = some request → request.owner = .probe index →
    request.message = clusterCheck
  passed : ∀ id probe, probes.get id = some probe → Passes probe → Genesis trace probe.index
  joined : ∀ index id, (endpoints index).probe = some id →
    ∃ probe, probes.get id = some probe ∧ probe.index = index
  verifying : ∀ item execution index rest id, executions.get item = some execution →
    execution.stage = .verifying index rest id →
    ∃ probe, probes.get id = some probe ∧ probe.index = index
  chosen : ∀ item execution index rest, executions.get item = some execution →
    execution.stage = .verified index rest → Genesis trace index
  owned : ∀ id request item, requests.get id = some request → request.owner = .item item →
    Genesis trace request.index
  ordered : ∀ before id item index message after,
    trace = before ++ .handed id (.item item) index message :: after → Genesis before index

abbrev CheckedOf (s : Transport) : Prop :=
  Checked s.endpoints s.requests s.probes s.executions s.trace

section Checked

variable {endpoints : Nat → Endpoint} {requests : Store Nat Request} {probes : Store Nat Probe}
  {executions : Store Nat Execution} {trace : List Traffic}
  (checked : Checked endpoints requests probes executions trace)
include checked

theorem Checked.setEndpoint {index : Nat} {endpoint : Endpoint}
    (verified : endpoint.verified = true → (endpoints index).verified = true)
    (probe : ∀ id, endpoint.probe = some id → (endpoints index).probe = some id) :
    Checked (Function.update endpoints index endpoint) requests probes executions trace :=
  { checked with
    verified := fun other known => by
      by_cases same : other = index
      · rw [same, Function.update_self] at known
        exact same ▸ checked.verified index (verified known)
      · rw [Function.update_of_ne same] at known
        exact checked.verified other known
    joined := fun other id known => by
      by_cases same : other = index
      · rw [same, Function.update_self] at known
        exact same ▸ checked.joined index id (probe id known)
      · rw [Function.update_of_ne same] at known
        exact checked.joined other id known }

theorem Checked.setStage {item : Nat} {job : Job} {stage : ExecutionStage}
    (verifying : ∀ index rest id, stage = .verifying index rest id →
      ∃ probe, probes.get id = some probe ∧ probe.index = index)
    (chosen : ∀ index rest, stage = .verified index rest → Genesis trace index) :
    Checked endpoints requests probes (executions.set item { job with stage }) trace :=
  { checked with
    verifying := fun other execution index rest id known at_ => by
      rw [Store.get_set] at known
      split at known
      · cases known
        exact verifying index rest id at_
      · exact checked.verifying other execution index rest id known at_
    chosen := fun other execution index rest known at_ => by
      rw [Store.get_set] at known
      split at known
      · cases known
        exact chosen index rest at_
      · exact checked.chosen other execution index rest known at_ }

theorem Checked.move {later : Store Nat Request}
    (there : ∀ id, (later.get id).isSome = (requests.get id).isSome)
    (same : ∀ id old new, requests.get id = some old → later.get id = some new →
      new.owner = old.owner ∧ new.index = old.index ∧ new.message = old.message) :
    Checked endpoints later probes executions trace :=
  { checked with
    probe := fun id probe known => by
      obtain ⟨old, before, index, message⟩ := checked.probe id probe known
      obtain ⟨new, after⟩ := Option.isSome_iff_exists.mp ((there id).trans (by rw [before]; rfl))
      obtain ⟨-, index_eq, message_eq⟩ := same id old new before after
      exact ⟨new, after, index_eq.trans index, message_eq.trans message⟩
    probing := fun id new index after owner => by
      obtain ⟨old, before⟩ := Option.isSome_iff_exists.mp
        ((there id).symm.trans (by rw [after]; rfl))
      obtain ⟨owner_eq, -, message_eq⟩ := same id old new before after
      exact message_eq.trans (checked.probing id old index before (owner_eq.symm.trans owner))
    owned := fun id new item after owner => by
      obtain ⟨old, before⟩ := Option.isSome_iff_exists.mp
        ((there id).symm.trans (by rw [after]; rfl))
      obtain ⟨owner_eq, index_eq, -⟩ := same id old new before after
      exact index_eq ▸ checked.owned id old item before (owner_eq.symm.trans owner) }

theorem Checked.set {id : Nat} {old new : Request} (known : requests.get id = some old)
    (owner : new.owner = old.owner) (index : new.index = old.index)
    (message : new.message = old.message) :
    Checked endpoints (requests.set id new) probes executions trace := by
  refine checked.move (fun other => ?_) fun other before after present found => ?_
  · rw [Store.get_set]
    split
    · next same =>
        rw [same, known]
        rfl
    · rfl
  · rw [Store.get_set] at found
    split at found
    · next same =>
        cases found
        rw [same, known] at present
        cases present
        exact ⟨owner, index, message⟩
    · rw [present] at found
      cases found
      exact ⟨rfl, rfl, rfl⟩

theorem Checked.add {id : Nat} {new : Request} (fresh : requests.get id = none)
    (probing : ∀ index, new.owner = .probe index → new.message = clusterCheck)
    (genesis : ∀ item, new.owner = .item item → Genesis trace new.index) :
    Checked endpoints (requests.set id new) probes executions trace :=
  { checked with
    probe := fun other probe known => by
      obtain ⟨old, before, rest⟩ := checked.probe other probe known
      refine ⟨old, ?_, rest⟩
      rw [Store.get_set, if_neg, before]
      rintro rfl
      rw [fresh] at before
      nomatch before
    probing := fun other request index present owner => by
      rw [Store.get_set] at present
      split at present
      · cases present
        exact probing index owner
      · exact checked.probing other request index present owner
    owned := fun other request item present owner => by
      rw [Store.get_set] at present
      split at present
      · cases present
        exact genesis item owner
      · exact checked.owned other request item present owner }

theorem Checked.addProbe {id : Nat} {probe : Probe} {request : Request}
    (fresh : probes.get id = none) (present : requests.get id = some request)
    (index : request.index = probe.index) (message : request.message = clusterCheck)
    (waiting : probe.stage = .waiting) :
    Checked (Function.update endpoints probe.index
      { endpoints probe.index with probe := some id }) requests (probes.set id probe) executions
      trace := by
  have stays {other : Nat} {found : Probe} (known : probes.get other = some found) :
      (probes.set id probe).get other = some found := by
    rw [Store.get_set, if_neg, known]
    rintro rfl
    rw [fresh] at known
    nomatch known
  exact
    { checked with
      verified := fun other known => by
        by_cases same : other = probe.index
        · rw [same, Function.update_self] at known
          exact same ▸ checked.verified probe.index known
        · rw [Function.update_of_ne same] at known
          exact checked.verified other known
      probe := fun other found known => by
        rw [Store.get_set] at known
        split at known
        · next same =>
            cases known
            exact ⟨request, same ▸ present, index, message⟩
        · exact checked.probe other found known
      passed := fun other found known ended => by
        rw [Store.get_set] at known
        split at known
        · cases known
          rcases ended with ended | ended <;> rw [waiting] at ended <;> nomatch ended
        · exact checked.passed other found known ended
      joined := fun other joined known => by
        by_cases same : other = probe.index
        · rw [same, Function.update_self] at known
          cases Option.some_inj.mp known
          exact ⟨probe, Store.get_set_self _ _ _, same.symm⟩
        · rw [Function.update_of_ne same] at known
          obtain ⟨found, there, at_⟩ := checked.joined other joined known
          exact ⟨found, stays there, at_⟩
      verifying := fun item execution other rest joined known at_ => by
        obtain ⟨found, there, indexed⟩ := checked.verifying item execution other rest joined known at_
        exact ⟨found, stays there, indexed⟩ }

theorem Checked.setProbe {id : Nat} {probe : Probe} {stage : ProbeStage}
    (known : probes.get id = some probe)
    (genesis : Passes { probe with stage } → Genesis trace probe.index) :
    Checked endpoints requests (probes.set id { probe with stage }) executions trace := by
  have stays {other index : Nat}
      (there : ∃ found, probes.get other = some found ∧ found.index = index) :
      ∃ found, (probes.set id { probe with stage }).get other = some found ∧
        found.index = index := by
    obtain ⟨found, present, indexed⟩ := there
    rw [Store.get_set]
    split
    · next same =>
        rw [same, known] at present
        cases present
        exact ⟨_, rfl, indexed⟩
    · exact ⟨found, present, indexed⟩
  exact
    { checked with
      probe := fun other found present => by
        rw [Store.get_set] at present
        split at present
        · next same =>
            cases present
            exact same ▸ checked.probe id probe known
        · exact checked.probe other found present
      passed := fun other found present ended => by
        rw [Store.get_set] at present
        split at present
        · cases present
          exact genesis ended
        · exact checked.passed other found present ended
      joined := fun index other at_ => stays (checked.joined index other at_)
      verifying := fun item execution index rest other running at_ =>
        stays (checked.verifying item execution index rest other running at_) }

theorem Checked.extend (event : Traffic)
    (genesis : ∀ id item index message, event = .handed id (.item item) index message →
      Genesis trace index) :
    Checked endpoints requests probes executions (trace ++ [event]) where
  verified index known := (checked.verified index known).later _
  probe := checked.probe
  probing := checked.probing
  passed id probe known ended := (checked.passed id probe known ended).later _
  joined := checked.joined
  verifying := checked.verifying
  chosen item execution index rest known at_ :=
    (checked.chosen item execution index rest known at_).later _
  owned id request item present owner := (checked.owned id request item present owner).later _
  ordered before id item index message after split := by
    rcases List.eq_nil_or_concat after with rfl | ⟨rest, last, rfl⟩
    · obtain ⟨rfl, same⟩ := List.append_inj' split rfl
      exact genesis id item index message (List.cons.inj same).1
    · rw [List.concat_eq_append, ← List.cons_append, ← List.append_assoc] at split
      obtain ⟨earlier, -⟩ := List.append_inj' split rfl
      exact checked.ordered before id item index message rest earlier

end Checked

/-! ## Actions -/

/-- All that is known of the requests of a transport. -/
structure Safe (s : Transport) : Prop where
  slots : SlotsOf s
  traced : TracedOf s
  checked : CheckedOf s

theorem startRequest_get (s : Transport) (index : Nat) (message : RpcMessage) (signal : Option Nat)
    (owner : Owner) : ∃ request, (s.startRequest index message signal owner).requests.get s.nextId =
      some request ∧ request.index = index ∧ request.message = message ∧ request.owner = owner := by
  unfold Transport.startRequest
  dsimp only
  split
  · exact ⟨_, Store.get_set_self _ _ _, rfl, rfl, rfl⟩
  · exact ⟨_, Store.get_set_self _ _ _, rfl, rfl, rfl⟩

section Actions

variable {s t : Transport} (safe : Safe s)
include safe

theorem Safe.noProbe : s.probes.get s.nextId = none := by
  cases known : s.probes.get s.nextId with
  | none => rfl
  | some probe =>
      obtain ⟨request, there, -⟩ := safe.checked.probe _ probe known
      exact absurd (safe.slots.fresh _ request there) (lt_irrefl _)

theorem Safe.cool (index time : Nat) : Safe (s.cool index time) where
  slots := safe.slots
  traced := safe.traced
  checked := safe.checked.setEndpoint id fun _ => id

theorem Safe.clearCache : Safe s.clearCache := ⟨safe.slots, safe.traced, safe.checked⟩

theorem Safe.startRequest (index : Nat) (message : RpcMessage) (signal : Option Nat) (owner : Owner)
    (probing : ∀ index, owner = .probe index → message = clusterCheck)
    (genesis : ∀ item, owner = .item item → Genesis s.trace index) :
    Safe (s.startRequest index message signal owner) := by
  refine ⟨safe.slots.startRequest index message signal owner, ?_, ?_⟩
  · unfold Transport.startRequest
    dsimp only
    split
    · exact safe.traced.add safe.slots.unknown nofun
    · exact safe.traced.add safe.slots.unknown nofun
  · unfold Transport.startRequest
    dsimp only
    split
    · exact safe.checked.add safe.slots.unknown probing genesis
    · exact safe.checked.add safe.slots.unknown probing genesis

theorem Safe.startProbe (index : Nat) (signal : Option Nat) : Safe (s.startProbe index signal) := by
  have started := safe.startRequest index clusterCheck signal (.probe index)
    (fun _ _ => rfl) nofun
  obtain ⟨request, there, indexed, carries, -⟩ :=
    startRequest_get s index clusterCheck signal (.probe index)
  have probes : (s.startRequest index clusterCheck signal (.probe index)).probes = s.probes := by
    unfold Transport.startRequest
    dsimp only
    split <;> rfl
  have endpoints : (s.startRequest index clusterCheck signal (.probe index)).endpoints =
      s.endpoints := by
    unfold Transport.startRequest
    dsimp only
    split <;> rfl
  refine ⟨started.slots, started.traced, ?_⟩
  have added := started.checked.addProbe (probes ▸ safe.noProbe) there
    (show request.index = (⟨index, .waiting⟩ : Probe).index from indexed) carries rfl
  rw [probes, endpoints] at added
  unfold Transport.startProbe Transport.setEndpoint
  dsimp only
  rw [endpoints]
  exact added

theorem Safe.choose {index : Nat} {rest : List Nat} (item : Nat) (job : Job)
    (genesis : Genesis s.trace index) : Safe (s.setStage item job (.verified index rest)) where
  slots := safe.slots
  traced := safe.traced
  checked := safe.checked.setStage nofun fun other rest same => by
    cases same
    exact genesis

theorem Safe.await {index probe : Nat} {rest : List Nat} (item : Nat) (job : Job)
    (there : ∃ found, s.probes.get probe = some found ∧ found.index = index) :
    Safe (s.setStage item job (.verifying index rest probe)) where
  slots := safe.slots
  traced := safe.traced
  checked := safe.checked.setStage (fun other rest id same => by
    cases same
    exact there) nofun

theorem Safe.finish (item : Nat) (job : Job) (outcome : Except String Answer) :
    Safe (s.finish item job outcome) where
  slots := safe.slots
  traced := safe.traced
  checked := safe.checked.setStage nofun nofun

theorem Safe.tryEndpoints (item : Nat) (job : Job) (list : List Nat) :
    Safe (s.tryEndpoints item job list) :=
  tryEndpoints_rule (I := Safe) (fun _ index time safe => safe.cool index time)
    (fun _ cause safe => safe.finish item job (.error cause))
    (fun _ _ _ _ safe known => safe.choose item job (safe.checked.verified _ known))
    (fun _ _ _ _ _ safe known => safe.await item job (safe.checked.joined _ _ known))
    (fun _ index _ _ safe => (safe.startProbe index job.signal).await item job
      ⟨⟨index, .waiting⟩, Store.get_set_self _ _ _, rfl⟩) safe

theorem Safe.execute (item : Nat) (job : Job) :
    Safe (Transport.execute { s with nextId := s.nextId + 1 } item job) := by
  have allocated : Safe { s with nextId := s.nextId + 1 } :=
    ⟨Slots.allocate safe.slots, safe.traced, safe.checked⟩
  unfold Transport.execute
  dsimp only
  split
  · exact allocated.tryEndpoints item job _
  · exact allocated.clearCache.tryEndpoints item job _

theorem Safe.single (message : RpcMessage) (signal : Option Nat) :
    Safe (s.single message signal) := by
  have issued := single_cases s message signal
  generalize s.single message signal = t at issued ⊢
  cases issued with
  | cached saved read found valid => exact ⟨Slots.allocate safe.slots, safe.traced, safe.checked⟩
  | joined work read found => exact ⟨Slots.allocate safe.slots, safe.traced, safe.checked⟩
  | shared read absent =>
      have executed := safe.execute s.nextId ⟨message, signal⟩
      exact ⟨executed.slots, executed.traced, executed.checked⟩
  | direct =>
      have executed := safe.execute s.nextId ⟨message, signal⟩
      exact ⟨executed.slots, executed.traced, executed.checked⟩

theorem Safe.resumed {item : Nat} {execution : Execution}
    (known : s.executions.get item = some execution) (resumed : Resumed s item execution t) :
    Safe t := by
  cases resumed with
  | requested index rest ready =>
      have genesis : Genesis s.trace index := by
        cases stage : execution.stage with
        | verified chosen left =>
            rw [stage] at ready
            cases ready
            exact safe.checked.chosen item execution _ _ known stage
        | verifying chosen left id =>
            rw [stage] at ready
            cases ready with
            | probed probe check there passed =>
                obtain ⟨found, present, indexed⟩ :=
                  safe.checked.verifying item execution _ _ _ known stage
                rw [there] at present
                cases present
                exact indexed ▸ safe.checked.passed id check there (.inr passed)
        | requesting chosen left id =>
            rw [stage] at ready
            nomatch ready
        | done outcome settledAt =>
            rw [stage] at ready
            nomatch ready
      have started := safe.startRequest index execution.message execution.signal (.item item)
        nofun fun _ _ => genesis
      exact ⟨started.slots, started.traced, started.checked.setStage nofun nofun⟩
  | unverified index rest probe cause stage => exact safe.finish item _ _
  | passedOver index rest probe stage => exact (safe.cool _ _).tryEndpoints item _ rest
  | settled index rest id request outcome stage present settled =>
      unfold Transport.requestSettled
      cases outcome with
      | ok reply =>
          have preferring : Safe { s with preferred := index } :=
            ⟨safe.slots, safe.traced, safe.checked⟩
          dsimp only
          split
          · exact preferring.finish item _ _
          · exact preferring.clearCache.finish item _ _
      | error cause =>
          dsimp only
          split
          · exact safe.finish item _ _
          · split
            · exact (safe.cool _ _).tryEndpoints item _ rest
            · exact (safe.cool _ _).finish item _ _

theorem Safe.setRequest {id : Nat} {old new : Request} (known : s.requests.get id = some old)
    (held : holds old = true) (after : holds new = true) (owner : new.owner = old.owner)
    (index : new.index = old.index) (message : new.message = old.message)
    (stays : late old = true → late new = true) : Safe (s.setRequest id new) := by
  have slots := safe.slots.set known held (not_queued after)
  rw [after] at slots
  refine ⟨slots, safe.traced.set known owner index message stays fun reply ended => ?_,
    safe.checked.set known owner index message⟩
  rw [holds, ended] at after
  cases after

theorem Safe.settleRequest {id : Nat} {request : Request} (known : s.requests.get id = some request)
    (held : holds request = true) (outcome : Except String RpcReply)
    (answered : ∀ reply, outcome = .ok reply →
      .answered id request.index request.message reply ∈ s.trace) :
    Safe (s.settleRequest id request outcome) := by
  refine ⟨safe.slots.settleRequest known held outcome,
    safe.traced.settleRequest safe.slots known (not_queued held) outcome answered, ?_⟩
  rw [settleRequest_eq]
  refine Checked.move safe.checked (fun other => ?_) fun other old new before after => ?_
  · rw [settleRequest_get known (safe.slots.idle known (not_queued held)), Option.isSome_map]
  · obtain ⟨found, present, same⟩ :=
      settleRequest_same safe.slots known (not_queued held) outcome after
    rw [before] at present
    cases present
    rw [same]
    exact ⟨rfl, rfl, rfl⟩

theorem Safe.answer {id : Nat} (index : Nat) (message : RpcMessage) (reply : RpcReply) :
    Safe { s with trace := s.trace ++ [.answered id index message reply] } where
  slots := safe.slots
  traced := safe.traced.answer id index message reply
  checked := safe.checked.extend _ nofun

theorem Safe.progress {id : Nat} {request : Request} (known : s.requests.get id = some request)
    (progressed : Progressed s id request t) : Safe t := by
  have early {stage : RequestStage} (now : request.stage = stage) (before : stage ≠ .sent)
      (open_ : ∀ outcome, stage ≠ .settled outcome) {new : Request} :
      late request = true → late new = true := by
    intro sent
    rw [late, now] at sent
    cases stage with
    | sent => exact absurd rfl before
    | settled outcome => exact absurd rfl (open_ outcome)
    | queued | admitted | pacing | paced => cases sent
  cases progressed with
  | entered stage =>
      have moved : Safe (s.setRequest id { request with stage := .pacing }) :=
        safe.setRequest known (by rw [holds, stage]) rfl rfl rfl rfl (early stage (by simp) (by simp))
      exact ⟨moved.slots, moved.traced, moved.checked⟩
  | turned rest stage =>
      have moved : Safe (s.setRequest id { request with stage := .paced }) :=
        safe.setRequest known (by rw [holds, stage]) rfl rfl rfl rfl (early stage (by simp) (by simp))
      exact ⟨moved.slots, moved.traced, moved.checked⟩
  | refused cause stage => exact safe.settleRequest known (by rw [holds, stage]) _ (by simp)
  | handed stage =>
      have held : holds request = true := by rw [holds, stage]
      have sent : ({ request with stage := .sent, handedAt := some s.ticks } : Request).stage ≠
        .queued := by simp
      refine ⟨safe.slots.set known held sent, safe.traced.hand known stage,
        (safe.checked.extend _ fun other item index message same => ?_).set known rfl rfl rfl⟩
      obtain ⟨-, owner, rfl, -⟩ := Traffic.handed.inj same
      exact safe.checked.owned id request item known owner
  | failed cause stage => exact safe.settleRequest known (by rw [holds, stage]) _ (by simp)
  | throttled time stage =>
      exact (safe.cool _ _).settleRequest known (by rw [holds, stage]) _ (by simp)
  | busied reply time stage =>
      exact ((safe.answer _ _ reply).cool _ _).settleRequest known (by rw [holds, stage]) _ (by simp)
  | answered reply outcome stage faithful =>
      refine (safe.answer _ _ reply).settleRequest known (by rw [holds, stage]) _ ?_
      rintro given rfl
      rw [faithful given rfl]
      exact List.mem_append_right _ List.mem_cons_self

theorem Safe.probed {id : Nat} {probe : Probe} (known : s.probes.get id = some probe)
    (probed : Probed s id probe t) : Safe t := by
  cases probed with
  | failed cause stage =>
      exact ⟨safe.slots, safe.traced, safe.checked.setProbe known (by simp [Passes])⟩
  | wrong cause stage =>
      have marked : CheckedOf (s.setEndpoint probe.index
          { s.endpoints probe.index with wrongCluster := true }) :=
        safe.checked.setEndpoint (fun known => known) fun _ known => known
      exact ⟨safe.slots, safe.traced, marked.setProbe known (by simp [Passes])⟩
  | passed request reply stage there settled fine devnet =>
      obtain ⟨found, present, indexed, carries⟩ := safe.checked.probe id probe known
      rw [there] at present
      cases present
      have answered := safe.traced.answered id request reply there settled
      rw [indexed, carries] at answered
      have genesis : Genesis s.trace probe.index := ⟨id, reply, answered, fine, devnet⟩
      have verified := { safe.checked with
        verified := fun index (known : (Function.update s.endpoints probe.index
            { s.endpoints probe.index with verified := true } index).verified = true) => by
          by_cases same : index = probe.index
          · exact same ▸ genesis
          · rw [Function.update_of_ne same] at known
            exact safe.checked.verified index known
        joined := fun index joined (known : (Function.update s.endpoints probe.index
            { s.endpoints probe.index with verified := true } index).probe = some joined) => by
          refine safe.checked.joined index joined ?_
          by_cases same : index = probe.index
          · rw [same, Function.update_self] at known
            exact same ▸ known
          · rwa [Function.update_of_ne same] at known : Checked _ _ _ _ _ }
      exact ⟨safe.slots, safe.traced, verified.setProbe known fun _ => genesis⟩
  | cleared outcome stage =>
      have freed : CheckedOf (s.setEndpoint probe.index
          { s.endpoints probe.index with probe := none }) :=
        safe.checked.setEndpoint (fun known => known) nofun
      refine ⟨safe.slots, safe.traced, freed.setProbe known fun ended => ?_⟩
      refine safe.checked.passed id probe known (.inl ?_)
      rcases ended with ended | ended
      · nomatch ended
      · rw [stage, ProbeStage.settled.inj ended]

end Actions

theorem Safe.act {s t : Transport} {action : Transport.Action} (safe : Safe s)
    (acted : s.act action = some t) : Safe t := by
  cases action with
  | issue messages signal =>
      cases acted
      exact issue_rule (I := Safe) (fun _ message signal safe => safe.single message signal) safe
        messages signal
  | resume item =>
      obtain ⟨execution, known, resumed⟩ := resume_cases acted
      exact safe.resumed known resumed
  | storeWork id =>
      obtain ⟨work, -, shared⟩ := storeWork_cases acted
      cases shared <;> exact ⟨safe.slots, safe.traced, safe.checked⟩
  | forgetWork id =>
      obtain ⟨work, -, shared⟩ := forgetWork_cases acted
      cases shared <;> exact ⟨safe.slots, safe.traced, safe.checked⟩
  | enterPacing id =>
      obtain ⟨request, known, progressed⟩ := enterPacing_cases acted
      exact safe.progress known progressed
  | takeTurn =>
      obtain ⟨id, request, known, progressed⟩ := takeTurn_cases acted
      exact safe.progress known progressed
  | launch id =>
      obtain ⟨request, known, progressed⟩ := launch_cases acted
      exact safe.progress known progressed
  | respond id upstream =>
      obtain ⟨request, known, progressed⟩ := respond_cases acted
      exact safe.progress known progressed
  | checkProbe id =>
      obtain ⟨probe, known, probed⟩ := checkProbe_cases acted
      exact safe.probed known probed
  | clearProbe id =>
      obtain ⟨probe, known, probed⟩ := clearProbe_cases acted
      exact safe.probed known probed
  | abort signal =>
      cases acted
      exact ⟨safe.slots, safe.traced, safe.checked⟩
  | wait ms =>
      cases acted
      exact ⟨safe.slots, safe.traced, safe.checked⟩

end Transport

end Tidebook.Proof
