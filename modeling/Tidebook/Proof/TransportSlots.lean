import Tidebook.Proof.TransportMoves

/-! # Slots of the RPC transport

The slots in use are those of the requests that hold one, whatever happens to the requests.
-/

namespace Tidebook.Proof
open Library Client

namespace Transport

def holds (request : Request) : Bool :=
  match request.stage with
  | .admitted | .pacing | .paced | .sent => true
  | .queued | .settled _ => false

def holders (requests : Store Nat Request) : Nat :=
  requests.total fun _ request => if holds request then 1 else 0

/-- `spare` slots were given back and are not passed on yet. -/
structure Slots (spare : Nat) (requests : Store Nat Request) (waiters : List Nat)
    (active nextId : Nat) : Prop where
  count : active = holders requests + spare
  limit : active ≤ 3
  full : waiters ≠ [] → active = 3
  distinct : waiters.Nodup
  waiting : ∀ id, id ∈ waiters ↔ ∃ request, requests.get id = some request ∧ request.stage = .queued
  fresh : ∀ id request, requests.get id = some request → id < nextId

abbrev SlotsOf (s : Transport) : Prop := Slots 0 s.requests s.waiters s.active s.nextId

theorem Slots.allocate {spare : Nat} {requests : Store Nat Request} {waiters : List Nat}
    {active nextId : Nat} (slots : Slots spare requests waiters active nextId) :
    Slots spare requests waiters active (nextId + 1) where
  count := slots.count
  limit := slots.limit
  full := slots.full
  distinct := slots.distinct
  waiting := slots.waiting
  fresh id request known := (slots.fresh id request known).trans (Nat.lt_succ_self _)

section Requests

variable {s : Transport} (slots : SlotsOf s)
include slots

theorem SlotsOf.idle {id : Nat} {request : Request} (known : s.requests.get id = some request)
    (running : request.stage ≠ .queued) : id ∉ s.waiters := by
  intro waiting
  obtain ⟨found, there, queued⟩ := (slots.waiting id).mp waiting
  rw [known] at there
  cases there
  exact running queued

theorem SlotsOf.unknown : s.requests.get s.nextId = none := by
  cases known : s.requests.get s.nextId with
  | none => rfl
  | some request => exact absurd (slots.fresh _ request known) (lt_irrefl _)

theorem SlotsOf.startRequest (index : Nat) (message : RpcMessage) (signal : Option Nat)
    (owner : Owner) : SlotsOf (s.startRequest index message signal owner) := by
  have unknown := slots.unknown
  have later : ∀ id request, s.requests.get id = some request → id ≠ s.nextId :=
    fun id request known => (slots.fresh id request known).ne
  have fresh (new : Request) : ∀ id request, (s.requests.set s.nextId new).get id = some request →
      id < s.nextId + 1 := by
    intro id request known
    rw [Store.get_set] at known
    split at known
    · next same => exact same ▸ Nat.lt_succ_self _
    · exact (slots.fresh id request known).trans (Nat.lt_succ_self _)
  unfold Transport.startRequest
  dsimp only
  split
  · next room =>
      have empty : s.waiters = [] := by
        by_contra waiting
        exact absurd (slots.full waiting) room.ne
      refine ⟨?_, room, fun waiting => absurd empty waiting, slots.distinct, fun id => ?_, fresh _⟩
      · rw [holders, Store.total_set_new unknown, slots.count]
        rfl
      · rw [slots.waiting, Store.get_set]
        split
        · next same =>
            rw [same, unknown]
            simp
        · rfl
  · next busy =>
      have three : s.active = 3 := le_antisymm slots.limit (not_lt.mp busy)
      refine ⟨?_, slots.limit, fun _ => three, ?_, fun id => ?_, fresh _⟩
      · rw [holders, Store.total_set_new unknown, slots.count]
        rfl
      · refine List.nodup_append.mpr ⟨slots.distinct, List.nodup_singleton _, ?_⟩
        rintro id member other single rfl
        obtain ⟨request, known, -⟩ := (slots.waiting id).mp member
        exact later id request known (List.mem_singleton.mp single)
      · rw [List.mem_append, List.mem_singleton, slots.waiting, Store.get_set]
        by_cases same : id = s.nextId
        · simp [same]
        · simp [same]

end Requests

theorem not_queued {request : Request} (held : holds request = true) : request.stage ≠ .queued := by
  intro queued
  rw [holds, queued] at held
  nomatch held

theorem Slots.set {requests : Store Nat Request} {waiters : List Nat} {active nextId id : Nat}
    {request new : Request} (slots : Slots 0 requests waiters active nextId)
    (known : requests.get id = some request) (held : holds request = true)
    (after : new.stage ≠ .queued) :
    Slots (if holds new then 0 else 1) (requests.set id new) waiters active nextId where
  count := by
    have total := Store.total_set_old (f := fun _ request => if holds request then 1 else 0) known
      new
    have count := slots.count
    unfold holders at count ⊢
    split <;> simp_all
  limit := slots.limit
  full := slots.full
  distinct := slots.distinct
  waiting other := by
    rw [slots.waiting, Store.get_set]
    split
    · next same =>
        rw [same, known]
        simp [not_queued held, after]
    · rfl
  fresh other found present := by
    rw [Store.get_set] at present
    split at present
    · next same => exact same ▸ slots.fresh id request known
    · exact slots.fresh other found present

theorem SlotsOf.release {s : Transport}
    (slots : Slots 1 s.requests s.waiters s.active s.nextId) : SlotsOf s.release := by
  unfold Transport.release
  split
  · next next rest queue =>
      obtain ⟨waiter, there, queued⟩ := (slots.waiting next).mp (queue ▸ List.mem_cons_self)
      have distinct := slots.distinct
      rw [queue] at distinct
      obtain ⟨once, distinct⟩ := List.nodup_cons.mp distinct
      have quiet : holds waiter = false := by rw [holds, queued]
      have total := Store.total_set_old (f := fun _ request => if holds request then 1 else 0) there
        { waiter with stage := .admitted }
      rw [there]
      refine ⟨?_, slots.limit, fun _ => slots.full (by simp [queue]), distinct, fun other => ?_,
        fun other found present => ?_⟩
      · simp only [quiet, Bool.false_eq_true, if_false, Nat.add_zero] at total
        exact slots.count.trans total.symm
      · change other ∈ rest ↔ ∃ found,
          (s.requests.set next { waiter with stage := .admitted }).get other = some found ∧ _
        rw [Store.get_set]
        split
        · next same => simp [same, once]
        · next different =>
            rw [← slots.waiting, queue]
            simp [different]
      · change (s.requests.set next { waiter with stage := .admitted }).get other = some found
          at present
        rw [Store.get_set] at present
        split at present
        · next same => exact same ▸ slots.fresh next waiter there
        · exact slots.fresh other found present
  · next empty =>
      refine ⟨?_, (Nat.sub_le _ _).trans slots.limit, fun some => absurd empty some, slots.distinct,
        slots.waiting, slots.fresh⟩
      change s.active - 1 = _
      rw [slots.count]
      rfl

theorem SlotsOf.settleRequest {s : Transport} {id : Nat} {request : Request} (slots : SlotsOf s)
    (known : s.requests.get id = some request) (held : holds request = true)
    (outcome : Except String RpcReply) : SlotsOf (s.settleRequest id request outcome) := by
  have after : ({ request with stage := .settled outcome } : Request).stage ≠ .queued := nofun
  exact SlotsOf.release (slots.set known held after)

/-- Settling changes the requests and the slots, and nothing else. -/
theorem settleRequest_eq (s : Transport) (id : Nat) (request : Request)
    (outcome : Except String RpcReply) :
    s.settleRequest id request outcome =
      { s with
        requests := (s.settleRequest id request outcome).requests
        waiters := (s.settleRequest id request outcome).waiters
        active := (s.settleRequest id request outcome).active } := by
  unfold Transport.settleRequest Transport.setRequest Transport.release
  dsimp only
  split
  · split <;> rfl
  · rfl

theorem settleRequest_get {s : Transport} {id : Nat} {request : Request}
    (known : s.requests.get id = some request) (idle : id ∉ s.waiters)
    (outcome : Except String RpcReply) (other : Nat) :
    (s.settleRequest id request outcome).requests.get other =
      (s.requests.get other).map fun old =>
        if other = id then { old with stage := .settled outcome }
        else if s.waiters.head? = some other then { old with stage := .admitted } else old := by
  have settled : (s.requests.set id { request with stage := .settled outcome }).get other =
      (s.requests.get other).map fun old =>
        if other = id then { old with stage := .settled outcome } else old := by
    rw [Store.get_set]
    split
    · next same =>
        rw [same, known]
        rfl
    · simp
  unfold Transport.settleRequest Transport.setRequest Transport.release
  dsimp only
  cases queue : s.waiters with
  | nil =>
      change (s.requests.set id _).get other = _
      rw [settled]
      simp
  | cons next rest =>
      have different : next ≠ id := by
        rintro rfl
        exact idle (queue ▸ List.mem_cons_self)
      dsimp only
      cases there : (s.requests.set id { request with stage := .settled outcome }).get next with
      | none =>
          change (s.requests.set id _).get other = _
          rw [settled]
          rw [Store.get_set, if_neg different] at there
          by_cases same : other = id
          · simp [same]
          · by_cases head : next = other
            · rw [← head, there]
              rfl
            · simp [same, head]
      | some waiter =>
          change ((s.requests.set id _).set next { waiter with stage := .admitted }).get other = _
          rw [Store.get_set, settled]
          rw [Store.get_set, if_neg different] at there
          by_cases head : other = next
          · rw [head, there]
            simp [different]
          · rw [if_neg head]
            have later : next ≠ other := fun same => head same.symm
            simp [later]

/-! ## Actions -/

theorem SlotsOf.startProbe {s : Transport} (slots : SlotsOf s) (index : Nat) (signal : Option Nat) :
    SlotsOf (s.startProbe index signal) :=
  slots.startRequest index clusterCheck signal (.probe index)

theorem SlotsOf.tryEndpoints {s : Transport} (slots : SlotsOf s) (item : Nat) (job : Job)
    (list : List Nat) : SlotsOf (s.tryEndpoints item job list) :=
  tryEndpoints_rule (fun _ _ _ slots => slots) (fun _ _ slots => slots)
    (fun _ _ _ _ slots _ => slots) (fun _ _ _ _ _ slots _ => slots)
    (fun _ index _ _ slots => SlotsOf.startProbe slots index job.signal) slots

theorem SlotsOf.execute {s : Transport} (slots : SlotsOf s) (item : Nat) (job : Job) :
    SlotsOf (s.execute item job) := by
  unfold Transport.execute
  refine SlotsOf.tryEndpoints ?_ item job _
  split
  · exact slots
  · exact slots

theorem SlotsOf.single {s : Transport} (slots : SlotsOf s) (message : RpcMessage)
    (signal : Option Nat) : SlotsOf (s.single message signal) := by
  have allocated : SlotsOf { s with nextId := s.nextId + 1 } := Slots.allocate slots
  have issued := single_cases s message signal
  generalize s.single message signal = t at issued ⊢
  cases issued with
  | cached saved read found valid => exact allocated
  | joined work read found => exact allocated
  | shared read absent => exact allocated.execute s.nextId ⟨message, signal⟩
  | direct => exact allocated.execute s.nextId ⟨message, signal⟩

end Transport

end Tidebook.Proof
