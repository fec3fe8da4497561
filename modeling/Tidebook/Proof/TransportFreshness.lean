import Tidebook.Proof.Transport

/-! # Reads behind a write

A read that is issued behind a write that was handed to an upstream is answered by a later request,
as long as no such write fails while replies to the reads before it can still be shared.
-/

namespace Tidebook.Proof
open Library Client

namespace Transport

section Stores

variable (executions : Store Nat Execution) (requests : Store Nat Request)

def Handed (item : Nat) : Prop :=
  ∃ id request, requests.get id = some request ∧ request.owner = .item item ∧
    request.handedAt ≠ none

def WriteSettled (item settledAt : Nat) : Prop :=
  ∃ execution outcome, executions.get item = some execution ∧ isRead execution.message = false ∧
    execution.stage = .done outcome settledAt ∧ Handed requests item

/-- The execution has, or may still get, the reply to a request that was handed over then. -/
def Awaits (item sentAt : Nat) : Prop :=
  ∃ execution, executions.get item = some execution ∧
    ((∃ index rest id request, execution.stage = .requesting index rest id ∧
      requests.get id = some request ∧ request.handedAt = some sentAt ∧
      ∀ cause, request.stage ≠ .settled (.error cause)) ∨
    ∃ answer settledAt, execution.stage = .done (.ok answer) settledAt ∧ answer.sentAt = sentAt)

/-- Every write that settled in front of `bound` did so before `sentAt`. -/
def Behind (bound sentAt : Nat) : Prop :=
  ∀ write settledAt, WriteSettled executions requests write settledAt → settledAt < bound →
    settledAt < sentAt

end Stores

/-- The replies that the source of an item can still give. -/
def Gives (executions : Store Nat Execution) (requests : Store Nat Request) (item : Nat) :
    Source → Nat → Prop
  | .cached answer, sentAt => answer.sentAt = sentAt
  | .work work, sentAt => Awaits executions requests work sentAt
  | .execution, sentAt => Awaits executions requests item sentAt

/-- A request that is under way or answered has been handed over. -/
def Stamped (request : Request) : Prop :=
  request.stage = .sent ∨ (∃ reply, request.stage = .settled (.ok reply)) →
    request.handedAt ≠ none

structure Fresh (executions : Store Nat Execution) (requests : Store Nat Request)
    (items : Store Nat Item) (works : Store Nat Work) (pending : List (CacheKey × Nat))
    (cache : List (CacheKey × Saved)) (generation now ticks : Nat) : Prop where
  requested : ∀ item execution index rest id, executions.get item = some execution →
    execution.stage = .requesting index rest id →
    ∃ request, requests.get id = some request ∧ request.owner = .item item
  stamped : ∀ id request, requests.get id = some request → Stamped request
  unsettled : ∀ id request item, requests.get id = some request → request.owner = .item item →
    isSettled request = false → ∃ execution index rest, executions.get item = some execution ∧
      execution.stage = .requesting index rest id
  settled : ∀ write settledAt, WriteSettled executions requests write settledAt → settledAt < ticks
  issued : ∀ item entry, items.get item = some entry → entry.issuedAt ≤ ticks
  given : ∀ item entry sentAt, items.get item = some entry →
    Gives executions requests item entry.source sentAt →
    Behind executions requests entry.issuedAt sentAt
  cachedKeys : ∀ entry ∈ cache, entry.1.generation ≤ generation
  cached : ∀ entry ∈ cache, entry.1.generation = generation → now < entry.2.validUntil →
    Behind executions requests ticks entry.2.answer.sentAt
  pendingKeys : ∀ entry ∈ pending, entry.1.generation ≤ generation
  pendingOnce : (pending.map Prod.fst).Nodup
  pended : ∀ entry ∈ pending, entry.1.generation = generation → ∀ sentAt,
    Awaits executions requests entry.2 sentAt → Behind executions requests ticks sentAt
  running : ∀ id work, works.get id = some work → (∀ outcome, work.stage ≠ .settled outcome) →
    (work.key, id) ∈ pending
  finished : ∀ id work outcome, works.get id = some work →
    work.stage = .stored outcome ∨ work.stage = .settled outcome →
    ∃ execution settledAt, executions.get id = some execution ∧
      execution.stage = .done outcome settledAt

abbrev FreshAt (ticks : Nat) (s : Transport) : Prop :=
  Fresh s.executions s.requests s.items s.works s.pending s.cache s.generation s.now ticks

/-! ## What stays -/

theorem behind_now {executions : Store Nat Execution} {requests : Store Nat Request}
    {bound ticks : Nat} (past : bound ≤ ticks) : Behind executions requests bound ticks :=
  fun _ _ _ before => before.trans_le past

/-- No write has settled since but now, and only now something was sent. -/
structure Quieter (executions later : Store Nat Execution) (requests newer : Store Nat Request)
    (ticks : Nat) : Prop where
  settled : ∀ write settledAt, WriteSettled later newer write settledAt →
    WriteSettled executions requests write settledAt ∨ settledAt = ticks
  awaits : ∀ item sentAt, Awaits later newer item sentAt →
    Awaits executions requests item sentAt ∨ sentAt = ticks

section Quieter

variable {executions later : Store Nat Execution} {requests newer : Store Nat Request}
  {ticks : Nat} (quieter : Quieter executions later requests newer ticks)
include quieter

theorem Quieter.behind {bound sentAt : Nat} (past : bound ≤ ticks)
    (behind : Behind executions requests bound sentAt) : Behind later newer bound sentAt := by
  intro write settledAt settled before
  rcases quieter.settled write settledAt settled with old | rfl
  · exact behind write settledAt old before
  · omega

variable {items : Store Nat Item} {works : Store Nat Work} {pending : List (CacheKey × Nat)}
  {cache : List (CacheKey × Saved)} {generation now : Nat}
  (fresh : Fresh executions requests items works pending cache generation now ticks)
include fresh

theorem Quieter.given {item sentAt : Nat} {entry : Item} (known : items.get item = some entry)
    (gives : Gives later newer item entry.source sentAt) :
    Behind later newer entry.issuedAt sentAt := by
  have past := fresh.issued item entry known
  have given := fresh.given item entry sentAt known
  generalize entry.source = source at gives given
  cases source with
  | cached answer => exact quieter.behind past (given gives)
  | work work =>
      rcases quieter.awaits work sentAt gives with before | rfl
      · exact quieter.behind past (given before)
      · exact behind_now past
  | execution =>
      rcases quieter.awaits item sentAt gives with before | rfl
      · exact quieter.behind past (given before)
      · exact behind_now past

theorem Quieter.pended {entry : CacheKey × Nat} (member : entry ∈ pending)
    (current : entry.1.generation = generation) {sentAt : Nat}
    (awaits : Awaits later newer entry.2 sentAt) : Behind later newer ticks sentAt := by
  rcases quieter.awaits entry.2 sentAt awaits with before | rfl
  · exact quieter.behind le_rfl (fresh.pended entry member current sentAt before)
  · exact behind_now le_rfl

variable
    (requested : ∀ item execution index rest id, later.get item = some execution →
      execution.stage = .requesting index rest id →
      ∃ request, newer.get id = some request ∧ request.owner = .item item)
    (stamped : ∀ id request, newer.get id = some request → Stamped request)
    (unsettled : ∀ id request item, newer.get id = some request → request.owner = .item item →
      isSettled request = false → ∃ execution index rest, later.get item = some execution ∧
        execution.stage = .requesting index rest id)
    (finished : ∀ item execution outcome settledAt, executions.get item = some execution →
      execution.stage = .done outcome settledAt → later.get item = some execution)
include requested stamped unsettled finished

theorem Quieter.keeps (same : ∀ write settledAt, WriteSettled later newer write settledAt →
      WriteSettled executions requests write settledAt) :
    Fresh later newer items works pending cache generation now ticks where
  requested := requested
  stamped := stamped
  unsettled := unsettled
  settled write settledAt settled := fresh.settled write settledAt (same write settledAt settled)
  issued := fresh.issued
  given item entry sentAt known gives := quieter.given fresh known gives
  cachedKeys := fresh.cachedKeys
  cached entry member current valid :=
    quieter.behind le_rfl (fresh.cached entry member current valid)
  pendingKeys := fresh.pendingKeys
  pendingOnce := fresh.pendingOnce
  pended entry member current sentAt awaits := quieter.pended fresh member current awaits
  running := fresh.running
  finished id work outcome known stage := by
    obtain ⟨execution, settledAt, found, done⟩ := fresh.finished id work outcome known stage
    exact ⟨execution, settledAt, finished id execution outcome settledAt found done, done⟩

theorem Quieter.settles (none_cached : ∀ entry ∈ cache, entry.1.generation = generation →
      ¬now < entry.2.validUntil)
    (none_pended : ∀ entry ∈ pending, entry.1.generation = generation →
      ∀ sentAt, ¬Awaits later newer entry.2 sentAt) :
    Fresh later newer items works pending cache generation now (ticks + 1) where
  requested := requested
  stamped := stamped
  unsettled := unsettled
  settled write settledAt settled := by
    rcases quieter.settled write settledAt settled with old | rfl
    · exact (fresh.settled write settledAt old).trans (Nat.lt_succ_self _)
    · exact Nat.lt_succ_self _
  issued item entry known := (fresh.issued item entry known).trans (Nat.le_succ _)
  given item entry sentAt known gives := quieter.given fresh known gives
  cachedKeys := fresh.cachedKeys
  cached entry member current valid := absurd valid (none_cached entry member current)
  pendingKeys := fresh.pendingKeys
  pendingOnce := fresh.pendingOnce
  pended entry member current sentAt awaits :=
    absurd awaits (none_pended entry member current sentAt)
  running := fresh.running
  finished id work outcome known stage := by
    obtain ⟨execution, settledAt, found, done⟩ := fresh.finished id work outcome known stage
    exact ⟨execution, settledAt, finished id execution outcome settledAt found done, done⟩

end Quieter

section Fresh

variable {executions : Store Nat Execution} {requests : Store Nat Request} {items : Store Nat Item}
  {works : Store Nat Work} {pending : List (CacheKey × Nat)} {cache : List (CacheKey × Saved)}
  {generation now ticks : Nat}
  (fresh : Fresh executions requests items works pending cache generation now ticks)
include fresh

theorem Fresh.behind {bound sentAt : Nat} (behind : Behind executions requests ticks sentAt) :
    Behind executions requests bound sentAt :=
  fun write settledAt settled _ => behind write settledAt settled (fresh.settled write settledAt
    settled)

theorem Fresh.tick :
    Fresh executions requests items works pending cache generation now (ticks + 1) :=
  { fresh with
    settled := fun write settledAt settled => (fresh.settled write settledAt settled).trans
      (Nat.lt_succ_self _)
    issued := fun item entry known => (fresh.issued item entry known).trans (Nat.le_succ _)
    cached := fun entry member current valid =>
      fresh.behind (fresh.cached entry member current valid)
    pended := fun entry member current sentAt awaits =>
      fresh.behind (fresh.pended entry member current sentAt awaits) }

theorem Fresh.wait (ms : Nat) :
    Fresh executions requests items works pending cache generation (now + ms) ticks :=
  { fresh with
    cached := fun entry member current valid =>
      fresh.cached entry member current ((Nat.le_add_right now ms).trans_lt valid) }

theorem Fresh.clear :
    Fresh executions requests items works pending [] (generation + 1) now ticks :=
  { fresh with
    cachedKeys := fun _ member => absurd member List.not_mem_nil
    cached := fun _ member => absurd member List.not_mem_nil
    pendingKeys := fun entry member => (fresh.pendingKeys entry member).trans (Nat.le_succ _)
    pended := fun entry member current => by
      have bound := fresh.pendingKeys entry member
      omega }

theorem Fresh.addItem {id : Nat} {entry : Item} (issued : entry.issuedAt = ticks)
    (given : ∀ sentAt, Gives executions requests id entry.source sentAt →
      Behind executions requests ticks sentAt) :
    Fresh executions requests (items.set id entry) works pending cache generation now ticks :=
  { fresh with
    issued := fun other found known => by
      rw [Store.get_set] at known
      split at known
      · cases known
        exact issued.le
      · exact fresh.issued other found known
    given := fun other found sentAt known gives => by
      rw [Store.get_set] at known
      split at known
      · next same =>
          cases known
          exact issued ▸ given sentAt (same ▸ gives)
      · exact fresh.given other found sentAt known gives }

end Fresh

/-! ## Executions -/

structure Idle (stage : ExecutionStage) : Prop where
  requesting : ∀ index rest id, stage ≠ .requesting index rest id
  answered : ∀ answer settledAt, stage ≠ .done (.ok answer) settledAt

/-- Only probes were added to the requests. -/
structure Prepared (s u : Transport) : Prop where
  slots : SlotsOf u
  executions : u.executions = s.executions
  kept : ∀ id request, s.requests.get id = some request → u.requests.get id = some request
  added : ∀ id request, u.requests.get id = some request →
    s.requests.get id = some request ∨ (∃ index, request.owner = .probe index) ∧ Stamped request
  items : u.items = s.items
  works : u.works = s.works
  pending : u.pending = s.pending
  cache : u.cache = s.cache
  generation : u.generation = s.generation
  now : u.now = s.now
  ticks : u.ticks = s.ticks

theorem startRequest_cases (s : Transport) (index : Nat) (message : RpcMessage)
    (signal : Option Nat) (owner : Owner) : ∃ request active waiters,
    s.startRequest index message signal owner =
      { s with
        active, waiters
        nextId := s.nextId + 1
        requests := s.requests.set s.nextId request } ∧
    request.owner = owner ∧ request.handedAt = none ∧ Stamped request := by
  unfold Transport.startRequest
  dsimp only
  split
  · exact ⟨_, _, _, rfl, rfl, rfl, by simp [Stamped]⟩
  · exact ⟨_, _, _, rfl, rfl, rfl, by simp [Stamped]⟩

theorem Prepared.startProbe {s u : Transport} (prepared : Prepared s u) (index : Nat)
    (signal : Option Nat) : Prepared s (u.startProbe index signal) := by
  have slots := SlotsOf.startProbe prepared.slots index signal
  obtain ⟨request, active, waiters, started, owner, -, stamped⟩ :=
    startRequest_cases u index clusterCheck signal (.probe index)
  unfold Transport.startProbe Transport.setEndpoint at slots ⊢
  dsimp only at slots ⊢
  rw [started] at slots ⊢
  refine ⟨slots, prepared.executions, fun id old known => ?_, fun id found known => ?_,
    prepared.items, prepared.works, prepared.pending, prepared.cache, prepared.generation, prepared.now,
    prepared.ticks⟩
  · have present := prepared.kept id old known
    change (u.requests.set u.nextId request).get id = some old
    rw [Store.get_set, if_neg (prepared.slots.fresh id old present).ne, present]
  · change (u.requests.set u.nextId request).get id = some found at known
    rw [Store.get_set] at known
    split at known
    · cases known
      exact .inr ⟨⟨index, owner⟩, stamped⟩
    · exact prepared.added id found known

theorem tryEndpoints_idle {s u : Transport} (prepared : Prepared s u) (item : Nat) (job : Job)
    (list : List Nat) : ∃ v stage, Prepared s v ∧ Idle stage ∧
      u.tryEndpoints item job list = v.setStage item job stage := by
  refine tryEndpoints_rule (I := Prepared s)
    (P := fun t => ∃ v stage, Prepared s v ∧ Idle stage ∧ t = v.setStage item job stage)
    (fun u index time prepared => ?_) (fun u cause prepared => ?_)
    (fun u index rest _ prepared _ => ?_) (fun u index rest probe _ prepared _ => ?_)
    (fun u index rest _ prepared => ?_) prepared
  · exact ⟨prepared.slots, prepared.executions, prepared.kept, prepared.added, prepared.items,
      prepared.works, prepared.pending, prepared.cache, prepared.generation, prepared.now,
      prepared.ticks⟩
  · exact ⟨u, .done (.error cause) u.ticks, prepared, ⟨nofun, nofun⟩, rfl⟩
  · exact ⟨u, .verified index rest, prepared, ⟨nofun, nofun⟩, rfl⟩
  · exact ⟨u, .verifying index rest probe, prepared, ⟨nofun, nofun⟩, rfl⟩
  · exact ⟨_, .verifying index rest u.nextId, prepared.startProbe index job.signal,
      ⟨nofun, nofun⟩, rfl⟩

section Steps

variable {ticks : Nat} {s v : Transport}

theorem FreshAt.rest {item : Nat} {job : Job} {stage : ExecutionStage} (fresh : FreshAt ticks s)
    (prepared : Prepared s v) (idle : Idle stage)
    (silent : isRead job.message = true ∨ ¬Handed s.requests item)
    (open_ : ∀ execution, s.executions.get item = some execution → ∀ outcome settledAt,
      execution.stage ≠ .done outcome settledAt)
    (ended : ∀ id request, s.requests.get id = some request → request.owner = .item item →
      isSettled request = true) : FreshAt ticks (v.setStage item job stage) := by
  have owned {id other : Nat} {request : Request} (known : v.requests.get id = some request)
      (owner : request.owner = .item other) : s.requests.get id = some request := by
    rcases prepared.added id request known with before | ⟨⟨index, probe⟩, -⟩
    · exact before
    · rw [probe] at owner
      nomatch owner
  have handed {other : Nat} (handed : Handed v.requests other) : Handed s.requests other := by
    obtain ⟨id, request, known, owner, sent⟩ := handed
    exact ⟨id, request, owned known owner, owner, sent⟩
  have running {other : Nat} {execution : Execution} (different : other ≠ item)
      (known : (s.executions.set item { job with stage }).get other = some execution) :
      s.executions.get other = some execution := by
    rwa [Store.get_set, if_neg different] at known
  have own {execution : Execution}
      (known : (s.executions.set item { job with stage }).get item = some execution) :
      execution = { job with stage } := by
    rw [Store.get_set_self] at known
    exact (Option.some_inj.mp known).symm
  have settled (write settledAt : Nat) : WriteSettled (s.executions.set item { job with stage })
      v.requests write settledAt → WriteSettled s.executions s.requests write settledAt := by
    rintro ⟨execution, outcome, known, nonread, done, sent⟩
    by_cases same : write = item
    · rw [same] at known sent
      rw [own known] at nonread
      rcases silent with read | unsent
      · rw [nonread] at read
        nomatch read
      · exact absurd (handed sent) unsent
    · exact ⟨execution, outcome, running same known, nonread, done, handed sent⟩
  have quieter : Quieter s.executions (s.executions.set item { job with stage }) s.requests
      v.requests ticks := by
    constructor
    · exact fun write settledAt ended => .inl (settled write settledAt ended)
    · rintro other sentAt ⟨execution, known, awaits⟩
      by_cases same : other = item
      · rw [same] at known
        rw [own known] at awaits
        rcases awaits with ⟨index, rest, id, -, requesting, -⟩ | ⟨answer, settledAt, done, -⟩
        · exact absurd requesting (idle.requesting index rest id)
        · exact absurd done (idle.answered answer settledAt)
      · refine .inl ⟨execution, running same known, ?_⟩
        rcases awaits with ⟨index, rest, id, request, requesting, present, sent, live⟩ | done
        · obtain ⟨old, before, -⟩ :=
            fresh.requested other execution index rest id (running same known) requesting
          rw [prepared.kept id old before] at present
          cases present
          exact .inl ⟨index, rest, id, request, requesting, before, sent, live⟩
        · exact .inr done
  have kept := quieter.keeps fresh (fun other execution index rest id known requesting => by
      by_cases same : other = item
      · rw [same] at known
        rw [own known] at requesting
        exact absurd requesting (idle.requesting index rest id)
      · obtain ⟨request, before, owner⟩ :=
          fresh.requested other execution index rest id (running same known) requesting
        exact ⟨request, prepared.kept id request before, owner⟩)
    (fun id request known => (prepared.added id request known).elim (fresh.stamped id request)
      And.right)
    (fun id request other known owner live => by
      have before := owned known owner
      obtain ⟨execution, index, rest, present, requesting⟩ :=
        fresh.unsettled id request other before owner live
      by_cases same : other = item
      · rw [ended id request before (same ▸ owner)] at live
        nomatch live
      · refine ⟨execution, index, rest, ?_, requesting⟩
        rw [Store.get_set, if_neg same, present])
    (fun other execution outcome settledAt known done => by
      rw [Store.get_set, if_neg, known]
      rintro rfl
      exact open_ execution known outcome settledAt done)
    settled
  change Fresh (v.executions.set item _) v.requests v.items v.works v.pending v.cache v.generation
    v.now ticks
  rw [prepared.executions, prepared.items, prepared.works, prepared.pending, prepared.cache,
    prepared.generation, prepared.now]
  exact kept

theorem FreshAt.requestFrom {item index : Nat} {rest : List Nat} {execution : Execution}
    (fresh : FreshAt ticks s) (slots : SlotsOf s) (known : s.executions.get item = some execution)
    (chosen : choosing execution.stage = true) :
    FreshAt ticks (s.requestFrom item execution.toJob index rest) := by
  obtain ⟨request, active, waiters, started, owner, unsent, stamped⟩ :=
    startRequest_cases s index execution.message execution.signal (.item item)
  have unknown := slots.unknown
  have notDone : ∀ outcome settledAt, execution.stage ≠ .done outcome settledAt := by
    intro outcome settledAt done
    rw [done] at chosen
    nomatch chosen
  have old {id : Nat} {found : Request} (sent : found.handedAt ≠ none)
      (present : (s.requests.set s.nextId request).get id = some found) :
      s.requests.get id = some found := by
    rw [Store.get_set] at present
    split at present
    · cases present
      exact absurd unsent sent
    · exact present
  have kept {id : Nat} {found : Request} (present : s.requests.get id = some found) :
      (s.requests.set s.nextId request).get id = some found := by
    rw [Store.get_set, if_neg (slots.fresh id found present).ne, present]
  have settled (write settledAt : Nat) : WriteSettled (s.executions.set item { execution.toJob with
      stage := .requesting index rest s.nextId }) (s.requests.set s.nextId request) write settledAt →
      WriteSettled s.executions s.requests write settledAt := by
    rintro ⟨found, outcome, present, nonread, done, id, sending, there, mine, sent⟩
    rw [Store.get_set] at present
    split at present
    · cases present
      nomatch done
    · exact ⟨found, outcome, present, nonread, done, id, sending, old sent there, mine, sent⟩
  have quieter : Quieter s.executions (s.executions.set item { execution.toJob with
      stage := .requesting index rest s.nextId }) s.requests (s.requests.set s.nextId request)
      ticks := by
    constructor
    · exact fun write settledAt ended => .inl (settled write settledAt ended)
    · rintro other sentAt ⟨found, present, awaits⟩
      rw [Store.get_set] at present
      split at present
      · cases present
        rcases awaits with ⟨_, _, id, sending, requesting, there, sent, -⟩ | ⟨answer, settledAt, done, -⟩
        · cases requesting
          rw [Store.get_set_self] at there
          cases there
          rw [unsent] at sent
          nomatch sent
        · nomatch done
      · refine .inl ⟨found, present, ?_⟩
        rcases awaits with ⟨at_, left, id, sending, requesting, there, sent, live⟩ | done
        · exact .inl ⟨at_, left, id, sending, requesting, old (by simp [sent]) there, sent, live⟩
        · exact .inr done
  unfold Transport.requestFrom
  rw [started]
  refine quieter.keeps fresh ?_ ?_ ?_ ?_ settled
  · intro other found at_ left id present requesting
    rw [Store.get_set] at present
    split at present
    · next same =>
        cases present
        cases requesting
        exact ⟨request, Store.get_set_self _ _ _, same ▸ owner⟩
    · obtain ⟨sending, there, mine⟩ := fresh.requested other found at_ left id present requesting
      exact ⟨sending, kept there, mine⟩
  · intro id found present
    rw [Store.get_set] at present
    split at present
    · cases present
      exact stamped
    · exact fresh.stamped id found present
  · intro id found other present mine live
    rw [Store.get_set] at present
    split at present
    · next same =>
        cases present
        rw [owner] at mine
        cases mine
        exact ⟨_, index, rest, Store.get_set_self _ _ _, by rw [same]⟩
    · obtain ⟨running, at_, left, there, requesting⟩ := fresh.unsettled id found other present mine live
      refine ⟨running, at_, left, ?_, requesting⟩
      rw [Store.get_set, if_neg, there]
      rintro rfl
      rw [known] at there
      cases there
      rw [requesting] at chosen
      nomatch chosen
  · intro other found outcome settledAt present done
    rw [Store.get_set, if_neg, present]
    rintro rfl
    rw [known] at present
    cases present
    exact notDone outcome settledAt done

/-- Replies are shared under the present generation: saved ones that have not expired, and those
that pending executions have or await. -/
def Shares (executions : Store Nat Execution) (requests : Store Nat Request)
    (pending : List (CacheKey × Nat)) (cache : List (CacheKey × Saved)) (generation now : Nat) :
    Prop :=
  (∃ entry ∈ cache, entry.1.generation = generation ∧ now < entry.2.validUntil) ∨
  ∃ entry ∈ pending, entry.1.generation = generation ∧
    ∃ sentAt, Awaits executions requests entry.2 sentAt

end Steps

/-! ## The end of an execution -/

section Ended

variable {ticks : Nat} {s : Transport}

def ended (s : Transport) (item : Nat) (job : Job) (outcome : Except String Answer) (ticks : Nat) :
    Store Nat Execution :=
  s.executions.set item { job with stage := .done outcome ticks }

theorem ended_other {item other : Nat} {job : Job} {outcome : Except String Answer}
    {found : Execution} (different : other ≠ item)
    (there : (ended s item job outcome ticks).get other = some found) :
    s.executions.get other = some found := by
  rwa [ended, Store.get_set, if_neg different] at there

theorem ended_own {item : Nat} {job : Job} {outcome : Except String Answer} {found : Execution}
    (there : (ended s item job outcome ticks).get item = some found) :
    found = { job with stage := .done outcome ticks } := by
  rw [ended, Store.get_set_self] at there
  exact (Option.some_inj.mp there).symm

variable {item index id : Nat} {rest : List Nat} {execution : Execution} (fresh : FreshAt ticks s)
  (known : s.executions.get item = some execution)
  (stage : execution.stage = .requesting index rest id) (outcome : Except String Answer)
include known stage

theorem ended_keeps (other : Nat) (found : Execution) (result : Except String Answer)
    (settledAt : Nat) (there : s.executions.get other = some found)
    (done : found.stage = .done result settledAt) :
    (ended s item execution.toJob outcome ticks).get other = some found := by
  rw [ended, Store.get_set, if_neg, there]
  rintro rfl
  rw [known] at there
  cases there
  rw [stage] at done
  cases done

include fresh

omit known stage in
theorem FreshAt.ended_requested (item : Nat) (job : Job) (other : Nat) (found : Execution)
    (at_ : Nat) (left : List Nat) (sent : Nat)
    (there : (ended s item job outcome ticks).get other = some found)
    (requesting : found.stage = .requesting at_ left sent) :
    ∃ request, s.requests.get sent = some request ∧ request.owner = .item other := by
  by_cases same : other = item
  · rw [same] at there
    rw [ended_own there] at requesting
    cases requesting
  · exact fresh.requested other found at_ left sent (ended_other same there) requesting

variable {request : Request} {result : Except String RpcReply}
  (present : s.requests.get id = some request) (settled : request.stage = .settled result)
include present settled

theorem FreshAt.ended_unsettled (sent : Nat) (found : Request) (other : Nat)
    (there : s.requests.get sent = some found) (owner : found.owner = .item other)
    (live : isSettled found = false) : ∃ running at_ left,
      (ended s item execution.toJob outcome ticks).get other = some running ∧
        running.stage = .requesting at_ left sent := by
  obtain ⟨running, at_, left, before, requesting⟩ :=
    fresh.unsettled sent found other there owner live
  refine ⟨running, at_, left, ?_, requesting⟩
  rw [ended, Store.get_set, if_neg, before]
  rintro rfl
  rw [known] at before
  cases before
  rw [stage] at requesting
  cases requesting
  rw [present] at there
  cases there
  rw [isSettled, settled] at live
  cases live

variable (origin : ∀ answer, outcome = .ok answer →
  (∃ reply, result = .ok reply) ∧ answer.sentAt = request.handedAt.getD ticks)
include origin

theorem FreshAt.ended_awaits (other sentAt : Nat)
    (awaits : Awaits (ended s item execution.toJob outcome ticks) s.requests other sentAt) :
    Awaits s.executions s.requests other sentAt := by
  obtain ⟨found, there, awaits⟩ := awaits
  by_cases same : other = item
  · rw [same] at there
    rw [ended_own there] at awaits
    rcases awaits with ⟨_, _, _, -, requesting, -⟩ | ⟨answer, settledAt, done, sent⟩
    · cases requesting
    · obtain ⟨rfl, -⟩ := ExecutionStage.done.inj done
      obtain ⟨⟨reply, rfl⟩, from_⟩ := origin answer rfl
      obtain ⟨time, handed⟩ := Option.ne_none_iff_exists'.mp
        (fresh.stamped id request present (.inr ⟨reply, settled⟩))
      rw [sent, handed] at from_
      refine ⟨execution, same ▸ known, .inl ⟨index, rest, id, request, stage, present, ?_,
        fun cause failed => ?_⟩⟩
      · rw [handed, from_]
        rfl
      · rw [settled] at failed
        cases failed
  · exact ⟨found, ended_other same there, awaits⟩

theorem FreshAt.ended_quieter : Quieter s.executions (ended s item execution.toJob outcome ticks)
    s.requests s.requests ticks where
  settled := by
    rintro write settledAt ⟨found, result, there, nonread, done, handed⟩
    by_cases same : write = item
    · rw [same] at there
      rw [ended_own there] at done
      exact .inr (ExecutionStage.done.inj done).2.symm
    · exact .inl ⟨found, result, ended_other same there, nonread, done, handed⟩
  awaits other sentAt waits :=
    .inl (fresh.ended_awaits known stage outcome present settled origin other sentAt waits)

theorem FreshAt.finish :
    ((isRead execution.message = true ∨ ¬Handed s.requests item) →
      FreshAt ticks (s.setStage item execution.toJob (.done outcome ticks))) ∧
    (¬Shares s.executions s.requests s.pending s.cache s.generation s.now →
      FreshAt (ticks + 1) (s.setStage item execution.toJob (.done outcome ticks))) := by
  have quieter := fresh.ended_quieter known stage outcome present settled origin
  have requested := fresh.ended_requested outcome item execution.toJob
  have unsettled := fresh.ended_unsettled known stage outcome present settled
  constructor
  · intro silent
    refine quieter.keeps fresh requested fresh.stamped unsettled
      (ended_keeps known stage outcome) ?_
    rintro write settledAt ⟨found, result, there, nonread, done, handed⟩
    by_cases same : write = item
    · rw [same] at there handed
      rw [ended_own there] at nonread
      rcases silent with read | unsent
      · rw [nonread] at read
        cases read
      · exact absurd handed unsent
    · exact ⟨found, result, ended_other same there, nonread, done, handed⟩
  · intro none_shared
    refine quieter.settles fresh requested fresh.stamped unsettled
      (ended_keeps known stage outcome) ?_ ?_
    · exact fun entry member current valid => none_shared (.inl ⟨entry, member, current, valid⟩)
    · exact fun entry member current sentAt waits => none_shared (.inr ⟨entry, member, current,
        sentAt, fresh.ended_awaits known stage outcome present settled origin entry.2 sentAt waits⟩)

end Ended

/-! ## Actions -/

/-- The action ends a write that failed after it was handed to an upstream. -/
def LosesWrite (s : Transport) (action : Transport.Action) : Prop :=
  ∃ item execution index rest id request cause, action = .resume item ∧
    s.executions.get item = some execution ∧ isRead execution.message = false ∧
    execution.stage = .requesting index rest id ∧ s.requests.get id = some request ∧
    request.stage = .settled (.error cause) ∧ request.handedAt ≠ none

/-- The transport may answer reads of its present generation with replies that it has or awaits. -/
abbrev SharesReplies (s : Transport) : Prop :=
  Shares s.executions s.requests s.pending s.cache s.generation s.now

theorem prepared_self {s : Transport} (slots : SlotsOf s) : Prepared s s :=
  ⟨slots, rfl, fun _ _ known => known, fun _ _ known => .inl known, rfl, rfl, rfl, rfl, rfl, rfl,
    rfl⟩

theorem prepared_cool {s : Transport} (slots : SlotsOf s) (index time : Nat) :
    Prepared s (s.cool index time) :=
  ⟨slots, rfl, fun _ _ known => known, fun _ _ known => .inl known, rfl, rfl, rfl, rfl, rfl, rfl,
    rfl⟩

section Actions

variable {s t : Transport} (fresh : FreshAt s.ticks s)
include fresh

theorem FreshAt.choosing {item : Nat} {execution : Execution} (tries : TriesOf s)
    (known : s.executions.get item = some execution) (chosen : choosing execution.stage = true) :
    (isRead execution.message = true ∨ ¬Handed s.requests item) ∧
    ∀ id request, s.requests.get id = some request → request.owner = .item item →
      isSettled request = true := by
  constructor
  · by_cases read : isRead execution.message = true
    · exact .inl read
    · refine .inr ?_
      rintro ⟨id, request, present, owner, -⟩
      have idle := (tries.untried item execution known id request present owner).2
        (by simpa using read)
      rw [chosen] at idle
      nomatch idle
  · intro id request present owner
    by_contra live
    obtain ⟨running, index, rest, there, requesting⟩ :=
      fresh.unsettled id request item present owner (by simpa using live)
    rw [known] at there
    cases there
    rw [requesting] at chosen
    nomatch chosen

theorem FreshAt.restart {item : Nat} {execution : Execution} {u : Transport} (list : List Nat)
    (known : s.executions.get item = some execution) (prepared : Prepared s u)
    (open_ : ∀ outcome settledAt, execution.stage ≠ .done outcome settledAt)
    (silent : isRead execution.message = true ∨ ¬Handed s.requests item)
    (ended : ∀ id request, s.requests.get id = some request → request.owner = .item item →
      isSettled request = true) : FreshAt s.ticks (u.tryEndpoints item execution.toJob list) := by
  obtain ⟨v, stage, prepared, idle, result⟩ := tryEndpoints_idle prepared item execution.toJob list
  rw [result]
  refine fresh.rest prepared idle silent (fun found there => ?_) ended
  rw [known] at there
  cases there
  exact open_

theorem FreshAt.requestSettled {item index id : Nat} {rest : List Nat} {execution : Execution}
    {request : Request} {outcome : Except String RpcReply} (sound : Sound s)
    (known : s.executions.get item = some execution)
    (stage : execution.stage = .requesting index rest id)
    (present : s.requests.get id = some request) (settled : request.stage = .settled outcome)
    (quiet : LosesWrite s (.resume item) → ¬SharesReplies s) :
    FreshAt (s.ticks + 1) (s.requestSettled item execution.toJob index rest request outcome) := by
  unfold Transport.requestSettled
  cases outcome with
  | ok reply =>
      have origin (answer : Answer)
          (same : (.ok ⟨reply, request.handedAt.getD s.ticks⟩ : Except String Answer) = .ok answer) :
          (∃ given, (.ok reply : Except String RpcReply) = .ok given) ∧
            answer.sentAt = request.handedAt.getD s.ticks := by
        cases same
        exact ⟨⟨reply, rfl⟩, rfl⟩
      dsimp only
      split
      · next read =>
          have preferring : FreshAt s.ticks { s with preferred := index } := fresh
          exact Fresh.tick ((preferring.finish known stage _ present settled origin).1 (.inl read))
      · have cleared : FreshAt s.ticks (Transport.clearCache { s with preferred := index }) :=
          Fresh.clear fresh
        refine (cleared.finish known stage _ present settled origin).2 ?_
        rintro (⟨entry, member, -⟩ | ⟨entry, member, current, -⟩)
        · exact absurd member List.not_mem_nil
        · have bound := fresh.pendingKeys entry member
          change entry.1.generation = s.generation + 1 at current
          omega
  | error cause =>
      have lost (failure : String) (read : isRead execution.message = false) :
          FreshAt (s.ticks + 1) (s.finish item execution.toJob (.error failure)) := by
        obtain ⟨unheard, shared⟩ := fresh.finish known stage (.error failure) present settled nofun
        by_cases handed : Handed s.requests item
        · refine shared (quiet ?_)
          obtain ⟨sent, found, there, owner, stamp⟩ := handed
          have mine : request.owner = .item item := by
            obtain ⟨asked, there, owner⟩ := fresh.requested item execution index rest id known stage
            rw [present] at there
            cases there
            exact owner
          have write : isRead request.message = false := by
            obtain ⟨running, there, carries⟩ := sound.tries.owned id request item present mine
            rw [known] at there
            cases there
            rw [← carries, read]
          have same := sound.tries.once id sent request found item present there mine owner (.inr write)
          rw [← same, present] at there
          cases there
          exact ⟨item, execution, index, rest, id, request, cause, rfl, known, read, stage, present,
            settled, stamp⟩
        · exact Fresh.tick (unheard (.inr handed))
      dsimp only
      split
      · by_cases read : isRead execution.message = true
        · exact Fresh.tick
            ((fresh.finish known stage (.error cause) present settled nofun).1 (.inl read))
        · exact lost cause (by simpa using read)
      · split
        · next read =>
            refine Fresh.tick (fresh.restart rest known (prepared_cool sound.safe.slots _ _) ?_
              (.inl read) ?_)
            · intro outcome settledAt done
              rw [stage] at done
              nomatch done
            · intro sent found there owner
              by_contra live
              obtain ⟨running, at_, left, before, requesting⟩ :=
                fresh.unsettled sent found item there owner (by simpa using live)
              rw [known] at before
              cases before
              rw [stage] at requesting
              cases requesting
              rw [present] at there
              cases there
              rw [isSettled, settled] at live
              exact live rfl
        · next write => exact lost _ (by simpa using write)

theorem FreshAt.resumed {item : Nat} {execution : Execution} (sound : Sound s)
    (known : s.executions.get item = some execution) (resumed : Resumed s item execution t)
    (quiet : LosesWrite s (.resume item) → ¬SharesReplies s) : FreshAt (s.ticks + 1) t := by
  cases resumed with
  | requested index rest ready =>
      refine Fresh.tick (fresh.requestFrom sound.safe.slots known ?_)
      generalize execution.stage = stage at ready
      cases ready <;> rfl
  | unverified index rest probe cause stage =>
      obtain ⟨silent, ended⟩ := fresh.choosing sound.tries known (by rw [stage]; rfl)
      refine Fresh.tick (fresh.rest (prepared_self sound.safe.slots) ⟨nofun, nofun⟩ silent ?_ ended)
      intro found there outcome settledAt done
      rw [known] at there
      cases there
      rw [stage] at done
      nomatch done
  | passedOver index rest probe stage =>
      obtain ⟨silent, ended⟩ := fresh.choosing sound.tries known (by rw [stage]; rfl)
      refine Fresh.tick
        (fresh.restart rest known (prepared_cool sound.safe.slots _ _) ?_ silent ended)
      intro outcome settledAt done
      rw [stage] at done
      nomatch done
  | settled index rest id request outcome stage present settled =>
      exact fresh.requestSettled sound known stage present settled quiet

end Actions

/-- How a request may move on: what is settled stays, and only now something is handed over. -/
structure Moves (ticks : Nat) (old new : Request) : Prop where
  owner : new.owner = old.owner
  stamped : Stamped new
  settled : isSettled old = true → new = old
  handedAt : new.handedAt = old.handedAt ∨ isSettled old = false ∧ new.handedAt = some ticks

theorem moves_self {ticks : Nat} {request : Request} (stamped : Stamped request) :
    Moves ticks request request := ⟨rfl, stamped, fun _ => rfl, .inl rfl⟩

section Moves

variable {ticks : Nat} {s t : Transport} (fresh : FreshAt ticks s)
include fresh

theorem FreshAt.move {newer : Store Nat Request}
    (same : ∀ id, (newer.get id).isSome = (s.requests.get id).isSome)
    (moves : ∀ id old new, s.requests.get id = some old → newer.get id = some new →
      Moves ticks old new) :
    Fresh s.executions newer s.items s.works s.pending s.cache s.generation s.now ticks := by
  have back {id : Nat} {new : Request} (after : newer.get id = some new) :
      ∃ old, s.requests.get id = some old ∧ Moves ticks old new := by
    obtain ⟨old, before⟩ := Option.isSome_iff_exists.mp ((same id).symm.trans (by rw [after]; rfl))
    exact ⟨old, before, moves id old new before after⟩
  have settled (write settledAt : Nat) : WriteSettled s.executions newer write settledAt →
      WriteSettled s.executions s.requests write settledAt := by
    rintro ⟨execution, outcome, known, nonread, done, id, new, after, owner, sent⟩
    obtain ⟨old, before, moved⟩ := back after
    refine ⟨execution, outcome, known, nonread, done, id, old, before, moved.owner ▸ owner, ?_⟩
    rcases moved.handedAt with kept | ⟨live, -⟩
    · exact kept ▸ sent
    · obtain ⟨running, index, rest, there, requesting⟩ :=
        fresh.unsettled id old write before (moved.owner ▸ owner) live
      rw [known] at there
      cases there
      rw [done] at requesting
      nomatch requesting
  have quieter : Quieter s.executions s.executions s.requests newer ticks := by
    constructor
    · exact fun write settledAt ended => .inl (settled write settledAt ended)
    · rintro item sentAt ⟨execution, known, ⟨index, rest, id, new, requesting, after, sent, live⟩ | done⟩
      · obtain ⟨old, before, moved⟩ := back after
        rcases moved.handedAt with kept | ⟨-, now⟩
        · refine .inl ⟨execution, known, .inl ⟨index, rest, id, old, requesting, before,
            kept ▸ sent, fun cause failed => ?_⟩⟩
          rw [moved.settled (by rw [isSettled, failed])] at live
          exact live cause failed
        · rw [now] at sent
          exact .inr (Option.some_inj.mp sent).symm
      · exact .inl ⟨execution, known, .inr done⟩
  refine quieter.keeps fresh ?_ ?_ ?_ (fun _ _ _ _ known _ => known) settled
  · intro item execution index rest id known requesting
    obtain ⟨old, before, owner⟩ := fresh.requested item execution index rest id known requesting
    obtain ⟨new, after⟩ := Option.isSome_iff_exists.mp ((same id).trans (by rw [before]; rfl))
    exact ⟨new, after, (moves id old new before after).owner.trans owner⟩
  · intro id new after
    obtain ⟨old, -, moved⟩ := back after
    exact moved.stamped
  · intro id new item after owner live
    obtain ⟨old, before, moved⟩ := back after
    refine fresh.unsettled id old item before (moved.owner ▸ owner) ?_
    by_contra ended
    rw [moved.settled (by simpa using ended)] at live
    exact ended live

theorem FreshAt.setRequest {id : Nat} {old new : Request} (known : s.requests.get id = some old)
    (moved : Moves ticks old new) : FreshAt ticks (s.setRequest id new) := by
  refine fresh.move (fun other => ?_) fun other before after present found => ?_
  · change ((s.requests.set id new).get other).isSome = _
    rw [Store.get_set]
    split
    · next same =>
        rw [same, known]
        rfl
    · rfl
  · change (s.requests.set id new).get other = _ at found
    rw [Store.get_set] at found
    split at found
    · next same =>
        cases found
        rw [same, known] at present
        cases present
        exact moved
    · rw [present] at found
      cases found
      exact moves_self (fresh.stamped other before present)

theorem FreshAt.settleRequest {id : Nat} {request : Request} (slots : SlotsOf s)
    (known : s.requests.get id = some request) (held : holds request = true)
    (outcome : Except String RpcReply) (sent : (∃ reply, outcome = .ok reply) →
      request.handedAt ≠ none) : FreshAt ticks (s.settleRequest id request outcome) := by
  have idle := slots.idle known (not_queued held)
  rw [settleRequest_eq]
  refine FreshAt.move fresh (fun other => ?_) fun other old new before after => ?_
  · rw [settleRequest_get known idle, Option.isSome_map]
  · rw [settleRequest_get known idle, before, Option.map_some, Option.some_inj] at after
    rw [← after]
    split
    · next same =>
        rw [same, known] at before
        cases before
        refine ⟨rfl, ?_, fun ended => ?_, .inl rfl⟩
        · rintro (under | ⟨reply, ended⟩)
          · cases under
          · exact sent ⟨reply, RequestStage.settled.inj ended⟩
        · cases stage : request.stage <;> simp_all [holds, isSettled]
    · split
      · next next =>
          obtain ⟨waiter, there, queued⟩ := (slots.waiting other).mp (List.mem_of_mem_head? next)
          rw [before] at there
          cases there
          refine ⟨rfl, by simp [Stamped], fun ended => ?_, .inl rfl⟩
          rw [isSettled, queued] at ended
          cases ended
      · exact moves_self (fresh.stamped other old before)

theorem FreshAt.progress {id : Nat} {request : Request} (slots : SlotsOf s) (now : ticks = s.ticks)
    (known : s.requests.get id = some request) (progressed : Progressed s id request t) :
    FreshAt ticks t := by
  have sent (at_ : request.stage = .sent) : request.handedAt ≠ none :=
    fresh.stamped id request known (.inl at_)
  cases progressed with
  | entered stage =>
      exact fresh.setRequest known ⟨rfl, by simp [Stamped], by simp [isSettled, stage], .inl rfl⟩
  | turned rest stage =>
      exact fresh.setRequest known ⟨rfl, by simp [Stamped], by simp [isSettled, stage], .inl rfl⟩
  | refused cause stage =>
      exact fresh.settleRequest slots known (by rw [holds, stage]) _ (by simp)
  | handed stage =>
      have quiet : isSettled request = false := by rw [isSettled, stage]
      exact fresh.setRequest known ⟨rfl, by simp [Stamped], by simp [isSettled, stage],
        .inr ⟨quiet, congrArg some now.symm⟩⟩
  | failed cause stage =>
      exact fresh.settleRequest slots known (by rw [holds, stage]) _ (by simp)
  | throttled time stage =>
      have cooled : FreshAt ticks (s.cool request.index time) := fresh
      exact cooled.settleRequest slots known (by rw [holds, stage]) _ (by simp)
  | busied reply time stage =>
      have cooled : FreshAt ticks (Transport.cool { s with trace := s.trace ++
        [.answered id request.index request.message reply] } request.index time) := fresh
      exact cooled.settleRequest slots known (by rw [holds, stage]) _ (by simp)
  | answered reply outcome stage faithful =>
      have traced : FreshAt ticks { s with trace := s.trace ++
        [.answered id request.index request.message reply] } := fresh
      exact traced.settleRequest slots known (by rw [holds, stage]) _ fun _ => sent stage

end Moves

/-! ## Shared replies -/

theorem mem_of_lookup {K V : Type} [DecidableEq K] {list : List (K × V)} {key : K} {value : V}
    (found : list.lookup key = some value) : (key, value) ∈ list := by
  obtain ⟨front, back, rfl, -⟩ := List.lookup_eq_some_iff.mp found
  exact List.mem_append_right _ List.mem_cons_self

theorem not_mem_of_lookup {K V : Type} [DecidableEq K] {list : List (K × V)} {key : K}
    (absent : list.lookup key = none) : key ∉ list.map Prod.fst := by
  intro member
  obtain ⟨entry, there, same⟩ := List.mem_map.mp member
  simpa [same] using List.lookup_eq_none_iff.mp absent entry there

section Shared

variable {executions : Store Nat Execution} {requests : Store Nat Request} {items : Store Nat Item}
  {works : Store Nat Work} {pending : List (CacheKey × Nat)} {cache : List (CacheKey × Saved)}
  {generation now ticks : Nat}
  (fresh : Fresh executions requests items works pending cache generation now ticks)
include fresh

theorem Fresh.share {id ttl : Nat} {key : CacheKey} (current : key.generation ≤ generation)
    (absent : pending.lookup key = none) (idle : ∀ sentAt, ¬Awaits executions requests id sentAt) :
    Fresh executions requests items (works.set id ⟨key, ttl, .running⟩) (pending ++ [(key, id)])
      cache generation now ticks :=
  { fresh with
    pendingKeys := fun entry member => by
      rcases List.mem_append.mp member with old | new
      · exact fresh.pendingKeys entry old
      · exact List.mem_singleton.mp new ▸ current
    pendingOnce := by
      rw [List.map_append]
      refine List.nodup_append.mpr ⟨fresh.pendingOnce, List.nodup_singleton _, ?_⟩
      rintro first member second single rfl
      rw [List.mem_singleton.mp single] at member
      exact not_mem_of_lookup absent member
    pended := fun entry member same sentAt awaits => by
      rcases List.mem_append.mp member with old | new
      · exact fresh.pended entry old same sentAt awaits
      · rw [List.mem_singleton.mp new] at awaits
        exact absurd awaits (idle sentAt)
    running := fun other work known open_ => by
      rw [Store.get_set] at known
      split at known
      · next same =>
          cases known
          exact List.mem_append_right _ (same ▸ List.mem_cons_self)
      · exact List.mem_append_left _ (fresh.running other work known open_)
    finished := fun other work outcome known ended => by
      rw [Store.get_set] at known
      split at known
      · cases known
        rcases ended with ended | ended <;> nomatch ended
      · exact fresh.finished other work outcome known ended }

variable {id : Nat} {work : Work} (known : works.get id = some work)
include known

theorem Fresh.store {execution : Execution} {outcome : Except String Answer} {settledAt : Nat}
    (stage : work.stage = .running) (present : executions.get id = some execution)
    (done : execution.stage = .done outcome settledAt) :
    Fresh executions requests items (works.set id { work with stage := .stored outcome }) pending
      cache generation now ticks :=
  { fresh with
    running := fun other found there open_ => by
      rw [Store.get_set] at there
      split at there
      · next same =>
          cases there
          refine same ▸ fresh.running id work known fun outcome ended => ?_
          rw [stage] at ended
          nomatch ended
      · exact fresh.running other found there open_
    finished := fun other found result there ended => by
      rw [Store.get_set] at there
      split at there
      · next same =>
          cases there
          refine ⟨execution, settledAt, same ▸ present, ?_⟩
          rcases ended with ended | ended
          · exact WorkStage.stored.inj ended ▸ done
          · nomatch ended
      · exact fresh.finished other found result there ended }

theorem Fresh.cacheReply {execution : Execution} {answer : Answer} {settledAt : Nat}
    {later : List (CacheKey × Saved)} {saved : Saved} (stage : work.stage = .running)
    (present : executions.get id = some execution)
    (done : execution.stage = .done (.ok answer) settledAt) (stored : saved.answer = answer)
    (within : ∀ entry ∈ later, entry ∈ cache ∨ entry = (work.key, saved)) :
    Fresh executions requests items works pending later generation now ticks := by
  have member : (work.key, id) ∈ pending := by
    refine fresh.running id work known fun outcome ended => ?_
    rw [stage] at ended
    nomatch ended
  exact
    { fresh with
      cachedKeys := fun entry there => by
        rcases within entry there with old | rfl
        · exact fresh.cachedKeys entry old
        · exact fresh.pendingKeys _ member
      cached := fun entry there current valid => by
        rcases within entry there with old | rfl
        · exact fresh.cached entry old current valid
        · exact fresh.pended _ member current _
            ⟨execution, present, .inr ⟨answer, settledAt, done, by rw [stored]⟩⟩ }

theorem Fresh.forget {outcome : Except String Answer} (stage : work.stage = .stored outcome) :
    Fresh executions requests items (works.set id { work with stage := .settled outcome })
      (pending.filter fun entry => entry.1 ≠ work.key) cache generation now ticks :=
  { fresh with
    pendingKeys := fun entry member => fresh.pendingKeys entry (List.mem_filter.mp member).1
    pendingOnce := fresh.pendingOnce.sublist (List.filter_sublist.map _)
    pended := fun entry member => fresh.pended entry (List.mem_filter.mp member).1
    running := fun other found there open_ => by
      rw [Store.get_set] at there
      split at there
      · cases there
        exact absurd rfl (open_ outcome)
      · next different =>
          have member := fresh.running other found there open_
          refine List.mem_filter.mpr ⟨member, decide_eq_true fun same => different ?_⟩
          have mine := fresh.running id work known fun result ended => by
            rw [stage] at ended
            nomatch ended
          exact congrArg Prod.snd
            (List.inj_on_of_nodup_map fresh.pendingOnce member mine (by simpa using same))
    finished := fun other found result there ended => by
      rw [Store.get_set] at there
      split at there
      · next same =>
          cases there
          rcases ended with ended | ended
          · nomatch ended
          · refine same ▸ fresh.finished id work result known (.inl ?_)
            rw [stage, WorkStage.settled.inj ended]
      · exact fresh.finished other found result there ended }

end Shared

section Issues

variable {s t : Transport} {ticks : Nat}

theorem cacheReply_within (s : Transport) (key : CacheKey) (saved : Saved) :
    ∀ entry ∈ s.cacheReply key saved, entry ∈ s.cache ∨ entry = (key, saved) := by
  have shorter : ∀ entry ∈ (if s.cache.length ≥ 128 then s.cache.drop 1 else s.cache),
      entry ∈ s.cache := by
    intro entry member
    split at member
    · exact List.mem_of_mem_drop member
    · exact member
  intro entry member
  unfold Transport.cacheReply at member
  generalize (if s.cache.length ≥ 128 then s.cache.drop 1 else s.cache) = kept at shorter member
  dsimp only at member
  split at member
  · obtain ⟨old, there, made⟩ := List.mem_map.mp member
    split at made
    · exact .inr made.symm
    · exact .inl (made ▸ shorter old there)
  · rcases List.mem_append.mp member with old | new
    · exact .inl (shorter entry old)
    · exact .inr (List.mem_singleton.mp new)

theorem FreshAt.execute (fresh : FreshAt ticks s) (slots : SlotsOf s) (tries : TriesOf s)
    (job : Job) : ∃ (v : Transport) (stage : ExecutionStage),
      Transport.execute { s with nextId := s.nextId + 1 } s.nextId job =
        v.setStage s.nextId job stage ∧ v.ticks = s.ticks ∧ Idle stage ∧
      (isRead job.message = true → v.pending = s.pending ∧ v.generation = s.generation) ∧
      FreshAt ticks (v.setStage s.nextId job stage) := by
  have allocated : SlotsOf { s with nextId := s.nextId + 1 } := Slots.allocate slots
  have absent : ∀ execution, s.executions.get s.nextId ≠ some execution := fun execution known =>
    absurd (tries.freshExecution _ execution known) (lt_irrefl _)
  have unasked : ∀ id request, s.requests.get id = some request →
      request.owner ≠ .item s.nextId := by
    intro id request known owner
    obtain ⟨execution, running, -⟩ := tries.owned id request _ known owner
    exact absent execution running
  have silent : isRead job.message = true ∨ ¬Handed s.requests s.nextId :=
    .inr fun ⟨id, request, known, owner, _⟩ => unasked id request known owner
  unfold Transport.execute
  dsimp only
  split
  · obtain ⟨v, stage, prepared, idle, result⟩ := tryEndpoints_idle (prepared_self allocated) s.nextId
      job (Transport.order { s with nextId := s.nextId + 1 })
    refine ⟨v, stage, result, prepared.ticks, idle, fun _ => ⟨prepared.pending,
      prepared.generation⟩, ?_⟩
    have same : FreshAt ticks { s with nextId := s.nextId + 1 } := fresh
    exact same.rest prepared idle silent (fun execution known => absurd known (absent execution))
      fun id request known owner => absurd owner (unasked id request known)
  · next write =>
      have cleared : SlotsOf (Transport.clearCache { s with nextId := s.nextId + 1 }) := allocated
      obtain ⟨v, stage, prepared, idle, result⟩ := tryEndpoints_idle (prepared_self cleared) s.nextId
        job (Transport.order (Transport.clearCache { s with nextId := s.nextId + 1 }))
      refine ⟨v, stage, result, prepared.ticks, idle, fun read => absurd read write, ?_⟩
      have same : FreshAt ticks (Transport.clearCache { s with nextId := s.nextId + 1 }) :=
        Fresh.clear fresh
      exact same.rest prepared idle silent (fun execution known => absurd known (absent execution))
        fun id request known owner => absurd owner (unasked id request known)

theorem FreshAt.single (fresh : FreshAt s.ticks s) (slots : SlotsOf s) (tries : TriesOf s)
    (message : RpcMessage) (signal : Option Nat) :
    FreshAt s.ticks (s.single message signal) ∧ (s.single message signal).ticks = s.ticks := by
  have issued := single_cases s message signal
  generalize s.single message signal = t at issued ⊢
  have unheard {v : Transport} {job : Job} {stage : ExecutionStage} (idle : Idle stage)
      (requests : Store Nat Request) (sentAt : Nat) :
      ¬Awaits (v.setStage s.nextId job stage).executions requests s.nextId sentAt := by
    rintro ⟨execution, known, awaits⟩
    change (v.executions.set s.nextId { job with stage }).get s.nextId = some execution at known
    rw [Store.get_set_self] at known
    cases known
    rcases awaits with ⟨index, rest, id, -, requesting, -⟩ | ⟨answer, settledAt, done, -⟩
    · exact idle.requesting index rest id requesting
    · exact idle.answered answer settledAt done
  cases issued with
  | cached saved read found valid =>
      refine ⟨Fresh.addItem fresh rfl fun sentAt sent => ?_, rfl⟩
      exact sent ▸ fresh.cached _ (mem_of_lookup found) rfl valid
  | joined work read found =>
      refine ⟨Fresh.addItem fresh rfl fun sentAt awaits => ?_, rfl⟩
      exact fresh.pended _ (mem_of_lookup found) rfl sentAt awaits
  | shared read absent =>
      obtain ⟨v, stage, result, same, idle, kept, later⟩ :=
        fresh.execute slots tries ⟨message, signal⟩
      obtain ⟨pending, generation⟩ := kept read
      rw [result]
      refine ⟨Fresh.addItem (Fresh.share later ?_ ?_ fun sentAt => unheard idle _ sentAt) same
        fun sentAt awaits => absurd awaits (unheard idle _ sentAt), same⟩
      · exact generation.symm.le
      · change v.pending.lookup _ = none
        rw [pending]
        exact absent
  | direct =>
      obtain ⟨v, stage, result, same, idle, -, later⟩ :=
        fresh.execute slots tries ⟨message, signal⟩
      rw [result]
      exact ⟨Fresh.addItem later same fun sentAt awaits => absurd awaits (unheard idle _ sentAt),
        same⟩

theorem FreshAt.issue (fresh : FreshAt s.ticks s) (sound : Sound s)
    (messages : List (Option RpcMessage)) (signal : Option Nat) :
    FreshAt s.ticks (s.issue messages signal) := by
  refine (issue_rule
    (I := fun u => u.ticks = s.ticks ∧ SlotsOf u ∧ TriesOf u ∧ FreshAt s.ticks u)
    (fun u message signal ⟨same, slots, tries, fresh⟩ => ?_) ⟨rfl, sound.safe.slots, sound.tries, fresh⟩
    messages signal).2.2.2
  rw [← same] at fresh ⊢
  obtain ⟨later, ticks⟩ := fresh.single slots tries message signal
  exact ⟨ticks, SlotsOf.single slots message signal, TriesOf.single tries message signal, later⟩

theorem FreshAt.shared {id : Nat} {work : Work} (fresh : FreshAt ticks s)
    (known : s.works.get id = some work) (shared : Shared s id work t) : FreshAt ticks t := by
  cases shared with
  | stored execution outcome settledAt stage present done =>
      exact Fresh.store fresh known stage present done
  | cached execution answer settledAt stage present done =>
      have cached := Fresh.cacheReply fresh known stage present done rfl
        (cacheReply_within s work.key ⟨s.now + work.ttl, answer⟩)
      exact Fresh.store cached known stage present done
  | forgotten outcome stage => exact Fresh.forget fresh known stage

theorem FreshAt.step {action : Transport.Action} (fresh : FreshAt s.ticks s) (sound : Sound s)
    (stepped : s.step action = some t) (quiet : LosesWrite s action → ¬SharesReplies s) :
    FreshAt t.ticks t := by
  obtain ⟨u, acted, rfl⟩ := step_act stepped
  change FreshAt (s.ticks + 1) u
  cases action with
  | issue messages signal =>
      cases acted
      exact Fresh.tick (fresh.issue sound messages signal)
  | resume item =>
      obtain ⟨execution, known, resumed⟩ := resume_cases acted
      exact fresh.resumed sound known resumed quiet
  | storeWork id =>
      obtain ⟨work, known, shared⟩ := storeWork_cases acted
      exact Fresh.tick (fresh.shared known shared)
  | forgetWork id =>
      obtain ⟨work, known, shared⟩ := forgetWork_cases acted
      exact Fresh.tick (fresh.shared known shared)
  | enterPacing id =>
      obtain ⟨request, known, progressed⟩ := enterPacing_cases acted
      exact Fresh.tick (fresh.progress sound.safe.slots rfl known progressed)
  | takeTurn =>
      obtain ⟨id, request, known, progressed⟩ := takeTurn_cases acted
      exact Fresh.tick (fresh.progress sound.safe.slots rfl known progressed)
  | launch id =>
      obtain ⟨request, known, progressed⟩ := launch_cases acted
      exact Fresh.tick (fresh.progress sound.safe.slots rfl known progressed)
  | respond id upstream =>
      obtain ⟨request, known, progressed⟩ := respond_cases acted
      exact Fresh.tick (fresh.progress sound.safe.slots rfl known progressed)
  | checkProbe id =>
      obtain ⟨probe, -, probed⟩ := checkProbe_cases acted
      cases probed <;> exact Fresh.tick fresh
  | clearProbe id =>
      obtain ⟨probe, -, probed⟩ := clearProbe_cases acted
      cases probed <;> exact Fresh.tick fresh
  | abort signal =>
      cases acted
      exact Fresh.tick fresh
  | wait ms =>
      cases acted
      exact Fresh.tick (Fresh.wait fresh ms)

end Issues

/-! ## Runs -/

/-- Runs in which no write fails behind its hand-over while replies are shared. -/
inductive QuietReach (endpoints : List String) : Transport → Prop
  | start {s : Transport} (created : createRpcFetch endpoints = .ok s) : QuietReach endpoints s
  | step {s t : Transport} (action : Transport.Action) (before : QuietReach endpoints s)
      (quiet : LosesWrite s action → ¬SharesReplies s) (stepped : s.step action = some t) :
      QuietReach endpoints t

theorem created_fresh {endpoints : List String} {s : Transport}
    (created : createRpcFetch endpoints = .ok s) : FreshAt s.ticks s := by
  unfold createRpcFetch at created
  dsimp only at created
  split at created
  · nomatch created
  · cases created
    have empty {T : Type} {P : Prop} {id : Nat} {value : T}
        (known : (Store.empty : Store Nat T).get id = some value) : P := by
      rw [Store.get_empty] at known
      nomatch known
    exact
      { requested := fun _ _ _ _ _ known => empty known
        stamped := fun _ _ known => empty known
        unsettled := fun _ _ _ known => empty known
        settled := fun _ _ ⟨_, _, known, _⟩ => empty known
        issued := fun _ _ known => empty known
        given := fun _ _ _ known => empty known
        cachedKeys := fun _ member => absurd member List.not_mem_nil
        cached := fun _ member => absurd member List.not_mem_nil
        pendingKeys := fun _ member => absurd member List.not_mem_nil
        pendingOnce := List.nodup_nil
        pended := fun _ member => absurd member List.not_mem_nil
        running := fun _ _ known => empty known
        finished := fun _ _ _ known => empty known }

theorem QuietReach.reach {endpoints : List String} {s : Transport}
    (reach : QuietReach endpoints s) : Reach endpoints s := by
  induction reach with
  | start created => exact .start created
  | step action before quiet stepped ih => exact .step action ih stepped

theorem QuietReach.fresh {endpoints : List String} {s : Transport}
    (reach : QuietReach endpoints s) : FreshAt s.ticks s := by
  induction reach with
  | start created => exact created_fresh created
  | step action before quiet stepped ih => exact ih.step before.reach.sound stepped quiet

theorem FreshAt.gives {ticks : Nat} {s : Transport} (fresh : FreshAt ticks s) {item : Nat}
    {entry : Item} {answer : Answer} (known : s.items.get item = some entry)
    (answered : s.answerOf item = some (.ok answer)) :
    Gives s.executions s.requests item entry.source answer.sentAt := by
  simp only [Transport.answerOf, known, Option.bind_eq_bind, Option.bind_some] at answered
  cases source : entry.source with
  | cached saved =>
      simp only [source, Option.some_inj, Except.ok.injEq] at answered
      rw [← answered]
      rfl
  | work id =>
      simp only [source] at answered
      obtain ⟨work, there, answered⟩ := Option.bind_eq_some_iff.mp answered
      split at answered
      · next outcome stage =>
          obtain ⟨execution, settledAt, running, done⟩ :=
            fresh.finished id work outcome there (.inr stage)
          cases outcome with
          | error cause => simp [Except.map] at answered
          | ok given =>
              simp only [Except.map, Option.some_inj, Except.ok.injEq] at answered
              refine ⟨execution, running, .inr ⟨given, settledAt, done, ?_⟩⟩
              rw [← answered]
      · nomatch answered
  | execution =>
      simp only [source] at answered
      obtain ⟨execution, there, answered⟩ := Option.bind_eq_some_iff.mp answered
      split at answered
      · next outcome settledAt done =>
          cases Option.some_inj.mp answered
          exact ⟨execution, there, .inr ⟨answer, settledAt, done, rfl⟩⟩
      · nomatch answered

/-- What is answered to a message that was issued behind a write was sent for behind it as well. -/
theorem reads_follow_writes {endpoints : List String} {s : Transport}
    (reach : QuietReach endpoints s) {item write settledAt : Nat} {entry : Item} {answer : Answer}
    (known : s.items.get item = some entry) (answered : s.answerOf item = some (.ok answer))
    (settled : WriteSettled s.executions s.requests write settledAt)
    (earlier : settledAt < entry.issuedAt) : settledAt < answer.sentAt :=
  reach.fresh.given item entry answer.sentAt known (reach.fresh.gives known answered) write
    settledAt settled earlier

end Transport

namespace Sample
open Transport

def loses (s : Client.Transport) : Client.Transport.Action → Bool
  | .resume item => (s.executions.get item).any fun execution =>
      match execution.stage with
      | .requesting _ _ id => !isRead execution.message && (s.requests.get id).any fun request =>
          request.handedAt.isSome &&
            match request.stage with
            | .settled (.error _) => true
            | _ => false
      | _ => false
  | _ => false

def quietStep (s : Client.Transport) (action : Client.Transport.Action) : Option Client.Transport :=
  if loses s action then none else s.step action

theorem quietStep_reach {endpoints : List String} {s t : Client.Transport}
    {action : Client.Transport.Action} (reach : QuietReach endpoints s)
    (stepped : quietStep s action = some t) : QuietReach endpoints t := by
  unfold quietStep at stepped
  split at stepped
  · nomatch stepped
  · next kept =>
      refine .step action reach (fun lost => absurd ?_ kept) stepped
      obtain ⟨item, execution, index, rest, id, request, cause, rfl, known, write, stage, there,
        settled, handed⟩ := lost
      simp [loses, known, stage, write, there, settled, Option.isSome_iff_ne_none, handed]

theorem quiet_of_run {endpoints : List String} {actions : List Client.Transport.Action}
    {t : Client.Transport}
    (run : ((createRpcFetch endpoints).toOption.bind fun s => actions.foldlM quietStep s) = some t) :
    QuietReach endpoints t :=
  run_rule (fun _ => .start) (fun _ _ _ reach stepped => quietStep_reach reach stepped) run

/-- As in `lostWrite`, but the write is answered, and so is the second read. -/
def keptWrite : List Client.Transport.Action :=
  lostWrite.take 22 ++
  [.respond 2 (.replied ⟨none, some (.string "signature"), none⟩), .resume 0,
   .issue [some discovery] none, .resume 5, .enterPacing 6, .wait 300, .takeTurn, .launch 6,
   .respond 6 (.replied ⟨none, some (.other "[]"), none⟩), .resume 5, .storeWork 5, .forgetWork 5]

/-- The answer was asked for at an admissible time. -/
def answeredAt (fine : Nat → Bool) : Option (Except String Answer) → Bool
  | some (.ok answer) => fine answer.sentAt
  | _ => false

def doneAt (time : Nat) : ExecutionStage → Bool
  | .done _ settledAt => decide (settledAt = time)
  | _ => false

theorem answeredAt_eq {fine : Nat → Bool} {result : Option (Except String Answer)}
    (answered : answeredAt fine result = true) :
    ∃ answer, result = some (.ok answer) ∧ fine answer.sentAt = true := by
  unfold answeredAt at answered
  split at answered
  · exact ⟨_, rfl, answered⟩
  · cases answered

theorem doneAt_eq {time : Nat} {stage : ExecutionStage} (ended : doneAt time stage = true) :
    ∃ outcome, stage = .done outcome time := by
  unfold doneAt at ended
  split at ended
  · exact ⟨_, congrArg _ (of_decide_eq_true ended)⟩
  · cases ended

theorem kept_write_is_followed : ∃ s entry answer settledAt, QuietReach ["rpc"] s ∧
    s.items.get 5 = some entry ∧ isRead entry.message = true ∧
    s.answerOf 5 = some (.ok answer) ∧ WriteSettled s.executions s.requests 0 settledAt ∧
    settledAt < entry.issuedAt ∧ settledAt < answer.sentAt := by
  have reached : (((createRpcFetch ["rpc"]).toOption.bind fun s => keptWrite.foldlM quietStep s).any
      fun s =>
        ((s.items.get 5).any fun entry => isRead entry.message && decide (entry.issuedAt = 24)) &&
        answeredAt (fun _ => true) (s.answerOf 5) &&
        ((s.executions.get 0).any fun execution => !isRead execution.message &&
          doneAt 23 execution.stage) &&
        (s.requests.get 2).any fun request =>
          decide (request.owner = .item 0) && request.handedAt.isSome) = true := by decide +kernel
  obtain ⟨s, run, shown⟩ := (Option.any_eq_true _ _).mp reached
  simp only [Bool.and_eq_true, Option.any_eq_true, decide_eq_true_eq] at shown
  obtain ⟨⟨⟨⟨entry, known, read, issued⟩, answered⟩, ⟨execution, running, write, ended⟩⟩,
    ⟨request, sent, owner, handed⟩⟩ := shown
  obtain ⟨answer, given, -⟩ := answeredAt_eq answered
  obtain ⟨outcome, done⟩ := doneAt_eq ended
  have settled : WriteSettled s.executions s.requests 0 23 :=
    ⟨execution, outcome, running, by simpa using write, done, 2, request, sent, owner,
      by simpa [Option.isSome_iff_ne_none] using handed⟩
  have earlier : 23 < entry.issuedAt := by omega
  exact ⟨s, entry, answer, 23, quiet_of_run run, known, read, given, settled, earlier,
    reads_follow_writes (quiet_of_run run) known given settled earlier⟩

/-- The reply to the second read was sent for before the write failed. -/
theorem lost_write_is_read_past : ¬∀ endpoints s, Reach endpoints s →
    ∀ item entry answer write settledAt, s.items.get item = some entry →
      isRead entry.message = true → s.answerOf item = some (.ok answer) →
      WriteSettled s.executions s.requests write settledAt → settledAt < entry.issuedAt →
      settledAt < answer.sentAt := by
  intro claim
  have reached : (lostWriteRun.any fun s =>
      ((s.items.get 5).any fun entry => isRead entry.message && decide (entry.issuedAt = 24)) &&
      answeredAt (fun sentAt => decide (sentAt = 17)) (s.answerOf 5) &&
      ((s.executions.get 0).any fun execution => !isRead execution.message &&
        doneAt 23 execution.stage) &&
      (s.requests.get 2).any fun request =>
        decide (request.owner = .item 0) && request.handedAt.isSome) = true := by decide +kernel
  obtain ⟨s, run, shown⟩ := (Option.any_eq_true _ _).mp reached
  simp only [Bool.and_eq_true, Option.any_eq_true, decide_eq_true_eq] at shown
  obtain ⟨⟨⟨⟨entry, known, read, issued⟩, answered⟩, ⟨execution, running, write, ended⟩⟩,
    ⟨request, sent, owner, handed⟩⟩ := shown
  obtain ⟨answer, given, early⟩ := answeredAt_eq answered
  obtain ⟨outcome, done⟩ := doneAt_eq ended
  have early := of_decide_eq_true early
  have past := claim ["rpc"] s (reach_of_run run) 5 entry answer 0 23 known read given
    ⟨execution, outcome, running, by simpa using write, done, 2, request, sent, owner,
      by simpa [Option.isSome_iff_ne_none] using handed⟩ (by omega)
  omega

end Sample

end Tidebook.Proof
