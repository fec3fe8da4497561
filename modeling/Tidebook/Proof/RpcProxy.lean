import Mathlib.Data.List.Perm.Basic
import Tidebook.Client.RpcProxy
import Tidebook.Library.Budget

/-! # The budget of the RPC proxy -/

namespace Tidebook.Proof
open Library Client.Proxy

/-! ## Counting -/

section Counters

variable {proxy : RpcProxy} {peer other : String} {units : Nat}

@[simp] theorem count_setCount : (proxy.setCount peer units).count peer = units := by
  simp [RpcProxy.setCount, RpcProxy.count]

theorem count_setCount_ne (apart : other ≠ peer) :
    (proxy.setCount peer units).count other = proxy.count other := by
  simp [RpcProxy.setCount, RpcProxy.count, Store.get_set_ne _ _ apart]

def Turned (proxy turned : RpcProxy) : Prop :=
  turned = proxy ∨ turned.windowId ≠ proxy.windowId ∧ ∀ peer, turned.count peer = 0

theorem turn_turned (proxy : RpcProxy) (current : Nat) : Turned proxy (proxy.turn current) := by
  unfold RpcProxy.turn
  split
  · next different => exact .inr ⟨different, fun _ => rfl⟩
  · exact .inl rfl

variable {originOf : String → Option String} {programId : String} {endpoint : Option Endpoint}

theorem arrive_cases (originOf : String → Option String) (proxy : RpcProxy) (now : Nat)
    (request : ProxyRequest) : ∃ turned, Turned proxy turned ∧
      ((∃ refusal, arrive originOf proxy now request = (turned, .error refusal)) ∨
        (∃ peer refusal, arrive originOf proxy now request =
          (turned.setCount peer (turned.count peer + 1), .error refusal)) ∨
        ∃ peer, turned.count peer + 1 ≤ 60 ∧ arrive originOf proxy now request =
          (turned.setCount peer (turned.count peer + 1), .ok peer)) := by
  unfold arrive
  split
  · exact ⟨proxy, .inl rfl, .inl ⟨_, rfl⟩⟩
  split
  · exact ⟨proxy, .inl rfl, .inl ⟨_, rfl⟩⟩
  split
  · exact ⟨proxy, .inl rfl, .inl ⟨_, rfl⟩⟩
  refine ⟨proxy.turn (now / 10000), turn_turned proxy _, ?_⟩
  unfold RpcProxy.accept
  split
  · exact .inl ⟨_, rfl⟩
  dsimp only
  split
  · exact .inr (.inl ⟨_, _, rfl⟩)
  · next fits => exact .inr (.inr ⟨_, Nat.le_of_not_lt fits, rfl⟩)

structure Passable (programId : String) (endpoint : Option Endpoint) (batch : List JsonTree) :
    Prop where
  some_messages : 1 ≤ batch.length
  few : batch.length ≤ 25
  valid : ∀ message ∈ batch, valid programId message = true
  upstream : ∃ upstream, endpoint = some upstream ∧ upstream.allowed = true

theorem forward_cases (programId : String) (endpoint : Option Endpoint) (proxy : RpcProxy)
    (peer : String) (payload : Option JsonTree) :
    (∃ refusal, forward programId endpoint proxy peer payload = (proxy, .error refusal)) ∨
      ∃ batch : List JsonTree, 1 ≤ batch.length ∧
        ((∃ refusal, forward programId endpoint proxy peer payload =
          (proxy.setCount peer (proxy.count peer + batch.length - 1), .error refusal)) ∨
        proxy.count peer + batch.length - 1 ≤ 60 ∧ Passable programId endpoint batch ∧
          forward programId endpoint proxy peer payload =
            (proxy.setCount peer (proxy.count peer + batch.length - 1), .ok batch)) := by
  unfold forward
  cases payload with
  | none => exact .inl ⟨_, rfl⟩
  | some tree =>
      dsimp only
      split
      · exact .inl ⟨_, rfl⟩
      next checked =>
        obtain ⟨some_messages, few, valid⟩ : 1 ≤ (batchOf tree).length ∧
            (batchOf tree).length ≤ 25 ∧ (batchOf tree).all (valid programId) = true := by
          simpa only [not_or, Nat.not_lt, Bool.not_eq_false] using checked
        refine .inr ⟨batchOf tree, some_messages, ?_⟩
        split
        · exact .inl ⟨_, rfl⟩
        next fits =>
          cases endpoint with
          | none => exact .inl ⟨_, rfl⟩
          | some upstream =>
              dsimp only
              split
              · next allowed =>
                  exact .inr ⟨Nat.le_of_not_lt fits,
                    ⟨some_messages, few, List.all_eq_true.mp valid, upstream, rfl, allowed⟩, rfl⟩
              · exact .inl ⟨_, rfl⟩

end Counters

/-! ## The budget of a peer -/

def sentTo (sent : List Forwarded) (peer : String) : Nat :=
  ((sent.filter fun entry => entry.peer = peer).map fun entry => entry.batch.length).sum

section Sent

variable {sent : List Forwarded} {peer guest : String} {windowId : Nat} {batch : List JsonTree}

@[simp] theorem sentTo_append_self :
    sentTo (sent ++ [⟨peer, windowId, batch⟩]) peer = sentTo sent peer + batch.length := by
  simp [sentTo]

theorem sentTo_append_ne (other : guest ≠ peer) :
    sentTo (sent ++ [⟨guest, windowId, batch⟩]) peer = sentTo sent peer := by
  simp [sentTo, other]

end Sent

def budgetOf (server : ProxyServer) (peer : String) : Budget where
  count := server.proxy.count peer
  waiting := server.reading.count peer
  done := sentTo server.sent peer
  ended := server.ended

theorem count_eraseIdx_add {items : List String} {index : Nat} {item : String}
    (found : items[index]? = some item) (other : String) :
    items.count other = (items.eraseIdx index).count other + if item = other then 1 else 0 := by
  obtain ⟨inside, rfl⟩ := List.getElem?_eq_some_iff.mp found
  rw [← (List.getElem_cons_eraseIdx_perm inside).count_eq other, List.count_cons]
  simp only [beq_iff_eq]

section Steps

variable (originOf : String → Option String) (programId : String) (endpoint : Option Endpoint)
variable {server base : ProxyServer}

theorem turned_within {turned : RpcProxy} (held : Turned server.proxy turned)
    (within : ∀ peer, (budgetOf server peer).Within 60 (budgetOf base peer)) (peer : String) :
    Budget.Within 60 ⟨turned.count peer, server.reading.count peer, sentTo server.sent peer,
      if turned.windowId = server.proxy.windowId then server.ended else server.ended + 1⟩
      (budgetOf base peer) := by
  rcases held with rfl | ⟨different, empty⟩
  · rw [if_pos rfl]
    exact within peer
  · rw [if_neg different, empty]
    exact (within peer).renew

theorem arrives_within (within : ∀ peer, (budgetOf server peer).Within 60 (budgetOf base peer))
    (now : Nat) (request : ProxyRequest) (peer : String) :
    (budgetOf (server.step originOf programId endpoint (.arrives now request)) peer).Within 60
      (budgetOf base peer) := by
  obtain ⟨turned, held, outcome⟩ := arrive_cases originOf server.proxy now request
  have begun := turned_within held within peer
  -- An arrival that was refused for the budget has been counted all the same.
  rcases outcome with ⟨refusal, done⟩ | ⟨guest, refusal, done⟩ | ⟨guest, fits, done⟩
  · simp only [ProxyServer.step, done, budgetOf]
    exact begun
  · simp only [ProxyServer.step, done, budgetOf]
    by_cases own : peer = guest
    · subst own
      rw [count_setCount]
      exact begun.refuse 1
    · rw [count_setCount_ne own]
      exact begun
  · simp only [ProxyServer.step, done, budgetOf]
    by_cases own : peer = guest
    · subst own
      rw [count_setCount, List.count_append, List.count_singleton_self]
      exact begun.accept fits
    · have still : (server.reading ++ [guest]).count peer = server.reading.count peer := by
        simp [List.count_append, Ne.symm own]
      rw [count_setCount_ne own, still]
      exact begun

theorem reads_within (within : ∀ peer, (budgetOf server peer).Within 60 (budgetOf base peer))
    {index : Nat} {guest : String} (found : server.reading[index]? = some guest)
    (payload : Option JsonTree) (peer : String) :
    (budgetOf (server.step originOf programId endpoint (.reads index payload)) peer).Within 60
      (budgetOf base peer) := by
  have fewer := count_eraseIdx_add found peer
  have outcome := forward_cases programId endpoint server.proxy guest payload
  by_cases own : guest = peer
  · subst own
    have dropped := (within guest).drop
    have left : (server.reading.eraseIdx index).count guest = server.reading.count guest - 1 := by
      rw [if_pos rfl] at fewer
      omega
    rcases outcome with
      ⟨refusal, done⟩ | ⟨batch, some_messages, ⟨refusal, done⟩ | ⟨fits, -, done⟩⟩
    · simp only [ProxyServer.step, found, done, budgetOf, left]
      exact dropped
    · simp only [ProxyServer.step, found, done, budgetOf, left, count_setCount,
        Nat.add_sub_assoc some_messages]
      exact dropped.refuse (batch.length - 1)
    · have waits : 1 ≤ (budgetOf server guest).waiting := by
        rw [if_pos rfl] at fewer
        exact Nat.le.intro (by rw [budgetOf, fewer, Nat.add_comm])
      simp only [ProxyServer.step, found, done, budgetOf, left, count_setCount, sentTo_append_self]
      exact (within guest).charge some_messages waits fits
  · rw [if_neg own, Nat.add_zero] at fewer
    have still := within peer
    rw [budgetOf, fewer] at still
    rcases outcome with ⟨refusal, done⟩ | ⟨batch, -, ⟨refusal, done⟩ | ⟨-, -, done⟩⟩
    · simp only [ProxyServer.step, found, done, budgetOf]
      exact still
    · simp only [ProxyServer.step, found, done, budgetOf, count_setCount_ne (Ne.symm own)]
      exact still
    · simp only [ProxyServer.step, found, done, budgetOf, count_setCount_ne (Ne.symm own),
        sentTo_append_ne own]
      exact still

structure Budgeted (base server : ProxyServer) : Prop where
  within : ∀ peer, (budgetOf server peer).Within 60 (budgetOf base peer)
  passable : ∀ entry ∈ server.sent, entry ∈ base.sent ∨ Passable programId endpoint entry.batch

theorem Budgeted.rfl : Budgeted programId endpoint base base where
  within _ := Budget.Within.rfl
  passable _ member := .inl member

theorem Budgeted.step (held : Budgeted programId endpoint base server) (event : ProxyEvent) :
    Budgeted programId endpoint base (server.step originOf programId endpoint event) := by
  cases event with
  | arrives now request =>
      exact ⟨arrives_within originOf programId endpoint held.within now request, held.passable⟩
  | reads index payload =>
      cases found : server.reading[index]? with
      | none => simpa only [ProxyServer.step, found] using held
      | some guest =>
          refine ⟨reads_within originOf programId endpoint held.within found payload, ?_⟩
          rcases forward_cases programId endpoint server.proxy guest payload with
            ⟨refusal, done⟩ | ⟨batch, -, ⟨refusal, done⟩ | ⟨-, passes, done⟩⟩
          · simpa only [ProxyServer.step, found, done] using held.passable
          · simpa only [ProxyServer.step, found, done] using held.passable
          · simp only [ProxyServer.step, found, done, List.mem_append, List.mem_singleton]
            rintro entry (before | rfl)
            · exact held.passable entry before
            · exact .inr passes

theorem Budgeted.run (held : Budgeted programId endpoint base server) (events : List ProxyEvent) :
    Budgeted programId endpoint base (server.run originOf programId endpoint events) := by
  induction events generalizing server with
  | nil => exact held
  | cons event events ih => exact ih (held.step originOf programId endpoint event)

/-- However requests and bodies interleave from any state on, a peer gets at most 60 messages to
the node for each window, besides those of the bodies it held open at the start, and only messages
that passed the checks. -/
theorem proxy_budget (server : ProxyServer) (events : List ProxyEvent) :
    let later := server.run originOf programId endpoint events
    (∀ peer, sentTo later.sent peer + later.reading.count peer + 60 * server.ended ≤
      sentTo server.sent peer + server.reading.count peer + 60 * (later.ended + 1)) ∧
      ∀ entry ∈ later.sent, entry ∈ server.sent ∨ Passable programId endpoint entry.batch := by
  have start := @Budgeted.rfl programId endpoint server
  have held := start.run originOf programId endpoint events
  exact ⟨fun peer => (held.within peer).bound, held.passable⟩

end Steps

/-! One browser asks for the slot twice, once alone and once in a batch. -/

private def slotRequest : JsonTree :=
  .object [("jsonrpc", .text "2.0"), ("id", .number 1), ("method", .text "getSlot"),
    ("params", .array [])]

private def browserCall : ProxyRequest where
  method := "POST"
  url := "https://tidebook.example/api/rpc"
  origin := none
  contentType := some "application/json; charset=utf-8"
  realIp := some "203.0.113.7"
  forwardedFor := none

private def asked : ProxyServer :=
  ProxyServer.run (fun _ => none) "program" (some ⟨"https:", "api.devnet.solana.com"⟩) .initial
    [.arrives 0 browserCall, .arrives 1 browserCall, .reads 1 (some slotRequest),
      .reads 0 (some (.array [slotRequest, slotRequest]))]

theorem proxy_budget_asked :
    sentTo asked.sent "203.0.113.7" + asked.reading.count "203.0.113.7" ≤ 60 ∧
      asked.sent ≠ [] ∧ ∀ entry ∈ asked.sent,
        Passable "program" (some ⟨"https:", "api.devnet.solana.com"⟩) entry.batch := by
  obtain ⟨within, passable⟩ := proxy_budget (fun _ => none) "program"
    (some ⟨"https:", "api.devnet.solana.com"⟩) .initial
    [.arrives 0 browserCall, .arrives 1 browserCall, .reads 1 (some slotRequest),
      .reads 0 (some (.array [slotRequest, slotRequest]))]
  have bound : sentTo asked.sent "203.0.113.7" + asked.reading.count "203.0.113.7" + 60 * 0 ≤
      0 + 0 + 60 * (asked.ended + 1) := within "203.0.113.7"
  have early : asked.ended = 0 := by decide
  have forwarded : asked.sent.length = 2 := by decide
  refine ⟨?_, fun empty => ?_, fun entry sent => ?_⟩
  · rw [early] at bound
    exact bound
  · rw [empty] at forwarded
    cases forwarded
  · exact (passable entry sent).resolve_left (by simp [ProxyServer.initial])

/-! ## Held bodies

The bound says nothing of a single window: bodies that wait across windows are charged only once
they have been read.
-/

section Held

variable (originOf : String → Option String) (programId : String) (upstream : Endpoint)
variable {request : ProxyRequest} {message : JsonTree} {server : ProxyServer}
variable {windowId counted waiting sent : Nat}

structure Acceptable (originOf : String → Option String) (request : ProxyRequest) : Prop where
  post : request.method = "POST"
  own : ownOrigin originOf request = true
  json : (request.contentType.any fun type => "application/json".toList <:+: type.toList) = true

/-- The server has only one peer, whose messages were all sent in the current window. -/
structure Hoarding (request : ProxyRequest) (message : JsonTree)
    (windowId counted waiting sent : Nat) (server : ProxyServer) : Prop where
  current : server.proxy.windowId = windowId
  counts : server.proxy.count request.peer = counted
  known : server.proxy.peers.get request.peer = none → server.proxy.peers = .empty
  reading : server.reading = List.replicate waiting request.peer
  sent : server.sent = List.replicate sent ⟨request.peer, windowId, [message]⟩
  ended : server.ended = windowId

theorem accept_known {proxy : RpcProxy} {peer : String}
    (known : proxy.peers.get peer = none → proxy.peers = .empty) (fits : proxy.count peer < 60) :
    proxy.accept peer = (proxy.setCount peer (proxy.count peer + 1), .ok peer) := by
  have room : ¬(10000 ≤ proxy.size ∧ proxy.peers.get peer = none) := by
    rintro ⟨full, missing⟩
    simp [RpcProxy.size, known missing] at full
  rw [RpcProxy.accept, if_neg room]
  dsimp only
  rw [if_neg (by omega)]

theorem arrive_accepted (acceptable : Acceptable originOf request) {proxy turned : RpcProxy}
    (turns : proxy.turn windowId = turned)
    (known : turned.peers.get request.peer = none → turned.peers = .empty)
    (fits : turned.count request.peer < 60) :
    arrive originOf proxy (10000 * windowId) request =
      (turned.setCount request.peer (turned.count request.peer + 1), .ok request.peer) := by
  rw [arrive, if_neg (not_not.mpr acceptable.post), if_neg (by simp [acceptable.own]),
    if_neg (not_not.mpr acceptable.json), Nat.mul_div_cancel_left _ (by decide), turns]
  exact accept_known known fits

theorem setCount_known (proxy : RpcProxy) (peer : String) (counted : Nat) :
    (proxy.setCount peer counted).peers.get peer ≠ none := by
  simp [RpcProxy.setCount]

theorem Hoarding.arrives (held : Hoarding request message windowId counted waiting sent server)
    (acceptable : Acceptable originOf request) (fits : counted < 60) :
    Hoarding request message windowId (counted + 1) (waiting + 1) sent
      (server.step originOf programId (some upstream) (.arrives (10000 * windowId) request)) := by
  have same : server.proxy.turn windowId = server.proxy := by
    rw [RpcProxy.turn, if_neg (by simp [held.current])]
  have done := arrive_accepted originOf acceptable same held.known (held.counts ▸ fits)
  rw [held.counts] at done
  simp only [ProxyServer.step, done]
  exact {
    current := held.current
    counts := count_setCount
    known := fun missing => absurd missing (setCount_known _ _ _)
    reading := by rw [held.reading, List.replicate_succ']
    sent := held.sent
    ended := (if_pos rfl).trans held.ended }

theorem Hoarding.turns (held : Hoarding request message windowId counted waiting 0 server)
    (acceptable : Acceptable originOf request) :
    Hoarding request message (windowId + 1) 1 (waiting + 1) 0
      (server.step originOf programId (some upstream)
        (.arrives (10000 * (windowId + 1)) request)) := by
  have next : server.proxy.turn (windowId + 1) = ⟨windowId + 1, .empty⟩ := by
    rw [RpcProxy.turn, if_pos (by simp [held.current])]
  have done := arrive_accepted originOf acceptable next (fun _ => rfl) (Nat.zero_lt_succ 59)
  simp only [ProxyServer.step, done]
  exact {
    current := rfl
    counts := count_setCount
    known := fun missing => absurd missing (setCount_known _ _ _)
    reading := by rw [held.reading, List.replicate_succ']
    sent := held.sent
    ended := by
      rw [if_neg (by simp [RpcProxy.setCount, held.current]), held.ended] }

theorem Hoarding.fills (held : Hoarding request message windowId counted waiting sent server)
    (acceptable : Acceptable originOf request) (more : Nat) (fits : counted + more ≤ 60) :
    Hoarding request message windowId (counted + more) (waiting + more) sent
      (server.run originOf programId (some upstream)
        (List.replicate more (.arrives (10000 * windowId) request))) := by
  induction more generalizing server counted waiting with
  | zero => exact held
  | succ more ih =>
      have one := held.arrives originOf programId upstream acceptable (by omega)
      have rest := ih one (by omega)
      rw [Nat.add_right_comm counted, Nat.add_right_comm waiting] at rest
      exact rest

theorem run_append (first second : List ProxyEvent) :
    server.run originOf programId (some upstream) (first ++ second) =
      (server.run originOf programId (some upstream) first).run originOf programId (some upstream)
        second :=
  List.foldl_append

def crowd (request : ProxyRequest) (windows : Nat) : List ProxyEvent :=
  (List.range windows).flatMap fun window => List.replicate 60 (.arrives (10000 * window) request)

theorem crowd_succ (request : ProxyRequest) (windows : Nat) :
    crowd request (windows + 1) =
      crowd request windows ++ List.replicate 60 (.arrives (10000 * windows) request) := by
  simp [crowd, List.range_succ]

theorem crowd_hoards (message : JsonTree) (acceptable : Acceptable originOf request)
    (windows : Nat) :
    Hoarding request message windows 60 (60 * (windows + 1)) 0
      (ProxyServer.run originOf programId (some upstream) .initial (crowd request (windows + 1))) := by
  rw [crowd_succ, run_append]
  induction windows with
  | zero =>
      have begun : Hoarding request message 0 0 0 0 .initial :=
        ⟨rfl, rfl, fun _ => rfl, rfl, rfl, rfl⟩
      exact begun.fills originOf programId upstream acceptable 60 (by decide)
  | succ windows ih =>
      rw [crowd_succ, run_append]
      have turned := ih.turns originOf programId upstream acceptable
      exact turned.fills originOf programId upstream acceptable 59 (by decide)

theorem forward_single (passes : valid programId message = true) (allowed : upstream.allowed = true)
    {proxy : RpcProxy} {peer : String} (fits : proxy.count peer ≤ 60) :
    forward programId (some upstream) proxy peer (some message) =
      (proxy.setCount peer (proxy.count peer), .ok [message]) := by
  have single : batchOf message = [message] := by
    cases message with
    | array items => simp [valid, JsonTree.isObject] at passes
    | _ => rfl
  simp only [forward, single]
  rw [if_neg (by simp [passes])]
  simp only [List.length_singleton, Nat.add_sub_cancel]
  rw [if_neg (by omega), if_pos allowed]

theorem Hoarding.reads (held : Hoarding request message windowId counted (waiting + 1) sent server)
    (passes : valid programId message = true) (allowed : upstream.allowed = true)
    (fits : counted ≤ 60) :
    Hoarding request message windowId counted waiting (sent + 1)
      (server.step originOf programId (some upstream) (.reads 0 (some message))) := by
  have found : server.reading[0]? = some request.peer := by rw [held.reading]; rfl
  have done := forward_single programId upstream passes allowed (held.counts ▸ fits)
  simp only [ProxyServer.step, found, done]
  exact {
    current := held.current
    counts := count_setCount.trans held.counts
    known := fun missing => absurd missing (setCount_known _ _ _)
    reading := by rw [held.reading]; rfl
    sent := by rw [held.sent, List.replicate_succ', ← held.current]; rfl
    ended := held.ended }

theorem Hoarding.drains (held : Hoarding request message windowId counted waiting sent server)
    (passes : valid programId message = true) (allowed : upstream.allowed = true)
    (fits : counted ≤ 60) :
    Hoarding request message windowId counted 0 (sent + waiting)
      (server.run originOf programId (some upstream)
        (List.replicate waiting (.reads 0 (some message)))) := by
  induction waiting generalizing server sent with
  | zero => exact held
  | succ waiting ih =>
      have one := held.reads originOf programId upstream passes allowed fits
      have rest := ih one
      rw [Nat.add_right_comm] at rest
      exact rest

/-- What is counted is not what is sent: a peer that holds its bodies open across windows gets the
messages of all of them to the node within one. -/
theorem proxy_burst (acceptable : Acceptable originOf request)
    (passes : valid programId message = true) (allowed : upstream.allowed = true) (windows : Nat) :
    let waiting := ProxyServer.run originOf programId (some upstream) .initial
      (crowd request (windows + 1))
    let server := waiting.run originOf programId (some upstream)
      (List.replicate (60 * (windows + 1)) (.reads 0 (some message)))
    (waiting.ended = windows ∧ waiting.sent = [] ∧
      waiting.reading = List.replicate (60 * (windows + 1)) request.peer) ∧
    server.ended = windows ∧ server.reading = [] ∧ server.sent =
      List.replicate (60 * (windows + 1)) ⟨request.peer, windows, [message]⟩ := by
  have held := crowd_hoards originOf programId upstream message acceptable windows
  have drained := held.drains originOf programId upstream passes allowed (Nat.le_refl 60)
  rw [Nat.zero_add] at drained
  exact ⟨⟨held.ended, held.sent, held.reading⟩, drained.ended, drained.reading, drained.sent⟩

section Burst

private theorem browserCall_acceptable : Acceptable (fun _ => none) browserCall :=
  ⟨rfl, rfl, by decide⟩

theorem proxy_burst_slots :
    let waiting := ProxyServer.run (fun _ => none) "program"
      (some ⟨"https:", "api.devnet.solana.com"⟩) .initial (crowd browserCall 3)
    let server := waiting.run (fun _ => none) "program"
      (some ⟨"https:", "api.devnet.solana.com"⟩)
      (List.replicate 180 (.reads 0 (some slotRequest)))
    waiting.ended = 2 ∧ waiting.sent = [] ∧ server.ended = 2 ∧
      server.sent = List.replicate 180 ⟨"203.0.113.7", 2, [slotRequest]⟩ := by
  have passes : valid "program" slotRequest = true := by decide
  obtain ⟨⟨opened, unsent, -⟩, ended, -, sent⟩ := proxy_burst (fun _ => none) "program"
    ⟨"https:", "api.devnet.solana.com"⟩ browserCall_acceptable passes (by decide) 2
  exact ⟨opened, unsent, ended, sent⟩

end Burst
end Held
end Tidebook.Proof
