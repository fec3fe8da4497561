import Tidebook.Library.Store
import Mathlib.Logic.Function.Basic

/-! # The RPC transport

`createRpcFetch` as the transitions of its event loop. The code between two awaits is one action, and
the order of the actions is free. Upstream outcomes, aborts and the clock are actions as well.
-/

namespace Tidebook.Client
open Library

/-! ## Messages -/

/-- A JSON value; everything but `null` and strings stands as its text. -/
inductive JsonValue where
  | null
  | string (text : String)
  | other (text : String)
  deriving DecidableEq

structure RpcMessage where
  id : JsonValue
  method : List Char
  params : Option JsonValue
  deriving DecidableEq

structure RpcError where
  code : Int
  message : List Char
  deriving DecidableEq

structure RpcReply where
  id : Option JsonValue
  result : Option JsonValue
  error : Option RpcError
  deriving DecidableEq

def devnetGenesis : JsonValue := .string "EtWTRABZaYq6iMfeYKouRu166VU2xqa1wcaWoxPkrZBG"

def clusterCheck : RpcMessage where
  id := .string "tidebook-cluster-check"
  method := "getGenesisHash".toList
  params := none

def isRead (message : RpcMessage) : Bool :=
  "get".toList.isPrefixOf message.method ||
  message.method = "isBlockhashValid".toList ||
  message.method = "simulateTransaction".toList

def ttlOf (message : RpcMessage) : Nat :=
  if message.method = "getProgramAccounts".toList ∨
      message.method = "getSignaturesForAddress".toList then 3000
  else if message.method = "getTransaction".toList then 60000
  else 0

def endsLine (char : Char) : Bool :=
  char = '\n' || char = '\r' || char = '\u2028' || char = '\u2029'

/-- `/rate.limit|too many|unavailable|unhealthy|node.*behind/i`, where `.` is one code unit. -/
def saysBusy (message : List Char) : Bool :=
  let text := message.map Char.toLower
  text.tails.any fun rest =>
    "too many".toList.isPrefixOf rest || "unavailable".toList.isPrefixOf rest ||
    "unhealthy".toList.isPrefixOf rest ||
    ("rate".toList.isPrefixOf rest &&
      (rest.drop 4).head?.any (fun char => !endsLine char && decide (char.toNat < 0x10000)) &&
      "limit".toList.isPrefixOf (rest.drop 5)) ||
    ("node".toList.isPrefixOf rest &&
      ((rest.drop 4).takeWhile (!endsLine ·)).tails.any "behind".toList.isPrefixOf)

def isBusy (error : RpcError) : Bool :=
  error.code = 429 || error.code = -32005 || error.code = -32601 || saysBusy error.message

/-! ## State -/

/-- A reply, and the moment at which its request was handed to the upstream. -/
structure Answer where
  reply : RpcReply
  sentAt : Nat

/-- On whose behalf a request is made: for the cluster check of an endpoint or for a message. -/
inductive Owner where
  | probe (index : Nat)
  | item (item : Nat)
  deriving DecidableEq

inductive RequestStage where
  | queued
  | admitted
  | pacing
  | paced
  | sent
  | settled (outcome : Except String RpcReply)

structure Request where
  index : Nat
  message : RpcMessage
  signal : Option Nat
  owner : Owner
  handedAt : Option Nat
  stage : RequestStage

inductive ProbeStage where
  | waiting
  | checked (outcome : Except String Unit)
  | settled (outcome : Except String Unit)

/-- The cluster check of an endpoint, under the id of its request. -/
structure Probe where
  index : Nat
  stage : ProbeStage

structure Endpoint where
  busyUntil : Nat
  wrongCluster : Bool
  verified : Bool
  probe : Option Nat

/-- Where `execute` stands, with the endpoints that its loop has not come to yet. -/
inductive ExecutionStage where
  | verifying (index : Nat) (rest : List Nat) (probe : Nat)
  | verified (index : Nat) (rest : List Nat)
  | requesting (index : Nat) (rest : List Nat) (request : Nat)
  | done (outcome : Except String Answer) (settledAt : Nat)

/-- The arguments of `execute`. -/
structure Job where
  message : RpcMessage
  signal : Option Nat

structure Execution extends Job where
  stage : ExecutionStage

/-- `[generation, message.method, message.params]` -/
structure CacheKey where
  generation : Nat
  method : List Char
  params : JsonValue
  deriving DecidableEq

structure Saved where
  validUntil : Nat
  answer : Answer

inductive WorkStage where
  | running
  | stored (outcome : Except String Answer)
  | settled (outcome : Except String Answer)

/-- A read that others may join, under the id of the item that executes it. -/
structure Work where
  key : CacheKey
  ttl : Nat
  stage : WorkStage

inductive Source where
  | cached (answer : Answer)
  | work (item : Nat)
  | execution

/-- One message of a call. -/
structure Item where
  message : RpcMessage
  signal : Option Nat
  issuedAt : Nat
  source : Source

/-- What passes between the transport and the upstreams. -/
inductive Traffic where
  | handed (request : Nat) (owner : Owner) (index : Nat) (message : RpcMessage)
  | answered (request : Nat) (index : Nat) (message : RpcMessage) (reply : RpcReply)
  deriving DecidableEq

/-- `ticks` counts the actions and `trace` records the traffic; no action depends on them. -/
structure Transport where
  urls : List String
  endpoints : Nat → Endpoint
  pending : List (CacheKey × Nat)
  cache : List (CacheKey × Saved)
  preferred : Nat
  generation : Nat
  active : Nat
  waiters : List Nat
  nextStart : Nat
  pacing : List Nat
  requests : Store Nat Request
  probes : Store Nat Probe
  executions : Store Nat Execution
  works : Store Nat Work
  items : Store Nat Item
  nextId : Nat
  now : Nat
  aborted : List Nat
  ticks : Nat
  trace : List Traffic

def createRpcFetch (endpoints : List String) : Except String Transport :=
  let urls := endpoints.eraseDups
  if urls = [] then .error "Configure at least one devnet RPC endpoint"
  else .ok
    { urls
      endpoints := fun _ => ⟨0, false, false, none⟩
      pending := []
      cache := []
      preferred := 0
      generation := 0
      active := 0
      waiters := []
      nextStart := 0
      pacing := []
      requests := .empty
      probes := .empty
      executions := .empty
      works := .empty
      items := .empty
      nextId := 0
      now := 0
      aborted := []
      ticks := 0
      trace := [] }

namespace Transport

variable (s : Transport)

def isAborted (signal : Option Nat) : Bool := signal.any (· ∈ s.aborted)

def setEndpoint (index : Nat) (endpoint : Endpoint) : Transport :=
  { s with endpoints := Function.update s.endpoints index endpoint }

def cool (index time : Nat) : Transport :=
  s.setEndpoint index { s.endpoints index with busyUntil := time }

def clearCache : Transport := { s with generation := s.generation + 1, cache := [] }

/-! ## Requests -/

/-- `request`, up to its first await: the slot is taken or waited for. -/
def startRequest (index : Nat) (message : RpcMessage) (signal : Option Nat) (owner : Owner) :
    Transport :=
  let request := { index, message, signal, owner, handedAt := none, stage := .queued : Request }
  if s.active < 3 then
    { s with
      active := s.active + 1
      nextId := s.nextId + 1
      requests := s.requests.set s.nextId { request with stage := .admitted } }
  else
    { s with
      waiters := s.waiters ++ [s.nextId]
      nextId := s.nextId + 1
      requests := s.requests.set s.nextId request }

def setRequest (id : Nat) (request : Request) : Transport :=
  { s with requests := s.requests.set id request }

/-- A slot goes to the first waiter when there is one. -/
def release : Transport :=
  match s.waiters with
  | next :: rest =>
      match s.requests.get next with
      | some request =>
          { s.setRequest next { request with stage := .admitted } with waiters := rest }
      | none => { s with waiters := rest }
  | [] => { s with active := s.active - 1 }

def settleRequest (id : Nat) (request : Request) (outcome : Except String RpcReply) : Transport :=
  (s.setRequest id { request with stage := .settled outcome }).release

/-! ## Executions -/

def setStage (item : Nat) (job : Job) (stage : ExecutionStage) : Transport :=
  { s with executions := s.executions.set item { job with stage } }

/-- The execution returns or throws. -/
def finish (item : Nat) (job : Job) (outcome : Except String Answer) : Transport :=
  s.setStage item job (.done outcome s.ticks)

def startProbe (index : Nat) (signal : Option Nat) : Transport :=
  let started := s.startRequest index clusterCheck signal (.probe index)
  { started.setEndpoint index { s.endpoints index with probe := some s.nextId } with
    probes := s.probes.set s.nextId ⟨index, .waiting⟩ }

/-- `verify`, up to its first await: with the probe that is waited for, if there is one. -/
def verify (index : Nat) (signal : Option Nat) : Except String (Transport × Option Nat) :=
  let state := s.endpoints index
  if state.verified then .ok (s, none)
  else if state.wrongCluster then .error "RPC endpoint is not Solana devnet"
  else match state.probe with
    | some probe => .ok (s, some probe)
    | none => .ok (s.startProbe index signal, some s.nextId)

/-- The loop of `execute` over the endpoints left, up to its next await. -/
def tryEndpoints (s : Transport) (item : Nat) (job : Job) : List Nat → Transport
  | [] =>
      s.finish item job <| .error <|
        if (List.range s.urls.length).all fun index => (s.endpoints index).wrongCluster then
          "Configured RPC endpoints are not Solana devnet"
        else "RPC providers are busy. Please wait a moment, then refresh."
  | index :: rest =>
      if (s.endpoints index).wrongCluster ∨ (s.endpoints index).busyUntil > s.now then
        tryEndpoints s item job rest
      else match s.verify index job.signal with
        | .ok (s, none) => s.setStage item job (.verified index rest)
        | .ok (s, some probe) => s.setStage item job (.verifying index rest probe)
        | .error cause =>
            if s.isAborted job.signal then s.finish item job (.error cause)
            else tryEndpoints (s.cool index (s.now + 30000)) item job rest

/-- The primary, the preferred endpoint and then the others. -/
def order : List Nat := (0 :: s.preferred :: List.range s.urls.length).eraseDups

def execute (item : Nat) (job : Job) : Transport :=
  let s := if isRead job.message then s else s.clearCache
  s.tryEndpoints item job s.order

/-- The request of the endpoint whose verification is through. -/
def requestFrom (item : Nat) (job : Job) (index : Nat) (rest : List Nat) : Transport :=
  (s.startRequest index job.message job.signal (.item item)).setStage item job
    (.requesting index rest s.nextId)

/-- What `execute` makes of a settled request. -/
def requestSettled (item : Nat) (job : Job) (index : Nat) (rest : List Nat)
    (request : Request) : Except String RpcReply → Transport
  | .ok reply =>
      let s := { s with preferred := index }
      let s := if isRead job.message then s else s.clearCache
      s.finish item job (.ok ⟨reply, request.handedAt.getD s.ticks⟩)
  | .error cause =>
      if s.isAborted job.signal then s.finish item job (.error cause)
      else
        let s := s.cool index (max (s.endpoints index).busyUntil (s.now + 10000))
        if isRead job.message then s.tryEndpoints item job rest
        else s.finish item job <| .error <|
          "Transaction RPC request failed. Check your wallet's transaction history " ++
          "before retrying."

def resume (item : Nat) : Option Transport := do
  let execution ← s.executions.get item
  let job := execution.toJob
  match execution.stage with
  | .verified index rest => some (s.requestFrom item job index rest)
  | .verifying index rest probe =>
      match (← s.probes.get probe).stage with
      | .settled (.ok _) => some (s.requestFrom item job index rest)
      | .settled (.error cause) =>
          if s.isAborted job.signal then some (s.finish item job (.error cause))
          else some ((s.cool index (s.now + 30000)).tryEndpoints item job rest)
      | _ => none
  | .requesting index rest id =>
      let request ← s.requests.get id
      match request.stage with
      | .settled outcome => some (s.requestSettled item job index rest request outcome)
      | _ => none
  | .done .. => none

/-! ## Calls -/

def cacheKey (message : RpcMessage) : CacheKey :=
  ⟨s.generation, message.method, message.params.getD .null⟩

def addItem (id : Nat) (message : RpcMessage) (signal : Option Nat) (source : Source) :
    Transport :=
  { s with items := s.items.set id ⟨message, signal, s.ticks, source⟩ }

/-- The execution of a read becomes one that others may join. -/
def shareExecution (id : Nat) (key : CacheKey) (ttl : Nat) : Transport :=
  { s with
    works := s.works.set id ⟨key, ttl, .running⟩
    pending := s.pending ++ [(key, id)] }

/-- `single`, up to its first await. -/
def single (message : RpcMessage) (signal : Option Nat) : Transport :=
  let id := s.nextId
  let key := s.cacheKey message
  let s := { s with nextId := s.nextId + 1 }
  if isRead message ∧ signal = none then
    match (s.cache.lookup key).filter (fun saved => saved.validUntil > s.now) with
    | some saved => s.addItem id message signal (.cached saved.answer)
    | none =>
        match s.pending.lookup key with
        | some work => s.addItem id message signal (.work work)
        | none =>
            ((s.execute id ⟨message, signal⟩).shareExecution id key (ttlOf message)).addItem id
              message signal (.work id)
  else (s.execute id ⟨message, signal⟩).addItem id message signal .execution

/-- A call of the fetch function. A value that has no method fails before anything happens. -/
def issue (messages : List (Option RpcMessage)) (signal : Option Nat) : Transport :=
  messages.foldl (fun s message => message.elim s fun message => s.single message signal) s

/-- The oldest entry makes room, and an entry that is there keeps its place. -/
def cacheReply (key : CacheKey) (saved : Saved) : List (CacheKey × Saved) :=
  let cache := if s.cache.length ≥ 128 then s.cache.drop 1 else s.cache
  if cache.any fun entry => entry.1 = key then
    cache.map fun entry => if entry.1 = key then (key, saved) else entry
  else cache ++ [(key, saved)]

/-- The `then` behind a shared execution. -/
def storeWork (id : Nat) : Option Transport := do
  let work ← s.works.get id
  let execution ← s.executions.get id
  match work.stage, execution.stage with
  | .running, .done outcome _ =>
      let s := { s with works := s.works.set id { work with stage := .stored outcome } }
      match outcome with
      | .ok answer =>
          if work.ttl ≠ 0 ∧ answer.reply.error = none ∧ answer.reply.result ≠ some .null then
            some { s with cache := s.cacheReply work.key ⟨s.now + work.ttl, answer⟩ }
          else some s
      | .error _ => some s
  | _, _ => none

/-- The `finally` behind a shared execution. -/
def forgetWork (id : Nat) : Option Transport := do
  let work ← s.works.get id
  match work.stage with
  | .stored outcome =>
      some { s with
        works := s.works.set id { work with stage := .settled outcome }
        pending := s.pending.filter fun entry => entry.1 ≠ work.key }
  | _ => none

/-- What the promise of a message holds, once it is settled. -/
def answerOf (id : Nat) : Option (Except String Answer) := do
  let item ← s.items.get id
  let named (answer : Answer) : Answer :=
    { answer with reply := { answer.reply with id := some item.message.id } }
  match item.source with
  | .cached answer => some (.ok (named answer))
  | .work work =>
      match (← s.works.get work).stage with
      | .settled outcome => some (outcome.map named)
      | _ => none
  | .execution =>
      match (← s.executions.get id).stage with
      | .done outcome _ => some outcome
      | _ => none

/-! ## Progress of requests and probes -/

/-- A request with its slot joins the pacing chain. -/
def enterPacing (id : Nat) : Option Transport := do
  let request ← s.requests.get id
  match request.stage with
  | .admitted =>
      some { s.setRequest id { request with stage := .pacing } with pacing := s.pacing ++ [id] }
  | _ => none

/-- The turn of the first request of the pacing chain. -/
def takeTurn : Option Transport :=
  match s.pacing with
  | id :: rest =>
      if s.nextStart ≤ s.now then do
        let request ← s.requests.get id
        match request.stage with
        | .pacing =>
            some { s.setRequest id { request with stage := .paced } with
              pacing := rest
              nextStart := s.now + 300 }
        | _ => none
      else none
  | [] => none

def launch (id : Nat) : Option Transport := do
  let request ← s.requests.get id
  match request.stage with
  | .paced =>
      if (s.endpoints request.index).busyUntil > s.now then
        some (s.settleRequest id request (.error "RPC providers are busy"))
      else if s.isAborted request.signal then
        some (s.settleRequest id request (.error "RPC request cancelled"))
      else
        some { s.setRequest id { request with stage := .sent, handedAt := some s.ticks } with
          trace := s.trace ++ [.handed id request.owner request.index request.message] }
  | _ => none

/-- How an upstream fares: it throws, also by the timeout or an abort, it answers with an HTTP error
and the delay it asks for, or it replies. -/
inductive Upstream where
  | failed (cause : String)
  | refused (retryMs : Nat)
  | replied (reply : RpcReply)

def busyText : String := "RPC providers are busy or temporarily unavailable"

def respond (id : Nat) (upstream : Upstream) : Option Transport := do
  let request ← s.requests.get id
  match request.stage with
  | .sent =>
      match upstream with
      | .failed cause => some (s.settleRequest id request (.error cause))
      | .refused retryMs =>
          let s := s.cool request.index (s.now + min 120000 (max 30000 retryMs))
          some (s.settleRequest id request (.error busyText))
      | .replied reply =>
          let answered := Traffic.answered id request.index request.message reply
          let s := { s with trace := s.trace ++ [answered] }
          if reply.error.any isBusy then
            let s := s.cool request.index (s.now + 30000)
            some (s.settleRequest id request (.error busyText))
          else if reply.result = none ∧ reply.error = none then
            some (s.settleRequest id request (.error "Invalid RPC response"))
          else some (s.settleRequest id request (.ok reply))
  | _ => none

/-- The `then` behind the request of a cluster check. -/
def checkProbe (id : Nat) : Option Transport := do
  let probe ← s.probes.get id
  let request ← s.requests.get id
  let state := s.endpoints probe.index
  let checked (s : Transport) (outcome : Except String Unit) : Transport :=
    { s with probes := s.probes.set id { probe with stage := .checked outcome } }
  match probe.stage, request.stage with
  | .waiting, .settled (.error cause) => some (checked s (.error cause))
  | .waiting, .settled (.ok reply) =>
      if reply.error ≠ none then some (checked s (.error "RPC cluster check unavailable"))
      else if reply.result ≠ some devnetGenesis then
        some (checked (s.setEndpoint probe.index { state with wrongCluster := true })
          (.error "RPC endpoint is not Solana devnet"))
      else some (checked (s.setEndpoint probe.index { state with verified := true }) (.ok ()))
  | _, _ => none

/-- The `finally` behind the request of a cluster check. -/
def clearProbe (id : Nat) : Option Transport := do
  let probe ← s.probes.get id
  match probe.stage with
  | .checked outcome =>
      some { s.setEndpoint probe.index { s.endpoints probe.index with probe := none } with
        probes := s.probes.set id { probe with stage := .settled outcome } }
  | _ => none

/-! ## Actions -/

inductive Action where
  | issue (messages : List (Option RpcMessage)) (signal : Option Nat)
  | resume (item : Nat)
  | storeWork (id : Nat)
  | forgetWork (id : Nat)
  | enterPacing (id : Nat)
  | takeTurn
  | launch (id : Nat)
  | respond (id : Nat) (upstream : Upstream)
  | checkProbe (id : Nat)
  | clearProbe (id : Nat)
  | abort (signal : Nat)
  | wait (ms : Nat)

def act : Action → Option Transport
  | .issue messages signal => some (s.issue messages signal)
  | .resume item => s.resume item
  | .storeWork id => s.storeWork id
  | .forgetWork id => s.forgetWork id
  | .enterPacing id => s.enterPacing id
  | .takeTurn => s.takeTurn
  | .launch id => s.launch id
  | .respond id upstream => s.respond id upstream
  | .checkProbe id => s.checkProbe id
  | .clearProbe id => s.clearProbe id
  | .abort signal => some { s with aborted := signal :: s.aborted }
  | .wait ms => some { s with now := s.now + ms }

def step (action : Action) : Option Transport :=
  (s.act action).map fun next => { next with ticks := s.ticks + 1 }

end Transport

end Tidebook.Client
