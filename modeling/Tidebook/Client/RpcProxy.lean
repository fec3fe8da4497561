import Mathlib.Data.List.Infix
import Mathlib.Data.Rat.Defs
import Tidebook.Library.Store

/-! # The RPC proxy

The server side of the client's RPC calls: which requests reach the node, and the budget of each
peer. A request is counted when it arrives and again when its body has been read; requests of
others, and of the same peer, may arrive in between.
-/

namespace Tidebook.Client.Proxy
open Library

/-! ## Messages -/

inductive JsonTree where
  | null
  | flag (value : Bool)
  | number (value : Rat)
  | text (value : String)
  | array (items : List JsonTree)
  | object (fields : List (String × JsonTree))

namespace JsonTree

/-- Of repeated fields the last one counts. -/
def field (tree : JsonTree) (name : String) : Option JsonTree :=
  match tree with
  | .object fields => (fields.reverse.find? fun entry => entry.1 = name).map Prod.snd
  | _ => none

def asText : JsonTree → Option String
  | .text value => some value
  | _ => none

def isObject : JsonTree → Bool
  | .object _ => true
  | _ => false

def arrayLength : JsonTree → Option Nat
  | .array items => some items.length
  | _ => none

end JsonTree

def methods : List String :=
  ["getGenesisHash", "getSlot", "getBlockTime", "getVersion", "isBlockhashValid",
    "getRecentPrioritizationFees", "getAccountInfo", "getMultipleAccounts", "getProgramAccounts",
    "getTokenAccountsByOwner", "getBalance", "getLatestBlockhash", "getBlockHeight",
    "getSignatureStatuses", "getSignaturesForAddress", "getTransaction", "getFeeForMessage",
    "getMinimumBalanceForRentExemption", "sendTransaction", "simulateTransaction"]

def validId : Option JsonTree → Bool
  | some .null | some (.number _) | some (.text _) => true
  | _ => false

/-- A page of signatures asks for at most 20 of them. -/
def validPage : Option JsonTree → Bool
  | some config => match config.field "limit" with
      | some (.number limit) => limit.isInt && decide (1 ≤ limit) && decide (limit ≤ 20)
      | _ => false
  | none => false

def validParams (programId method : String) (params : List JsonTree) : Bool :=
  if method = "getProgramAccounts" then (params[0]?.bind JsonTree.asText) = some programId
  else if method = "getMultipleAccounts" ∨ method = "getSignatureStatuses" then
    (params[0]?.bind JsonTree.arrayLength).any fun length => length ≤ 100
  else if method = "getSignaturesForAddress" then validPage params[1]?
  else true

def paramsOf (input : JsonTree) : Option (List JsonTree) :=
  match input.field "params" with
  | none => some []
  | some (.array items) => some items
  | some _ => none

def valid (programId : String) (input : JsonTree) : Bool :=
  input.isObject && ((input.field "jsonrpc").bind JsonTree.asText = some "2.0") &&
    validId (input.field "id") &&
    ((input.field "method").bind JsonTree.asText).any fun method =>
      methods.contains method && (paramsOf input).any (validParams programId method)

/-! ## Counting -/

structure Refusal where
  status : Nat
  message : String
  deriving DecidableEq

def busy : Refusal := ⟨429, "RPC busy; retry later"⟩

/-- The window that is being counted, with the count of every peer seen in it. -/
structure RpcProxy where
  windowId : Nat
  peers : Store String Nat

namespace RpcProxy

variable (proxy : RpcProxy) (peer : String)

def initial : RpcProxy := ⟨0, .empty⟩

def size : Nat := proxy.peers.total fun _ _ => 1

def count : Nat := (proxy.peers.get peer).getD 0

def setCount (count : Nat) : RpcProxy := { proxy with peers := proxy.peers.set peer count }

def turn (current : Nat) : RpcProxy :=
  if current ≠ proxy.windowId then ⟨current, .empty⟩ else proxy

def accept : RpcProxy × Except Refusal String :=
  if 10000 ≤ proxy.size ∧ proxy.peers.get peer = none then (proxy, .error busy)
  else
    let count := proxy.count peer + 1
    (proxy.setCount peer count, if 60 < count then .error busy else .ok peer)

end RpcProxy

/-! ## Requests -/

structure ProxyRequest where
  method : String
  url : String
  origin : Option String
  contentType : Option String
  realIp : Option String
  forwardedFor : Option String

def ProxyRequest.peer (request : ProxyRequest) : String :=
  (request.realIp.or (request.forwardedFor.bind fun list => (list.splitOn ",").head?)).getD "local"

structure Endpoint where
  protocol : String
  hostname : String
  deriving DecidableEq

def Endpoint.allowed (endpoint : Endpoint) : Bool :=
  endpoint.protocol = "https:" &&
    ["devnet.helius-rpc.com", "api.devnet.solana.com"].contains endpoint.hostname

section Handler

variable (originOf : String → Option String) (programId : String) (endpoint : Option Endpoint)

/-- A browser's request has to come from the page's own origin. -/
def ownOrigin (request : ProxyRequest) : Bool :=
  match request.origin with
  | none => true
  | some origin => origin = "" ||
      ((originOf origin).isSome && originOf origin = originOf request.url)

/-- The handler from a request's arrival until it waits for the body. -/
def arrive (proxy : RpcProxy) (now : Nat) (request : ProxyRequest) :
    RpcProxy × Except Refusal String :=
  if request.method ≠ "POST" then (proxy, .error ⟨405, "POST required"⟩)
  else if ownOrigin originOf request = false then (proxy, .error ⟨403, "Origin not allowed"⟩)
  else if ¬request.contentType.any fun type => "application/json".toList <:+: type.toList then
    (proxy, .error ⟨415, "JSON required"⟩)
  else (proxy.turn (now / 10000)).accept request.peer

def batchOf : JsonTree → List JsonTree
  | .array items => items
  | message => [message]

/-- The handler from the body on: what is forwarded, if anything. There is no payload when the body
is oversized or is not JSON. -/
def forward (proxy : RpcProxy) (peer : String) (payload : Option JsonTree) :
    RpcProxy × Except Refusal (List JsonTree) :=
  match payload with
  | none => (proxy, .error ⟨400, "Invalid or oversized RPC request"⟩)
  | some payload =>
      let batch := batchOf payload
      if batch.length < 1 ∨ 25 < batch.length ∨ batch.all (valid programId) = false then
        (proxy, .error ⟨400, "RPC method or parameters not allowed"⟩)
      else
        let charged := proxy.count peer + batch.length - 1
        let proxy := proxy.setCount peer charged
        if 60 < charged then (proxy, .error busy)
        else match endpoint with
          | none => (proxy, .error ⟨503, "RPC upstream unavailable"⟩)
          | some upstream =>
              if upstream.allowed then (proxy, .ok batch)
              else (proxy, .error ⟨503, "RPC not configured"⟩)

/-! ## The server -/

structure Forwarded where
  peer : String
  windowId : Nat
  batch : List JsonTree

/-- The counters with the requests whose bodies are being read, what was forwarded, and how many
windows have ended, a record that the handler does not read. -/
structure ProxyServer where
  proxy : RpcProxy
  reading : List String
  sent : List Forwarded
  ended : Nat

inductive ProxyEvent where
  | arrives (now : Nat) (request : ProxyRequest)
  | reads (index : Nat) (payload : Option JsonTree)

namespace ProxyServer

def initial : ProxyServer := ⟨.initial, [], [], 0⟩

def step (server : ProxyServer) : ProxyEvent → ProxyServer
  | .arrives now request =>
      let (proxy, answer) := arrive originOf server.proxy now request
      { server with
        proxy := proxy
        reading := match answer with
          | .ok peer => server.reading ++ [peer]
          | .error _ => server.reading
        ended := if proxy.windowId = server.proxy.windowId then server.ended else server.ended + 1 }
  | .reads index payload =>
      match server.reading[index]? with
      | none => server
      | some peer =>
          let (proxy, answer) := forward programId endpoint server.proxy peer payload
          { server with
            proxy := proxy
            reading := server.reading.eraseIdx index
            sent := match answer with
              | .ok batch => server.sent ++ [⟨peer, proxy.windowId, batch⟩]
              | .error _ => server.sent }

def run (server : ProxyServer) (events : List ProxyEvent) : ProxyServer :=
  events.foldl (step originOf programId endpoint) server

end ProxyServer

end Handler
end Tidebook.Client.Proxy
