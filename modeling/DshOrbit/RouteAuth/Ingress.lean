import DshOrbit.RouteAuth.Verify

/-!
# The two ingresses of a node

A route proof reaches a node through its direct route ingress, as an HTTP
request or an upgrade (`node/route-ingress.mjs`), or inside the message that
opens a flow on a reverse channel (`node/reverse-channels.mjs`). Both verify it
against one shared replay cache.

## Main definitions

- `admitRequest`, `admitUpgrade`, `admitOpen` — the checks ahead of verification
- `Arrival` — a proof at one of the three entry points
- `Arrival.handle` — the entry point up to and including verification
-/

namespace DshOrbit.RouteAuth

open DshOrbit.Lib DshOrbit.Protocol

/-! ### The direct ingress -/

/-- What the direct ingress reads from the node while it handles a request. An
empty node id stands for a node that is not enrolled. -/
structure IngressContext where
  enabled : Bool
  forwardHttpEnabled : Bool
  nodeRevoked : Bool
  canAccept : Bool
  nodeId : String
  routeDomain : String
  trustKeys : List HubRouteKey

structure HttpRequest where
  method : String
  url : String
  headers : Headers

/-- Why an entry point did not let an arrival through. -/
inductive IngressFailure
  | httpError (status : ℕ) (code message : String)
  | notReady (status : ℕ) (error : String)
  /-- The channel is closed with 1008, after an `abort` where a code is given. -/
  | channelClosed (code : Option String) (closeReason : String)
  | thrown (message : String)

/-- The request both direct entry points hand to the verifier. -/
def directRouteRequest (ctx : IngressContext) (req : HttpRequest) (method : String) (nowMs : ℤ)
    (expectedRouteAuthority : String) : RouteRequest :=
  { headers := req.headers
    method := method
    rawTarget := req.url
    expectedNodeId := ctx.nodeId
    expectedRouteAuthority := expectedRouteAuthority
    trustKeys := ctx.trustKeys
    nowMs := nowMs }

/-- `RouteIngress.handleRequest` up to the verification. -/
def admitRequest (ctx : IngressContext) (req : HttpRequest) (nowMs : ℤ) :
    Except IngressFailure RouteRequest :=
  if !ctx.enabled then .error (.notReady 503 "ingress_disabled")
  else if !isValidOriginFormTarget req.url then
    .error (.httpError 400 "invalid-target" "only origin-form request-target is supported")
  else if ctx.nodeRevoked then .error (.httpError 401 "revoked" "node is revoked")
  else if ctx.nodeId = "" then .error (.notReady 503 "node_not_enrolled")
  else
    match computeRouteAuthority ctx.nodeId ctx.routeDomain with
    | .error message => .error (.thrown message)
    | .ok expectedRouteAuthority =>
      if !ctx.forwardHttpEnabled ∧ req.url ≠ "/_orbit/route-ready" then
        .error (.httpError 404 "not-found" "only exact /_orbit/route-ready is allowed")
      else .ok (directRouteRequest ctx req req.method nowMs expectedRouteAuthority)

/-- Whether the `upgrade` header names the WebSocket protocol. -/
def isWebSocketUpgrade (headers : Headers) : Bool :=
  match headers.find? fun entry => entry.1 == "upgrade" with
  | some (_, some value) => toLowerCase value == "websocket"
  | _ => false

/-- `RouteIngress.handleUpgrade` up to the verification. -/
def admitUpgrade (ctx : IngressContext) (req : HttpRequest) (nowMs : ℤ) :
    Except IngressFailure RouteRequest :=
  if !ctx.enabled then
    .error (.httpError 503 "ingress-disabled" "route ingress is disabled")
  else if !isWebSocketUpgrade req.headers then
    .error (.httpError 400 "unsupported-upgrade-protocol" "only WebSocket upgrade is supported")
  else if ctx.nodeRevoked then .error (.httpError 401 "revoked" "node is revoked")
  else if !ctx.forwardHttpEnabled then
    .error (.httpError 404 "not-found" "proxying is disabled on this ingress")
  else if !ctx.canAccept then
    .error (.httpError 503 "capacity-exhausted" "Node ingress WebSocket connection limit reached")
  else if !isValidOriginFormTarget req.url then
    .error (.httpError 400 "invalid-target" "only origin-form request-target is supported")
  else if ctx.nodeId = "" then .error (.httpError 503 "not-enrolled" "node is not enrolled")
  else
    match computeRouteAuthority ctx.nodeId ctx.routeDomain with
    | .error message => .error (.thrown message)
    | .ok expectedRouteAuthority =>
      let method := if req.method = "" then "GET" else req.method
      .ok (directRouteRequest ctx req method nowMs expectedRouteAuthority)

/-- The answer to a request whose proof was refused. -/
def httpFailure : RouteFailure → IngressFailure
  | .denied status code message => .httpError status code message
  | .thrown message => .thrown message

/-! ### The reverse channel -/

/-- What the channel pool reads from the node when the Hub opens a flow: whether
the channel is idle, and the node id of the credentials where there are some. -/
structure PoolContext where
  channelIdle : Bool
  credentials : Option String
  routeDomain : String
  trustKeys : List HubRouteKey

/-- `!Array.isArray(entry) || entry.length !== 2`. -/
def isMalformedPair : Json → Bool
  | .arr [_, _] => false
  | _ => true

def isMalformedOpen (message : Json) : Bool :=
  ((message.field "requestId").bind Json.str?).isNone ||
    match (message.field "headers").bind Json.arr? with
    | none => true
    | some headers => headers.any isMalformedPair

/-- The proof of an open message, as headers for the verifier. -/
def openProofHeaders (message : Json) : Headers :=
  let value name := ((message.field "routeProof").bind (Json.field name)).bind Json.str?
  let timestamp := (message.field "routeProof").bind (Json.field "timestamp")
  [("x-orbit-route-node", value "nodeId"), ("x-orbit-route-key", value "keyId"),
    ("x-orbit-route-timestamp", timestamp.map Json.toText),
    ("x-orbit-route-nonce", value "nonce"), ("x-orbit-route-signature", value "signature")]

/-- `ReverseChannelPool.onChannelOpen` up to the verification. -/
def admitOpen (ctx : PoolContext) (message : Json) (nowMs : ℤ) :
    Except IngressFailure RouteRequest :=
  let mode := (message.field "mode").bind Json.str?
  let routeAuthority := ((message.field "routeAuthority").bind Json.str?).getD ""
  if isMalformedOpen message then
    .error (.channelClosed (some "malformed-open") "malformed-open")
  else if mode ≠ some "http" ∧ mode ≠ some "websocket" then
    .error (.channelClosed (some "invalid-mode") "invalid-mode")
  else if !ctx.channelIdle then .error (.channelClosed none "channel-busy")
  else
    match ctx.credentials with
    | none => .error (.thrown "Cannot read properties of null (reading 'nodeId')")
    | some nodeId =>
      match computeRouteAuthority nodeId ctx.routeDomain with
      | .error text => .error (.thrown text)
      | .ok expectedAuthority =>
        if toLowerCase routeAuthority ≠ toLowerCase expectedAuthority then
          .error (.channelClosed (some "authority-mismatch") "proof-denied")
        else
          .ok
            { headers := openProofHeaders message
              method := joinText (message.field "method")
              rawTarget := joinText (message.field "rawTarget")
              expectedNodeId := nodeId
              expectedRouteAuthority := routeAuthority
              trustKeys := ctx.trustKeys
              nowMs := nowMs }

/-- The answer to an open message whose proof was refused. -/
def openFailure : RouteFailure → IngressFailure
  | .denied _ code _ => .channelClosed (some code) "proof-denied"
  | .thrown message => .thrown message

/-! ### Arrivals -/

/-- The entry point a proof arrives at. -/
inductive Entry
  | request (ctx : IngressContext) (req : HttpRequest)
  | upgrade (ctx : IngressContext) (req : HttpRequest)
  | channelOpen (ctx : PoolContext) (message : Json)

/-- A proof at an entry point, with the verifier's reading of the clock and the
cache's own reading after it. -/
structure Arrival where
  entry : Entry
  nowMs : ℤ
  cacheNow : ℤ

namespace Arrival

/-- The request the entry point hands to the verifier. -/
def admission (arrival : Arrival) : Except IngressFailure RouteRequest :=
  match arrival.entry with
  | .request ctx req => admitRequest ctx req arrival.nowMs
  | .upgrade ctx req => admitUpgrade ctx req arrival.nowMs
  | .channelOpen ctx message => admitOpen ctx message arrival.nowMs

/-- The answer of the entry point to a refused proof. -/
def failure (arrival : Arrival) : RouteFailure → IngressFailure :=
  match arrival.entry with
  | .channelOpen _ _ => openFailure
  | _ => httpFailure

/-- One arrival: the answer of its entry point and the cache after it. -/
def handle (crypto : Crypto) (cache : RouteNonceCache) (arrival : Arrival) :
    Except IngressFailure RouteAccepted × RouteNonceCache :=
  match arrival.admission with
  | .error failure => (.error failure, cache)
  | .ok req =>
    let (result, cache') := verifyRouteRequest crypto req cache arrival.cacheNow
    (result.mapError arrival.failure, cache')

end Arrival

end DshOrbit.RouteAuth
