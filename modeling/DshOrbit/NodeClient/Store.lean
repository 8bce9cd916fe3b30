import DshOrbit.Lib.Task
import DshOrbit.Registry.Calls

/-!
# The store of a node client

What a node client keeps on disk (`node/store.mjs`), what it sends to its Hub, and
what it hears in answer.

## Main definitions

- `NodeStore` — the state file
- `Ask`, `Reply` — requests and their answers
- `Settings`, `Draws` — what an operation gets from its surroundings
-/

namespace DshOrbit.NodeClient

open DshOrbit.Lib DshOrbit.Protocol DshOrbit.Registry

/-! ### The state file -/

inductive PersistedState
  | unenrolled
  | active
  | revoked
  deriving DecidableEq

def PersistedState.text : PersistedState → String
  | .unenrolled => "unenrolled"
  | .active => "active"
  | .revoked => "revoked"

/-- `deriveKeyId(publicKeyHex)`, which does not throw on a well-formed key. -/
def keyIdOf (crypto : Crypto) (keys : KeyPair) : String :=
  String.ofList ((sha256Hex crypto (fromHex keys.publicKeyHex.toList)).toList.take 32)

theorem deriveKeyId_keyPair (crypto : Crypto) (keys : KeyPair) :
    deriveKeyId crypto keys.publicKeyHex = .ok (keyIdOf crypto keys) := by
  simp only [deriveKeyId, rawPublicKey, keys.publicKey_wellFormed]
  rfl

/-- A rotation whose outcome is not known yet. -/
structure PendingRotation where
  oldKeyId : String
  oldPrivateKeyHex : String
  newKeyId : String
  newKeys : KeyPair

/-- The rotation marker. A completed one keeps the old key to the end of the overlap. -/
inductive RotationMarker
  | pending (rotation : PendingRotation)
  | completed (oldKeyId oldPrivateKeyHex newKeyId : String) (overlapUntil : ℤ)

/-- The intent of an enrollment or a pairing, with the Hub that it is bound to. -/
structure PendingJoin where
  requestId : String
  keys : KeyPair
  hubBaseUrl : String

structure PendingReenrollment where
  requestId : String
  keys : KeyPair
  nodeId : String

structure NodeStore where
  nodeId : Option String := none
  keys : Option KeyPair := none
  hubBaseUrl : Option String := none
  hubRouteKeys : Option (List HubRouteKey) := none
  state : PersistedState := .unenrolled
  rotation : Option RotationMarker := none
  pendingEnrollment : Option PendingJoin := none
  pendingPairing : Option PendingJoin := none
  pendingReenrollment : Option PendingReenrollment := none
  routeMode : Option RouteMode := none

/-- The rotation that is pending; there is one where `isPendingRotation` holds. -/
def NodeStore.pendingRotation (s : NodeStore) : Option PendingRotation :=
  match s.rotation with
  | some (.pending rotation) => some rotation
  | _ => none

/-! ### Requests and answers -/

/-- The answer of a request: the body of a 200, another status with the code and message
of its body, or none. -/
inductive Reply (α : Type)
  | ok (body : α)
  | denied (status : ℕ) (code message : String)
  | unreachable (message : String)

inductive Ask
  | heartbeat (req : MachineRequest) (body : Json)
  | uploadReport (req : MachineRequest) (body : Json)
  | rotateCredential (req : MachineRequest) (body : Json)
  | enroll (req : EnrollRequest)
  | pair (req : EnrollRequest)
  | reenroll (req : ReenrollRequest)

/-- What the answer of a request carries. -/
def Ask.Body : Ask → Type
  | .heartbeat .. => HeartbeatResponse
  | .uploadReport .. => UploadResponse
  | .rotateCredential .. => RotationResponse
  | .enroll _ => EnrollmentResult
  | .pair _ => EnrollmentResult
  | .reenroll _ => EnrollmentResult

abbrev Ask.Answer (ask : Ask) : Type := Reply ask.Body

/-- The codes that prove a revocation: `REVOCATION_CODES`. -/
def revocationCodes : List String := ["revoked", "key-revoked"]

/-- `status === 401 && isCredentialRevocation(body)`. -/
def Reply.isRevocation {α : Type} : Reply α → Bool
  | .denied status code _ => status = 401 ∧ code ∈ revocationCodes
  | _ => false

/-- `wireError`, as code and message. -/
def Reply.wireError {α : Type} : Reply α → String × String
  | .ok _ => ("http-200", "hub returned HTTP 200")
  | .denied _ code message => (code, message)
  | .unreachable message => ("network", message)

/-- The codes with which only the Hub itself answers. -/
def hubCodes : List String := ["revoked", "key-revoked", "possession-proof-failed"]

/-- An answer that does not come from the registry of the Hub: none, or a denial of a
limiter, a proxy or a redirect. -/
def Reply.Missing {α : Type} : Reply α → Prop
  | .ok _ => False
  | .denied _ code _ => code ∉ hubCodes
  | .unreachable _ => True

/-! ### Surroundings -/

/-- A client: the primitives, its configuration, and what it makes of URLs. -/
structure Settings where
  crypto : Crypto
  sign : (privateKeyHex signingString : String) → String
  baseHubUrl : String
  canonicalHubBaseUrl : String → Except String String
  isTrustedTransport : String → Bool
  runtimeIdentity : Json
  rotationOverlapHours : ℤ

/-- What one operation reads and draws: the clock, random values and a key pair. -/
structure Draws where
  now : Clock
  entropy : Entropy

abbrev Program : Type → Type := Task NodeStore Ask Ask.Answer

end DshOrbit.NodeClient
