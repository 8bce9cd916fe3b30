import DshOrbit.Registry.Capabilities
import DshOrbit.Registry.RouteKeys
import DshOrbit.Registry.Enrollment

/-!
# Machine requests

The signed requests of an active node (`registry/registry.mjs`): authentication
with the reservation of the nonce, and the three operations that run after it.
The reservation is a transaction of its own: it stays when the operation fails.

## Main definitions

- `checkMachineRequest`, `authenticateMachine`
- `heartbeatAuthenticated`, `uploadReportAuthenticated`, `rotateCredentialAuthenticated`
-/

namespace DshOrbit.Registry

open DshOrbit.Lib DshOrbit.Protocol

/-! ### Authentication -/

/-- The signed part of a machine request. -/
structure MachineRequest where
  nodeId : Option String
  keyId : Option String
  method : String
  path : String
  timestamp : Option String
  nonce : Option String
  bodyHash : String
  signature : Option String
  deriving DecidableEq

structure MachineFields where
  nodeId : String
  keyId : String
  timestamp : ℤ
  nonce : String
  signature : String
  deriving DecidableEq

/-- The form of the headers. -/
def checkMachineFields (req : MachineRequest) : Attempt MachineFields := do
  let nodeId ← requireString req.nodeId "X-Orbit-Node"
  let keyId ← requireString req.keyId "X-Orbit-Key"
  let signature ← requireString req.signature "X-Orbit-Signature"
  requireWire req.nonce 32 "X-Orbit-Nonce"
  requireWire (some signature) 128 "X-Orbit-Signature"
  requireWire (some keyId) 32 "X-Orbit-Key"
  if !isNodeId nodeId then denied 400 "bad-request" "X-Orbit-Node must be a node_ identifier"
  else
    match parseTimestamp req.timestamp with
    | none =>
      denied 400 "bad-request" "X-Orbit-Timestamp must be an integer Unix epoch string"
    | some timestamp => return ⟨nodeId, keyId, timestamp, req.nonce.getD "", signature⟩

theorem checkMachineFields_ok {req : MachineRequest} {fields : MachineFields}
    (h : checkMachineFields req = .ok fields) :
    fields.nodeId = req.nodeId.getD "" ∧ fields.nonce = req.nonce.getD "" ∧
      parseTimestamp req.timestamp = some fields.timestamp := by
  obtain ⟨nodeId, hnodeId, h⟩ := bind_eq_ok.mp h
  obtain ⟨keyId, -, h⟩ := bind_eq_ok.mp h
  obtain ⟨signature, -, h⟩ := bind_eq_ok.mp h
  obtain ⟨_, -, h⟩ := bind_eq_ok.mp h
  obtain ⟨_, -, h⟩ := bind_eq_ok.mp h
  obtain ⟨_, -, h⟩ := bind_eq_ok.mp h
  split_ifs at h
  · cases h
  · split at h
    case h_1 => cases h
    case h_2 timestamp htimestamp =>
      obtain rfl := Except.ok.inj h
      exact ⟨by rw [(requireString_eq_ok.mp hnodeId).1]; rfl, rfl, htimestamp⟩

/-- Whether a key is accepted at a reading of the clock. -/
def NodeKeyRow.AcceptedAt (key : NodeKeyRow) (now : ℤ) : Prop :=
  key.state = .active ∧ ∀ revokeAfter, key.revokeAfter = some revokeAfter → now < revokeAfter

instance (key : NodeKeyRow) (now : ℤ) : Decidable (key.AcceptedAt now) :=
  match h : key.revokeAfter with
  | none => decidable_of_iff (key.state = .active) (by simp [NodeKeyRow.AcceptedAt, h])
  | some t => decidable_of_iff (key.state = .active ∧ now < t) (by simp [NodeKeyRow.AcceptedAt, h])

/-- `authenticateMachine` up to the reservation of the nonce. -/
def checkMachineRequest (env : Env) (now : Clock) (db : Db) (req : MachineRequest) :
    Attempt (MachineFields × NodeRow × NodeKeyRow) := do
  let fields ← checkMachineFields req
  if ¬InMachineSkew (now 0) fields.timestamp then
    denied 401 "timestamp-out-of-skew" "X-Orbit-Timestamp is outside the 30s skew window"
  else
    match db.getNodeRow fields.nodeId with
    | none => denied 401 "revoked" "node is not an active registry member"
    | some node =>
      if node.state ≠ .active then denied 401 "revoked" "node is not an active registry member"
      else
        match db.getKeyRow fields.nodeId fields.keyId with
        | none => denied 401 "unknown-key" "unknown keyId"
        | some key =>
          if ¬key.AcceptedAt (now 1) then
            denied 401 "key-revoked" "keyId is revoked or past its rotation overlap"
          else
            let signingString := buildSigningString
              { label := machineV1Label
                method := req.method
                path := req.path
                timestamp := req.timestamp.getD "undefined"
                nonce := fields.nonce
                bodyHash := req.bodyHash
                nodeId := fields.nodeId }
            let verified ← orThrow
              (verifySigningString env.crypto key.publicKey signingString fields.signature)
            if !verified then
              denied 401 "signature-invalid"
                "signature does not verify over the ORBIT-MACHINE-V1 signing string"
            else return (fields, node, key)

/-- The node and key of an authenticated request, and the database with its nonce. -/
def authenticateMachine (env : Env) (now : Clock) (db : Db) (req : MachineRequest) :
    Attempt (NodeRow × NodeKeyRow × Db) := do
  let (fields, node, key) ← checkMachineRequest env now db req
  let db ← reserveNonceRow db fields.nodeId fields.nonce (now 2)
  return (node, key, db)

/-! ### Heartbeats -/

/-- `typeof value === "object" && value !== null && !Array.isArray(value)`. -/
def isRecord : Json → Bool
  | .obj _ => true
  | _ => false

def nonEmpty (value : Option Json) : Option String :=
  match value.bind Json.str? with
  | some "" => none
  | text => text

/-- `requireIdentityJson`: the runtime identity of a heartbeat body. -/
def requireIdentityJson (body : Json) : Attempt RuntimeIdentity :=
  if !isRecord body ∨ !((body.field "runtime").any isObject) then
    denied 400 "bad-request" ("heartbeat body must be \x7b runtime: \x7b orbitVersion, " ++
      "orbitRevision?, dshVersion, compatibilityProfile? \x7d \x7d")
  else do
    let runtime := (body.field "runtime").getD .null
    let orbitVersion ← requireString ((runtime.field "orbitVersion").bind Json.str?)
      "runtime.orbitVersion"
    let dshVersion ← requireString ((runtime.field "dshVersion").bind Json.str?)
      "runtime.dshVersion"
    return ⟨orbitVersion, nonEmpty (runtime.field "orbitRevision"), dshVersion,
      nonEmpty (runtime.field "compatibilityProfile")⟩

/-- The value that a contact transition starts from: an aged contact counts as the
state it would have reached by now. -/
def agedContact (config : Config) (now : ℤ) (node : NodeRow) : RegistryContact :=
  match node.lastHeartbeatAt with
  | none => node.registryContact
  | some lastBeat =>
    if heartbeatLostMs < now - lastBeat ∧ node.registryContact ≠ .lost then .lost
    else if heartbeatMissedBeatsStale * config.heartbeatCadenceSeconds * 1000 < now - lastBeat ∧
        node.registryContact = .fresh then .stale
    else node.registryContact

namespace Db

def transitionRegistryContact (env : Env) (db : Db) (readAt recordedAt : ℤ) (node : NodeRow)
    (toValue : RegistryContact) (source : String) : Db :=
  (db.recordEvent recordedAt node.nodeId "registry_contact"
    (agedContact env.config readAt node).text toValue.text source).updateNode node.nodeId
    fun row => { row with registryContact := toValue }

/-- The alert flags as one JSON text: an update happens only where they change. -/
def setAlertFlag (db : Db) (nodeId flag : String) : Db :=
  match db.getNodeRow nodeId with
  | none => db
  | some node =>
    if flag ∈ node.alertFlags then db
    else db.updateNode nodeId fun row => { row with alertFlags := node.alertFlags ++ [flag] }

def clearAlertFlag (db : Db) (nodeId flag : String) : Db :=
  match db.getNodeRow nodeId with
  | none => db
  | some node =>
    if flag ∈ node.alertFlags then
      db.updateNode nodeId fun row =>
        { row with alertFlags := node.alertFlags.filter fun entry => entry ≠ flag }
    else db

/-- `withholdCapabilities`, with the readings of its two events. -/
def withholdCapabilities (db : Db) (readings : Clock) (nodeId source : String) : Db :=
  match db.getNodeRow nodeId with
  | none => db
  | some current =>
    let aged := current.orbitCompatible = .pass ∨ current.orbitCompatible = .unknown
    let db :=
      if aged then
        db.transitionDimension (readings 0) nodeId "orbit_compatible" (·.orbitCompatible.text)
          "stale" source
      else db
    let db := db.transitionDimension (readings 1) nodeId "dsh_healthy" (·.dshHealthy.text)
      "unknown" source
    db.updateNode nodeId fun row =>
      { row with
        orbitCompatible :=
          if row.orbitCompatible = .pass ∨ row.orbitCompatible = .unknown then .stale
          else row.orbitCompatible
        dshHealthy := .unknown
        capabilitiesStale := true }

end Db

structure HeartbeatResponse where
  heartbeatCadenceSeconds : ℤ
  routeMode : RouteMode
  hubRouteKeys : List HubRouteKey
  deriving DecidableEq

/-- The contact and the runtime identity of a heartbeat, before its key exchange. -/
def recordHeartbeat (env : Env) (now : Clock) (db : Db) (node : NodeRow)
    (runtime : RuntimeIdentity) : Db :=
  let nodeId := node.nodeId
  let current := (db.getNodeRow nodeId).getD node
  let db := db.transitionRegistryContact env (now 3) (now 4) current .fresh "heartbeat"
  let db := db.clearAlertFlag nodeId "contact-lost"
  let db := db.updateNode nodeId fun row =>
    { row with
      lastSeen := some (now 5)
      lastSeenSource := some "heartbeat"
      lastHeartbeatAt := some (now 5)
      runtime }
  match db.getLatestReport nodeId with
  | none => db
  | some latest =>
    if latest.identity = runtime then db
    else db.withholdCapabilities (now.drop 6) nodeId "heartbeat"

/-- The acknowledgement of a heartbeat body, where it carries one. -/
def recordAcknowledgement (env : Env) (now : Clock) (db : Db) (nodeId : String)
    (acceptedHubRouteKeyIds : Option Json) : Db :=
  match acceptedHubRouteKeyIds.bind Json.arr? with
  | none => db
  | some ids => db.acknowledgeHubRouteKeys env (now 8) (now 9) (now 10) nodeId ids

def heartbeatAuthenticated (env : Env) (entropy : Entropy) (now : Clock) (db : Db) (node : NodeRow)
    (rawBody : Option Json) : Attempt (HeartbeatResponse × Db) := do
  let body ← parseJsonBody rawBody
  let runtime ← requireIdentityJson body
  let nodeId := node.nodeId
  let current := (db.getNodeRow nodeId).getD node
  let db := recordHeartbeat env now db node runtime
  let db := recordAcknowledgement env now db nodeId (body.field "acceptedHubRouteKeyIds")
  let (_, db) ← db.ensureHubRouteKey env entropy (now 11) (now 12) nodeId
  return (⟨env.config.heartbeatCadenceSeconds, current.routeMode,
    db.getHubRouteKeysForNode nodeId⟩, db)

/-! ### Reports -/

structure UploadResponse where
  capabilities : List Capability
  dshHealthy : DshHealthy
  orbitCompatible : OrbitCompatible
  deriving DecidableEq

def uploadReportAuthenticated (env : Env) (now : Clock) (db : Db) (node : NodeRow)
    (rawBody : Option Json) : Attempt (UploadResponse × Db) := do
  let input ← parseJsonBody rawBody
  match env.createCompatibilityReport input with
  | .error message => denied 400 "invalid-report" message
  | .ok report =>
    let nodeId := node.nodeId
    let runtime := ((db.getNodeRow nodeId).getD node).runtime
    let runtimeUnset := runtime.orbitVersion = ""
    let fresh := runtimeUnset ∨ report.identity = runtime
    let dshHealthy := if fresh then deriveDshHealthy report else .unknown
    let orbitCompatible := if fresh then deriveOrbitCompatible report else .stale
    db.requireNode nodeId
    let uploaded : Db := { db with
      reports := db.reports ++ [⟨db.nextReportId, nodeId, now 3, report.identity, report⟩]
      nextReportId := db.nextReportId + 1 }
    let uploaded := uploaded.insertEvent (now 3) nodeId "report" "uploaded"
      (toString db.nextReportId) "report-upload"
    let uploaded := uploaded.transitionDimension (now 4) nodeId "dsh_healthy" (·.dshHealthy.text)
      dshHealthy.text "report-upload"
    let uploaded := uploaded.transitionDimension (now 5) nodeId "orbit_compatible"
      (·.orbitCompatible.text) orbitCompatible.text "report-upload"
    let uploaded := uploaded.updateNode nodeId fun row =>
      { row with
        lastSeen := some (now 3)
        lastSeenSource := some "report-upload"
        dshHealthy
        orbitCompatible
        capabilities := deriveCapabilities report
        capabilitiesStale := ¬fresh
        -- a report initializes the identity only where no heartbeat has set it
        runtime := if runtimeUnset then report.identity else row.runtime }
    return (⟨if fresh then deriveCapabilities report else [], dshHealthy, orbitCompatible⟩,
      uploaded.recordAudit (now 6) ("node:" ++ nodeId) "node.report-uploaded"
        (.obj [("checkCount", .num report.checks.length), ("fresh", .bool fresh)]))

/-! ### Credential rotation -/

structure RotationResponse where
  oldKeyId : String
  newKeyId : String
  overlapUntil : ℤ
  deriving DecidableEq

/-- `UPDATE node_keys SET revoke_after = ? WHERE node_id = ? AND key_id = ?`. -/
def Db.setRevokeAfter (db : Db) (nodeId keyId : String) (revokeAfter : ℤ) : Db :=
  { db with
    nodeKeys := updateWhere (fun row => row.nodeId = nodeId ∧ row.keyId = keyId)
      (fun row => { row with revokeAfter := some revokeAfter }) db.nodeKeys }

/-- The public key a rotation body carries. -/
def rotationPublicKey (body : Json) : Attempt String :=
  match body with
  | .null => .error (.thrown "Cannot read properties of null (reading 'newPublicKey')")
  | body => do
    let newPublicKey ← requireString ((body.field "newPublicKey").bind Json.str?) "newPublicKey"
    requireWire (some newPublicKey) 64 "newPublicKey"
    return newPublicKey

def rotateCredentialAuthenticated (env : Env) (now : Clock) (db : Db) (node : NodeRow)
    (key : NodeKeyRow) (rawBody : Option Json) : Attempt (RotationResponse × Db) := do
  let body ← parseJsonBody rawBody
  let newPublicKey ← rotationPublicKey body
  let newKeyId ← orThrow (deriveKeyId env.crypto newPublicKey)
  if newKeyId = key.keyId then
    denied 400 "bad-request" "newPublicKey must differ from the current key"
  else
    let revokeAfter := now 4 + env.config.rotationOverlapMs
    let db := db.setRevokeAfter node.nodeId key.keyId revokeAfter
    let db ← db.insertNodeKey
      { nodeId := node.nodeId
        keyId := newKeyId
        publicKey := newPublicKey
        createdAt := now 3 }
    return (⟨key.keyId, newKeyId, revokeAfter⟩,
      db.recordAudit (now 5) ("node:" ++ node.nodeId) "node.credential-rotated"
        (.obj [("oldKeyId", .str key.keyId), ("newKeyId", .str newKeyId),
          ("overlapUntil", .str (toIsoString revokeAfter))]))

end DshOrbit.Registry
