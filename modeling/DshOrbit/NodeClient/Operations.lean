import DshOrbit.NodeClient.Store

/-!
# The operations of a node client

The client of a node (`node/client.mjs`): joining a Hub, heartbeats, reports, the
rotation of its key with the recovery of one that was cut off, and re-enrollment.
Every operation that changes an identity writes its intent before its request.

## Main definitions

- `enroll`, `pair`, `reenroll`
- `heartbeatAs`, `uploadReport`
- `rotateCredential`, `recoverPendingRotation`, `promoteRotation`
- `Operation` — the operations a program around the client starts
-/

namespace DshOrbit.NodeClient

open DshOrbit.Lib DshOrbit.Protocol DshOrbit.Registry

variable (settings : Settings) (draws : Draws)

/-! ### Hub binding -/

/-- The binding of an intent against the configured Hub. -/
def checkPendingBinding (label verb : String) (pending : Option PendingJoin) :
    Except String Unit :=
  match pending with
  | none => .ok ()
  | some pending =>
    if pending.hubBaseUrl ≠ "" ∧ pending.hubBaseUrl ≠ settings.baseHubUrl then
      .error ("pending " ++ label ++ " is bound to " ++ pending.hubBaseUrl ++
        " but the runtime configuration targets " ++ settings.baseHubUrl ++
        "; refusing to replay " ++ verb ++ " against another Hub")
    else .ok ()

def enforceBinding (s : NodeStore) : Except String Unit :=
  match s.state with
  | .unenrolled => do
    checkPendingBinding settings "enrollment" "enrollment" s.pendingEnrollment
    checkPendingBinding settings "pairing" "pairing" s.pendingPairing
  | _ =>
    match s.hubBaseUrl with
    | none => .error "store claims an identity but carries no Hub binding"
    | some "" => .error "store claims an identity but carries no Hub binding"
    | some hubBaseUrl =>
      match settings.canonicalHubBaseUrl hubBaseUrl with
      | .error _ => .error ("persisted Hub binding is invalid: " ++ hubBaseUrl)
      | .ok persisted =>
        if persisted ≠ settings.baseHubUrl then
          .error ("Hub binding mismatch: store is bound to " ++ persisted ++
            " but the runtime configuration targets " ++ settings.baseHubUrl ++
            "; refusing to talk to another Hub")
        else .ok ()

/-- A check that may throw. -/
def check {α : Type} : Except String α → Program α
  | .ok value => .done value
  | .error message => .fail message

/-! ### Joining -/

/-- `pending` of an enrollment or a pairing: the one that is stored, else a new one, which is
stored before anything else happens. -/
def joinIntent (stored : NodeStore → Option PendingJoin)
    (withIntent : NodeStore → PendingJoin → NodeStore) : Program PendingJoin := do
  let s ← Task.store
  match stored s with
  | some pending => return pending
  | none =>
    let pending : PendingJoin :=
      ⟨draws.entropy.randomHex 0 16, draws.entropy.keyPair, settings.baseHubUrl⟩
    Task.write (withIntent s pending)
    return pending

/-- The store of a node that has joined. -/
def joinedStore (s : NodeStore) (nodeId : String) (keys : KeyPair) (routeMode : RouteMode) :
    NodeStore :=
  { s with
    nodeId := some nodeId
    keys := some keys
    hubBaseUrl := some settings.baseHubUrl
    hubRouteKeys := none
    state := .active
    rotation := none
    routeMode := some routeMode }

/-- The error of a refused or lost join. -/
def joinError {α : Type} (label : String) (reply : Reply α) : String :=
  let (code, message) := reply.wireError
  match reply with
  | .unreachable _ => label ++ " outcome unknown (network failure): retry with the same " ++
      label ++ " token (" ++ message ++ ")"
  | _ => label ++ " denied: " ++ code ++ " (" ++ message ++ ")"

def enroll (token : String) : Program EnrollmentResult := do
  let s ← Task.store
  if s.state ≠ .unenrolled then
    Task.fail ("enrollment requires an unenrolled store (state is " ++ s.state.text ++ ")")
  else if !isToken token then Task.fail "enrollment token must be 32 lowercase hex characters"
  else do
    let pending ← joinIntent settings draws (·.pendingEnrollment) fun s pending =>
      { s with pendingEnrollment := some pending }
    let s ← Task.store
    check (enforceBinding settings s)
    let response : Reply EnrollmentResult ← Task.request
      (Ask.enroll ⟨some token, some pending.requestId, some pending.keys.publicKeyHex, "system"⟩)
    match response with
    | .ok body =>
      if body.keyId ≠ keyIdOf settings.crypto pending.keys then
        Task.fail ("hub returned keyId " ++ quoteJson body.keyId ++
          " that does not match the enrolled public key")
      else do
        let s ← Task.store
        Task.write
          { joinedStore settings s body.nodeId pending.keys .direct with pendingEnrollment := none }
        return body
    | reply => Task.fail (joinError "enrollment" reply)

/-- The text of the transport parameters that a pairing result carries. -/
def pairingProblem (reverse : Option (RouteMode × String × String)) : Option String :=
  match reverse with
  | some (.reverse, _, "orbit-reverse-v1") => none
  | some (routeMode, _, protocol) =>
    some ("hub returned an unexpected pairing result (routeMode " ++ quoteJson routeMode.text ++
      ", protocol " ++ quoteJson protocol ++ ")")
  | none =>
    some "hub returned an unexpected pairing result (routeMode undefined, protocol undefined)"

/-- The check of the Hub that a pairing result names. -/
def checkPairingTarget (hubBaseUrl : String) : Except String Unit :=
  match settings.canonicalHubBaseUrl hubBaseUrl with
  | .error _ => .error ("hub returned an invalid hubBaseUrl " ++ quoteJson hubBaseUrl)
  | .ok responseBinding =>
    if responseBinding ≠ settings.baseHubUrl then
      .error ("hub returned hubBaseUrl " ++ responseBinding ++
        " that does not match the pairing target " ++ settings.baseHubUrl)
    else .ok ()

/-- The checks of a pairing result. -/
def checkPairing (pending : PendingJoin) (body : EnrollmentResult) : Except String Unit :=
  if body.keyId ≠ keyIdOf settings.crypto pending.keys then
    .error ("hub returned keyId " ++ quoteJson body.keyId ++
      " that does not match the paired public key")
  else
    match pairingProblem body.reverse with
    | some problem => .error problem
    | none => checkPairingTarget settings ((body.reverse.map (·.2.1)).getD "")

def pair (token : String) : Program EnrollmentResult := do
  let s ← Task.store
  if s.state ≠ .unenrolled then
    Task.fail ("pairing requires an unenrolled store (state is " ++ s.state.text ++ ")")
  else if !isToken token then Task.fail "pairing token must be 32 lowercase hex characters"
  else if s.pendingEnrollment.isSome then
    Task.fail "store carries a pending enrollment; pairing is not available"
  else do
    let pending ← joinIntent settings draws (·.pendingPairing) fun s pending =>
      { s with pendingPairing := some pending }
    let s ← Task.store
    check (enforceBinding settings s)
    let response : Reply EnrollmentResult ← Task.request
      (Ask.pair ⟨some token, some pending.requestId, some pending.keys.publicKeyHex, "system"⟩)
    match response with
    | .ok body => do
      check (checkPairing settings pending body)
      let s ← Task.store
      Task.write
        { joinedStore settings s body.nodeId pending.keys .reverse with pendingPairing := none }
      return body
    | reply => Task.fail (joinError "pairing" reply)

/-! ### Signed requests -/

def heartbeatPath : String := "/api/v1/heartbeat"
def reportPath : String := "/api/v1/report-upload"
def rotatePath : String := "/api/v1/credential-rotate"
def reenrollPath : String := "/api/v1/reenroll"

/-- `String(Math.trunc(now / 1000))`. -/
def timestampText (now : ℤ) : String := toString (now.tdiv 1000)

def bodyHash (body : Json) : String := sha256Hex settings.crypto (utf8Bytes body.stringify)

/-- The `n`-th signed request of an operation: the text that is signed and the headers have the
same timestamp and nonce. -/
def signedRequest (n : ℕ) (path : String) (nodeId : Option String) (keyId keyHex : String)
    (body : Json) : MachineRequest :=
  let timestamp := timestampText (draws.now n)
  let nonce := draws.entropy.randomHex n 16
  let signature := settings.sign keyHex (buildSigningString
    { label := machineV1Label
      method := "POST"
      path, timestamp, nonce
      bodyHash := bodyHash settings body
      nodeId := nodeId.getD "null" })
  ⟨nodeId, some keyId, "POST", path, some timestamp, some nonce, bodyHash settings body,
    some signature⟩

/-! ### Heartbeats and reports -/

inductive HeartbeatState
  | active
  | revoked
  | retrying
  deriving DecidableEq

structure HeartbeatOutcome where
  state : HeartbeatState
  ok : Bool
  error : Option (String × String) := none

/-- The trust set of a heartbeat response, where it is to be stored: it came over a trusted
transport, passes its check and is not the one in the store. -/
def nextHubRouteKeys (now : ℤ) (stored : Option (List HubRouteKey)) (received : List HubRouteKey) :
    Option (List HubRouteKey) :=
  if !settings.isTrustedTransport settings.baseHubUrl then none
  else
    match validateHubRouteKeySet settings.crypto
        (some (.arr (received.map HubRouteKey.toJson))) now with
    | .error _ => none
    | .ok validation => if stored = some validation.keys then none else some validation.keys

/-- Store what an accepted heartbeat changes of the transport. -/
def persistTransport (now : ℤ) (response : HeartbeatResponse) : Program Unit := do
  let s ← Task.store
  let routeModeChanged := s.routeMode ≠ some response.routeMode
  let incoming := nextHubRouteKeys settings now s.hubRouteKeys response.hubRouteKeys
  if routeModeChanged ∨ incoming.isSome then
    Task.write
      { s with
        routeMode := if routeModeChanged then some response.routeMode else s.routeMode
        hubRouteKeys := if incoming.isSome then incoming else s.hubRouteKeys }
  else return ()

/-- `this.persist({ ...this.store, state: "revoked" })`. -/
def persistRevoked : Program Unit := do
  let s ← Task.store
  Task.write { s with state := .revoked }

/-- The body of a heartbeat. -/
def heartbeatBody (hubRouteKeys : Option (List HubRouteKey)) : Json :=
  .obj [("runtime", settings.runtimeIdentity),
    ("acceptedHubRouteKeyIds", .arr ((hubRouteKeys.getD []).map fun key => .str key.keyId))]

/-- A heartbeat with an explicit key, as the `n`-th request of its operation. -/
def heartbeatAs (n : ℕ) (keyId keyHex : String) (persistOnRevoked : Bool) :
    Program HeartbeatOutcome := do
  let s ← Task.store
  let body := heartbeatBody settings s.hubRouteKeys
  let result : Reply HeartbeatResponse ← Task.request (Ask.heartbeat
    (signedRequest settings draws n heartbeatPath s.nodeId keyId keyHex body) body)
  match result with
  | .ok response => do
    persistTransport settings (draws.now (n + 1)) response
    return ⟨.active, true, none⟩
  | reply =>
    if reply.isRevocation then
      if persistOnRevoked then do
        persistRevoked
        return ⟨.revoked, false, some reply.wireError⟩
      else return ⟨.revoked, false, some reply.wireError⟩
    else
      -- any other outcome is retryable and never writes `revoked`
      return ⟨.retrying, false, some reply.wireError⟩

/-- The main key of the store. -/
def mainKeys : Program KeyPair := do
  let s ← Task.store
  match s.keys with
  | some keys => return keys
  | none =>
    Task.fail "registry wire contract: public key must be 64 lowercase hex chars (got null)"

def heartbeat (n : ℕ) (persistOnRevoked : Bool) : Program HeartbeatOutcome := do
  let keys ← mainKeys
  heartbeatAs settings draws n (keyIdOf settings.crypto keys) keys.privateKeyHex persistOnRevoked

def requireActive : Program Unit := do
  let s ← Task.store
  if s.state ≠ .active then
    Task.fail ("operation requires an active node (state is " ++ s.state.text ++ ")")
  else return ()

def denialText (label : String) (error : String × String) : String :=
  label ++ " denied: " ++ error.1 ++ " (" ++ error.2 ++ ")"

def uploadReport (report : Json) : Program UploadResponse := do
  requireActive
  let s ← Task.store
  let keys ← mainKeys
  let result : Reply UploadResponse ← Task.request (Ask.uploadReport
    (signedRequest settings draws 0 reportPath s.nodeId (keyIdOf settings.crypto keys)
      keys.privateKeyHex report) report)
  match result with
  | .ok body => return body
  | reply =>
    if reply.isRevocation then do
      persistRevoked
      Task.fail (denialText "report upload" reply.wireError)
    else Task.fail (denialText "report upload" reply.wireError)

/-! ### Rotation -/

/-- The end of the overlap that a response names, else the one the client reckons itself. -/
def effectiveOverlap (now : ℤ) (overlapUntil : Option ℤ) : ℤ :=
  overlapUntil.getD (now + settings.rotationOverlapHours * hourMs)

def promoteRotation (now : ℤ) (rotation : PendingRotation) (overlapUntil : Option ℤ) :
    Program Unit := do
  let s ← Task.store
  Task.write
    { s with
      keys := some rotation.newKeys
      rotation := some (.completed rotation.oldKeyId rotation.oldPrivateKeyHex rotation.newKeyId
        (effectiveOverlap settings now overlapUntil)) }

def rotateBody (rotation : PendingRotation) : Json :=
  .obj [("newPublicKey", .str rotation.newKeys.publicKeyHex)]

structure RecoveryOutcome where
  state : HeartbeatState
  ok : Bool
  committedDetected : Bool := false
  resubmitted : Bool := false
  error : Option (String × String) := none

/-- Submit the pending key once more, signed with the old one. -/
def resubmitRotation (n : ℕ) (rotation : PendingRotation) : Program RecoveryOutcome := do
  let s ← Task.store
  let body := rotateBody rotation
  let resubmitted : Reply RotationResponse ← Task.request (Ask.rotateCredential
    (signedRequest settings draws n rotatePath s.nodeId rotation.oldKeyId
      rotation.oldPrivateKeyHex body) body)
  match resubmitted with
  | .ok response => do
    promoteRotation settings (draws.now (n + 1)) rotation (some response.overlapUntil)
    return { state := .active, ok := true, resubmitted := true }
  | reply => return { state := .active, ok := false, error := some reply.wireError }

/-- Commit detection after an uncertain rotation: probe with the pending key, then with the
old one, and submit the same pending key again where only the old one works. -/
def recoverPendingRotation (n : ℕ) (rotation : PendingRotation) : Program RecoveryOutcome := do
  let newProbe ← heartbeatAs settings draws n rotation.newKeyId rotation.newKeys.privateKeyHex false
  if newProbe.ok then do
    promoteRotation settings (draws.now (n + 1)) rotation none
    return { state := .active, ok := true, committedDetected := true }
  else if newProbe.state = .revoked then do
    persistRevoked
    return { state := .revoked, ok := false, error := newProbe.error }
  else do
    let oldProbe ← heartbeatAs settings draws (n + 2) rotation.oldKeyId rotation.oldPrivateKeyHex
      false
    if oldProbe.ok then resubmitRotation settings draws (n + 4) rotation
    else if oldProbe.state = .revoked then do
      persistRevoked
      return { state := .revoked, ok := false, error := oldProbe.error }
    else return { state := .retrying, ok := false, error := oldProbe.error }

/-- The marker of a new rotation. -/
def newRotation (keys : KeyPair) : PendingRotation :=
  ⟨keyIdOf settings.crypto keys, keys.privateKeyHex,
    keyIdOf settings.crypto draws.entropy.keyPair, draws.entropy.keyPair⟩

/-- A rotation from the start: the marker is stored before the request. -/
def beginRotation : Program RecoveryOutcome := do
  let keys ← mainKeys
  let rotation := newRotation settings draws keys
  let s ← Task.store
  Task.write { s with rotation := some (.pending rotation) }
  let s ← Task.store
  let body := rotateBody rotation
  let result : Reply RotationResponse ← Task.request (Ask.rotateCredential
    (signedRequest settings draws 0 rotatePath s.nodeId rotation.oldKeyId keys.privateKeyHex body)
    body)
  match result with
  | .ok response => do
    promoteRotation settings (draws.now 1) rotation (some response.overlapUntil)
    return { state := .active, ok := true }
  | reply =>
    if reply.isRevocation then do
      persistRevoked
      Task.fail (denialText "credential rotation" reply.wireError)
    else Task.fail (denialText "credential rotation" reply.wireError)

def rotateCredential : Program RecoveryOutcome := do
  requireActive
  let s ← Task.store
  match s.pendingRotation with
  | some rotation => recoverPendingRotation settings draws 0 rotation
  | none => beginRotation settings draws

/-! ### Re-enrollment -/

structure Signer where
  keyId : String
  keyHex : String
  pendingNew : Bool

/-- `signerCandidates`: the pending key of a rotation that was under way, then the main key. -/
def signerCandidates (s : NodeStore) (keys : KeyPair) : List Signer :=
  (s.pendingRotation.map fun rotation =>
    ⟨rotation.newKeyId, rotation.newKeys.privateKeyHex, true⟩).toList ++
    [⟨keyIdOf settings.crypto keys, keys.privateKeyHex, false⟩]

def reenrollBody (token : String) (pending : PendingReenrollment) : Json :=
  .obj [("reenrollmentToken", .str token), ("reenrollmentRequestId", .str pending.requestId),
    ("newPublicKey", .str pending.keys.publicKeyHex)]

/-- The request with the proof of one signer. All of them share timestamp, nonce and body. -/
def reenrollRequest (token : String) (pending : PendingReenrollment) (nodeId : Option String)
    (signer : Signer) : ReenrollRequest :=
  let timestamp := timestampText (draws.now 0)
  let nonce := draws.entropy.randomHex 1 16
  let hash := bodyHash settings (reenrollBody token pending)
  let signature := settings.sign signer.keyHex (buildSigningString
    { label := reenrollV1Label
      method := "POST"
      path := reenrollPath
      timestamp, nonce
      bodyHash := hash
      nodeId := nodeId.getD "null" })
  ⟨some token, some pending.requestId, some pending.keys.publicKeyHex, nodeId, some signer.keyId,
    "POST", reenrollPath, some timestamp, some nonce, hash, some signature, "system"⟩

/-- Whether the next candidate is tried after a refusal: nothing was consumed. -/
def fallsBack (signer : Signer) (status : ℕ) (code : String) : Bool :=
  status = 401 ∧ (code = "possession-proof-failed" ∨ code = "key-revoked") ∧ signer.pendingNew

/-- Try the candidates in turn; the answer to the last one tried counts. -/
def proveWith (token : String) (pending : PendingReenrollment) (nodeId : Option String)
    (last : Reply EnrollmentResult) : List Signer → Program (Reply EnrollmentResult)
  | [] => return last
  | signer :: rest => do
    let response : Reply EnrollmentResult ← Task.request
      (Ask.reenroll (reenrollRequest settings draws token pending nodeId signer))
    match response with
    | .unreachable message =>
      Task.fail ("re-enrollment outcome unknown (network failure): retry " ++
        "with the same re-enrollment token (" ++ message ++ ")")
    | .denied status code message =>
      if 300 ≤ status ∧ status < 400 then
        Task.fail "re-enrollment denied: redirect-denied (redirects are forbidden)"
      else if fallsBack signer status code then
        proveWith token pending nodeId (.denied status code message) rest
      else return .denied status code message
    | .ok body => return .ok body

/-- `pending` of a re-enrollment: the one that is stored, else a new one, which is stored
before anything else happens. -/
def reenrollIntent (nodeId : String) : Program PendingReenrollment := do
  let s ← Task.store
  match s.pendingReenrollment with
  | some pending => return pending
  | none =>
    let pending : PendingReenrollment :=
      ⟨draws.entropy.randomHex 0 16, draws.entropy.keyPair, nodeId⟩
    Task.write { s with pendingReenrollment := some pending }
    return pending

/-- The checks of a re-enrollment result. -/
def checkRestored (s : NodeStore) (pending : PendingReenrollment) (body : EnrollmentResult) :
    Except String Unit :=
  if some body.nodeId ≠ s.nodeId then
    .error ("re-enrollment restored a different nodeId (" ++ quoteJson body.nodeId ++ ")")
  else if body.keyId ≠ keyIdOf settings.crypto pending.keys then
    .error ("re-enrollment keyId " ++ quoteJson body.keyId ++
      " does not match the pending public key")
  else .ok ()

def reenroll (token : String) : Program EnrollmentResult := do
  let s ← Task.store
  if s.state ≠ .revoked then
    Task.fail ("re-enrollment requires a revoked node (state is " ++ s.state.text ++ ")")
  else if !isToken token then Task.fail "re-enrollment token must be 32 lowercase hex characters"
  else do
    let pending ← reenrollIntent draws (s.nodeId.getD "null")
    let s ← Task.store
    let keys ← mainKeys
    let response ← proveWith settings draws token pending s.nodeId (.unreachable "")
      (signerCandidates settings s keys)
    match response with
    | .ok body => do
      let s ← Task.store
      check (checkRestored settings s pending body)
      Task.write
        { s with
          keys := some pending.keys
          hubRouteKeys := none
          state := .active
          rotation := none
          pendingReenrollment := none }
      return body
    | reply => Task.fail (denialText "re-enrollment" reply.wireError)

/-! ### Ticks and restarts -/

def tick (due : Bool) : Program Unit := do
  let s ← Task.store
  if s.state ≠ .active then return ()
  else
    match s.pendingRotation with
    | some rotation => do
      let _ ← recoverPendingRotation settings draws 0 rotation
      return ()
    | none =>
      if due then do
        let _ ← heartbeat settings draws 0 true
        return ()
      else return ()

/-- Remove the marker of a rotation whose overlap has ended. -/
def pruneRotation (now : ℤ) : Program Unit := do
  let s ← Task.store
  match s.rotation with
  | some (.completed _ _ _ overlapUntil) =>
    if overlapUntil ≤ now then Task.write { s with rotation := none } else return ()
  | _ => return ()

def recoverAfterRestart : Program Unit := do
  pruneRotation (draws.now 0)
  let s ← Task.store
  if s.state ≠ .active then return ()
  else
    match s.pendingRotation with
    | some rotation => do
      let _ ← recoverPendingRotation settings draws 1 rotation
      return ()
    | none => return ()

/-! ### Operations -/

inductive Operation
  | enroll (token : String)
  | pair (token : String)
  | reenroll (token : String)
  | heartbeat (persistOnRevoked : Bool)
  | uploadReport (report : Json)
  | rotateCredential
  | tick (due : Bool)
  | recoverAfterRestart

/-- An operation with what it reads and draws. -/
structure Command where
  operation : Operation
  draws : Draws

def Program.discard {α : Type} (p : Program α) : Program Unit := do
  let _ ← p
  return ()

def Command.program (command : Command) : Program Unit :=
  let draws := command.draws
  match command.operation with
  | .enroll token => (NodeClient.enroll settings draws token).discard
  | .pair token => (NodeClient.pair settings draws token).discard
  | .reenroll token => (NodeClient.reenroll settings draws token).discard
  | .heartbeat persistOnRevoked => (NodeClient.heartbeat settings draws 0 persistOnRevoked).discard
  | .uploadReport report => (NodeClient.uploadReport settings draws report).discard
  | .rotateCredential => (NodeClient.rotateCredential settings draws).discard
  | .tick due => NodeClient.tick settings draws due
  | .recoverAfterRestart => NodeClient.recoverAfterRestart settings draws

end DshOrbit.NodeClient
