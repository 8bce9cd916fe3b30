import DshOrbit.Registry.RouteKeys

/-!
# Enrollment

The one-time tokens of the registry and the three ways to use one
(`registry/registry.mjs`): enrolling a node, pairing a fresh installation, and
re-enrolling a tombstoned node with a proof of its old key. A token is consumed
in the transaction that records the result; a consumed token only replays it.

## Main definitions

- `mintEnrollmentToken`
- `enroll`, `pair`, `reenroll` — the result of the request and the database after it
- `replayOrDeny` — what a consumed token still answers
-/

namespace DshOrbit.Registry

open DshOrbit.Lib DshOrbit.Protocol

/-! ### Tokens -/

structure MintRequest where
  actor : String
  purpose : Purpose
  boundNodeId : Option String
  ttlSeconds : ℤ := tokenTtlSecondsDefault

structure MintedToken where
  tokenId : String
  token : String
  expiresAt : ℤ
  purpose : Purpose
  boundNodeId : Option String
  deriving DecidableEq

/-- Which node a token of the purpose may be bound to. -/
def checkTokenBinding (db : Db) (req : MintRequest) : Attempt Unit :=
  if req.purpose = .reenroll then do
    let boundNodeId ← requireString req.boundNodeId "boundNodeId"
    if (db.getNodeRow boundNodeId).any fun node => node.state = .tombstoned then .ok ()
    else
      denied 409 "not-tombstoned" "re-enrollment tokens can only be minted for a tombstoned nodeId"
  else if req.boundNodeId.isSome then
    denied 400 "bad-request" (req.purpose.text ++ "-purpose tokens must not carry boundNodeId")
  else .ok ()

def tokenDigestOf (env : Env) (token : String) : String :=
  sha256Hex env.crypto (utf8Bytes token)

def optionJson : Option String → Json
  | some text => .str text
  | none => .null

def mintEnrollmentToken (env : Env) (entropy : Entropy) (now : Clock) (db : Db)
    (req : MintRequest) : Attempt (MintedToken × Db) :=
  if req.ttlSeconds < tokenTtlSecondsMin ∨ tokenTtlSecondsMax < req.ttlSeconds then
    denied 400 "bad-request" ("token TTL must be an integer between " ++
      toString tokenTtlSecondsMin ++ " and " ++ toString tokenTtlSecondsMax ++ " seconds")
  else do
    checkTokenBinding db req
    let plaintextToken := entropy.randomHex 0 16
    let tokenId := "etok_" ++ entropy.randomHex 1 8
    let expiresAt := now 1 + req.ttlSeconds * 1000
    let db ← db.insertToken
      { tokenId
        tokenDigest := tokenDigestOf env plaintextToken
        purpose := req.purpose
        boundNodeId := req.boundNodeId
        createdAt := now 0
        expiresAt }
    return (⟨tokenId, plaintextToken, expiresAt, req.purpose, req.boundNodeId⟩,
      db.recordAudit (now 2) req.actor "hub.tokens.create"
        (.obj [("tokenId", .str tokenId), ("purpose", .str req.purpose.text),
          ("boundNodeId", optionJson req.boundNodeId), ("expiresAt", .str (toIsoString expiresAt))]))

/-- The answer of a consumed token: the recorded result of the same content. -/
def replayOrDeny (db : Db) (entry : TokenRow) (kind : Purpose) (idempotencyKey : String) :
    Attempt EnrollmentResult :=
  match db.getResult idempotencyKey kind with
  | some recorded =>
    if recorded.tokenDigest = entry.tokenDigest then .ok recorded.result
    else denied 401 "token-consumed" "token already consumed by a different enrollment"
  | none => denied 401 "token-consumed" "token already consumed by a different enrollment"

/-! ### Enrolling and pairing -/

/-- A request to enroll or to pair: the token, the request id and the new public key. -/
structure EnrollRequest where
  token : Option String
  requestId : Option String
  publicKey : Option String
  actor : String := "system"

/-- The checked fields of a request. -/
structure EnrollFields where
  token : String
  requestId : String
  publicKey : String

/-- The idempotency content of an enrollment or pairing. -/
def enrollContent (tokenDigest : String) (fields : EnrollFields) : String :=
  tokenDigest ++ ":" ++ fields.requestId ++ ":" ++ fields.publicKey

def checkEnrollFields (req : EnrollRequest) (requestIdLabel : String) : Attempt EnrollFields := do
  let token ← requireString req.token "token"
  let requestId ← requireString req.requestId requestIdLabel
  let publicKey ← requireString req.publicKey "publicKey"
  requireWire (some token) 32 "token"
  requireWire (some requestId) 32 requestIdLabel
  requireWire (some publicKey) 64 "publicKey"
  return ⟨token, requestId, publicKey⟩

/-- The fields as the request gives them; an absent one reads as empty. -/
def EnrollRequest.fields (req : EnrollRequest) : EnrollFields :=
  ⟨req.token.getD "", req.requestId.getD "", req.publicKey.getD ""⟩

structure EnrollFields.WellFormed (fields : EnrollFields) : Prop where
  token : matchesHex 32 fields.token = true
  requestId : matchesHex 32 fields.requestId = true
  publicKey : matchesHex 64 fields.publicKey = true

/-- The check passes exactly on well-formed fields, whatever it calls the request id. -/
theorem checkEnrollFields_eq_ok {req : EnrollRequest} {label : String} {fields : EnrollFields} :
    checkEnrollFields req label = .ok fields ↔ fields = req.fields ∧ fields.WellFormed := by
  constructor
  · intro h
    obtain ⟨token, htoken, h⟩ := bind_eq_ok.mp h
    obtain ⟨requestId, hrequestId, h⟩ := bind_eq_ok.mp h
    obtain ⟨publicKey, hpublicKey, h⟩ := bind_eq_ok.mp h
    obtain ⟨_, hwire, h⟩ := bind_eq_ok.mp h
    obtain ⟨_, hwire', h⟩ := bind_eq_ok.mp h
    obtain ⟨_, hwire'', h⟩ := bind_eq_ok.mp h
    obtain rfl := Except.ok.inj h
    refine ⟨?_, ?_, ?_, ?_⟩
    · rw [EnrollRequest.fields, (requireString_eq_ok.mp htoken).1,
        (requireString_eq_ok.mp hrequestId).1, (requireString_eq_ok.mp hpublicKey).1]
      rfl
    · simpa using requireWire_eq_ok.mp hwire
    · simpa using requireWire_eq_ok.mp hwire'
    · simpa using requireWire_eq_ok.mp hwire''
  · rintro ⟨rfl, htoken, hrequestId, hpublicKey⟩
    have hsome : ∀ {n : ℕ} {value : Option String}, matchesHex (n + 1) (value.getD "") = true →
        value = some (value.getD "") := by
      intro n value h
      cases value with
      | none => exact absurd rfl (ne_empty_of_matchesHex h)
      | some text => rfl
    refine bind_eq_ok.mpr ⟨_, requireString_eq_ok.mpr ⟨hsome htoken, ne_empty_of_matchesHex htoken⟩,
      bind_eq_ok.mpr ⟨_, requireString_eq_ok.mpr ⟨hsome hrequestId,
        ne_empty_of_matchesHex hrequestId⟩, bind_eq_ok.mpr ⟨_, requireString_eq_ok.mpr
        ⟨hsome hpublicKey, ne_empty_of_matchesHex hpublicKey⟩, ?_⟩⟩⟩
    exact bind_eq_ok.mpr ⟨(), requireWire_eq_ok.mpr ⟨_, rfl, htoken⟩, bind_eq_ok.mpr
      ⟨(), requireWire_eq_ok.mpr ⟨_, rfl, hrequestId⟩, bind_eq_ok.mpr
      ⟨(), requireWire_eq_ok.mpr ⟨_, rfl, hpublicKey⟩, rfl⟩⟩⟩

/-- What the two ways to mint a node differ in. -/
structure Admission where
  kind : Purpose
  routeMode : RouteMode
  action : String
  /-- The part of the result that only pairing returns. -/
  reverse : Option (RouteMode × String × String)
  /-- The fields of the audit detail that only pairing adds. -/
  auditExtra : List (String × Json)
  provisionsRouteKey : Bool

/-- The route key that pairing provisions for its node. -/
def Admission.provisionRouteKey (admission : Admission) (env : Env) (entropy : Entropy) (db : Db)
    (createdAt auditedAt : ℤ) (nodeId : String) : Attempt Db :=
  if admission.provisionsRouteKey then
    (db.ensureHubRouteKey env entropy createdAt auditedAt nodeId).map (·.2)
  else .ok db

/-- The transaction that consumes the token and mints a node under a new id. Its
second reading of the token finds what the first one found. -/
def admitNode (env : Env) (entropy : Entropy) (now : Clock) (db : Db) (entry : TokenRow)
    (fields : EnrollFields) (actor : String) (keyId : String) (admission : Admission) :
    Attempt (EnrollmentResult × Db) := do
  let nodeId := "node_" ++ entropy.randomHex 0 16
  let stamp := now 1
  let db := db.consumeToken stamp nodeId entry.tokenId
  let db ← db.insertNode
    { nodeId, mintedAt := stamp, authenticated := .ok, routeMode := admission.routeMode }
  let db ← db.insertNodeKey
    { nodeId, keyId, publicKey := fields.publicKey, createdAt := stamp }
  let db ← admission.provisionRouteKey env entropy db (now 2) (now 3) nodeId
  let result : EnrollmentResult :=
    { nodeId, keyId
      tokenId := entry.tokenId
      heartbeatCadenceSeconds := env.config.heartbeatCadenceSeconds
      reverse := admission.reverse }
  let db ← db.insertResult
    { idempotencyKey := enrollContent entry.tokenDigest fields
      tokenDigest := entry.tokenDigest
      requestId := fields.requestId
      kind := admission.kind
      nodeId, result
      createdAt := stamp }
  return (result, db.recordAudit (now 4) (actor ++ ":" ++ nodeId) admission.action
    (.obj ([("nodeId", .str nodeId), ("keyId", .str keyId), ("tokenId", .str entry.tokenId)] ++
      admission.auditExtra)))

def enrollAdmission : Admission :=
  { kind := .enroll
    routeMode := .direct
    action := "node.enrolled"
    reverse := none
    auditExtra := []
    provisionsRouteKey := false }

def pairAdmission (hubBaseUrl : String) : Admission :=
  { kind := .pair
    routeMode := .reverse
    action := "node.paired"
    reverse := some (.reverse, hubBaseUrl, "orbit-reverse-v1")
    auditExtra := [("routeMode", .str "reverse")]
    provisionsRouteKey := true }

def enroll (env : Env) (entropy : Entropy) (now : Clock) (db : Db) (req : EnrollRequest) :
    Attempt (EnrollmentResult × Db) := do
  let fields ← checkEnrollFields req "enrollmentRequestId"
  match db.getToken (tokenDigestOf env fields.token) with
  | none => denied 401 "unknown-token" "no enrollment token matches"
  | some entry =>
    let content := enrollContent entry.tokenDigest fields
    if entry.purpose ≠ .enroll then
      denied 400 "purpose-mismatch" "token is not an enroll-purpose token"
    else if entry.consumedAt.isSome then
      -- a consumed token is judged by the recorded result, even past its expiry
      let result ← replayOrDeny db entry .enroll content
      return (result, db)
    else if entry.expiresAt ≤ now 0 then
      denied 401 "token-expired" "enrollment token has expired"
    else
      let keyId ← orThrow (deriveKeyId env.crypto fields.publicKey)
      match db.getResult content .enroll with
      | some recorded => return (recorded.result, db)
      | none => admitNode env entropy now db entry fields req.actor keyId enrollAdmission

/-- Whether an active node holds the key. -/
def hasActiveIdentity (db : Db) (keyId publicKey : String) : Bool :=
  db.nodeKeys.any fun row => row.keyId = keyId ∧ row.publicKey = publicKey ∧ row.state = .active ∧
    db.nodes.any fun node => node.nodeId = row.nodeId ∧ node.state = .active

def pair (env : Env) (entropy : Entropy) (now : Clock) (db : Db) (req : EnrollRequest) :
    Attempt (EnrollmentResult × Db) := do
  let fields ← checkEnrollFields req "pairingRequestId"
  match env.config.pairingHubBaseUrl with
  | none => denied 503 "pairing-unconfigured" "pairing requires a configured pairing hub base URL"
  | some hubBaseUrl =>
    match db.getToken (tokenDigestOf env fields.token) with
    | none => denied 401 "unknown-token" "no pairing token matches"
    | some entry =>
      let content := enrollContent entry.tokenDigest fields
      if entry.purpose ≠ .pair then
        denied 400 "purpose-mismatch" "token is not a pair-purpose token"
      else if entry.boundNodeId.isSome then
        denied 400 "bad-request" "pair-purpose tokens must be unbound"
      else if entry.consumedAt.isSome then
        let result ← replayOrDeny db entry .pair content
        return (result, db)
      else if entry.expiresAt ≤ now 0 then
        denied 401 "token-expired" "pairing token has expired"
      else
        match db.getResult content .pair with
        | some recorded => return (recorded.result, db)
        | none =>
          let keyId ← orThrow (deriveKeyId env.crypto fields.publicKey)
          if hasActiveIdentity db keyId fields.publicKey then
            denied 409 "reconcile-required" ("an active node already exists for this node key; " ++
              "pairing cannot duplicate an existing identity")
          else admitNode env entropy now db entry fields req.actor keyId (pairAdmission hubBaseUrl)

/-! ### Re-enrolling -/

structure ReenrollRequest where
  token : Option String
  reenrollmentRequestId : Option String
  newPublicKey : Option String
  nodeId : Option String
  keyId : Option String
  method : String
  path : String
  timestamp : Option String
  nonce : Option String
  bodyHash : String
  signature : Option String
  actor : String := "system"

structure ReenrollFields where
  token : String
  requestId : String
  newPublicKey : String
  nodeId : String
  keyId : String
  nonce : String
  signature : String

def reenrollContent (tokenDigest : String) (fields : ReenrollFields) : String :=
  tokenDigest ++ ":" ++ fields.requestId ++ ":" ++ fields.nodeId ++ ":" ++ fields.newPublicKey

/-- The form of the fields, and the timestamp against the clock. -/
def checkReenrollFields (now : Clock) (req : ReenrollRequest) : Attempt ReenrollFields := do
  let token ← requireString req.token "token"
  let requestId ← requireString req.reenrollmentRequestId "reenrollmentRequestId"
  let newPublicKey ← requireString req.newPublicKey "newPublicKey"
  let nodeId ← requireString req.nodeId "nodeId"
  let keyId ← requireString req.keyId "X-Orbit-Key"
  requireWire (some token) 32 "token"
  requireWire (some requestId) 32 "reenrollmentRequestId"
  requireWire (some newPublicKey) 64 "newPublicKey"
  requireWire req.nonce 32 "X-Orbit-Nonce"
  requireWire req.signature 128 "X-Orbit-Signature"
  if !isNodeId nodeId then denied 400 "bad-request" "nodeId must be a node_ identifier"
  else
    match parseTimestamp req.timestamp with
    | none => denied 400 "bad-request" "timestamp must be an integer Unix epoch string"
    | some timestamp =>
      if ¬InMachineSkew (now 0) timestamp then
        denied 401 "timestamp-out-of-skew" "timestamp is outside the 30s skew window"
      else
        return ⟨token, requestId, newPublicKey, nodeId, keyId, req.nonce.getD "",
          req.signature.getD ""⟩

/-- The fields as the request gives them; an absent one reads as empty. -/
def ReenrollRequest.fields (req : ReenrollRequest) : ReenrollFields :=
  ⟨req.token.getD "", req.reenrollmentRequestId.getD "", req.newPublicKey.getD "",
    req.nodeId.getD "", req.keyId.getD "", req.nonce.getD "", req.signature.getD ""⟩

theorem checkReenrollFields_ok {now : Clock} {req : ReenrollRequest} {fields : ReenrollFields}
    (h : checkReenrollFields now req = .ok fields) :
    fields = req.fields ∧ matchesHex 32 fields.requestId = true ∧
      matchesHex 64 fields.newPublicKey = true ∧ isNodeId fields.nodeId = true ∧
      ∃ timestamp, parseTimestamp req.timestamp = some timestamp ∧
        InMachineSkew (now 0) timestamp := by
  obtain ⟨token, htoken, h⟩ := bind_eq_ok.mp h
  obtain ⟨requestId, hrequestId, h⟩ := bind_eq_ok.mp h
  obtain ⟨newPublicKey, hnewPublicKey, h⟩ := bind_eq_ok.mp h
  obtain ⟨nodeId, hnodeId, h⟩ := bind_eq_ok.mp h
  obtain ⟨keyId, hkeyId, h⟩ := bind_eq_ok.mp h
  obtain ⟨_, -, h⟩ := bind_eq_ok.mp h
  obtain ⟨_, hwire, h⟩ := bind_eq_ok.mp h
  obtain ⟨_, hwire', h⟩ := bind_eq_ok.mp h
  obtain ⟨_, -, h⟩ := bind_eq_ok.mp h
  obtain ⟨_, -, h⟩ := bind_eq_ok.mp h
  split_ifs at h with hnode
  · cases h
  · split at h
    case h_1 => cases h
    case h_2 timestamp htimestamp =>
      split_ifs at h with hskew
      · obtain rfl := Except.ok.inj h
        refine ⟨?_, ?_, ?_, by simpa using hnode, timestamp, htimestamp, hskew⟩
        · rw [ReenrollRequest.fields, (requireString_eq_ok.mp htoken).1,
            (requireString_eq_ok.mp hrequestId).1, (requireString_eq_ok.mp hnewPublicKey).1,
            (requireString_eq_ok.mp hnodeId).1, (requireString_eq_ok.mp hkeyId).1]
          rfl
        · simpa using requireWire_eq_ok.mp hwire
        · simpa using requireWire_eq_ok.mp hwire'
      · cases h

/-- The tombstone-retained key: of the revoked keys of the node, the latest. -/
def historicalKey (db : Db) (nodeId : String) : Option NodeKeyRow :=
  (orderBy (fun row => -row.createdAt)
    (db.nodeKeys.filter fun row => row.nodeId = nodeId ∧ row.state = .revoked)).head?

/-- The proof of possession of the tombstone-retained key. -/
def checkPossession (env : Env) (db : Db) (req : ReenrollRequest) (fields : ReenrollFields) :
    Attempt NodeKeyRow :=
  match db.getNodeRow fields.nodeId with
  | none => denied 409 "not-tombstoned" "nodeId is not tombstoned"
  | some node =>
    if node.state ≠ .tombstoned then denied 409 "not-tombstoned" "nodeId is not tombstoned"
    else
      match historicalKey db fields.nodeId with
      | none => denied 500 "missing-historical-key" "tombstone has no retained public key"
      | some key => do
        requireWire (some fields.keyId) 32 "X-Orbit-Key"
        if fields.keyId ≠ key.keyId then
          denied 401 "key-revoked"
            "only the tombstone-retained historical key verifies the possession proof"
        else
          let signingString := buildSigningString
            { label := reenrollV1Label
              method := req.method
              path := req.path
              timestamp := req.timestamp.getD "undefined"
              nonce := fields.nonce
              bodyHash := req.bodyHash
              nodeId := fields.nodeId }
          let verified ← orThrow
            (verifySigningString env.crypto key.publicKey signingString fields.signature)
          if !verified then
            denied 401 "possession-proof-failed"
              "ORBIT-REENROLL-V1 proof does not verify with the original node private key"
          else return key

/-- The columns of a node that a re-enrollment resets. The alert flags, the route
mode and the time of the last heartbeat stay. -/
def resetNode (mintedAt : ℤ) (node : NodeRow) : NodeRow :=
  { node with
    state := .active
    tombstonedAt := none
    tombstoneReason := none
    mintedAt
    registryContact := .unknown
    authenticated := .ok
    dshHealthy := .unknown
    orbitCompatible := .unknown
    reachable := .unknown
    capabilities := []
    capabilitiesStale := true
    lastSeen := none
    lastSeenSource := none
    runtime := {} }

/-- A refused insert of a nonce is a replay. -/
def reserveNonceRow (db : Db) (nodeId nonce : String) (createdAt : ℤ) : Attempt Db :=
  match db.insertNonce ⟨nodeId, nonce, createdAt⟩ with
  | .ok db => .ok db
  | .error _ => denied 401 "replay" "nonce already used for this node"

/-- The transaction that consumes the token and makes the node active again. -/
def restoreNode (env : Env) (entropy : Entropy) (now : Clock) (db : Db) (entry : TokenRow)
    (fields : ReenrollFields) (actor : String) (historical : NodeKeyRow) (newKeyId : String) :
    Attempt (EnrollmentResult × Db) := do
  let db ← reserveNonceRow db fields.nodeId fields.nonce (now 2)
  let stamp := now 3
  let db := db.consumeToken stamp fields.nodeId entry.tokenId
  let result : EnrollmentResult :=
    { nodeId := fields.nodeId
      keyId := newKeyId
      tokenId := entry.tokenId
      heartbeatCadenceSeconds := env.config.heartbeatCadenceSeconds }
  let db ← db.insertResult
    { idempotencyKey := reenrollContent entry.tokenDigest fields
      tokenDigest := entry.tokenDigest
      requestId := fields.requestId
      kind := .reenroll
      nodeId := fields.nodeId
      result
      createdAt := stamp }
  let db ← db.insertNodeKey
    { nodeId := fields.nodeId
      keyId := newKeyId
      publicKey := fields.newPublicKey
      createdAt := stamp }
  let db := db.updateNode fields.nodeId (resetNode stamp)
  let (_, db) ← db.ensureHubRouteKey env entropy (now 4) (now 5) fields.nodeId
  -- the historical key stays revoked: it proved possession and authorizes nothing else
  let db := { db with
    nodeKeys := updateWhere
      (fun row => row.nodeId = fields.nodeId ∧ row.keyId = historical.keyId)
      (fun row => { row with revocationReason := some "reenroll-possession" }) db.nodeKeys }
  let db := db.recordAudit (now 6) (actor ++ ":" ++ fields.nodeId) "node.reenrolled"
    (.obj [("nodeId", .str fields.nodeId), ("newKeyId", .str newKeyId),
      ("oldKeyId", .str historical.keyId)])
  return (result, db.recordEvent (now 7) fields.nodeId "state" "tombstoned" "active" "reenroll")

def reenroll (env : Env) (entropy : Entropy) (now : Clock) (db : Db) (req : ReenrollRequest) :
    Attempt (EnrollmentResult × Db) := do
  let fields ← checkReenrollFields now req
  match db.getToken (tokenDigestOf env fields.token) with
  | none => denied 401 "unknown-token" "no re-enrollment token matches"
  | some entry =>
    let content := reenrollContent entry.tokenDigest fields
    if entry.purpose ≠ .reenroll then
      denied 400 "purpose-mismatch" "token is not a reenroll-purpose token"
    else if entry.boundNodeId ≠ some fields.nodeId then
      denied 403 "token-node-mismatch" "token is bound to a different nodeId"
    else if entry.consumedAt.isSome then
      let result ← replayOrDeny db entry .reenroll content
      return (result, db)
    else if entry.expiresAt ≤ now 1 then
      denied 401 "token-expired" "re-enrollment token has expired"
    else
      let historical ← checkPossession env db req fields
      match db.getResult content .reenroll with
      | some recorded => return (recorded.result, db)
      | none =>
        let newKeyId ← orThrow (deriveKeyId env.crypto fields.newPublicKey)
        restoreNode env entropy now db entry fields req.actor historical newKeyId

end DshOrbit.Registry
