import DshOrbit.HubRouteKeys
import DshOrbit.Lib.Outcome
import DshOrbit.Lib.Table

/-!
# The registry database

The tables of the registry (`registry/sqlite.mjs`, schema version 6) with the
statements that several operations share, and what an operation gets from its
surroundings: configuration, clock readings, random values.

An instant is its number of milliseconds. The program compares instants as ISO
texts, whose order is that of the instants. A transaction is a function of the
database that returns the new one or a fault, so a fault leaves no trace.

## Main definitions

- `Db` — the tables
- `Env` — configuration and primitives of a registry
- `Fault` — the errors an operation may throw
- `recordEvent`, `recordAudit` — the two logs
-/

namespace DshOrbit.Registry

open DshOrbit.Lib DshOrbit.Protocol

/-! ### Columns -/

inductive NodeState
  | active
  | tombstoned
  deriving DecidableEq

inductive RegistryContact
  | fresh
  | stale
  | lost
  | unknown
  deriving DecidableEq

inductive Authenticated
  | ok
  | revoked
  | unknown
  deriving DecidableEq

inductive DshHealthy
  | ok
  | degraded
  | unknown
  deriving DecidableEq

inductive OrbitCompatible
  | pass
  | fail
  | stale
  | unknown
  deriving DecidableEq

inductive Reachable
  | unknown
  | ok
  | unreachable
  deriving DecidableEq

inductive RouteMode
  | direct
  | reverse
  deriving DecidableEq

inductive NodeKeyState
  | active
  | revoked
  deriving DecidableEq

inductive RouteKeyState
  | provisioned
  | active
  | rotating
  | revoked
  deriving DecidableEq

/-- The purpose of a token, and the kind of the result of its use. -/
inductive Purpose
  | enroll
  | reenroll
  | pair
  deriving DecidableEq

def RegistryContact.text : RegistryContact → String
  | .fresh => "fresh"
  | .stale => "stale"
  | .lost => "lost"
  | .unknown => "unknown"

def DshHealthy.text : DshHealthy → String
  | .ok => "ok"
  | .degraded => "degraded"
  | .unknown => "unknown"

def OrbitCompatible.text : OrbitCompatible → String
  | .pass => "pass"
  | .fail => "fail"
  | .stale => "stale"
  | .unknown => "unknown"

def Reachable.text : Reachable → String
  | .unknown => "unknown"
  | .ok => "ok"
  | .unreachable => "unreachable"

def RouteMode.text : RouteMode → String
  | .direct => "direct"
  | .reverse => "reverse"

def RouteKeyState.toKeyState : RouteKeyState → HubRouteKeyState
  | .provisioned => .provisioned
  | .active => .active
  | .rotating => .rotating
  | .revoked => .revoked

def Purpose.text : Purpose → String
  | .enroll => "enroll"
  | .reenroll => "reenroll"
  | .pair => "pair"

/-! ### Rows -/

structure Capability where
  name : String
  version : ℕ
  deriving DecidableEq

/-- The runtime identity tuple of a node or of a report. -/
structure RuntimeIdentity where
  orbitVersion : String := ""
  orbitRevision : Option String := none
  dshVersion : String := ""
  compatibilityProfile : Option String := none
  deriving DecidableEq

/-- A sanitized compatibility report: its identity, its outcome and the status of
each check. -/
structure CompatibilityReport where
  identity : RuntimeIdentity
  outcome : String
  checks : List (String × String)
  deriving DecidableEq

structure NodeRow where
  nodeId : String
  state : NodeState := .active
  mintedAt : ℤ
  tombstonedAt : Option ℤ := none
  tombstoneReason : Option String := none
  registryContact : RegistryContact := .unknown
  authenticated : Authenticated := .unknown
  dshHealthy : DshHealthy := .unknown
  orbitCompatible : OrbitCompatible := .unknown
  reachable : Reachable := .unknown
  alertFlags : List String := []
  lastHeartbeatAt : Option ℤ := none
  capabilities : List Capability := []
  capabilitiesStale : Bool := true
  lastSeen : Option ℤ := none
  lastSeenSource : Option String := none
  runtime : RuntimeIdentity := {}
  routeMode : RouteMode := .direct
  deriving DecidableEq

structure NodeKeyRow where
  nodeId : String
  keyId : String
  publicKey : String
  state : NodeKeyState := .active
  createdAt : ℤ
  revokeAfter : Option ℤ := none
  revokedAt : Option ℤ := none
  revocationReason : Option String := none
  deriving DecidableEq

structure TokenRow where
  tokenId : String
  tokenDigest : String
  purpose : Purpose
  boundNodeId : Option String
  createdAt : ℤ
  expiresAt : ℤ
  consumedAt : Option ℤ := none
  consumedBy : Option String := none
  deriving DecidableEq

/-- The recorded result of an enrollment; pairing returns the transport parameters
as well. -/
structure EnrollmentResult where
  nodeId : String
  keyId : String
  tokenId : String
  heartbeatCadenceSeconds : ℤ
  reverse : Option (RouteMode × String × String) := none
  deriving DecidableEq

structure ResultRow where
  idempotencyKey : String
  tokenDigest : String
  requestId : String
  kind : Purpose
  nodeId : String
  result : EnrollmentResult
  createdAt : ℤ
  deriving DecidableEq

structure NonceRow where
  nodeId : String
  nonce : String
  createdAt : ℤ
  deriving DecidableEq

structure ReportRow where
  id : ℕ
  nodeId : String
  uploadedAt : ℤ
  identity : RuntimeIdentity
  report : CompatibilityReport
  deriving DecidableEq

structure EventRow where
  id : ℕ
  nodeId : String
  occurredAt : ℤ
  dimension : String
  fromValue : String
  toValue : String
  source : String
  deriving DecidableEq

structure AuditRow where
  id : ℕ
  recordedAt : ℤ
  actor : String
  action : String
  detail : Json

structure SessionRow where
  sessionId : String
  operatorPrincipal : String
  csrfToken : String
  createdAt : ℤ
  expiresAt : ℤ
  idleUntil : ℤ
  revokedAt : Option ℤ := none
  expiryAuditedAt : Option ℤ := none
  deriving DecidableEq

structure RouteTargetRow where
  nodeId : String
  routeTargetOrigin : String
  createdAt : ℤ
  updatedAt : ℤ
  deriving DecidableEq

structure HubRouteKeyRow where
  nodeId : String
  keyId : String
  publicKey : String
  privateKey : String
  state : RouteKeyState
  createdAt : ℤ
  activatedAt : Option ℤ := none
  revokeAfter : Option ℤ := none
  revokedAt : Option ℤ := none
  revocationReason : Option String := none
  deriving DecidableEq

/-! ### The database -/

structure Db where
  nodes : List NodeRow := []
  nodeKeys : List NodeKeyRow := []
  tokens : List TokenRow := []
  results : List ResultRow := []
  nonces : List NonceRow := []
  reports : List ReportRow := []
  events : List EventRow := []
  audit : List AuditRow := []
  sessions : List SessionRow := []
  routeTargets : List RouteTargetRow := []
  hubRouteKeys : List HubRouteKeyRow := []
  nextReportId : ℕ := 1
  nextEventId : ℕ := 1
  nextAuditId : ℕ := 1

/-- The errors an operation throws: a denial with its status, a refused constraint
of the database, or another exception. -/
inductive Fault
  | denied (status : ℕ) (code message : String)
  | constraint (message : String)
  | thrown (message : String)
  deriving DecidableEq

abbrev Attempt (α : Type) := Except Fault α

def denied {α : Type} (status : ℕ) (code message : String) : Attempt α :=
  .error (.denied status code message)

/-- The result of a pure check that may throw. -/
def orThrow {α : Type} : Except String α → Attempt α
  | .ok value => .ok value
  | .error message => .error (.thrown message)

theorem orThrow_eq_ok {α : Type} {x : Except String α} {a : α} : orThrow x = .ok a ↔ x = .ok a := by
  cases x with
  | error message => simp [orThrow]
  | ok value => simp [orThrow]

/-! ### Surroundings -/

/-- The configuration that the constructor accepts. Hours are whole, as the
command line passes them. -/
structure Config where
  heartbeatCadenceSeconds : ℤ
  rotationOverlapHours : ℤ
  hubRouteOverlapDays : ℤ
  routeDomain : String
  pairingHubBaseUrl : Option String
  rotationOverlap_min : rotationOverlapHoursMin ≤ rotationOverlapHours
  rotationOverlap_max : rotationOverlapHours ≤ rotationOverlapHoursMax
  hubRouteOverlap_min : hubRouteRotationOverlapDaysMin ≤ hubRouteOverlapDays
  hubRouteOverlap_max : hubRouteOverlapDays ≤ hubRouteRotationOverlapDaysMax

/-- A registry: its configuration, the primitives, and the sanitizers of reports
and route targets. -/
structure Env where
  config : Config
  crypto : Crypto
  createCompatibilityReport : Json → Except String CompatibilityReport
  validateRouteTargetOrigin : Json → Except String String

/-- `generateNodeKeyPair()`. -/
structure KeyPair where
  publicKeyHex : String
  privateKeyHex : String
  publicKey_wellFormed : isPublicKey publicKeyHex = true

/-- The random values one operation draws: the bytes of each draw, and a key pair. -/
structure Entropy where
  randomBytes : (draw byteLength : ℕ) → List UInt8
  length_randomBytes : ∀ draw byteLength, (randomBytes draw byteLength).length = byteLength
  keyPair : KeyPair

def Entropy.randomHex (entropy : Entropy) (draw byteLength : ℕ) : String :=
  toHex (entropy.randomBytes draw byteLength)

/-- The readings of the clock that one operation makes, in order. An operation may
leave readings out. -/
abbrev Clock := ℕ → ℤ

/-- The readings from the `n`-th on. -/
def Clock.drop (clock : Clock) (n : ℕ) : Clock := fun k => clock (n + k)

def hourMs : ℤ := 60 * 60 * 1000
def dayMs : ℤ := 24 * hourMs

def Config.rotationOverlapMs (config : Config) : ℤ := config.rotationOverlapHours * hourMs

def Config.hubRouteOverlapMs (config : Config) : ℤ := config.hubRouteOverlapDays * dayMs

/-! ### Checks of request fields -/

/-- `requireString`; a value that is not a string is `none`. -/
def requireString (value : Option String) (label : String) : Attempt String :=
  match value with
  | none => denied 400 "bad-request" (label ++ " is required")
  | some text =>
    if text = "" then denied 400 "bad-request" (label ++ " is required") else .ok text

def hexPattern (n : ℕ) : String := "/^[0-9a-f]\x7b" ++ toString n ++ "\x7d$/"

/-- `requireWire` of a pattern of `n` hexadecimal digits. -/
def requireWire (value : Option String) (n : ℕ) (label : String) : Attempt Unit :=
  match value with
  | none =>
    denied 400 "bad-request" ("registry wire contract: " ++ label ++ " must be " ++ hexPattern n ++
      " (got undefined)")
  | some text =>
    if matchesHex n text then .ok ()
    else denied 400 "bad-request" ("registry wire contract: " ++ label ++ " must be " ++
      hexPattern n ++ " (got " ++ quoteJson text ++ ")")

theorem requireString_eq_ok {value : Option String} {label text : String} :
    requireString value label = .ok text ↔ value = some text ∧ text ≠ "" := by
  unfold requireString
  split
  case h_1 => simp [denied]
  case h_2 given =>
    split_ifs with hempty
    · simp only [denied, reduceCtorEq, Option.some.injEq, false_iff, not_and, not_not]
      rintro rfl
      exact hempty
    · simp only [Except.ok.injEq, Option.some.injEq, iff_self_and]
      rintro rfl
      exact hempty

theorem requireWire_eq_ok {value : Option String} {n : ℕ} {label : String} :
    requireWire value n label = .ok () ↔ ∃ text, value = some text ∧ matchesHex n text = true := by
  unfold requireWire
  split
  case h_1 => simp [denied]
  case h_2 text =>
    split_ifs with hmatches
    · simp [hmatches]
    · simp [denied, hmatches]

/-- `parseJsonBody`; a body that is not JSON is `none`. -/
def parseJsonBody (rawBody : Option Json) : Attempt Json :=
  match rawBody with
  | none => denied 400 "bad-json" "request body must be valid JSON"
  | some body => .ok body

theorem parseJsonBody_eq_ok {rawBody : Option Json} {body : Json} :
    parseJsonBody rawBody = .ok body ↔ rawBody = some body := by
  cases rawBody with
  | none => simp [parseJsonBody, denied]
  | some given => simp [parseJsonBody]

/-- The number a timestamp text denotes, where it has the form `^-?\d+$`. -/
def parseTimestamp (timestamp : Option String) : Option ℤ :=
  match (timestamp.getD "undefined").toList with
  | '-' :: digits =>
    if isDigits (String.ofList digits) then some (-(ofDigits (String.ofList digits) : ℤ)) else none
  | digits =>
    if isDigits (String.ofList digits) then some (ofDigits (String.ofList digits) : ℤ) else none

/-- Whether a timestamp, in seconds, is within the skew window of a reading, in
milliseconds: `|now / 1000 - timestamp| <= 30`. -/
def InMachineSkew (now timestamp : ℤ) : Prop :=
  |now - 1000 * timestamp| ≤ 1000 * signatureSkewSeconds

instance (now timestamp : ℤ) : Decidable (InMachineSkew now timestamp) :=
  inferInstanceAs (Decidable (|now - 1000 * timestamp| ≤ 1000 * signatureSkewSeconds))

/-! ### Shared statements -/

namespace Db

def getNodeRow (db : Db) (nodeId : String) : Option NodeRow :=
  db.nodes.find? fun row => row.nodeId = nodeId

/-- `deriveKeyRow`. -/
def getKeyRow (db : Db) (nodeId keyId : String) : Option NodeKeyRow :=
  db.nodeKeys.find? fun row => (row.nodeId, row.keyId) = (nodeId, keyId)

def getToken (db : Db) (tokenDigest : String) : Option TokenRow :=
  db.tokens.find? fun row => row.tokenDigest = tokenDigest

def getResult (db : Db) (idempotencyKey : String) (kind : Purpose) : Option ResultRow :=
  db.results.find? fun row => row.idempotencyKey = idempotencyKey ∧ row.kind = kind

/-- The latest report: by upload time, then by insertion. -/
def getLatestReport (db : Db) (nodeId : String) : Option ReportRow :=
  (orderBy ReportRow.uploadedAt (db.reports.filter fun row => row.nodeId = nodeId)).getLast?

def getRouteTarget (db : Db) (nodeId : String) : Option RouteTargetRow :=
  db.routeTargets.find? fun row => row.nodeId = nodeId

/-- `UPDATE nodes SET f WHERE node_id = ?`. -/
def updateNode (db : Db) (nodeId : String) (f : NodeRow → NodeRow) : Db :=
  { db with nodes := updateWhere (fun row => row.nodeId = nodeId) f db.nodes }

/-- `INSERT INTO events`, without the comparison of the two values. -/
def insertEvent (db : Db) (occurredAt : ℤ) (nodeId dimension fromValue toValue source : String) :
    Db :=
  { db with
    events := db.events ++ [⟨db.nextEventId, nodeId, occurredAt, dimension, fromValue, toValue,
      source⟩]
    nextEventId := db.nextEventId + 1 }

def recordEvent (db : Db) (occurredAt : ℤ) (nodeId dimension fromValue toValue source : String) :
    Db :=
  if fromValue = toValue then db
  else db.insertEvent occurredAt nodeId dimension fromValue toValue source

def recordAudit (db : Db) (recordedAt : ℤ) (actor action : String) (detail : Json) : Db :=
  { db with
    audit := db.audit ++ [⟨db.nextAuditId, recordedAt, actor, action, detail⟩]
    nextAuditId := db.nextAuditId + 1 }

/-- A foreign key on `nodes`. -/
def requireNode (db : Db) (nodeId : String) : Attempt Unit :=
  if (db.getNodeRow nodeId).isSome then .ok ()
  else .error (.constraint "FOREIGN KEY constraint failed")

def insertNode (db : Db) (row : NodeRow) : Attempt Db :=
  match insertUnique NodeRow.nodeId row db.nodes with
  | some nodes => .ok { db with nodes }
  | none => .error (.constraint "UNIQUE constraint failed: nodes.node_id")

def insertNodeKey (db : Db) (row : NodeKeyRow) : Attempt Db :=
  match insertUnique (fun row : NodeKeyRow => (row.nodeId, row.keyId)) row db.nodeKeys with
  | none =>
    .error (.constraint "UNIQUE constraint failed: node_keys.node_id, node_keys.key_id")
  | some nodeKeys => do
    db.requireNode row.nodeId
    return { db with nodeKeys }

def insertToken (db : Db) (row : TokenRow) : Attempt Db :=
  match insertUnique TokenRow.tokenId row db.tokens with
  | none => .error (.constraint "UNIQUE constraint failed: enrollment_tokens.token_id")
  | some _ =>
    match insertUnique TokenRow.tokenDigest row db.tokens with
    | none => .error (.constraint "UNIQUE constraint failed: enrollment_tokens.token_digest")
    | some tokens => .ok { db with tokens }

def insertResult (db : Db) (row : ResultRow) : Attempt Db :=
  match insertUnique ResultRow.idempotencyKey row db.results with
  | some results => .ok { db with results }
  | none => .error (.constraint "UNIQUE constraint failed: enrollment_results.idempotency_key")

def insertNonce (db : Db) (row : NonceRow) : Attempt Db :=
  match insertUnique (fun row : NonceRow => (row.nodeId, row.nonce)) row db.nonces with
  | some nonces => .ok { db with nonces }
  | none => .error (.constraint "UNIQUE constraint failed: seen_nonces.node_id, seen_nonces.nonce")

def insertHubRouteKey (db : Db) (row : HubRouteKeyRow) : Attempt Db :=
  match insertUnique (fun row : HubRouteKeyRow => (row.nodeId, row.keyId)) row db.hubRouteKeys with
  | none =>
    .error (.constraint "UNIQUE constraint failed: hub_route_keys.node_id, hub_route_keys.key_id")
  | some hubRouteKeys => do
    db.requireNode row.nodeId
    return { db with hubRouteKeys }

/-- `UPDATE enrollment_tokens SET consumed_at = ?, consumed_by = ? WHERE token_id = ?`. -/
def consumeToken (db : Db) (consumedAt : ℤ) (consumedBy tokenId : String) : Db :=
  { db with
    tokens := updateWhere (fun row => row.tokenId = tokenId)
      (fun row => { row with consumedAt := some consumedAt, consumedBy := some consumedBy })
      db.tokens }

/-- Record the transition of a column of a node, where its value changes. -/
def transitionDimension (db : Db) (now : ℤ) (nodeId dimension : String) (column : NodeRow → String)
    (toValue source : String) : Db :=
  match db.getNodeRow nodeId with
  | none => db
  | some node => db.recordEvent now nodeId dimension (column node) toValue source

/-! ### What an accepted insert says -/

theorem insertNode_ok {db db' : Db} {row : NodeRow} (h : db.insertNode row = .ok db') :
    (∀ other ∈ db.nodes, other.nodeId ≠ row.nodeId) ∧
      db' = { db with nodes := db.nodes ++ [row] } := by
  unfold insertNode at h
  split at h
  case h_1 nodes hins =>
    obtain ⟨hnew, rfl⟩ := insertUnique_eq_some.mp hins
    exact ⟨hnew, (Except.ok.inj h).symm⟩
  case h_2 => cases h

theorem insertNodeKey_ok {db db' : Db} {row : NodeKeyRow} (h : db.insertNodeKey row = .ok db') :
    (∀ other ∈ db.nodeKeys, (other.nodeId, other.keyId) ≠ (row.nodeId, row.keyId)) ∧
      db' = { db with nodeKeys := db.nodeKeys ++ [row] } := by
  unfold insertNodeKey at h
  split at h
  case h_1 => cases h
  case h_2 nodeKeys hins =>
    obtain ⟨hnew, rfl⟩ := insertUnique_eq_some.mp hins
    obtain ⟨_, -, h⟩ := bind_eq_ok.mp h
    exact ⟨hnew, (Except.ok.inj h).symm⟩

theorem insertNodeKey_of_new {db : Db} {row : NodeKeyRow}
    (hnew : ∀ other ∈ db.nodeKeys, (other.nodeId, other.keyId) ≠ (row.nodeId, row.keyId))
    (hnode : (db.getNodeRow row.nodeId).isSome = true) :
    db.insertNodeKey row = .ok { db with nodeKeys := db.nodeKeys ++ [row] } := by
  have hinsert : insertUnique (fun row : NodeKeyRow => (row.nodeId, row.keyId)) row db.nodeKeys =
      some (db.nodeKeys ++ [row]) := insertUnique_eq_some.mpr ⟨hnew, rfl⟩
  simp only [insertNodeKey, hinsert, requireNode, hnode, if_true]
  rfl

theorem insertToken_ok {db db' : Db} {row : TokenRow} (h : db.insertToken row = .ok db') :
    (∀ other ∈ db.tokens, other.tokenId ≠ row.tokenId ∧ other.tokenDigest ≠ row.tokenDigest) ∧
      db' = { db with tokens := db.tokens ++ [row] } := by
  unfold insertToken at h
  split at h
  case h_1 => cases h
  case h_2 _ hid =>
    split at h
    case h_1 => cases h
    case h_2 tokens hdigest =>
      obtain ⟨hnew, rfl⟩ := insertUnique_eq_some.mp hdigest
      have hids := (insertUnique_eq_some.mp hid).1
      exact ⟨fun other hother => ⟨hids other hother, hnew other hother⟩, (Except.ok.inj h).symm⟩

theorem insertToken_of_new {db : Db} {row : TokenRow}
    (hids : ∀ other ∈ db.tokens, other.tokenId ≠ row.tokenId)
    (hdigests : ∀ other ∈ db.tokens, other.tokenDigest ≠ row.tokenDigest) :
    db.insertToken row = .ok { db with tokens := db.tokens ++ [row] } := by
  have hid : insertUnique TokenRow.tokenId row db.tokens = some (db.tokens ++ [row]) :=
    insertUnique_eq_some.mpr ⟨hids, rfl⟩
  have hdigest : insertUnique TokenRow.tokenDigest row db.tokens = some (db.tokens ++ [row]) :=
    insertUnique_eq_some.mpr ⟨hdigests, rfl⟩
  rw [insertToken, hid]
  dsimp only
  rw [hdigest]

theorem insertResult_ok {db db' : Db} {row : ResultRow} (h : db.insertResult row = .ok db') :
    (∀ other ∈ db.results, other.idempotencyKey ≠ row.idempotencyKey) ∧
      db' = { db with results := db.results ++ [row] } := by
  unfold insertResult at h
  split at h
  case h_1 results hins =>
    obtain ⟨hnew, rfl⟩ := insertUnique_eq_some.mp hins
    exact ⟨hnew, (Except.ok.inj h).symm⟩
  case h_2 => cases h

theorem insertNonce_ok {db db' : Db} {row : NonceRow} (h : db.insertNonce row = .ok db') :
    (∀ other ∈ db.nonces, (other.nodeId, other.nonce) ≠ (row.nodeId, row.nonce)) ∧
      db' = { db with nonces := db.nonces ++ [row] } := by
  unfold insertNonce at h
  split at h
  case h_1 nonces hins =>
    obtain ⟨hnew, rfl⟩ := insertUnique_eq_some.mp hins
    exact ⟨hnew, (Except.ok.inj h).symm⟩
  case h_2 => cases h

theorem insertHubRouteKey_ok {db db' : Db} {row : HubRouteKeyRow}
    (h : db.insertHubRouteKey row = .ok db') :
    (∀ other ∈ db.hubRouteKeys, (other.nodeId, other.keyId) ≠ (row.nodeId, row.keyId)) ∧
      db' = { db with hubRouteKeys := db.hubRouteKeys ++ [row] } := by
  unfold insertHubRouteKey at h
  split at h
  case h_1 => cases h
  case h_2 hubRouteKeys hins =>
    obtain ⟨hnew, rfl⟩ := insertUnique_eq_some.mp hins
    obtain ⟨_, -, h⟩ := bind_eq_ok.mp h
    exact ⟨hnew, (Except.ok.inj h).symm⟩

end Db

/-- A loop over the rows of a query: each iteration has `width` readings of its own. -/
def forEachRow {Row : Type} (width : ℕ) (step : Clock → Db → Row → Db) :
    List Row → Db × Clock → Db × Clock
  | [], s => s
  | row :: rows, (db, clock) => forEachRow width step rows (step clock db row, clock.drop width)

end DshOrbit.Registry
