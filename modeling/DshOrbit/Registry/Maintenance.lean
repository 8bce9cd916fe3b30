import DshOrbit.Lib.IsoTime
import DshOrbit.Registry.Machine

/-!
# Maintenance

What only time advances (`registry/registry.mjs`, `maintenance`): the ends of
rotation overlaps, the retention of nonces, results, reports, events and audit
rows, the aging of evidence and contact, and the expiry of sessions. It is one
transaction of phases, each of which reads the clock where its statements do.

## Main definitions

- `expireNodeKeys`, `expireRouteKeys` — revocation at the end of an overlap
- `purgeRetained` — the retention of nonces, results and reports
- `maintenance` — all phases, with the credentials they revoked
-/

namespace DshOrbit.Registry

open DshOrbit.Lib DshOrbit.Protocol

/-! ### Rotation overlaps -/

/-- `revoke_after IS NOT NULL AND revoke_after <= ?`. -/
def overlapEnded (revokeAfter : Option ℤ) (now : ℤ) : Bool := revokeAfter.any fun t => t ≤ now

def expireNodeKey (clock : Clock) (db : Db) (key : NodeKeyRow) : Db :=
  { db with
    nodeKeys := updateWhere (fun row => row.nodeId = key.nodeId ∧ row.keyId = key.keyId)
      (fun row => { row with
        state := .revoked
        revokedAt := some (clock 0)
        revocationReason := some "rotation-overlap-ended" }) db.nodeKeys }

def endedNodeKeys (db : Db) (now : ℤ) : List NodeKeyRow :=
  db.nodeKeys.filter fun row => row.state = .active ∧ overlapEnded row.revokeAfter now

def expireNodeKeys (s : Db × Clock) : Db × Clock :=
  forEachRow 1 expireNodeKey (endedNodeKeys s.1 (s.2 0)) (s.1, s.2.drop 1)

def expireRouteKey (clock : Clock) (db : Db) (key : HubRouteKeyRow) : Db :=
  (db.updateHubRouteKey key.nodeId key.keyId fun row =>
    { row with
      state := .revoked
      revokedAt := some (clock 0)
      revocationReason := some "rotation-overlap-ended" }).recordAudit (clock 1)
    ("system:" ++ key.nodeId) "hub.route-keys.revoke"
    (.obj [("nodeId", .str key.nodeId), ("keyId", .str key.keyId),
      ("reason", .str "rotation-overlap-ended")])

def endedRouteKeys (db : Db) (now : ℤ) : List HubRouteKeyRow :=
  db.hubRouteKeys.filter fun row => row.state = .rotating ∧ overlapEnded row.revokeAfter now

def expireRouteKeys (s : Db × Clock) : Db × Clock :=
  forEachRow 2 expireRouteKey (endedRouteKeys s.1 (s.2 0)) (s.1, s.2.drop 1)

/-! ### Retention -/

/-- The retention of nonces, recorded results and reports. -/
def purgeRetained (now : ℤ) (db : Db) : Db :=
  { db with
    nonces := deleteWhere (fun row => row.createdAt ≤ now - nonceRetentionMs) db.nonces
    results := deleteWhere (fun row => row.createdAt ≤ now - enrollmentResultRetentionMs) db.results
    reports := deleteWhere (fun row => row.uploadedAt ≤ now - reportRetentionMs) db.reports }

/-- A node without a report has nothing derived from one. -/
def resetEvidence (readings : Clock) (db : Db) (node : NodeRow) : Db :=
  if node.capabilities ≠ [] ∨ !node.capabilitiesStale ∨ node.orbitCompatible ≠ .unknown ∨
      node.dshHealthy ≠ .unknown then
    let db := db.transitionDimension (readings 0) node.nodeId "orbit_compatible"
      (·.orbitCompatible.text) "unknown" "maintenance"
    let db := db.transitionDimension (readings 1) node.nodeId "dsh_healthy" (·.dshHealthy.text)
      "unknown" "maintenance"
    db.updateNode node.nodeId fun row =>
      { row with
        orbitCompatible := .unknown
        dshHealthy := .unknown
        capabilities := []
        capabilitiesStale := true }
  else db

/-- A report of more than seven days ages any outcome to stale. -/
def ageEvidence (readings : Clock) (db : Db) (node : NodeRow) : Db :=
  let judged := node.orbitCompatible = .pass ∨ node.orbitCompatible = .fail
  let db :=
    if judged then
      db.transitionDimension (readings 0) node.nodeId "orbit_compatible" (·.orbitCompatible.text)
        "stale" "maintenance"
    else db
  let db :=
    if node.dshHealthy ≠ .unknown then
      db.transitionDimension (readings 1) node.nodeId "dsh_healthy" (·.dshHealthy.text) "unknown"
        "maintenance"
    else db
  db.updateNode node.nodeId fun row =>
    { row with
      orbitCompatible :=
        if row.orbitCompatible = .pass ∨ row.orbitCompatible = .fail then .stale
        else row.orbitCompatible
      dshHealthy := .unknown
      capabilitiesStale := true }

def ageReports (now : ℤ) (readings : Clock) (db : Db) (node : NodeRow) : Db :=
  match db.getLatestReport node.nodeId with
  | none => resetEvidence readings db node
  | some latest =>
    if reportStalenessMs < now - latest.uploadedAt then ageEvidence readings db node else db

def activeNodes (db : Db) : List NodeRow := db.nodes.filter fun node => node.state = .active

def ageAllReports (now : ℤ) (s : Db × Clock) : Db × Clock :=
  forEachRow 2 (ageReports now) (activeNodes s.1) s

/-! ### Events -/

/-- The day of an instant: `substr(at, 1, 10)`. -/
def dayOf (t : ℤ) : ℤ := t / msPerDay

/-- The group of an event in the daily rollup. -/
structure RollupGroup where
  nodeId : String
  day : ℤ
  dimension : String
  deriving DecidableEq

def EventRow.group (row : EventRow) : RollupGroup := ⟨row.nodeId, dayOf row.occurredAt, row.dimension⟩

/-- The groups of the complete days before the cutoff. -/
def rollupGroups (db : Db) (cutoff : ℤ) : List RollupGroup :=
  ((db.events.filter fun row => row.occurredAt < cutoff ∧ row.dimension ≠ "rollup" ∧
    dayOf row.occurredAt < dayOf cutoff).map EventRow.group).dedup

/-- The summary of a group: the number of its events before the cutoff, and the last
value by time and id. -/
def rollupSummary (db : Db) (group : RollupGroup) : Json :=
  let events := db.events.filter fun row => row.group = group
  let final := (orderBy EventRow.occurredAt events).getLast?
  .obj [("count", .num events.length), ("final", .str ((final.map (·.toValue)).getD ""))]

def rollupEvents (summaries : RollupGroup → Json) (db : Db) (group : RollupGroup) : Db :=
  let dayStart := group.day * msPerDay
  let summaryAt := dayStart + msPerDay - 1
  if db.events.any fun row => row.nodeId = group.nodeId ∧ row.occurredAt = summaryAt ∧
      row.dimension = "rollup" ∧ row.fromValue = group.dimension then db
  else
    let db : Db := { db with
      events := deleteWhere (fun row => row.nodeId = group.nodeId ∧
        row.dimension = group.dimension ∧ dayStart ≤ row.occurredAt ∧
        row.occurredAt < dayStart + msPerDay) db.events }
    db.insertEvent summaryAt group.nodeId "rollup" group.dimension (summaries group).stringify
      "retention-rollup"

/-- The daily rollups, then the retention of events and of audit rows. -/
def retireEvents (now : ℤ) (db : Db) : Db :=
  let rolled := (rollupGroups db (now - eventRollupAfterMs)).foldl (rollupEvents (rollupSummary db)) db
  { rolled with
    events := deleteWhere (fun row => row.occurredAt ≤ now - eventRetentionMs) rolled.events
    audit := deleteWhere (fun row => row.recordedAt ≤ now - auditRetentionMs) rolled.audit }

/-! ### Contact and sessions -/

/-- The state that the contact of a node ages to, if it does. -/
def agingTarget (config : Config) (gapMs : ℤ) (node : NodeRow) : Option RegistryContact :=
  if heartbeatLostMs < gapMs ∧ node.registryContact ≠ .lost then some .lost
  else if heartbeatMissedBeatsStale * (config.heartbeatCadenceSeconds * 1000) < gapMs ∧
      node.registryContact = .fresh then some .stale
  else none

/-- Age the contact of a node, with the readings of its age and of its event. -/
def ageContact (config : Config) (readings : Clock) (db : Db) (node : NodeRow) : Db :=
  match node.lastHeartbeatAt with
  | none => db
  | some lastBeat =>
    match agingTarget config (readings 0 - lastBeat) node with
    | none => db
    | some target =>
      let db := db.transitionDimension (readings 1) node.nodeId "registry_contact"
        (·.registryContact.text) target.text "maintenance"
      let db := db.updateNode node.nodeId fun row => { row with registryContact := target }
      if target = .lost then db.setAlertFlag node.nodeId "contact-lost" else db

def ageContacts (config : Config) (s : Db × Clock) : Db × Clock :=
  forEachRow 2 (ageContact config) ((activeNodes s.1).filter fun node => node.lastHeartbeatAt.isSome)
    s

def auditExpiry (readings : Clock) (db : Db) (session : SessionRow) : Db :=
  ({ db with
    sessions := updateWhere (fun row => row.sessionId = session.sessionId)
      (fun row => { row with expiryAuditedAt := some (readings 0) }) db.sessions } : Db).recordAudit
    (readings 1) session.operatorPrincipal "session.expired"
    (.obj [("sessionId", .str session.sessionId)])

def expiredSessions (db : Db) (expiredBy idleBy : ℤ) : List SessionRow :=
  db.sessions.filter fun row => row.revokedAt = none ∧ row.expiryAuditedAt = none ∧
    (row.expiresAt ≤ expiredBy ∨ row.idleUntil ≤ idleBy)

def auditExpiries (s : Db × Clock) : Db × Clock :=
  forEachRow 2 auditExpiry (expiredSessions s.1 (s.2 0) (s.2 1)) (s.1, s.2.drop 2)

/-! ### Maintenance -/

structure RevokedCredential where
  nodeId : String
  keyId : String
  reason : String
  deriving DecidableEq

/-- The phases that revoke keys and purge rows. -/
def expireAndPurge (clock : Clock) (db : Db) : Db × Clock :=
  let (db, clock') := expireRouteKeys (expireNodeKeys (db, clock.drop 1))
  (purgeRetained (clock 0) db, clock')

/-- The phases that age what the registry derives and records. -/
def ageRecords (config : Config) (now : ℤ) (s : Db × Clock) : Db × Clock :=
  let (db, clock) := ageAllReports now s
  let (db, clock) := reconcileNodeCapabilities clock db
  auditExpiries (ageContacts config (retireEvents now db, clock))

/-- `maintenance`: the credentials it revoked, for the owner of the transport, and the
database after it. -/
def maintenance (config : Config) (clock : Clock) (db : Db) : List RevokedCredential × Db :=
  ((endedNodeKeys db (clock 1)).map fun row => ⟨row.nodeId, row.keyId, "rotation-overlap-ended"⟩,
    (ageRecords config (clock 0) (expireAndPurge clock db)).1)

end DshOrbit.Registry
