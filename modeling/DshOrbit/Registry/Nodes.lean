import DshOrbit.Registry.Machine

/-!
# Node management

What the operator does with a node (`registry/registry.mjs`): deleting it, and
setting its route target and mode; and the probes of its reachability, whose
answer arrives after other operations may have run.

## Main definitions

- `RegistryState` — the database and the probe failures kept in memory
- `deleteNode`, `setRouteTarget`, `setRouteMode`, `removeRouteTarget`
- `probeNode`, `recordProbeResult` — the two halves of a probe
- `bootstrapSession`, `validateSession`, `endSession`
-/

namespace DshOrbit.Registry

open DshOrbit.Lib DshOrbit.Protocol

structure RegistryState where
  db : Db := {}
  /-- The consecutive probe failures of each node. -/
  routeProbeFailures : List (String × ℕ) := []

namespace RegistryState

def getFailures (s : RegistryState) (nodeId : String) : ℕ :=
  ((s.routeProbeFailures.find? fun entry => entry.1 = nodeId).map (·.2)).getD 0

def forgetFailures (s : RegistryState) (nodeId : String) : RegistryState :=
  { s with routeProbeFailures := deleteWhere (fun entry => entry.1 = nodeId) s.routeProbeFailures }

def setFailures (s : RegistryState) (nodeId : String) (fails : ℕ) : RegistryState :=
  { s with
    routeProbeFailures :=
      deleteWhere (fun entry => entry.1 = nodeId) s.routeProbeFailures ++ [(nodeId, fails)] }

end RegistryState

/-- Move a node to a reachability, with an event where it changes. -/
def Db.setReachable (db : Db) (now : ℤ) (nodeId : String) (reachable : Reachable)
    (source : String) : Db :=
  (db.transitionDimension now nodeId "reachable" (·.reachable.text) reachable.text source).updateNode
    nodeId fun row => { row with reachable }

/-! ### Deletion -/

structure DeleteRequest where
  actor : String
  nodeId : Option String
  requestId : Option String
  reason : Option String

structure DeleteResult where
  nodeId : String
  idempotentReplay : Bool
  deriving DecidableEq

/-- The audit row of an earlier deletion with the request id. -/
def priorDeletion (db : Db) (requestId : String) : Option AuditRow :=
  db.audit.find? fun row => row.action = "hub.nodes.delete" ∧
    (row.detail.field "requestId").bind Json.str? = some requestId

/-- The transaction of a deletion. -/
def tombstoneNode (now : Clock) (db : Db) (node : NodeRow) (actor requestId reason : String) : Db :=
  let nodeId := node.nodeId
  let db := db.updateNode nodeId fun row =>
    { row with
      state := .tombstoned
      tombstonedAt := some (now 0)
      tombstoneReason := some reason
      authenticated := .revoked }
  let db : Db := { db with
    nodeKeys := updateWhere (fun row => row.nodeId = nodeId ∧ row.state = .active)
      (fun row => { row with
        state := .revoked
        revokedAt := some (now 0)
        revocationReason := some "node-delete" }) db.nodeKeys
    hubRouteKeys := updateWhere (fun row => row.nodeId = nodeId ∧ row.state ≠ .revoked)
      (fun row => { row with
        state := .revoked
        revokedAt := some (now 0)
        revocationReason := some "node-delete" }) db.hubRouteKeys }
  let db :=
    if node.reachable ≠ .unknown then db.setReachable (now 1) nodeId .unknown "node-delete" else db
  let db := db.recordAudit (now 2) actor "hub.nodes.delete"
    (.obj [("nodeId", .str nodeId), ("reason", .str reason), ("requestId", .str requestId)])
  db.recordEvent (now 3) nodeId "state" "active" "tombstoned" "operator-delete"

def deleteNode (now : Clock) (s : RegistryState) (req : DeleteRequest) :
    Attempt (DeleteResult × RegistryState) := do
  let nodeId ← requireString req.nodeId "nodeId"
  let requestId ← requireString req.requestId "requestId"
  let reason ← requireString req.reason "reason"
  if !isRequestId requestId then
    denied 400 "bad-request" "delete requestId must be 32 lowercase hex characters"
  else
    match s.db.getNodeRow nodeId with
    | none => denied 404 "not-found" "no such node"
    | some node =>
      match priorDeletion s.db requestId with
      | some prior =>
        if (prior.detail.field "nodeId").bind Json.str? = some nodeId ∧
            (prior.detail.field "reason").bind Json.str? = some reason then
          return (⟨nodeId, true⟩, s)
        else denied 409 "request-id-reused" "requestId was already used for a different delete"
      | none =>
        if node.state = .tombstoned then
          denied 409 "already-tombstoned" "node is already tombstoned"
        else
          let s := s.forgetFailures nodeId
          return (⟨nodeId, false⟩,
            { s with db := tombstoneNode now s.db node req.actor requestId reason })

/-! ### Route target and route mode -/

def setRouteTarget (env : Env) (now : Clock) (s : RegistryState) (actor nodeId : Option String)
    (routeTarget : Json) : Attempt (RouteTargetRow × RegistryState) := do
  let nodeId ← requireString nodeId "nodeId"
  let actor ← requireString actor "actor"
  match s.db.getNodeRow nodeId with
  | none => denied 404 "not-found" "no such node"
  | some node =>
    if node.state = .tombstoned then
      denied 409 "node-tombstoned" "cannot set route target for a tombstoned node"
    else
      match env.validateRouteTargetOrigin routeTarget with
      | .error message => denied 400 "bad-request" message
      | .ok origin =>
        let (row, db) :=
          match s.db.getRouteTarget nodeId with
          | some existing =>
            ({ existing with routeTargetOrigin := origin, updatedAt := now 0 },
              ({ s.db with
                routeTargets := updateWhere (fun row => row.nodeId = nodeId)
                  (fun row => { row with routeTargetOrigin := origin, updatedAt := now 0 })
                  s.db.routeTargets } : Db).recordAudit (now 1) actor "hub.route-targets.replace"
                (.obj [("nodeId", .str nodeId), ("routeTargetOrigin", .str origin),
                  ("previousRouteTargetOrigin", .str existing.routeTargetOrigin)]))
          | none =>
            let row : RouteTargetRow := ⟨nodeId, origin, now 0, now 0⟩
            (row,
              ({ s.db with routeTargets := s.db.routeTargets ++ [row] } : Db).recordAudit (now 1) actor "hub.route-targets.create"
                (.obj [("nodeId", .str nodeId), ("routeTargetOrigin", .str origin)]))
        let s := s.forgetFailures nodeId
        return (row, { s with db := db.setReachable (now 2) nodeId .unknown "route-target-change" })

structure RouteModeResult where
  nodeId : String
  routeMode : RouteMode
  previousRouteMode : RouteMode
  changed : Bool
  deriving DecidableEq

/-- `setRouteMode`; a mode that is neither of the two is `none`. -/
def setRouteMode (now : Clock) (s : RegistryState) (actor nodeId : Option String)
    (routeMode : Option RouteMode) : Attempt (RouteModeResult × RegistryState) := do
  let actor ← requireString actor "actor"
  let nodeId ← requireString nodeId "nodeId"
  match routeMode with
  | none => denied 400 "bad-request" "routeMode must be direct or reverse"
  | some routeMode =>
    match s.db.getNodeRow nodeId with
    | none => denied 404 "not-found" "no such node"
    | some node =>
      if node.state = .tombstoned then
        denied 409 "node-tombstoned" "cannot change route mode for a tombstoned node"
      else if node.routeMode = routeMode then
        return (⟨nodeId, routeMode, node.routeMode, false⟩, s)
      else
        let db :=
          if node.reachable ≠ .unknown then
            s.db.transitionDimension (now 0) nodeId "reachable" (·.reachable.text) "unknown"
              "route-mode-change"
          else s.db
        let db := db.updateNode nodeId fun row => { row with routeMode, reachable := .unknown }
        let db := db.recordAudit (now 1) actor "hub.nodes.route-mode"
          (.obj [("nodeId", .str nodeId), ("routeMode", .str routeMode.text),
            ("previousRouteMode", .str node.routeMode.text)])
        let s := s.forgetFailures nodeId
        return (⟨nodeId, routeMode, node.routeMode, true⟩,
          { s with
            db := db.recordEvent (now 2) nodeId "route_mode" node.routeMode.text routeMode.text
              "operator" })

/-- Remove the route target; the result is whether there was one. -/
def removeRouteTarget (now : Clock) (s : RegistryState) (actor nodeId : Option String) :
    Attempt (Bool × RegistryState) := do
  let nodeId ← requireString nodeId "nodeId"
  let actor ← requireString actor "actor"
  match s.db.getNodeRow nodeId with
  | none => denied 404 "not-found" "no such node"
  | some _ =>
    let existing := s.db.getRouteTarget nodeId
    let db :=
      match existing with
      | none => s.db
      | some target =>
        ({ s.db with
          routeTargets := deleteWhere (fun row => row.nodeId = nodeId) s.db.routeTargets } :
          Db).recordAudit (now 0) actor "hub.route-targets.remove"
          (.obj [("nodeId", .str nodeId),
            ("previousRouteTargetOrigin", .str target.routeTargetOrigin)])
    let s := s.forgetFailures nodeId
    return (existing.isSome,
      { s with db := db.setReachable (now 1) nodeId .unknown "route-target-remove" })

/-! ### Probes -/

/-- What a probe compares with the state its answer finds. -/
structure ProbeContext where
  routeTargetOrigin : String
  keyId : String
  deriving DecidableEq

inductive ProbeStart
  | notProbed (reason : String)
  | sent (context : ProbeContext)
  deriving DecidableEq

/-- A probe of a node that cannot be probed leaves it with unknown reachability. -/
def abandonProbe (now : ℤ) (s : RegistryState) (node : NodeRow) (source : String) :
    RegistryState :=
  let s := s.forgetFailures node.nodeId
  if node.reachable ≠ .unknown then
    { s with db := s.db.setReachable now node.nodeId .unknown source }
  else s

/-- `probeNode` up to its request to the node. -/
def probeNode (now : Clock) (s : RegistryState) (nodeId : String) : ProbeStart × RegistryState :=
  match s.db.getNodeRow nodeId with
  | none => (.notProbed "node-not-active", s)
  | some node =>
    if node.state ≠ .active then (.notProbed "node-not-active", s)
    else if node.routeMode = .reverse then
      (.notProbed "reverse-mode", abandonProbe (now 0) s node "route-mode-reverse")
    else
      match s.db.getRouteTarget nodeId with
      | none => (.notProbed "no-target", abandonProbe (now 0) s node "route-probe")
      | some routeTarget =>
        match s.db.getActiveHubRouteKey nodeId with
        | none => (.notProbed "identity-not-active", abandonProbe (now 0) s node "route-probe")
        | some activeKey => (.sent ⟨routeTarget.routeTargetOrigin, activeKey.keyId⟩, s)

/-- The answer of a probed node: an error of the transport, or a status with the
body where that is JSON. -/
inductive ProbeAnswer
  | failed (message : String)
  | answered (status : ℕ) (body : Option Json)

def isTrue : Option Json → Bool
  | some (.bool value) => value
  | _ => false

/-- Whether the answer shows the node ready, and the reason where it does not. -/
def probeVerdict (nodeId : String) : ProbeAnswer → Bool × Option String
  | .failed message => (false, some message)
  | .answered status body =>
    if status ≠ 200 then (false, some ("http-" ++ toString status))
    else
      match body with
      | none => (false, some "malformed-json")
      | some body =>
        if (body.field "nodeId").bind Json.str? = some nodeId ∧ isTrue (body.field "ready") then
          (true, none)
        else (false, some ("ready-false-or-mismatch: " ++ body.stringify))

structure ProbeResult where
  reachable : Reachable
  ok : Bool
  ignored : Option String := none
  failures : Option ℕ := none
  deriving DecidableEq

def recordProbeResult (now : Clock) (s : RegistryState) (nodeId : String) (success : Bool)
    (expectedContext : ProbeContext) : ProbeResult × RegistryState :=
  match s.db.getNodeRow nodeId with
  | none => ({ reachable := .unknown, ok := false }, s)
  | some current =>
    if current.state ≠ .active then ({ reachable := .unknown, ok := false }, s)
    else if current.routeMode = .reverse then
      ({ reachable := .unknown, ok := false, ignored := some "reverse-mode" },
        abandonProbe (now 0) s current "route-mode-reverse")
    else if (s.db.getRouteTarget nodeId).map (·.routeTargetOrigin) ≠
          some expectedContext.routeTargetOrigin ∨
        (s.db.getActiveHubRouteKey nodeId).map (·.keyId) ≠ some expectedContext.keyId then
      ({ reachable := current.reachable, ok := false, ignored := some "probe-context-changed" },
        s.forgetFailures nodeId)
    else if success then
      let s := s.forgetFailures nodeId
      ({ reachable := .ok, ok := true },
        if current.reachable ≠ .ok then
          { s with db := s.db.setReachable (now 0) nodeId .ok "route-probe" }
        else s)
    else
      let fails := s.getFailures nodeId + 1
      let s := s.setFailures nodeId fails
      if routeProbeFailureThreshold ≤ fails then
        ({ reachable := .unreachable, ok := false, failures := some fails },
          if current.reachable ≠ .unreachable then
            { s with db := s.db.setReachable (now 0) nodeId .unreachable "route-probe" }
          else s)
      else ({ reachable := current.reachable, ok := false, failures := some fails }, s)

/-! ### Browser sessions -/

def bootstrapSession (entropy : Entropy) (now : Clock) (db : Db) (principal : String) :
    Attempt (SessionRow × Db) :=
  let sessionId := "sess_" ++ entropy.randomHex 0 24
  let row : SessionRow :=
    { sessionId
      operatorPrincipal := principal
      csrfToken := entropy.randomHex 1 24
      createdAt := now 1
      expiresAt := now 0 + sessionTtlMs
      idleUntil := now 0 + sessionIdleMs }
  match insertUnique SessionRow.sessionId row db.sessions with
  | none => .error (.constraint "UNIQUE constraint failed: browser_sessions.session_id")
  | some sessions =>
    .ok (row, ({ db with sessions } : Db).recordAudit (now 2) principal "session.bootstrap"
      (.obj [("sessionId", .str sessionId)]))

def Db.updateSession (db : Db) (sessionId : String) (f : SessionRow → SessionRow) : Db :=
  { db with sessions := updateWhere (fun row => row.sessionId = sessionId) f db.sessions }

/-- A valid session, whose idle time starts anew. -/
def validateSession (now : Clock) (db : Db) (sessionId : String) : Option SessionRow × Db :=
  match db.sessions.find? fun row => row.sessionId = sessionId with
  | none => (none, db)
  | some row =>
    if row.revokedAt.isSome ∨ row.expiresAt ≤ now 0 ∨ row.idleUntil ≤ now 0 then (none, db)
    else
      (some row, db.updateSession sessionId fun row =>
        { row with idleUntil := now 0 + sessionIdleMs })

def endSession (now : Clock) (db : Db) (sessionId actor : String) : Bool × Db :=
  match db.sessions.find? fun row => row.sessionId = sessionId with
  | none => (false, db)
  | some _ =>
    (true, (db.updateSession sessionId fun row =>
      { row with revokedAt := some (now 0) }).recordAudit (now 1) actor "session.logout"
      (.obj [("sessionId", .str sessionId)]))

end DshOrbit.Registry
