import DshOrbit.Registry.Schema

/-!
# Hub route keys

The Hub signs what it routes to a node with a key of its own for that node
(`registry/registry.mjs`, Hub Route Identity lifecycle). A key is provisioned,
becomes active when the node acknowledges it, rotates out when the node
acknowledges its successor, and is revoked at the end of its overlap.

## Main definitions

- `ensureHubRouteKey`, `getHubRouteKeysForNode`, `getActiveHubRouteKey`
- `acknowledgeHubRouteKeys`, `rotateHubRouteKey`
-/

namespace DshOrbit.Registry

open DshOrbit.Lib DshOrbit.Protocol

namespace Db

/-- `SELECT * FROM hub_route_keys WHERE node_id = ? AND state != 'revoked'
ORDER BY created_at ASC`. -/
def unrevokedRouteKeys (db : Db) (nodeId : String) : List HubRouteKeyRow :=
  orderBy HubRouteKeyRow.createdAt
    (db.hubRouteKeys.filter fun row => row.nodeId = nodeId ∧ row.state ≠ .revoked)

@[simp]
theorem mem_unrevokedRouteKeys {db : Db} {nodeId : String} {row : HubRouteKeyRow} :
    row ∈ db.unrevokedRouteKeys nodeId ↔
      row ∈ db.hubRouteKeys ∧ row.nodeId = nodeId ∧ row.state ≠ .revoked := by
  simp [unrevokedRouteKeys]

/-- `UPDATE hub_route_keys SET f WHERE node_id = ? AND key_id = ?`. -/
def updateHubRouteKey (db : Db) (nodeId keyId : String) (f : HubRouteKeyRow → HubRouteKeyRow) :
    Db :=
  { db with
    hubRouteKeys := updateWhere (fun row => row.nodeId = nodeId ∧ row.keyId = keyId) f
      db.hubRouteKeys }

/-- The trust set a node is to hold, as its heartbeat response carries it. -/
def getHubRouteKeysForNode (db : Db) (nodeId : String) : List HubRouteKey :=
  (db.unrevokedRouteKeys nodeId).map fun row =>
    { keyId := row.keyId
      publicKey := row.publicKey
      state := row.state.toKeyState
      overlapUntil := row.revokeAfter.map toIsoString }

/-- The key the Hub signs with: the latest active one, else the latest rotating one. -/
def getActiveHubRouteKey (db : Db) (nodeId : String) : Option HubRouteKeyRow :=
  let newest state := (orderBy (fun row => -row.createdAt)
    (db.hubRouteKeys.filter fun row => row.nodeId = nodeId ∧ row.state = state)).head?
  (newest .active).or (newest .rotating)

/-- Insert a provisioned key with fresh key material. -/
def provisionHubRouteKey (env : Env) (entropy : Entropy) (db : Db) (createdAt : ℤ)
    (nodeId : String) : Attempt (HubRouteKeyRow × Db) := do
  let keyId ← orThrow (deriveKeyId env.crypto entropy.keyPair.publicKeyHex)
  let row : HubRouteKeyRow :=
    { nodeId, keyId
      publicKey := entropy.keyPair.publicKeyHex
      privateKey := entropy.keyPair.privateKeyHex
      state := .provisioned
      createdAt }
  let db ← db.insertHubRouteKey row
  return (row, db)

/-- `ensureHubRouteKey`, with the readings of the insert and of its audit row. -/
def ensureHubRouteKey (env : Env) (entropy : Entropy) (db : Db) (createdAt auditedAt : ℤ)
    (nodeId : String) : Attempt (HubRouteKeyRow × Db) :=
  match db.unrevokedRouteKeys nodeId with
  | existing :: _ => .ok (existing, db)
  | [] => do
    let (row, db) ← db.provisionHubRouteKey env entropy createdAt nodeId
    return (row, db.recordAudit auditedAt ("system:" ++ nodeId) "hub.route-keys.provision"
      (.obj [("nodeId", .str nodeId), ("keyId", .str row.keyId)]))

/-- `acceptedHubRouteKeyIds.includes(keyId)`. -/
def accepts (acceptedHubRouteKeyIds : List Json) (keyId : String) : Bool :=
  acceptedHubRouteKeyIds.any fun item => item.str? == some keyId

def activateRouteKey (db : Db) (activatedAt : ℤ) (nodeId keyId : String) : Db :=
  db.updateHubRouteKey nodeId keyId fun row =>
    { row with state := .active, activatedAt := some activatedAt }

def retireRouteKey (db : Db) (revokeAfter : ℤ) (nodeId keyId : String) : Db :=
  db.updateHubRouteKey nodeId keyId fun row =>
    { row with state := .rotating, revokeAfter := some revokeAfter }

/-- `acknowledgeHubRouteKeys`: an acknowledged first key becomes active, and an
acknowledged successor takes the place of the active key. -/
def acknowledgeHubRouteKeys (env : Env) (db : Db) (activatedAt overlapFrom auditedAt : ℤ)
    (nodeId : String) (acceptedHubRouteKeyIds : List Json) : Db :=
  match db.unrevokedRouteKeys nodeId with
  | [] => db
  | [key] =>
    if key.state = .provisioned ∧ accepts acceptedHubRouteKeyIds key.keyId then
      (db.activateRouteKey activatedAt nodeId key.keyId).recordAudit auditedAt
        ("system:" ++ nodeId) "hub.route-keys.activate"
        (.obj [("nodeId", .str nodeId), ("keyId", .str key.keyId)])
    else db
  | keys =>
    match keys.find? fun row => row.state = .active,
      keys.find? fun row => row.state = .provisioned with
    | some activeKey, some provisionedKey =>
      if accepts acceptedHubRouteKeyIds provisionedKey.keyId then
        let revokeAfter := overlapFrom + env.config.hubRouteOverlapMs
        ((db.activateRouteKey activatedAt nodeId provisionedKey.keyId).retireRouteKey revokeAfter
          nodeId activeKey.keyId).recordAudit auditedAt
          ("system:" ++ nodeId) "hub.route-keys.rotate"
          (.obj [("nodeId", .str nodeId), ("activeKeyId", .str provisionedKey.keyId),
            ("rotatingKeyId", .str activeKey.keyId),
            ("overlapUntil", .str (toIsoString revokeAfter))])
      else db
    | _, _ => db

structure RotateHubRouteKeyResult where
  nodeId : String
  currentKeyId : String
  newKeyId : String
  deriving DecidableEq

def rotateHubRouteKey (env : Env) (entropy : Entropy) (now : Clock) (db : Db)
    (actor nodeId : Option String) : Attempt (RotateHubRouteKeyResult × Db) := do
  let nodeId ← requireString nodeId "nodeId"
  let actor ← requireString actor "actor"
  match db.getNodeRow nodeId with
  | none => denied 404 "not-found" "active node required for rotation"
  | some node =>
    if node.state ≠ .active then denied 404 "not-found" "active node required for rotation"
    else
      let activeKeys := db.unrevokedRouteKeys nodeId
      match activeKeys.find? fun row => row.state = .active with
      | none => denied 409 "no-active-route-key" "node has no active Hub route identity to rotate"
      | some currentActive =>
        if activeKeys.any fun row => row.state = .provisioned ∨ row.state = .rotating then
          denied 409 "rotation-in-progress" "rotation is already in progress for this node"
        else
          let (row, db) ← db.provisionHubRouteKey env entropy (now 0) nodeId
          return (⟨nodeId, currentActive.keyId, row.keyId⟩,
            db.recordAudit (now 1) actor "hub.route-keys.rotate-intent"
              (.obj [("nodeId", .str nodeId), ("currentKeyId", .str currentActive.keyId),
                ("newKeyId", .str row.keyId),
                ("overlapDays", .num env.config.hubRouteOverlapDays)]))

end Db

end DshOrbit.Registry
