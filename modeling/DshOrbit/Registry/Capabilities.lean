import DshOrbit.Registry.Schema

/-!
# Capabilities and health

What the Hub derives from the latest report of a node
(`registry/capabilities.mjs`), and the reconciliation that brings stored values
in line with it.

## Main definitions

- `deriveCapabilities`, `deriveDshHealthy`, `deriveOrbitCompatible`
- `reconcileNodeCapabilities`
-/

namespace DshOrbit.Registry

open DshOrbit.Lib DshOrbit.Protocol

def capabilityContractVersion : ℕ := 1

/-- Each capability with the report checks it needs. -/
def capabilityEvidence : List (String × List String) :=
  [("sessions.resume", ["sessionResume"]),
    ("settings.remote", ["settingsRead", "settingsNoopWrite", "authorizationSmoke"]),
    ("web.routes", ["runtimeReadiness", "webPluginRoutes", "webSocketTransport"])]

/-- The versions that have a compatibility profile. -/
def isDshVersionSupported (dshVersion : String) : Bool := dshVersion == "0.1.1-rc.2"

def CompatibilityReport.status (report : CompatibilityReport) (check : String) : Option String :=
  (report.checks.find? fun entry => entry.1 = check).map (·.2)

def deriveCapabilities (report : CompatibilityReport) : List Capability :=
  if !isDshVersionSupported report.identity.dshVersion then []
  else
    (capabilityEvidence.filter fun entry => entry.2.all fun check =>
      report.status check = some "pass").map fun entry => ⟨entry.1, capabilityContractVersion⟩

def deriveDshHealthy (report : CompatibilityReport) : DshHealthy :=
  let runtime := report.status "runtimeReadiness"
  let settings := report.status "settingsRead"
  if runtime = some "pass" ∧ settings = some "pass" then .ok
  else if runtime = some "fail" ∨ settings = some "fail" then .degraded
  else .unknown

def deriveOrbitCompatible (report : CompatibilityReport) : OrbitCompatible :=
  if report.outcome = "pass" then .pass else .fail

/-- The values that reconciliation stores for a node. -/
structure ReconciledState where
  capabilities : List Capability
  capabilitiesStale : Bool
  orbitCompatible : OrbitCompatible
  dshHealthy : DshHealthy
  deriving DecidableEq

/-- What the latest report says of a node at a reading of the clock. -/
def reconciledState (now : ℤ) (node : NodeRow) (latest : Option ReportRow) : ReconciledState :=
  match latest with
  | none => ⟨[], true, .unknown, .unknown⟩
  | some latest =>
    let runtimeUnset := node.runtime.orbitVersion = "" ∧ node.runtime.dshVersion = ""
    let ageFresh := now - latest.uploadedAt ≤ reportStalenessMs
    if (runtimeUnset ∨ latest.identity = node.runtime) ∧ ageFresh then
      ⟨deriveCapabilities latest.report, false, deriveOrbitCompatible latest.report,
        deriveDshHealthy latest.report⟩
    else ⟨deriveCapabilities latest.report, true, .stale, .unknown⟩

def NodeRow.reconciled (node : NodeRow) : ReconciledState :=
  ⟨node.capabilities, node.capabilitiesStale, node.orbitCompatible, node.dshHealthy⟩

def capabilityJson (capability : Capability) : Json :=
  .obj [("name", .str capability.name), ("version", .num capability.version)]

/-- The audit detail of a reconciliation. -/
def reconcileDetail (node : NodeRow) (latest : Option ReportRow) (next : ReconciledState) : Json :=
  let previous := Json.str (Json.arr (node.capabilities.map capabilityJson)).stringify
  match latest with
  | none =>
    .obj [("previous", previous), ("next", .arr []), ("reason", .str "no-report")]
  | some _ =>
    .obj [("previous", previous), ("next", .arr (next.capabilities.map capabilityJson)),
      ("stale", .num (if next.capabilitiesStale then 1 else 0))]

/-- Reconcile one node, with the readings of its two events and its audit row. -/
def reconcileNode (now : ℤ) (readings : Clock) (db : Db) (node : NodeRow) : Db :=
  let latest := db.getLatestReport node.nodeId
  let next := reconciledState now node latest
  if node.reconciled = next then db
  else
    let db := db.recordEvent (readings 0) node.nodeId "orbit_compatible" node.orbitCompatible.text
      next.orbitCompatible.text "capability-reconciliation"
    let db := db.recordEvent (readings 1) node.nodeId "dsh_healthy" node.dshHealthy.text
      next.dshHealthy.text "capability-reconciliation"
    let db := db.updateNode node.nodeId fun row =>
      { row with
        capabilities := next.capabilities
        capabilitiesStale := next.capabilitiesStale
        orbitCompatible := next.orbitCompatible
        dshHealthy := next.dshHealthy }
    db.recordAudit (readings 2) ("system:" ++ node.nodeId) "hub.capabilities.reconciled"
      (reconcileDetail node latest next)

/-- `reconcileNodeCapabilities`: the active nodes, one after the other. The first
reading is that of the age of the reports. -/
def reconcileNodeCapabilities (clock : Clock) (db : Db) : Db × Clock :=
  forEachRow 3 (reconcileNode (clock 0)) (db.nodes.filter fun node => node.state = .active)
    (db, clock.drop 1)

end DshOrbit.Registry
