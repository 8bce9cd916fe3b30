import DshOrbit.Registry.NodeKeys

/-!
# The dossier of a node

What the registry keeps of one node apart from its keys: the row, the reports and
the route target. The loops of maintenance go over all nodes, but each iteration
writes the row of its own node only, so what a step does to one node is a function
of its dossier.

## Main definitions

- `Dossier`, `Db.dossier`
- `Db.Amends` — a change of one dossier that leaves the others
- `Dossier.heartbeat`, `Dossier.upload`, `Dossier.maintained`, … — what each
  operation makes of the dossier of its node

## Main results

- `amends_forEachRow` — a loop over nodes amends each dossier once
-/

namespace DshOrbit.Registry

open DshOrbit.Lib DshOrbit.Protocol

structure Dossier where
  row : NodeRow
  reports : List ReportRow
  target : Option String
  deriving DecidableEq

namespace Dossier

/-- The latest report: by upload time, then by insertion. -/
def latest (d : Dossier) : Option ReportRow := (orderBy ReportRow.uploadedAt d.reports).getLast?

def amend (f : NodeRow → NodeRow) (d : Dossier) : Dossier := { d with row := f d.row }

@[simp]
theorem amend_row (f : NodeRow → NodeRow) (d : Dossier) : (d.amend f).row = f d.row := rfl

@[simp]
theorem amend_reports (f : NodeRow → NodeRow) (d : Dossier) : (d.amend f).reports = d.reports := rfl

@[simp]
theorem amend_target (f : NodeRow → NodeRow) (d : Dossier) : (d.amend f).target = d.target := rfl

@[simp]
theorem amend_latest (f : NodeRow → NodeRow) (d : Dossier) : (d.amend f).latest = d.latest := rfl

end Dossier

namespace Db

def dossier (db : Db) (nodeId : String) : Option Dossier :=
  (db.getNodeRow nodeId).map fun row =>
    { row
      reports := db.reports.filter fun report => report.nodeId = nodeId
      target := (db.getRouteTarget nodeId).map (·.routeTargetOrigin) }

/-! ### Reading a dossier -/

theorem dossier_eq_some {db : Db} {nodeId : String} {d : Dossier} :
    db.dossier nodeId = some d ↔ db.getNodeRow nodeId = some d.row ∧
      d.reports = (db.reports.filter fun report => report.nodeId = nodeId) ∧
      d.target = (db.getRouteTarget nodeId).map (·.routeTargetOrigin) := by
  unfold dossier
  cases db.getNodeRow nodeId with
  | none => simp
  | some row =>
    simp only [Option.map_some, Option.some.injEq]
    constructor
    · rintro rfl
      exact ⟨rfl, rfl, rfl⟩
    · rintro ⟨rfl, hreports, htarget⟩
      cases d
      simp_all

theorem dossier_eq_none {db : Db} {nodeId : String} :
    db.dossier nodeId = none ↔ db.getNodeRow nodeId = none := by
  simp [dossier]

theorem getNodeRow_eq_dossier (db : Db) (nodeId : String) :
    db.getNodeRow nodeId = (db.dossier nodeId).map Dossier.row := by
  unfold dossier
  cases db.getNodeRow nodeId with
  | none => rfl
  | some row => rfl

theorem dossier_of_getNodeRow {db : Db} {nodeId : String} {row : NodeRow}
    (h : db.getNodeRow nodeId = some row) :
    ∃ d, db.dossier nodeId = some d ∧ d.row = row := by
  rw [getNodeRow_eq_dossier] at h
  exact Option.map_eq_some_iff.mp h

theorem getLatestReport_of_dossier {db : Db} {nodeId : String} {d : Dossier}
    (h : db.dossier nodeId = some d) : db.getLatestReport nodeId = d.latest := by
  rw [getLatestReport, Dossier.latest, (dossier_eq_some.mp h).2.1]

theorem nodeId_of_dossier {db : Db} {nodeId : String} {d : Dossier}
    (h : db.dossier nodeId = some d) : d.row.nodeId = nodeId :=
  nodeId_of_getNodeRow (dossier_eq_some.mp h).1

/-! ### Records -/

theorem dossier_congr {db db' : Db} (hnodes : db'.nodes = db.nodes)
    (hreports : db'.reports = db.reports) (htargets : db'.routeTargets = db.routeTargets)
    (nodeId : String) : db'.dossier nodeId = db.dossier nodeId := by
  simp only [dossier, getNodeRow, getRouteTarget, hnodes, hreports, htargets]

@[simp]
theorem dossier_insertEvent (db : Db) (occurredAt : ℤ)
    (other dimension fromValue toValue source nodeId : String) :
    (db.insertEvent occurredAt other dimension fromValue toValue source).dossier nodeId =
      db.dossier nodeId := rfl

@[simp]
theorem dossier_recordEvent (db : Db) (occurredAt : ℤ)
    (other dimension fromValue toValue source nodeId : String) :
    (db.recordEvent occurredAt other dimension fromValue toValue source).dossier nodeId =
      db.dossier nodeId := by
  unfold recordEvent
  split_ifs
  · rfl
  · rfl

@[simp]
theorem dossier_recordAudit (db : Db) (recordedAt : ℤ) (actor action : String) (detail : Json)
    (nodeId : String) :
    (db.recordAudit recordedAt actor action detail).dossier nodeId = db.dossier nodeId := rfl

@[simp]
theorem dossier_transitionDimension (db : Db) (now : ℤ) (other dimension : String)
    (column : NodeRow → String) (toValue source nodeId : String) :
    (db.transitionDimension now other dimension column toValue source).dossier nodeId =
      db.dossier nodeId := by
  unfold transitionDimension
  split
  · rfl
  · exact dossier_recordEvent ..

/-! ### Amendments -/

/-- The second database has the dossier of one node amended, and the others as they were. -/
structure Amends (db db' : Db) (nodeId : String) (g : Dossier → Dossier) : Prop where
  own : db'.dossier nodeId = (db.dossier nodeId).map g
  others : ∀ other, other ≠ nodeId → db'.dossier other = db.dossier other

theorem amends_of_eq {db db' : Db} {nodeId : String}
    (h : ∀ other, db'.dossier other = db.dossier other) : Amends db db' nodeId id where
  own := by rw [h, Option.map_id, id]
  others other _ := h other

theorem Amends.trans {db db1 db2 : Db} {nodeId : String} {g g' : Dossier → Dossier}
    (h : Amends db db1 nodeId g) (h' : Amends db1 db2 nodeId g') :
    Amends db db2 nodeId (g' ∘ g) where
  own := by rw [h'.own, h.own, Option.map_map]
  others other hother := (h'.others other hother).trans (h.others other hother)

theorem Amends.congr {db db' : Db} {nodeId : String} {g g' : Dossier → Dossier}
    (h : Amends db db' nodeId g) (hg : ∀ d, db.dossier nodeId = some d → g d = g' d) :
    Amends db db' nodeId g' where
  own := by
    rw [h.own]
    cases hd : db.dossier nodeId with
    | none => rfl
    | some d => exact congrArg some (hg d hd)
  others := h.others

/-- What an amendment makes of the dossier that is there. -/
theorem Amends.of_dossier {db db' : Db} {nodeId : String} {g g' : Dossier → Dossier} {d : Dossier}
    (hd : db.dossier nodeId = some d) (h : Amends db db' nodeId g) (hg : g d = g' d) :
    Amends db db' nodeId g' := by
  refine h.congr fun d' hd' => ?_
  obtain rfl : d = d' := Option.some.inj (hd.symm.trans hd')
  exact hg

theorem row_of_dossier {db : Db} {nodeId : String} {d : Dossier} {node : NodeRow}
    (hd : db.dossier nodeId = some d) (hnode : db.getNodeRow nodeId = some node) : d.row = node :=
  Option.some.inj ((dossier_eq_some.mp hd).1.symm.trans hnode)

/-- A record before an amendment, and one after it. -/
theorem Amends.after {db db1 db2 : Db} {nodeId : String} {g : Dossier → Dossier}
    (h : Amends db1 db2 nodeId g) (heq : ∀ other, db1.dossier other = db.dossier other) :
    Amends db db2 nodeId g where
  own := by rw [h.own, heq]
  others other hother := (h.others other hother).trans (heq other)

theorem Amends.before {db db1 db2 : Db} {nodeId : String} {g : Dossier → Dossier}
    (h : Amends db db1 nodeId g) (heq : ∀ other, db2.dossier other = db1.dossier other) :
    Amends db db2 nodeId g where
  own := (heq nodeId).trans h.own
  others other hother := (heq other).trans (h.others other hother)

theorem getNodeRow_updateNode {db : Db} {moved nodeId : String} {f : NodeRow → NodeRow}
    (hf : ∀ row, (f row).nodeId = row.nodeId) :
    (db.updateNode moved f).getNodeRow nodeId = (db.getNodeRow nodeId).map fun row =>
      if nodeId = moved then f row else row :=
  find?_updateWhere hf

theorem amends_updateNode (db : Db) (nodeId : String) {f : NodeRow → NodeRow}
    (hf : ∀ row, (f row).nodeId = row.nodeId) :
    Amends db (db.updateNode nodeId f) nodeId (Dossier.amend f) where
  own := by
    rw [dossier, getNodeRow_updateNode hf, dossier, Option.map_map, Option.map_map]
    simp only [if_true]
    rfl
  others other hother := by
    rw [dossier, getNodeRow_updateNode hf, dossier, Option.map_map]
    simp only [if_neg hother]
    rfl

theorem amends_of_none {db db' : Db} {nodeId : String} (g : Dossier → Dossier)
    (hnone : db.getNodeRow nodeId = none) (h : ∀ other, db'.dossier other = db.dossier other) :
    Amends db db' nodeId g where
  own := by rw [h, dossier_eq_none.mpr hnone]; rfl
  others other _ := h other

/-- A single row of a node, written from the row that was read. -/
theorem amends_updateNode_read {db : Db} {nodeId : String} {node : NodeRow}
    (hnode : db.getNodeRow nodeId = some node) {f g : NodeRow → NodeRow}
    (hf : ∀ row, (f row).nodeId = row.nodeId) (hg : f node = g node) :
    Amends db (db.updateNode nodeId f) nodeId (Dossier.amend g) := by
  refine (amends_updateNode db nodeId hf).congr fun d hd => ?_
  obtain rfl := row_of_dossier hd hnode
  rw [Dossier.amend, Dossier.amend, hg]

/-! ### Heartbeats -/

theorem amends_clearAlertFlag (db : Db) (nodeId flag : String) :
    Amends db (db.clearAlertFlag nodeId flag) nodeId (Dossier.amend fun row =>
      { row with alertFlags := row.alertFlags.filter fun entry => entry ≠ flag }) := by
  unfold clearAlertFlag
  split
  case h_1 hnone => exact amends_of_none _ hnone fun _ => rfl
  case h_2 node hnode =>
    split_ifs with hflag
    · exact amends_updateNode_read hnode (fun _ => rfl) rfl
    · refine (amends_of_eq fun _ => rfl).congr fun d hd => ?_
      obtain rfl := row_of_dossier hd hnode
      have hfilter : (d.row.alertFlags.filter fun entry => entry ≠ flag) = d.row.alertFlags := by
        refine List.filter_eq_self.mpr fun entry hentry => decide_eq_true ?_
        rintro rfl
        exact hflag hentry
      rw [Dossier.amend, hfilter]
      rfl

theorem amends_setAlertFlag (db : Db) (nodeId flag : String) :
    Amends db (db.setAlertFlag nodeId flag) nodeId (Dossier.amend fun row =>
      { row with
        alertFlags := if flag ∈ row.alertFlags then row.alertFlags else row.alertFlags ++ [flag] }) := by
  unfold setAlertFlag
  split
  case h_1 hnone => exact amends_of_none _ hnone fun _ => rfl
  case h_2 node hnode =>
    split_ifs with hflag
    · refine (amends_of_eq fun _ => rfl).congr fun d hd => ?_
      obtain rfl := row_of_dossier hd hnode
      rw [Dossier.amend, if_pos hflag]
      rfl
    · refine amends_updateNode_read hnode (fun _ => rfl) ?_
      rw [if_neg hflag]

theorem amends_transitionRegistryContact (env : Env) (db : Db) (readAt recordedAt : ℤ)
    (node : NodeRow) (toValue : RegistryContact) (source : String) :
    Amends db (db.transitionRegistryContact env readAt recordedAt node toValue source) node.nodeId
      (Dossier.amend fun row => { row with registryContact := toValue }) :=
  (amends_updateNode _ node.nodeId (by intro row; rfl)).after fun other => dossier_recordEvent ..

end Db

/-- The columns of a node whose capabilities are withheld. -/
def NodeRow.withheld (row : NodeRow) : NodeRow :=
  { row with
    orbitCompatible :=
      if row.orbitCompatible = .pass ∨ row.orbitCompatible = .unknown then .stale
      else row.orbitCompatible
    dshHealthy := .unknown
    capabilitiesStale := true }

theorem Db.amends_withholdCapabilities (db : Db) (readings : Clock) (nodeId source : String) :
    Amends db (db.withholdCapabilities readings nodeId source) nodeId
      (Dossier.amend NodeRow.withheld) := by
  unfold withholdCapabilities
  split
  case h_1 hnone => exact amends_of_none _ hnone fun _ => rfl
  case h_2 node hnode =>
    refine (amends_updateNode _ nodeId (by intro row; rfl)).after fun other => ?_
    rw [dossier_transitionDimension]
    split_ifs
    · rw [dossier_transitionDimension]
    · rfl

/-- The contact and the runtime identity that a heartbeat records. -/
def NodeRow.contacted (beatAt : ℤ) (runtime : RuntimeIdentity) (row : NodeRow) : NodeRow :=
  { row with
    registryContact := .fresh
    alertFlags := row.alertFlags.filter fun entry => entry ≠ "contact-lost"
    lastSeen := some beatAt
    lastSeenSource := some "heartbeat"
    lastHeartbeatAt := some beatAt
    runtime }

/-- The dossier after a heartbeat: a report of another identity is evidence no longer. -/
def Dossier.heartbeat (beatAt : ℤ) (runtime : RuntimeIdentity) (d : Dossier) : Dossier :=
  let contacted := d.amend (NodeRow.contacted beatAt runtime)
  match d.latest with
  | none => contacted
  | some latest => if latest.identity = runtime then contacted else contacted.amend NodeRow.withheld

/-- The database of a heartbeat before its look at the latest report. -/
def contactedDb (env : Env) (now : Clock) (db : Db) (node : NodeRow) (runtime : RuntimeIdentity) :
    Db :=
  ((db.transitionRegistryContact env (now 3) (now 4) node .fresh "heartbeat").clearAlertFlag
    node.nodeId "contact-lost").updateNode node.nodeId fun row =>
      { row with
        lastSeen := some (now 5)
        lastSeenSource := some "heartbeat"
        lastHeartbeatAt := some (now 5)
        runtime }

theorem amends_contactedDb (env : Env) (now : Clock) (db : Db) (node : NodeRow)
    (runtime : RuntimeIdentity) :
    db.Amends (contactedDb env now db node runtime) node.nodeId
      (Dossier.amend (NodeRow.contacted (now 5) runtime)) := by
  have hcontact := Db.amends_transitionRegistryContact env db (now 3) (now 4) node .fresh "heartbeat"
  have hcleared := hcontact.trans (Db.amends_clearAlertFlag _ node.nodeId "contact-lost")
  exact (hcleared.trans (Db.amends_updateNode _ node.nodeId (by intro row; rfl))).congr
    fun _ _ => rfl

theorem recordHeartbeat_eq {env : Env} {now : Clock} {db : Db} {node : NodeRow}
    {runtime : RuntimeIdentity} {d : Dossier} (hnode : db.getNodeRow node.nodeId = some node)
    (hd : db.dossier node.nodeId = some d) :
    recordHeartbeat env now db node runtime =
      match d.latest with
      | none => contactedDb env now db node runtime
      | some latest =>
        if latest.identity = runtime then contactedDb env now db node runtime
        else (contactedDb env now db node runtime).withholdCapabilities (now.drop 6) node.nodeId
          "heartbeat" := by
  have hcurrent : (db.getNodeRow node.nodeId).getD node = node := by rw [hnode]; rfl
  have hlatest : (contactedDb env now db node runtime).getLatestReport node.nodeId = d.latest := by
    have hown := (amends_contactedDb env now db node runtime).own
    rw [hd, Option.map_some] at hown
    exact (Db.getLatestReport_of_dossier hown).trans (Dossier.amend_latest ..)
  rw [← hlatest, recordHeartbeat, hcurrent]
  rfl

theorem amends_recordHeartbeat (env : Env) (now : Clock) (db : Db) (node : NodeRow)
    (runtime : RuntimeIdentity) (hnode : db.getNodeRow node.nodeId = some node) :
    db.Amends (recordHeartbeat env now db node runtime) node.nodeId
      (Dossier.heartbeat (now 5) runtime) := by
  obtain ⟨d, hd, -⟩ := Db.dossier_of_getNodeRow hnode
  have hcontacted := amends_contactedDb env now db node runtime
  rw [recordHeartbeat_eq hnode hd]
  cases hreport : d.latest with
  | none => exact Db.Amends.of_dossier hd hcontacted (by rw [Dossier.heartbeat, hreport])
  | some latest =>
    dsimp only
    split_ifs with hsame
    · exact Db.Amends.of_dossier hd hcontacted (by simp only [Dossier.heartbeat, hreport, if_pos hsame])
    · refine Db.Amends.of_dossier hd (hcontacted.trans (Db.amends_withholdCapabilities ..)) ?_
      simp only [Dossier.heartbeat, hreport, if_neg hsame, Function.comp]

/-! ### Reports -/

/-- The dossier after the upload of a report. -/
def Dossier.upload (id : ℕ) (uploadedAt : ℤ) (report : CompatibilityReport) (d : Dossier) : Dossier :=
  let runtimeUnset := d.row.runtime.orbitVersion = ""
  let fresh := runtimeUnset ∨ report.identity = d.row.runtime
  { d with
    row :=
      { d.row with
        lastSeen := some uploadedAt
        lastSeenSource := some "report-upload"
        dshHealthy := if fresh then deriveDshHealthy report else .unknown
        orbitCompatible := if fresh then deriveOrbitCompatible report else .stale
        capabilities := deriveCapabilities report
        capabilitiesStale := ¬fresh
        runtime := if runtimeUnset then report.identity else d.row.runtime }
    reports := d.reports ++ [⟨id, d.row.nodeId, uploadedAt, report.identity, report⟩] }

theorem amends_uploadReport {env : Env} {clock : Clock} {db db' : Db} {node : NodeRow}
    {rawBody : Option Json} {response : UploadResponse}
    (hnode : db.getNodeRow node.nodeId = some node)
    (h : uploadReportAuthenticated env clock db node rawBody = .ok (response, db')) :
    ∃ input report, rawBody = some input ∧ env.createCompatibilityReport input = .ok report ∧
      db.Amends db' node.nodeId (Dossier.upload db.nextReportId (clock 3) report) := by
  obtain ⟨input, hinput, h⟩ := bind_eq_ok.mp h
  have hraw := parseJsonBody_eq_ok.mp hinput
  split at h
  case h_1 => cases h
  case h_2 report hreport =>
    refine ⟨input, report, hraw, hreport, ?_⟩
    obtain ⟨_, -, h⟩ := bind_eq_ok.mp h
    obtain ⟨-, rfl⟩ := Prod.mk.inj (Except.ok.inj h)
    have hcurrent : (db.getNodeRow node.nodeId).getD node = node := by rw [hnode]; rfl
    rw [hcurrent]
    set uploaded : Db := { db with
      reports := db.reports ++ [⟨db.nextReportId, node.nodeId, clock 3, report.identity, report⟩]
      nextReportId := db.nextReportId + 1 } with hdb
    have hstored : db.Amends uploaded node.nodeId fun d => { d with
        reports := d.reports ++
          [⟨db.nextReportId, node.nodeId, clock 3, report.identity, report⟩] } := by
      constructor
      · simp only [Db.dossier, Option.map_map]
        refine congrArg₂ Option.map (funext fun row => ?_) rfl
        simp [hdb, Db.getRouteTarget]
      · intro other hother
        simp only [Db.dossier]
        refine congrArg₂ Option.map (funext fun row => ?_) rfl
        simp [hdb, Db.getRouteTarget, hother.symm]
    refine Db.Amends.before (Db.Amends.congr (hstored.trans (Db.Amends.after
      (Db.amends_updateNode _ node.nodeId (by intro row; rfl)) fun other => ?_)) ?_)
        fun other => Db.dossier_recordAudit ..
    · simp only [Db.dossier_transitionDimension, Db.dossier_insertEvent]
    · intro d hd
      obtain rfl := Db.row_of_dossier hd hnode
      rfl

/-! ### Reconciliation -/

/-- The dossier after a reconciliation at a reading of the clock. -/
def Dossier.reconciled (now : ℤ) (d : Dossier) : Dossier :=
  let next := reconciledState now d.row d.latest
  d.amend fun row =>
    { row with
      capabilities := next.capabilities
      capabilitiesStale := next.capabilitiesStale
      orbitCompatible := next.orbitCompatible
      dshHealthy := next.dshHealthy }

theorem amends_reconcileNode (now : ℤ) (readings : Clock) {db : Db} {node : NodeRow}
    (hnode : db.getNodeRow node.nodeId = some node) :
    db.Amends (reconcileNode now readings db node) node.nodeId (Dossier.reconciled now) := by
  obtain ⟨d, hd, hrow⟩ := Db.dossier_of_getNodeRow hnode
  have hlatest : db.getLatestReport node.nodeId = d.latest := Db.getLatestReport_of_dossier hd
  unfold reconcileNode
  dsimp only
  rw [hlatest]
  split_ifs with hsame
  · refine Db.Amends.of_dossier hd (Db.amends_of_eq fun _ => rfl) ?_
    rw [← hrow, NodeRow.reconciled] at hsame
    rw [Dossier.reconciled, ← hsame]
    rfl
  · refine Db.Amends.before (Db.Amends.of_dossier hd (Db.Amends.after
      (Db.amends_updateNode _ node.nodeId (by intro row; rfl)) fun other => ?_) ?_)
        fun other => Db.dossier_recordAudit ..
    · simp only [Db.dossier_recordEvent]
    · rw [Dossier.reconciled, hrow]

/-! ### Maintenance -/

/-- The columns of a node without a report. -/
def NodeRow.unevidenced (row : NodeRow) : NodeRow :=
  { row with
    orbitCompatible := .unknown
    dshHealthy := .unknown
    capabilities := []
    capabilitiesStale := true }

/-- The columns of a node whose latest report is no longer fresh. -/
def NodeRow.outdated (row : NodeRow) : NodeRow :=
  { row with
    orbitCompatible :=
      if row.orbitCompatible = .pass ∨ row.orbitCompatible = .fail then .stale
      else row.orbitCompatible
    dshHealthy := .unknown
    capabilitiesStale := true }

def Dossier.aged (now : ℤ) (d : Dossier) : Dossier :=
  match d.latest with
  | none => d.amend NodeRow.unevidenced
  | some latest =>
    if reportStalenessMs < now - latest.uploadedAt then d.amend NodeRow.outdated else d

theorem amends_resetEvidence (readings : Clock) {db : Db} {node : NodeRow}
    (hnode : db.getNodeRow node.nodeId = some node) :
    db.Amends (resetEvidence readings db node) node.nodeId (Dossier.amend NodeRow.unevidenced) := by
  unfold resetEvidence
  split_ifs with hchanged
  · refine Db.Amends.after (Db.amends_updateNode _ node.nodeId (by intro row; rfl)) fun other => ?_
    simp only [Db.dossier_transitionDimension]
  · refine (Db.amends_of_eq fun _ => rfl).congr fun d hd => ?_
    obtain rfl := Db.row_of_dossier hd hnode
    simp only [not_or, not_not, ne_eq, Bool.not_eq_true', Bool.not_eq_false] at hchanged
    obtain ⟨hcapabilities, hstale, hcompatible, hhealthy⟩ := hchanged
    rw [Dossier.amend, NodeRow.unevidenced, ← hcapabilities, ← hcompatible, ← hhealthy]
    cases d with
    | mk row reports target => cases row; simp_all

theorem amends_ageEvidence (readings : Clock) (db : Db) (node : NodeRow) :
    db.Amends (ageEvidence readings db node) node.nodeId (Dossier.amend NodeRow.outdated) := by
  unfold ageEvidence
  dsimp only
  refine Db.Amends.after (Db.amends_updateNode _ node.nodeId (by intro row; rfl)) fun other => ?_
  split_ifs <;> simp only [Db.dossier_transitionDimension]

theorem amends_ageReports (now : ℤ) (readings : Clock) {db : Db} {node : NodeRow}
    (hnode : db.getNodeRow node.nodeId = some node) :
    db.Amends (ageReports now readings db node) node.nodeId (Dossier.aged now) := by
  obtain ⟨d, hd, -⟩ := Db.dossier_of_getNodeRow hnode
  rw [ageReports, Db.getLatestReport_of_dossier hd]
  cases hreport : d.latest with
  | none =>
    refine Db.Amends.of_dossier hd (amends_resetEvidence readings hnode) ?_
    rw [Dossier.aged, hreport]
  | some latest =>
    dsimp only
    split_ifs with hold
    · refine Db.Amends.of_dossier hd (amends_ageEvidence readings db node) ?_
      simp only [Dossier.aged, hreport, if_pos hold]
    · refine Db.Amends.of_dossier hd (Db.amends_of_eq fun _ => rfl) ?_
      simp only [Dossier.aged, hreport, if_neg hold, id]

/-- The dossier after the aging of its contact at a reading of the clock. -/
def Dossier.contactAged (config : Config) (now : ℤ) (d : Dossier) : Dossier :=
  match d.row.lastHeartbeatAt with
  | none => d
  | some lastBeat =>
    match agingTarget config (now - lastBeat) d.row with
    | none => d
    | some target =>
      d.amend fun row =>
        { row with
          registryContact := target
          alertFlags :=
            if target = .lost ∧ "contact-lost" ∉ row.alertFlags then
              row.alertFlags ++ ["contact-lost"]
            else row.alertFlags }

theorem amends_ageContact (config : Config) (readings : Clock) {db : Db} {node : NodeRow}
    (hnode : db.getNodeRow node.nodeId = some node) :
    db.Amends (ageContact config readings db node) node.nodeId
      (Dossier.contactAged config (readings 0)) := by
  obtain ⟨d, hd, rfl⟩ := Db.dossier_of_getNodeRow hnode
  unfold ageContact
  cases hbeat : d.row.lastHeartbeatAt with
  | none =>
    refine Db.Amends.of_dossier hd (Db.amends_of_eq fun _ => rfl) ?_
    simp [Dossier.contactAged, hbeat]
  | some lastBeat =>
    dsimp only
    cases htarget : agingTarget config (readings 0 - lastBeat) d.row with
    | none =>
      refine Db.Amends.of_dossier hd (Db.amends_of_eq fun _ => rfl) ?_
      simp [Dossier.contactAged, hbeat, htarget]
    | some target =>
      dsimp only
      have hmoved : db.Amends ((db.transitionDimension (readings 1) d.row.nodeId "registry_contact"
          (·.registryContact.text) target.text "maintenance").updateNode d.row.nodeId fun row =>
            { row with registryContact := target }) d.row.nodeId
          (Dossier.amend fun row => { row with registryContact := target }) := by
        refine Db.Amends.after (Db.amends_updateNode _ d.row.nodeId (by intro row; rfl))
          fun other => ?_
        rw [Db.dossier_transitionDimension]
      split_ifs with hlost
      · refine Db.Amends.of_dossier hd
          (hmoved.trans (Db.amends_setAlertFlag _ d.row.nodeId "contact-lost")) ?_
        simp only [Dossier.contactAged, hbeat, htarget, hlost, Function.comp, Dossier.amend]
        by_cases hflag : "contact-lost" ∈ d.row.alertFlags <;> simp [hflag]
      · refine Db.Amends.of_dossier hd hmoved ?_
        simp only [Dossier.contactAged, hbeat, htarget, hlost, false_and, if_false]

/-! ### Loops over nodes -/

theorem Clock.drop_drop (clock : Clock) (m n : ℕ) : (clock.drop m).drop n = clock.drop (m + n) := by
  funext k
  rw [drop, drop, drop, Nat.add_assoc]

/-- A loop over nodes amends the dossier of each of them once. -/
theorem amends_forEachRow {width : ℕ} {body : Clock → Db → NodeRow → Db}
    {g : Clock → Dossier → Dossier}
    (hbody : ∀ readings (db : Db) node, db.getNodeRow node.nodeId = some node →
      db.Amends (body readings db node) node.nodeId (g readings))
    {rows : List NodeRow} (hnodup : (rows.map NodeRow.nodeId).Nodup) (s : Db × Clock)
    (hrows : ∀ row ∈ rows, s.1.getNodeRow row.nodeId = some row) (nodeId : String) :
    (nodeId ∉ rows.map NodeRow.nodeId →
        (forEachRow width body rows s).1.dossier nodeId = s.1.dossier nodeId) ∧
      (nodeId ∈ rows.map NodeRow.nodeId → ∃ n, (forEachRow width body rows s).1.dossier nodeId =
        (s.1.dossier nodeId).map (g (s.2.drop n))) := by
  induction rows generalizing s with
  | nil => exact ⟨fun _ => rfl, fun h => (List.not_mem_nil h).elim⟩
  | cons row rest ih =>
    rw [List.map_cons, List.nodup_cons] at hnodup
    obtain ⟨hrow, hrest⟩ := hnodup
    have hamends := hbody s.2 s.1 row (hrows row List.mem_cons_self)
    obtain ⟨hout, hin⟩ := ih hrest (body s.2 s.1 row, s.2.drop width) fun other hother => by
      have hne : other.nodeId ≠ row.nodeId := fun heq =>
        hrow (heq ▸ List.mem_map_of_mem hother)
      rw [Db.getNodeRow_eq_dossier, hamends.others _ hne, ← Db.getNodeRow_eq_dossier]
      exact hrows other (List.mem_cons_of_mem row hother)
    rw [forEachRow, List.map_cons]
    by_cases hnode : nodeId = row.nodeId
    · subst hnode
      refine ⟨fun h => absurd List.mem_cons_self h, fun _ => ⟨0, ?_⟩⟩
      have hzero : s.2.drop 0 = s.2 := by
        funext k
        rw [Clock.drop, Nat.zero_add]
      rw [hout hrow, hamends.own, hzero]
    · refine ⟨fun h => ?_, fun h => ?_⟩
      · rw [hout fun hmem => h (List.mem_cons_of_mem _ hmem), hamends.others nodeId hnode]
      · have hmem := (List.mem_cons.mp h).resolve_left hnode
        obtain ⟨n, hn⟩ := hin hmem
        exact ⟨width + n, by rw [hn, hamends.others nodeId hnode, Clock.drop_drop]⟩

/-- A loop over the nodes that a query selects. -/
theorem dossier_forEachNode {width : ℕ} {body : Clock → Db → NodeRow → Db}
    {g : Clock → Dossier → Dossier}
    (hbody : ∀ readings (db : Db) node, db.getNodeRow node.nodeId = some node →
      db.Amends (body readings db node) node.nodeId (g readings))
    (p : NodeRow → Bool) {s : Db × Clock} (hnodup : (s.1.nodes.map NodeRow.nodeId).Nodup)
    (nodeId : String) :
    ∃ n, (forEachRow width body (s.1.nodes.filter p) s).1.dossier nodeId =
      (s.1.dossier nodeId).map fun d => if p d.row then g (s.2.drop n) d else d := by
  have hsub : ((s.1.nodes.filter p).map NodeRow.nodeId).Nodup :=
    hnodup.sublist (List.filter_sublist.map _)
  obtain ⟨hout, hin⟩ := amends_forEachRow hbody hsub s
    (fun row hrow => find?_of_nodup hnodup (List.mem_of_mem_filter hrow) rfl) nodeId
  by_cases hmem : nodeId ∈ (s.1.nodes.filter p).map NodeRow.nodeId
  · obtain ⟨n, hn⟩ := hin hmem
    obtain ⟨row, hrow, rfl⟩ := List.mem_map.mp hmem
    have hfound : s.1.getNodeRow row.nodeId = some row :=
      find?_of_nodup hnodup (List.mem_of_mem_filter hrow) rfl
    obtain ⟨d, hd, rfl⟩ := Db.dossier_of_getNodeRow hfound
    refine ⟨n, hn.trans ?_⟩
    rw [hd, Option.map_some, Option.map_some, if_pos (List.mem_filter.mp hrow).2]
  · refine ⟨0, (hout hmem).trans ?_⟩
    cases hd : s.1.dossier nodeId with
    | none => rfl
    | some d =>
      have hrow := (Db.dossier_eq_some.mp hd).1
      have hkept : ¬p d.row = true := fun hp => hmem (List.mem_map.mpr
        ⟨d.row, List.mem_filter.mpr ⟨List.mem_of_find?_eq_some hrow, hp⟩, Db.nodeId_of_dossier hd⟩)
      rw [Option.map_some, if_neg hkept]

/-- A loop whose body records only. -/
theorem dossier_forEachRow {Row : Type} (width : ℕ) {body : Clock → Db → Row → Db}
    (hbody : ∀ clock (db : Db) row nodeId, (body clock db row).dossier nodeId = db.dossier nodeId)
    (rows : List Row) (s : Db × Clock) (nodeId : String) :
    (forEachRow width body rows s).1.dossier nodeId = s.1.dossier nodeId := by
  induction rows generalizing s with
  | nil => rfl
  | cons row rows ih => exact (ih _).trans (hbody s.2 s.1 row nodeId)

theorem snd_forEachRow {Row : Type} (width : ℕ) (body : Clock → Db → Row → Db) (rows : List Row)
    (s : Db × Clock) : ∃ n, (forEachRow width body rows s).2 = s.2.drop n := by
  induction rows generalizing s with
  | nil => exact ⟨0, funext fun k => by rw [Clock.drop, Nat.zero_add]; rfl⟩
  | cons row rows ih =>
    obtain ⟨n, hn⟩ := ih (body s.2 s.1 row, s.2.drop width)
    exact ⟨width + n, by rw [forEachRow, hn, Clock.drop_drop]⟩

/-! ### The phases of maintenance -/

/-- The dossier after the retention of reports. -/
def Dossier.purged (now : ℤ) (d : Dossier) : Dossier :=
  { d with reports := deleteWhere (fun row => row.uploadedAt ≤ now - reportRetentionMs) d.reports }

/-- The dossier after a maintenance that judges the age of reports at `now` and at `judgedAt`,
and the age of the contact at `agedAt`. -/
def Dossier.maintained (config : Config) (now judgedAt agedAt : ℤ) (d : Dossier) : Dossier :=
  let purged := d.purged now
  if d.row.state = .active then
    ((purged.aged now).reconciled judgedAt).contactAged config agedAt
  else purged

/-- The reading at which the reconciliation of a maintenance judges the age of reports. -/
def reconcileReading (clock : Clock) (db : Db) : ℤ :=
  (ageAllReports (clock 0) (expireAndPurge clock db)).2 0

/-! ### Parts of a dossier -/

namespace Dossier

/-- Where a node is reached, and whether it is. -/
structure Route where
  state : NodeState
  mintedAt : ℤ
  routeMode : RouteMode
  target : Option String
  reachable : Reachable
  deriving DecidableEq

def route (d : Dossier) : Route :=
  ⟨d.row.state, d.row.mintedAt, d.row.routeMode, d.target, d.row.reachable⟩

/-- The contact of a node with the registry. -/
structure Contact where
  registryContact : RegistryContact
  alertFlags : List String
  lastHeartbeatAt : Option ℤ
  deriving DecidableEq

def contact (d : Dossier) : Contact :=
  ⟨d.row.registryContact, d.row.alertFlags, d.row.lastHeartbeatAt⟩

/-- What is derived from the reports of a node. -/
structure Evidence where
  capabilities : List Capability
  capabilitiesStale : Bool
  orbitCompatible : OrbitCompatible
  dshHealthy : DshHealthy
  deriving DecidableEq

def evidence (d : Dossier) : Evidence :=
  ⟨d.row.capabilities, d.row.capabilitiesStale, d.row.orbitCompatible, d.row.dshHealthy⟩

variable (d : Dossier)

@[simp]
theorem heartbeat_route (beatAt : ℤ) (runtime : RuntimeIdentity) :
    (d.heartbeat beatAt runtime).route = d.route := by
  unfold heartbeat
  split
  · rfl
  · split_ifs <;> rfl

@[simp]
theorem heartbeat_contact (beatAt : ℤ) (runtime : RuntimeIdentity) :
    (d.heartbeat beatAt runtime).contact =
      ⟨.fresh, d.row.alertFlags.filter fun entry => entry ≠ "contact-lost", some beatAt⟩ := by
  unfold heartbeat
  split
  · rfl
  · split_ifs <;> rfl

@[simp]
theorem heartbeat_reports (beatAt : ℤ) (runtime : RuntimeIdentity) :
    (d.heartbeat beatAt runtime).reports = d.reports := by
  unfold heartbeat
  split
  · rfl
  · split_ifs <;> rfl

@[simp]
theorem heartbeat_runtime (beatAt : ℤ) (runtime : RuntimeIdentity) :
    (d.heartbeat beatAt runtime).row.runtime = runtime := by
  unfold heartbeat
  split
  · rfl
  · split_ifs <;> rfl

@[simp]
theorem upload_route (id : ℕ) (uploadedAt : ℤ) (report : CompatibilityReport) :
    (d.upload id uploadedAt report).route = d.route := rfl

@[simp]
theorem upload_contact (id : ℕ) (uploadedAt : ℤ) (report : CompatibilityReport) :
    (d.upload id uploadedAt report).contact = d.contact := rfl

@[simp]
theorem reconciled_route (now : ℤ) : (d.reconciled now).route = d.route := rfl

@[simp]
theorem reconciled_contact (now : ℤ) : (d.reconciled now).contact = d.contact := rfl

@[simp]
theorem reconciled_reports (now : ℤ) : (d.reconciled now).reports = d.reports := rfl

@[simp]
theorem reconciled_runtime (now : ℤ) : (d.reconciled now).row.runtime = d.row.runtime := rfl

@[simp]
theorem purged_row (now : ℤ) : (d.purged now).row = d.row := rfl

@[simp]
theorem purged_route (now : ℤ) : (d.purged now).route = d.route := rfl

@[simp]
theorem purged_contact (now : ℤ) : (d.purged now).contact = d.contact := rfl

theorem aged_cases (now : ℤ) : d.aged now = d ∨ d.aged now = d.amend NodeRow.unevidenced ∨
    d.aged now = d.amend NodeRow.outdated := by
  unfold aged
  split
  · exact .inr (.inl rfl)
  · split_ifs
    · exact .inr (.inr rfl)
    · exact .inl rfl

@[simp]
theorem aged_route (now : ℤ) : (d.aged now).route = d.route := by
  rcases d.aged_cases now with h | h | h <;> rw [h] <;> rfl

@[simp]
theorem aged_contact (now : ℤ) : (d.aged now).contact = d.contact := by
  rcases d.aged_cases now with h | h | h <;> rw [h] <;> rfl

@[simp]
theorem aged_reports (now : ℤ) : (d.aged now).reports = d.reports := by
  rcases d.aged_cases now with h | h | h <;> rw [h] <;> rfl

@[simp]
theorem aged_runtime (now : ℤ) : (d.aged now).row.runtime = d.row.runtime := by
  rcases d.aged_cases now with h | h | h <;> rw [h] <;> rfl

theorem contactAged_cases (config : Config) (now : ℤ) :
    d.contactAged config now = d ∨ ∃ f : NodeRow → NodeRow, d.contactAged config now = d.amend f ∧
      ∀ row, ∃ contact flags, f row = { row with registryContact := contact, alertFlags := flags } := by
  unfold contactAged
  split
  · exact .inl rfl
  · split
    · exact .inl rfl
    · exact .inr ⟨_, rfl, fun row => ⟨_, _, rfl⟩⟩

@[simp]
theorem contactAged_route (config : Config) (now : ℤ) : (d.contactAged config now).route = d.route := by
  rcases d.contactAged_cases config now with h | ⟨f, h, hf⟩
  · rw [h]
  · obtain ⟨contact, flags, hrow⟩ := hf d.row
    rw [h, route, amend_row, hrow]
    rfl

@[simp]
theorem contactAged_evidence (config : Config) (now : ℤ) :
    (d.contactAged config now).evidence = d.evidence := by
  rcases d.contactAged_cases config now with h | ⟨f, h, hf⟩
  · rw [h]
  · obtain ⟨contact, flags, hrow⟩ := hf d.row
    rw [h, evidence, amend_row, hrow]
    rfl

@[simp]
theorem contactAged_reports (config : Config) (now : ℤ) :
    (d.contactAged config now).reports = d.reports := by
  rcases d.contactAged_cases config now with h | ⟨f, h, hf⟩ <;> rw [h]
  rfl

@[simp]
theorem contactAged_runtime (config : Config) (now : ℤ) :
    (d.contactAged config now).row.runtime = d.row.runtime := by
  rcases d.contactAged_cases config now with h | ⟨f, h, hf⟩
  · rw [h]
  · obtain ⟨contact, flags, hrow⟩ := hf d.row
    rw [h, amend_row, hrow]

theorem reconciled_state (now : ℤ) : (d.reconciled now).row.state = d.row.state := rfl

theorem aged_state (now : ℤ) : (d.aged now).row.state = d.row.state :=
  congrArg Route.state (d.aged_route now)

@[simp]
theorem maintained_route (config : Config) (now judgedAt agedAt : ℤ) :
    (d.maintained config now judgedAt agedAt).route = d.route := by
  unfold maintained
  dsimp only
  split_ifs
  · rw [contactAged_route, reconciled_route, aged_route, purged_route]
  · rw [purged_route]

@[simp]
theorem maintained_reports (config : Config) (now judgedAt agedAt : ℤ) :
    (d.maintained config now judgedAt agedAt).reports = (d.purged now).reports := by
  unfold maintained
  dsimp only
  split_ifs
  · rw [contactAged_reports, reconciled_reports, aged_reports]
  · rfl

@[simp]
theorem maintained_runtime (config : Config) (now judgedAt agedAt : ℤ) :
    (d.maintained config now judgedAt agedAt).row.runtime = d.row.runtime := by
  unfold maintained
  dsimp only
  split_ifs
  · rw [contactAged_runtime, reconciled_runtime, aged_runtime, purged_row]
  · rfl

end Dossier

theorem dossier_expireAndPurge (clock : Clock) (db : Db) (nodeId : String) :
    (expireAndPurge clock db).1.dossier nodeId = (db.dossier nodeId).map (Dossier.purged (clock 0)) := by
  have hkeys : ∀ other, (expireRouteKeys (expireNodeKeys (db, clock.drop 1))).1.dossier other =
      db.dossier other := by
    intro other
    refine (dossier_forEachRow 2 (by intros; rfl) _ _ other).trans ?_
    exact dossier_forEachRow 1 (by intros; rfl) _ _ other
  rw [expireAndPurge, ← hkeys nodeId]
  simp only [Db.dossier, Option.map_map]
  refine congrArg₂ Option.map (funext fun row => ?_) rfl
  simp only [Function.comp, Dossier.purged, Dossier.mk.injEq, true_and]
  refine ⟨?_, rfl⟩
  simp only [purgeRetained, deleteWhere, List.filter_filter, Bool.and_comm]

theorem dossier_retireEvents (now : ℤ) (db : Db) (nodeId : String) :
    (retireEvents now db).dossier nodeId = db.dossier nodeId := by
  have hgroup : ∀ (summaries : RollupGroup → Json) (db : Db) (group : RollupGroup),
      (rollupEvents summaries db group).dossier nodeId = db.dossier nodeId := by
    intro summaries db group
    unfold rollupEvents
    dsimp only
    split_ifs <;> rfl
  have hfold : ∀ (groups : List RollupGroup) (summaries : RollupGroup → Json) (db : Db),
      (groups.foldl (rollupEvents summaries) db).dossier nodeId = db.dossier nodeId := by
    intro groups summaries
    induction groups with
    | nil => exact fun _ => rfl
    | cons group groups ih => exact fun db => (ih _).trans (hgroup summaries db group)
  exact hfold _ _ db

theorem nodup_nodes_of_ledger {db db' : Db} (h : db'.ledger = db.ledger)
    (hnodup : (db.nodes.map NodeRow.nodeId).Nodup) : (db'.nodes.map NodeRow.nodeId).Nodup := by
  have hmembers := congrArg (fun l => l.members.map (·.1)) h
  simp only [Db.ledger, NodeRow.member, List.map_map, Function.comp_def] at hmembers
  rw [hmembers]
  exact hnodup

theorem reconcile_dossier (clock : Clock) (db : Db) (hnodup : (db.nodes.map NodeRow.nodeId).Nodup)
    (nodeId : String) : (reconcileNodeCapabilities clock db).1.dossier nodeId =
      (db.dossier nodeId).map fun d =>
        if d.row.state = .active then d.reconciled (clock 0) else d := by
  have hbody : ∀ readings (db : Db) node, db.getNodeRow node.nodeId = some node →
      db.Amends (reconcileNode (clock 0) readings db node) node.nodeId (Dossier.reconciled (clock 0)) :=
    fun readings db node hnode => amends_reconcileNode (clock 0) readings hnode
  obtain ⟨n, hn⟩ := dossier_forEachNode (s := (db, clock.drop 1)) hbody
    (fun node => node.state = .active) hnodup nodeId
  rw [reconcileNodeCapabilities, hn]
  simp only [decide_eq_true_eq]

theorem nodup_expireAndPurge (clock : Clock) {db : Db}
    (hnodup : (db.nodes.map NodeRow.nodeId).Nodup) :
    ((expireAndPurge clock db).1.nodes.map NodeRow.nodeId).Nodup := by
  obtain ⟨_, -, hnode⟩ :=
    forEachRow_expireNodeKey (endedNodeKeys db (clock 1)) (db, (clock.drop 1).drop 1)
  set expired := expireNodeKeys (db, clock.drop 1)
  obtain ⟨_, -, hroute⟩ :=
    forEachRow_expireRouteKey (endedRouteKeys expired.1 (expired.2 0)) (expired.1, expired.2.drop 1)
  have hexpired : expired.1.ledger.members = db.ledger.members := by
    have := congrArg Ledger.members hnode
    exact this
  have hmembers : (expireAndPurge clock db).1.ledger.members = expired.1.ledger.members := by
    have := congrArg Ledger.members hroute
    exact this
  rw [hexpired] at hmembers
  have hids := congrArg (List.map (·.1)) hmembers
  simp only [Db.ledger, NodeRow.member, List.map_map, Function.comp_def] at hids
  rw [hids]
  exact hnodup

theorem snd_expireAndPurge (clock : Clock) (db : Db) :
    ∃ n, (expireAndPurge clock db).2 = clock.drop n := by
  obtain ⟨a, ha⟩ := snd_forEachRow 1 expireNodeKey (endedNodeKeys db (clock 1))
    (db, (clock.drop 1).drop 1)
  set expired := expireNodeKeys (db, clock.drop 1)
  obtain ⟨b, hb⟩ := snd_forEachRow 2 expireRouteKey (endedRouteKeys expired.1 (expired.2 0))
    (expired.1, expired.2.drop 1)
  have hexpired : expired.2 = clock.drop (1 + 1 + a) := by
    rw [← Clock.drop_drop, ← Clock.drop_drop]
    exact ha
  refine ⟨1 + 1 + a + 1 + b, ?_⟩
  calc (expireAndPurge clock db).2 = (expired.2.drop 1).drop b := hb
    _ = clock.drop (1 + 1 + a + 1 + b) := by
      rw [hexpired, Clock.drop_drop, Clock.drop_drop, Nat.add_assoc (1 + 1 + a)]

/-- The readings after the phases up to the reconciliation are readings of the call. -/
theorem snd_reconcile (clock : Clock) (db : Db) : ∃ m n,
    (ageAllReports (clock 0) (expireAndPurge clock db)).2 = clock.drop m ∧
      (reconcileNodeCapabilities (ageAllReports (clock 0) (expireAndPurge clock db)).2
        (ageAllReports (clock 0) (expireAndPurge clock db)).1).2 = clock.drop n := by
  obtain ⟨b, hpurged⟩ := snd_expireAndPurge clock db
  obtain ⟨c, hc⟩ := snd_forEachRow 2 (ageReports (clock 0))
    (activeNodes (expireAndPurge clock db).1) (expireAndPurge clock db)
  have haged : (ageAllReports (clock 0) (expireAndPurge clock db)).2 = clock.drop (b + c) := by
    rw [← Clock.drop_drop, ← hpurged]
    exact hc
  set aged := ageAllReports (clock 0) (expireAndPurge clock db)
  obtain ⟨e, he⟩ := snd_forEachRow 3 (reconcileNode (aged.2 0))
    (aged.1.nodes.filter fun node => node.state = .active) (aged.1, aged.2.drop 1)
  refine ⟨_, b + c + 1 + e, haged, ?_⟩
  refine he.trans ?_
  rw [haged, Clock.drop_drop, Clock.drop_drop]
  exact congrArg clock.drop (by omega)

theorem dossier_ageAllReports (now : ℤ) {s : Db × Clock}
    (hnodup : (s.1.nodes.map NodeRow.nodeId).Nodup) (nodeId : String) :
    (ageAllReports now s).1.dossier nodeId = (s.1.dossier nodeId).map fun d =>
      if d.row.state = .active then d.aged now else d := by
  have hbody : ∀ readings (db : Db) node, db.getNodeRow node.nodeId = some node →
      db.Amends (ageReports now readings db node) node.nodeId (Dossier.aged now) :=
    fun readings db node hnode => amends_ageReports now readings hnode
  obtain ⟨_, hage⟩ := dossier_forEachNode hbody (fun node => node.state = .active) hnodup nodeId
  rw [ageAllReports, activeNodes, hage]
  simp only [decide_eq_true_eq]

theorem dossier_ageContacts (config : Config) {s : Db × Clock}
    (hnodup : (s.1.nodes.map NodeRow.nodeId).Nodup) (nodeId : String) :
    ∃ k, (ageContacts config s).1.dossier nodeId = (s.1.dossier nodeId).map fun d =>
      if d.row.state = .active then d.contactAged config (s.2 k) else d := by
  have hbody : ∀ readings (db : Db) node, db.getNodeRow node.nodeId = some node →
      db.Amends (ageContact config readings db node) node.nodeId
        (Dossier.contactAged config (readings 0)) :=
    fun readings db node hnode => amends_ageContact config readings hnode
  obtain ⟨k, hcontact⟩ := dossier_forEachNode (g := fun readings => Dossier.contactAged config (readings 0))
    hbody (fun node => node.lastHeartbeatAt.isSome && decide (node.state = .active)) hnodup nodeId
  refine ⟨k, ?_⟩
  rw [ageContacts, activeNodes, List.filter_filter, hcontact]
  refine congrArg₂ Option.map (funext fun d => ?_) rfl
  have hreading : (s.2.drop k) 0 = s.2 k := by rw [Clock.drop, Nat.add_zero]
  rw [hreading]
  by_cases hactive : d.row.state = .active
  · cases hbeat : d.row.lastHeartbeatAt with
    | none => simp [hactive, Dossier.contactAged, hbeat]
    | some lastBeat => simp [hactive]
  · simp [hactive]

theorem dossier_auditExpiries (s : Db × Clock) (nodeId : String) :
    (auditExpiries s).1.dossier nodeId = s.1.dossier nodeId :=
  dossier_forEachRow 2 (by intros; rfl) _ _ nodeId

/-- What a maintenance makes of a dossier. -/
theorem dossier_maintenance (config : Config) (clock : Clock) (db : Db)
    (hnodup : (db.nodes.map NodeRow.nodeId).Nodup) (nodeId : String) :
    ∃ n, (maintenance config clock db).2.dossier nodeId = (db.dossier nodeId).map
      (Dossier.maintained config (clock 0) (reconcileReading clock db) (clock n)) := by
  obtain ⟨_, m, -, hreadings⟩ := snd_reconcile clock db
  have hpurge := dossier_expireAndPurge clock db nodeId
  have hnodupPurged := nodup_expireAndPurge clock hnodup
  rw [maintenance, reconcileReading, ageRecords]
  dsimp only
  generalize expireAndPurge clock db = purged at *
  have hage := dossier_ageAllReports (clock 0) hnodupPurged nodeId
  have hledger : (ageAllReports (clock 0) purged).1.ledger = purged.1.ledger :=
    ledger_forEachRow 2 (ledger_ageReports (clock 0)) _ purged
  have hnodupAged := nodup_nodes_of_ledger hledger hnodupPurged
  generalize ageAllReports (clock 0) purged = aged at *
  have hreconcile := reconcile_dossier aged.2 aged.1 hnodupAged nodeId
  have hnodupReconciled := nodup_nodes_of_ledger
    (ledger_reconcileNodeCapabilities aged.2 aged.1) hnodupAged
  generalize reconcileNodeCapabilities aged.2 aged.1 = reconciled at *
  have hnodupRetired := nodup_nodes_of_ledger (ledger_retireEvents (clock 0) reconciled.1)
    hnodupReconciled
  obtain ⟨k, hcontact⟩ := dossier_ageContacts config
    (s := (retireEvents (clock 0) reconciled.1, reconciled.2)) hnodupRetired nodeId
  refine ⟨m + k, ?_⟩
  rw [dossier_auditExpiries, hcontact, dossier_retireEvents, hreconcile, hage, hpurge, hreadings]
  simp only [Option.map_map]
  refine congrArg₂ Option.map (funext fun d => ?_) rfl
  have hpurgedState : (d.purged (clock 0)).row.state = d.row.state := rfl
  by_cases hactive : d.row.state = .active
  · simp only [Function.comp, Dossier.maintained, hpurgedState, hactive, if_true,
      Dossier.aged_state, Dossier.reconciled_state, Clock.drop]
  · simp only [Function.comp, Dossier.maintained, hpurgedState, hactive, if_false]

end DshOrbit.Registry
