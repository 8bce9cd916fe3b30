import DshOrbit.Registry.KeyLogs

/-!
# Sessions and audit rows

The sessions of browsers are read and written by four operations only. Every other operation
leaves them, and at most adds audit rows, none of which is the one of an expired session.

## Main definitions

- `Logbook`, `Db.logbook` — the sessions and the audit rows
- `Db.Logs` — the sessions stay, and some audit rows are added

## Main results

- `step_logs` — a call that is none of the operations on sessions
-/

namespace DshOrbit.Registry

open DshOrbit.Lib DshOrbit.Protocol

/-- What the database has of sessions and of what was audited. -/
structure Logbook where
  sessions : List SessionRow
  audit : List AuditRow
  nextAuditId : ℕ

def Db.logbook (db : Db) : Logbook := ⟨db.sessions, db.audit, db.nextAuditId⟩

/-- The audit rows have ids below the next one. -/
def Db.AuditsBelow (db : Db) : Prop := ∀ row ∈ db.audit, row.id < db.nextAuditId

theorem Db.AuditsBelow.recordAudit {db : Db} (h : db.AuditsBelow) (recordedAt : ℤ)
    (actor action : String) (detail : Json) :
    (db.recordAudit recordedAt actor action detail).AuditsBelow := by
  intro row hrow
  rcases List.mem_append.mp hrow with hold | hnew
  · exact (h row hold).trans (Nat.lt_succ_self _)
  · rw [List.mem_singleton.mp hnew]
    exact Nat.lt_succ_self _

/-- The audit row of an expired session. -/
def AuditRow.isExpiry (row : AuditRow) : Bool := row.action = "session.expired"

/-- The sessions stay, and audit rows are dropped or added, none of them of an expired session. -/
structure Db.Logs (db db' : Db) : Prop where
  sessions : db'.sessions = db.sessions
  below : db.AuditsBelow → db'.AuditsBelow
  nextAuditId : db.nextAuditId ≤ db'.nextAuditId
  expiries : ∀ row ∈ db'.audit, row.isExpiry = true → row ∈ db.audit

namespace Db.Logs

variable {db db' db'' : Db}

theorem of_logbook (h : db'.logbook = db.logbook) : db.Logs db' := by
  obtain ⟨hsessions, haudit, hnext⟩ := Logbook.mk.inj h
  refine ⟨hsessions, fun hbelow => ?_, hnext.ge, fun row hrow _ => haudit ▸ hrow⟩
  rw [AuditsBelow, haudit, hnext]
  exact hbelow

theorem refl (db : Db) : db.Logs db := .of_logbook rfl

theorem trans (h : db.Logs db') (h' : db'.Logs db'') : db.Logs db'' where
  sessions := h'.sessions.trans h.sessions
  below hbelow := h'.below (h.below hbelow)
  nextAuditId := h.nextAuditId.trans h'.nextAuditId
  expiries row hrow hexpiry := h.expiries row (h'.expiries row hrow hexpiry) hexpiry

theorem recordAudit (h : db.Logs db') (recordedAt : ℤ) (actor : String) {action : String}
    (detail : Json) (haction : action ≠ "session.expired") :
    db.Logs (db'.recordAudit recordedAt actor action detail) where
  sessions := h.sessions
  below hbelow := (h.below hbelow).recordAudit recordedAt actor action detail
  nextAuditId := h.nextAuditId.trans (Nat.le_succ _)
  expiries row hrow hexpiry := by
    rcases List.mem_append.mp hrow with hold | hnew
    · exact h.expiries row hold hexpiry
    · rw [List.mem_singleton.mp hnew] at hexpiry
      exact absurd (of_decide_eq_true hexpiry) haction

/-- A loop over rows. -/
theorem forEachRow {Row : Type} (width : ℕ) {body : Clock → Db → Row → Db}
    (hbody : ∀ (clock : Clock) (db : Db) (row : Row), db.Logs (body clock db row)) (rows : List Row) (s : Db × Clock) :
    s.1.Logs (forEachRow width body rows s).1 := by
  induction rows generalizing s with
  | nil => exact refl s.1
  | cons row rows ih =>
    exact (hbody s.2 s.1 row).trans (ih (body s.2 s.1 row, s.2.drop width))

theorem commit {attempt : Attempt Db} (h : ∀ db', attempt = .ok db' → db.Logs db') :
    db.Logs (commit db attempt) := by
  cases attempt with
  | error fault => exact refl db
  | ok db' => exact h db' rfl

end Db.Logs

/-! ### Nodes and events -/

namespace Db

variable (db : Db)

@[simp]
theorem logbook_updateNode (nodeId : String) (f : NodeRow → NodeRow) :
    (db.updateNode nodeId f).logbook = db.logbook := rfl

@[simp]
theorem logbook_insertEvent (occurredAt : ℤ)
    (nodeId dimension fromValue toValue source : String) :
    (db.insertEvent occurredAt nodeId dimension fromValue toValue source).logbook = db.logbook := rfl

@[simp]
theorem logbook_recordEvent (occurredAt : ℤ)
    (nodeId dimension fromValue toValue source : String) :
    (db.recordEvent occurredAt nodeId dimension fromValue toValue source).logbook = db.logbook := by
  rw [recordEvent]
  split_ifs <;> rfl

@[simp]
theorem logbook_transitionDimension (now : ℤ) (nodeId dimension : String)
    (column : NodeRow → String) (toValue source : String) :
    (db.transitionDimension now nodeId dimension column toValue source).logbook = db.logbook := by
  rw [transitionDimension]
  split
  · rfl
  · exact logbook_recordEvent ..

@[simp]
theorem logbook_setReachable (now : ℤ) (nodeId : String) (reachable : Reachable)
    (source : String) : (db.setReachable now nodeId reachable source).logbook = db.logbook :=
  logbook_transitionDimension ..

@[simp]
theorem logbook_setAlertFlag (nodeId flag : String) :
    (db.setAlertFlag nodeId flag).logbook = db.logbook := by
  rw [setAlertFlag]
  split
  · rfl
  · split_ifs <;> rfl

@[simp]
theorem logbook_clearAlertFlag (nodeId flag : String) :
    (db.clearAlertFlag nodeId flag).logbook = db.logbook := by
  rw [clearAlertFlag]
  split
  · rfl
  · split_ifs <;> rfl

@[simp]
theorem logbook_withholdCapabilities (readings : Clock) (nodeId source : String) :
    (db.withholdCapabilities readings nodeId source).logbook = db.logbook := by
  rw [withholdCapabilities]
  split
  · rfl
  · dsimp only
    split_ifs <;> simp

end Db

@[simp]
theorem logbook_recordHeartbeat (env : Env) (now : Clock) (db : Db) (node : NodeRow)
    (runtime : RuntimeIdentity) : (recordHeartbeat env now db node runtime).logbook = db.logbook := by
  rw [recordHeartbeat]
  split
  · simp [Db.transitionRegistryContact]
  · split_ifs <;> simp [Db.transitionRegistryContact]

/-! ### Route keys -/

section Operations

variable {env : Env} {entropy : Entropy} {clock : Clock} {db db' : Db}

theorem logbook_provisionHubRouteKey {createdAt : ℤ} {nodeId : String} {row : HubRouteKeyRow}
    (h : db.provisionHubRouteKey env entropy createdAt nodeId = .ok (row, db')) :
    db'.logbook = db.logbook := by
  obtain ⟨keyId, -, h⟩ := bind_eq_ok.mp h
  obtain ⟨inserted, hinsert, h⟩ := bind_eq_ok.mp h
  obtain ⟨-, rfl⟩ := Prod.mk.inj (Except.ok.inj h)
  obtain ⟨-, rfl⟩ := Db.insertHubRouteKey_ok hinsert
  rfl

theorem logs_ensureHubRouteKey {createdAt auditedAt : ℤ} {nodeId : String} {row : HubRouteKeyRow}
    (h : db.ensureHubRouteKey env entropy createdAt auditedAt nodeId = .ok (row, db')) :
    db.Logs db' := by
  rw [Db.ensureHubRouteKey] at h
  split at h
  · rw [(Prod.mk.inj (Except.ok.inj h)).2]
    exact .refl db'
  · obtain ⟨⟨row, provisioned⟩, hprovision, h⟩ := bind_eq_ok.mp h
    obtain ⟨-, rfl⟩ := Prod.mk.inj (Except.ok.inj h)
    exact (Db.Logs.of_logbook (logbook_provisionHubRouteKey hprovision)).recordAudit _ _ _
      (by decide)

theorem logs_acknowledgeHubRouteKeys {activatedAt overlapFrom auditedAt : ℤ} {nodeId : String}
    {ids : List Json} :
    db.Logs (db.acknowledgeHubRouteKeys env activatedAt overlapFrom auditedAt nodeId ids) := by
  rw [Db.acknowledgeHubRouteKeys]
  split
  · exact .refl db
  · split_ifs
    · refine Db.Logs.recordAudit (.of_logbook ?_) _ _ _ ?_
      · rfl
      · decide
    · exact .refl db
  · split
    · split_ifs
      · refine Db.Logs.recordAudit (.of_logbook ?_) _ _ _ ?_
        · rfl
        · decide
      · exact .refl db
    · exact .refl db

theorem logs_rotateHubRouteKey {actor nodeId : Option String} {result : Db.RotateHubRouteKeyResult}
    (h : db.rotateHubRouteKey env entropy clock actor nodeId = .ok (result, db')) :
    db.Logs db' := by
  obtain ⟨_, -, h⟩ := bind_eq_ok.mp h
  obtain ⟨_, -, h⟩ := bind_eq_ok.mp h
  split at h
  case h_1 => cases h
  case h_2 =>
    split_ifs at h
    · cases h
    · dsimp only at h
      split at h
      case h_1 => cases h
      case h_2 =>
        split_ifs at h
        · cases h
        · obtain ⟨⟨row, inserted⟩, hprovision, h⟩ := bind_eq_ok.mp h
          obtain ⟨-, rfl⟩ := Prod.mk.inj (Except.ok.inj h)
          exact (Db.Logs.of_logbook (logbook_provisionHubRouteKey hprovision)).recordAudit _ _ _
            (by decide)

/-! ### Tokens -/

theorem logs_mintEnrollmentToken {req : MintRequest} {minted : MintedToken}
    (h : mintEnrollmentToken env entropy clock db req = .ok (minted, db')) : db.Logs db' := by
  rw [mintEnrollmentToken] at h
  split_ifs at h
  · cases h
  · obtain ⟨_, -, h⟩ := bind_eq_ok.mp h
    obtain ⟨inserted, hinsert, h⟩ := bind_eq_ok.mp h
    obtain ⟨-, rfl⟩ := Prod.mk.inj (Except.ok.inj h)
    obtain ⟨-, rfl⟩ := Db.insertToken_ok hinsert
    refine Db.Logs.recordAudit (.of_logbook ?_) _ _ _ ?_
    · rfl
    · decide

theorem logs_admitNode {entry : TokenRow} {fields : EnrollFields} {actor keyId : String}
    {admission : Admission} {result : EnrollmentResult}
    (haction : admission.action ≠ "session.expired")
    (h : admitNode env entropy clock db entry fields actor keyId admission = .ok (result, db')) :
    db.Logs db' := by
  obtain ⟨db1, hnode, h⟩ := bind_eq_ok.mp h
  obtain ⟨-, hdb1⟩ := Db.insertNode_ok hnode
  obtain ⟨db2, hkey, h⟩ := bind_eq_ok.mp h
  obtain ⟨-, hdb2⟩ := Db.insertNodeKey_ok hkey
  obtain ⟨db3, hroute, h⟩ := bind_eq_ok.mp h
  obtain ⟨db4, hresult, h⟩ := bind_eq_ok.mp h
  obtain ⟨-, rfl⟩ := Db.insertResult_ok hresult
  obtain ⟨-, rfl⟩ := Prod.mk.inj (Except.ok.inj h)
  have hinserted : db.Logs db2 := by
    rw [hdb2, hdb1]
    exact .of_logbook rfl
  have hprovisioned : db.Logs db3 := by
    rw [Admission.provisionRouteKey] at hroute
    split_ifs at hroute
    · obtain ⟨⟨row, _⟩, hensure, rfl⟩ := map_eq_ok.mp hroute
      exact hinserted.trans (logs_ensureHubRouteKey hensure)
    · rw [← Except.ok.inj hroute]
      exact hinserted
  refine Db.Logs.recordAudit (hprovisioned.trans (.of_logbook ?_)) _ _ _ haction
  rfl

theorem logs_restoreNode {entry : TokenRow} {fields : ReenrollFields} {actor newKeyId : String}
    {historical : NodeKeyRow} {result : EnrollmentResult}
    (h : restoreNode env entropy clock db entry fields actor historical newKeyId =
      .ok (result, db')) : db.Logs db' := by
  obtain ⟨db1, hnonce, h⟩ := bind_eq_ok.mp h
  obtain ⟨-, hdb1⟩ := reserveNonceRow_ok hnonce
  obtain ⟨db2, hresult, h⟩ := bind_eq_ok.mp h
  obtain ⟨-, hdb2⟩ := Db.insertResult_ok hresult
  obtain ⟨db3, hkey, h⟩ := bind_eq_ok.mp h
  obtain ⟨-, hdb3⟩ := Db.insertNodeKey_ok hkey
  obtain ⟨⟨row, db4⟩, hensure, h⟩ := bind_eq_ok.mp h
  obtain ⟨-, rfl⟩ := Prod.mk.inj (Except.ok.inj h)
  have hinserted : db.Logs (db3.updateNode fields.nodeId (resetNode (clock 3))) := by
    rw [hdb3, hdb2, hdb1]
    exact .of_logbook rfl
  have hensured := hinserted.trans (logs_ensureHubRouteKey hensure)
  refine Db.Logs.trans (Db.Logs.recordAudit (hensured.trans (.of_logbook ?_)) _ _ _ ?_)
    (.of_logbook (Db.logbook_recordEvent ..))
  · rfl
  · decide

theorem logs_submit {req : TokenRequest} {result : EnrollmentResult}
    (h : req.submit env entropy clock db = .ok (result, db')) : db.Logs db' := by
  cases req with
  | enroll req =>
    rcases enroll_admits h with rfl | ⟨entry, keyId, -, -, -, -, -, hadmit⟩
    · exact .refl db'
    · exact logs_admitNode (by decide) hadmit
  | pair req =>
    rcases pair_admits h with rfl | ⟨entry, keyId, hubBaseUrl, -, -, hadmit⟩
    · exact .refl db'
    · exact logs_admitNode (show "node.paired" ≠ "session.expired" by decide) hadmit
  | reenroll req =>
    rcases reenroll_restores h with ⟨rfl, -⟩ | ⟨_, _, _, -, -, -, -, -, hrestore⟩
    · exact .refl db'
    · exact logs_restoreNode hrestore

/-! ### Machine requests -/

theorem logs_heartbeat {node : NodeRow} {rawBody : Option Json} {response : HeartbeatResponse}
    (h : heartbeatAuthenticated env entropy clock db node rawBody = .ok (response, db')) :
    db.Logs db' := by
  obtain ⟨body, -, h⟩ := bind_eq_ok.mp h
  obtain ⟨runtime, -, h⟩ := bind_eq_ok.mp h
  obtain ⟨⟨row, ensured⟩, hensure, h⟩ := bind_eq_ok.mp h
  obtain ⟨-, rfl⟩ := Prod.mk.inj (Except.ok.inj h)
  have hbeat : db.Logs (recordHeartbeat env clock db node runtime) :=
    .of_logbook (logbook_recordHeartbeat env clock db node runtime)
  refine (hbeat.trans ?_).trans (logs_ensureHubRouteKey hensure)
  rw [recordAcknowledgement]
  split
  · exact .refl _
  · exact logs_acknowledgeHubRouteKeys

theorem logs_uploadReport {node : NodeRow} {rawBody : Option Json} {response : UploadResponse}
    (h : uploadReportAuthenticated env clock db node rawBody = .ok (response, db')) :
    db.Logs db' := by
  obtain ⟨input, -, h⟩ := bind_eq_ok.mp h
  split at h
  case h_1 => cases h
  case h_2 report _ =>
    obtain ⟨_, -, h⟩ := bind_eq_ok.mp h
    obtain ⟨-, rfl⟩ := Prod.mk.inj (Except.ok.inj h)
    refine Db.Logs.recordAudit (.of_logbook ?_) _ _ _ (by decide)
    simp only [Db.logbook_updateNode, Db.logbook_transitionDimension, Db.logbook_insertEvent]
    rfl

theorem logs_rotateCredential {node : NodeRow} {key : NodeKeyRow} {rawBody : Option Json}
    {response : RotationResponse}
    (h : rotateCredentialAuthenticated env clock db node key rawBody = .ok (response, db')) :
    db.Logs db' := by
  obtain ⟨body, -, h⟩ := bind_eq_ok.mp h
  obtain ⟨newPublicKey, -, h⟩ := bind_eq_ok.mp h
  obtain ⟨newKeyId, -, h⟩ := bind_eq_ok.mp h
  split_ifs at h
  · cases h
  · obtain ⟨inserted, hinsert, h⟩ := bind_eq_ok.mp h
    obtain ⟨-, rfl⟩ := Prod.mk.inj (Except.ok.inj h)
    obtain ⟨-, rfl⟩ := Db.insertNodeKey_ok hinsert
    refine Db.Logs.recordAudit (.of_logbook ?_) _ _ _ ?_
    · rfl
    · decide

theorem logs_serveMachine {req : MachineRequest} {business : Business} :
    db.Logs (serveMachine env entropy clock db req business) := by
  rw [serveMachine]
  split
  case h_1 => exact .refl db
  case h_2 node key db1 hauth =>
    obtain ⟨fields, -, -, -, hdb1⟩ := authenticateMachine_ok hauth
    have hreserved : db.Logs db1 := by
      rw [hdb1]
      exact .of_logbook rfl
    refine hreserved.trans (.commit fun db' hperform => ?_)
    cases business with
    | nothing =>
      obtain rfl := Except.ok.inj hperform
      exact .refl db1
    | heartbeat rawBody =>
      obtain ⟨⟨response, _⟩, hbeat, rfl⟩ := map_eq_ok.mp hperform
      exact logs_heartbeat hbeat
    | uploadReport rawBody =>
      obtain ⟨⟨response, _⟩, hupload, rfl⟩ := map_eq_ok.mp hperform
      exact logs_uploadReport hupload
    | rotateCredential rawBody =>
      obtain ⟨⟨response, _⟩, hrotate, rfl⟩ := map_eq_ok.mp hperform
      exact logs_rotateCredential hrotate

/-! ### Deletion and the route of a node -/

theorem logs_tombstoneNode (node : NodeRow) (actor requestId reason : String) :
    db.Logs (tombstoneNode clock db node actor requestId reason) := by
  rw [tombstoneNode]
  refine Db.Logs.trans (Db.Logs.recordAudit (.of_logbook ?_) _ _ _ ?_)
    (.of_logbook (Db.logbook_recordEvent ..))
  · split_ifs
    · exact Db.logbook_setReachable ..
    · rfl
  · decide

theorem logs_deleteNode {s : RegistryState} {req : DeleteRequest} :
    s.db.Logs (commitState s (deleteNode clock s req)).db := by
  cases h : deleteNode clock s req with
  | error fault => exact .refl s.db
  | ok result =>
    rcases deleteNode_ok h with ⟨-, hsame⟩ | ⟨node, reason, requestId, -, -, -, -, hdeleted⟩
    · rw [commitState, hsame]
      exact .refl s.db
    · rw [commitState, hdeleted]
      exact logs_tombstoneNode node req.actor requestId reason

theorem logs_setReachable (h : db.Logs db') (now : ℤ) (nodeId : String) (reachable : Reachable)
    (source : String) : db.Logs (db'.setReachable now nodeId reachable source) :=
  h.trans (.of_logbook (Db.logbook_setReachable ..))

theorem logs_setRouteTarget {s : RegistryState} {actor nodeId : Option String} {target : Json} :
    s.db.Logs (commitState s (setRouteTarget env clock s actor nodeId target)).db := by
  cases h : setRouteTarget env clock s actor nodeId target with
  | error fault => exact .refl s.db
  | ok answer =>
    obtain ⟨nodeId, -, h⟩ := bind_eq_ok.mp h
    obtain ⟨actor, -, h⟩ := bind_eq_ok.mp h
    split at h
    case h_1 => cases h
    case h_2 node _ =>
      split_ifs at h
      · cases h
      · split at h
        case h_1 => cases h
        case h_2 origin _ =>
          rw [← Except.ok.inj h]
          refine logs_setReachable ?_ _ _ _ _
          cases s.db.getRouteTarget nodeId with
          | none =>
            refine Db.Logs.recordAudit (.of_logbook ?_) _ _ _ ?_
            · rfl
            · decide
          | some existing =>
            refine Db.Logs.recordAudit (.of_logbook ?_) _ _ _ ?_
            · rfl
            · decide

theorem logs_setRouteMode {s : RegistryState} {actor nodeId : Option String}
    {routeMode : Option RouteMode} :
    s.db.Logs (commitState s (setRouteMode clock s actor nodeId routeMode)).db := by
  cases h : setRouteMode clock s actor nodeId routeMode with
  | error fault => exact .refl s.db
  | ok answer =>
    obtain ⟨actor, -, h⟩ := bind_eq_ok.mp h
    obtain ⟨nodeId, -, h⟩ := bind_eq_ok.mp h
    split at h
    case h_1 => cases h
    case h_2 mode =>
      split at h
      case h_1 => cases h
      case h_2 node _ =>
        split_ifs at h
        · cases h
        · rw [← Except.ok.inj h]
          exact .refl s.db
        · rw [← Except.ok.inj h]
          refine Db.Logs.trans (Db.Logs.recordAudit (.of_logbook ?_) _ _ _ ?_)
            (.of_logbook (Db.logbook_recordEvent ..))
          · exact Db.logbook_transitionDimension ..
          · decide
        · rw [← Except.ok.inj h]
          refine Db.Logs.trans (Db.Logs.recordAudit (.of_logbook ?_) _ _ _ ?_)
            (.of_logbook (Db.logbook_recordEvent ..))
          · rfl
          · decide

theorem logs_removeRouteTarget {s : RegistryState} {actor nodeId : Option String} :
    s.db.Logs (commitState s (removeRouteTarget clock s actor nodeId)).db := by
  cases h : removeRouteTarget clock s actor nodeId with
  | error fault => exact .refl s.db
  | ok answer =>
    obtain ⟨nodeId, -, h⟩ := bind_eq_ok.mp h
    obtain ⟨actor, -, h⟩ := bind_eq_ok.mp h
    split at h
    case h_1 => cases h
    case h_2 =>
      rw [← Except.ok.inj h]
      refine logs_setReachable ?_ _ _ _ _
      cases s.db.getRouteTarget nodeId with
      | none => exact .refl s.db
      | some target =>
        refine Db.Logs.recordAudit (.of_logbook ?_) _ _ _ ?_
        · rfl
        · decide

/-! ### Probes -/

theorem logbook_abandonProbe (now : ℤ) (s : RegistryState) (node : NodeRow) (source : String) :
    (abandonProbe now s node source).db.logbook = s.db.logbook := by
  rw [abandonProbe]
  split_ifs
  · exact Db.logbook_setReachable ..
  · rfl

theorem logbook_probeNode (s : RegistryState) (nodeId : String) :
    (probeNode clock s nodeId).2.db.logbook = s.db.logbook := by
  rw [probeNode]
  split
  · rfl
  · split_ifs
    · rfl
    · exact logbook_abandonProbe ..
    · split
      · exact logbook_abandonProbe ..
      · split
        · exact logbook_abandonProbe ..
        · rfl

theorem logbook_recordProbeResult (s : RegistryState) (nodeId : String) (success : Bool)
    (context : ProbeContext) :
    (recordProbeResult clock s nodeId success context).2.db.logbook = s.db.logbook := by
  rw [recordProbeResult]
  split
  · rfl
  · dsimp only
    split_ifs <;>
      first
        | rfl
        | exact logbook_abandonProbe ..
        | exact Db.logbook_setReachable ..

/-! ### Maintenance -/

theorem logs_reconcileNode (now : ℤ) (readings : Clock) (db : Db) (node : NodeRow) :
    db.Logs (reconcileNode now readings db node) := by
  rw [reconcileNode]
  dsimp only
  split_ifs
  · exact .refl db
  · refine Db.Logs.recordAudit (.of_logbook ?_) _ _ _ ?_
    · simp
    · decide

theorem logs_reconcileNodeCapabilities (clock : Clock) (db : Db) :
    db.Logs (reconcileNodeCapabilities clock db).1 :=
  .forEachRow 3 (logs_reconcileNode (clock 0)) _ (db, clock.drop 1)

theorem logbook_ageReports (now : ℤ) (readings : Clock) (db : Db) (node : NodeRow) :
    (ageReports now readings db node).logbook = db.logbook := by
  rw [ageReports]
  split
  · rw [resetEvidence]
    split_ifs
    · simp
    · rfl
  · split_ifs
    · rw [ageEvidence]
      split_ifs <;> simp
    · rfl

theorem logbook_ageContact (config : Config) (readings : Clock) (db : Db) (node : NodeRow) :
    (ageContact config readings db node).logbook = db.logbook := by
  rw [ageContact]
  split
  · rfl
  · split
    · rfl
    · dsimp only
      split_ifs <;> simp

theorem logs_expireRouteKey (readings : Clock) (db : Db) (key : HubRouteKeyRow) :
    db.Logs (expireRouteKey readings db key) := by
  rw [expireRouteKey]
  refine Db.Logs.recordAudit (.of_logbook ?_) _ _ _ ?_
  · rfl
  · decide

theorem logs_retireEvents (now : ℤ) (db : Db) : db.Logs (retireEvents now db) := by
  have hfold : ∀ (groups : List RollupGroup) (summaries : RollupGroup → Json) (db : Db),
      (groups.foldl (rollupEvents summaries) db).logbook = db.logbook := by
    intro groups summaries
    induction groups with
    | nil => exact fun _ => rfl
    | cons group groups ih =>
      intro db
      refine (ih _).trans ?_
      rw [rollupEvents]
      split_ifs <;> rfl
  have hrolled := Db.Logs.of_logbook (hfold (rollupGroups db (now - eventRollupAfterMs))
    (rollupSummary db) db)
  refine hrolled.trans ⟨rfl, fun hbelow row hrow => ?_, le_rfl, fun row hrow _ => ?_⟩
  · exact hbelow row (mem_deleteWhere.mp hrow).1
  · exact (mem_deleteWhere.mp hrow).1

/-- A phase of maintenance that leaves the sessions, and reads on in the clock. -/
structure Phase (s s' : Db × Clock) : Prop where
  logs : s.1.Logs s'.1
  clock : ∃ n, s'.2 = s.2.drop n

theorem Phase.trans {s s' s'' : Db × Clock} (h : Phase s s') (h' : Phase s' s'') :
    Phase s s'' := by
  refine ⟨h.logs.trans h'.logs, ?_⟩
  obtain ⟨m, hm⟩ := h.clock
  obtain ⟨n, hn⟩ := h'.clock
  exact ⟨m + n, by rw [hn, hm, Clock.drop_drop]⟩

theorem Phase.drop (s : Db × Clock) (n : ℕ) : Phase s (s.1, s.2.drop n) :=
  ⟨.refl s.1, n, rfl⟩

theorem Phase.of_logs {s : Db × Clock} (h : s.1.Logs db') : Phase s (db', s.2) :=
  ⟨h, 0, funext fun k => by rw [Clock.drop, Nat.zero_add]⟩

theorem phase_forEachRow {Row : Type} (width : ℕ) {body : Clock → Db → Row → Db}
    (hbody : ∀ (clock : Clock) (db : Db) (row : Row), db.Logs (body clock db row))
    (rows : List Row) (s : Db × Clock) : Phase s (forEachRow width body rows s) :=
  ⟨.forEachRow width hbody rows s, snd_forEachRow width body rows s⟩

theorem phase_expireNodeKeys (s : Db × Clock) : Phase s (expireNodeKeys s) := by
  refine (Phase.drop s 1).trans (phase_forEachRow 1 (fun clock db key => ?_) _ _)
  exact .of_logbook rfl

theorem phase_expireRouteKeys (s : Db × Clock) : Phase s (expireRouteKeys s) :=
  (Phase.drop s 1).trans (phase_forEachRow 2 logs_expireRouteKey _ _)

theorem phase_expireAndPurge (clock : Clock) (db : Db) :
    Phase (db, clock) (expireAndPurge clock db) := by
  have hexpired := ((Phase.drop (db, clock) 1).trans (phase_expireNodeKeys _)).trans
    (phase_expireRouteKeys _)
  refine hexpired.trans (.of_logs (.of_logbook ?_))
  rfl

theorem phase_reconcileNodeCapabilities (s : Db × Clock) :
    Phase s (reconcileNodeCapabilities s.2 s.1) :=
  (Phase.drop s 1).trans (phase_forEachRow 3 (logs_reconcileNode (s.2 0)) _ _)

theorem ageRecords_eq (config : Config) (now : ℤ) (s s1 s2 : Db × Clock)
    (h1 : ageAllReports now s = s1) (h2 : reconcileNodeCapabilities s1.2 s1.1 = s2) :
    ageRecords config now s = auditExpiries (ageContacts config (retireEvents now s2.1, s2.2)) := by
  rw [ageRecords, h1]
  dsimp only
  rw [h2]

/-- The phases of maintenance before the expiry of sessions. -/
theorem maintenance_phases (config : Config) (clock : Clock) (db : Db) :
    ∃ s, Phase (db, clock) s ∧ (maintenance config clock db).2 = (auditExpiries s).1 := by
  have haged : Phase (expireAndPurge clock db) (ageAllReports (clock 0) (expireAndPurge clock db)) :=
    phase_forEachRow 2 (fun readings db node => .of_logbook (logbook_ageReports _ readings db node))
      _ _
  have hpurged := (phase_expireAndPurge clock db).trans haged
  have hreconciled := hpurged.trans (phase_reconcileNodeCapabilities _)
  rw [maintenance, ageRecords_eq config (clock 0) _ _ _ rfl rfl]
  generalize reconcileNodeCapabilities _ _ = reconciled at hreconciled ⊢
  refine ⟨_, ?_, rfl⟩
  have hretired : Phase reconciled (retireEvents (clock 0) reconciled.1, reconciled.2) :=
    .of_logs (logs_retireEvents (clock 0) reconciled.1)
  refine (hreconciled.trans hretired).trans ?_
  exact phase_forEachRow 2
    (fun readings db node => .of_logbook (logbook_ageContact config readings db node)) _ _

/-- A call that is none of the operations on sessions leaves them. -/
theorem step_logs {s : RegistryState} {call : Call}
    (hbootstrap : ∀ principal, call.operation ≠ .bootstrapSession principal)
    (hvalidate : ∀ sessionId, call.operation ≠ .validateSession sessionId)
    (hend : ∀ sessionId actor, call.operation ≠ .endSession sessionId actor)
    (hmaintenance : call.operation ≠ .maintenance) :
    (step env s call).db.sessions = s.db.sessions ∧
      (s.db.AuditsBelow → (step env s call).db.AuditsBelow) := by
  have hlogs : ∀ {db' : Db}, s.db.Logs db' → db'.sessions = s.db.sessions ∧
      (s.db.AuditsBelow → db'.AuditsBelow) := fun h => ⟨h.sessions, h.below⟩
  obtain ⟨operation, clock, entropy⟩ := call
  cases operation with
  | mintEnrollmentToken req =>
    refine hlogs (.commit fun db' h => ?_)
    obtain ⟨⟨minted, _⟩, hmint, rfl⟩ := map_eq_ok.mp h
    exact logs_mintEnrollmentToken hmint
  | useToken req =>
    refine hlogs (.commit fun db' h => ?_)
    obtain ⟨⟨result, _⟩, hsubmit, rfl⟩ := map_eq_ok.mp h
    exact logs_submit hsubmit
  | machine req business => exact hlogs logs_serveMachine
  | deleteNode req => exact hlogs logs_deleteNode
  | setRouteTarget actor nodeId routeTarget => exact hlogs logs_setRouteTarget
  | setRouteMode actor nodeId routeMode => exact hlogs logs_setRouteMode
  | removeRouteTarget actor nodeId => exact hlogs logs_removeRouteTarget
  | rotateHubRouteKey actor nodeId =>
    refine hlogs (.commit fun db' h => ?_)
    obtain ⟨⟨result, _⟩, hrotate, rfl⟩ := map_eq_ok.mp h
    exact logs_rotateHubRouteKey hrotate
  | probeNode nodeId => exact hlogs (.of_logbook (logbook_probeNode s nodeId))
  | recordProbeResult nodeId answer context =>
    exact hlogs (.of_logbook (logbook_recordProbeResult s nodeId _ context))
  | bootstrapSession principal => exact absurd rfl (hbootstrap principal)
  | validateSession sessionId => exact absurd rfl (hvalidate sessionId)
  | endSession sessionId actor => exact absurd rfl (hend sessionId actor)
  | recordAudit actor action detail =>
    exact ⟨rfl, fun hbelow => hbelow.recordAudit (clock 0) actor action detail⟩
  | maintenance => exact absurd rfl hmaintenance
  | restart =>
    rw [step]
    exact hlogs (logs_reconcileNodeCapabilities clock s.db)

end Operations

end DshOrbit.Registry
