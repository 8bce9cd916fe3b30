import DshOrbit.Lib.Passes
import DshOrbit.Registry.Eras
import DshOrbit.Registry.Logbooks
import DshOrbit.Registry.Rollups

/-!
# Maintenance twice

At one instant a second maintenance finds nothing to do. The phases of maintenance are a pass: what
each of them settles, no later one disturbs.

## Main definitions

- `maintenancePhases` — the phases at one instant, with what each of them settles

## Main results

- `maintenance_clockAt` — maintenance is the pass of its phases
- `maintenance_idempotent` — a second maintenance at the same instant leaves the database as it is
-/

namespace DshOrbit.Registry

open DshOrbit.Lib DshOrbit.Protocol

/-! ### Loops -/

theorem snd_forEachRow_clockAt {Row : Type} (width : ℕ) (body : Clock → Db → Row → Db)
    (rows : List Row) (db : Db) (t : ℤ) :
    (forEachRow width body rows (db, clockAt t)).2 = clockAt t := by
  obtain ⟨n, hn⟩ := snd_forEachRow width body rows (db, clockAt t)
  exact hn

/-- A loop keeps what each of its iterations keeps. -/
theorem forEachRow_keeps {Row : Type} {P : Db → Prop} (width : ℕ) (body : Clock → Db → Row → Db)
    {t : ℤ} (hbody : ∀ db row, P db → P (body (clockAt t) db row)) (rows : List Row) (db : Db)
    (h : P db) : P (forEachRow width body rows (db, clockAt t)).1 := by
  induction rows generalizing db with
  | nil => exact h
  | cons row rows ih => exact ih _ (hbody db row h)

/-- A loop of which no iteration changes anything. -/
theorem forEachRow_eq_self {Row : Type} (width : ℕ) {body : Clock → Db → Row → Db} {db : Db}
    {rows : List Row} {t : ℤ} (h : ∀ row ∈ rows, body (clockAt t) db row = db) :
    (forEachRow width body rows (db, clockAt t)).1 = db := by
  induction rows with
  | nil => rfl
  | cons row rows ih =>
    rw [forEachRow, h row List.mem_cons_self]
    exact ih fun other hother => h other (List.mem_cons_of_mem row hother)

/-- A loop over selected rows of a table, each iteration of which updates its row such that it is
selected no longer. -/
theorem filter_forEachRow {Row : Type} (width : ℕ) {body : Clock → Db → Row → Db}
    (table : Db → List Row) (p : Row → Bool) (same : Row → Row → Bool)
    (hsame : ∀ row, same row row = true)
    (hbody : ∀ clock db key, ∃ f : Row → Row, (∀ row, p (f row) = false) ∧
      table (body clock db key) = updateWhere (same key) f (table db)) (s : Db × Clock) :
    (table (forEachRow width body ((table s.1).filter p) s).1).filter p = [] := by
  have hloop : ∀ (rows : List Row) (s : Db × Clock),
      ∀ row ∈ table (forEachRow width body rows s).1, p row = true →
        row ∈ table s.1 ∧ ∀ key ∈ rows, same key row = false := by
    intro rows
    induction rows with
    | nil => exact fun s row hrow _ => ⟨hrow, nofun⟩
    | cons key rows ih =>
      intro s row hrow hp
      obtain ⟨hmem, hothers⟩ := ih (body s.2 s.1 key, s.2.drop width) row hrow hp
      obtain ⟨f, hf, htable⟩ := hbody s.2 s.1 key
      rw [htable] at hmem
      rcases mem_updateWhere.mp hmem with ⟨hold, hkey⟩ | ⟨old, -, -, rfl⟩
      · refine ⟨hold, fun other hother => ?_⟩
        rcases List.mem_cons.mp hother with rfl | hother
        · exact hkey
        · exact hothers other hother
      · rw [hf old] at hp
        cases hp
  refine List.filter_eq_nil_iff.mpr fun row hrow hp => ?_
  obtain ⟨hmem, hothers⟩ := hloop _ s row hrow hp
  have hkey := hothers row (List.mem_filter.mpr ⟨hmem, hp⟩)
  rw [hsame row] at hkey
  cases hkey

/-! ### The phases -/

section

variable (config : Config) (t : ℤ)

def nodeKeyPhase : PassStage Db where
  run db := (expireNodeKeys (db, clockAt t)).1
  Settled db := endedNodeKeys db t = []

def routeKeyPhase : PassStage Db where
  run db := (expireRouteKeys (db, clockAt t)).1
  Settled db := endedRouteKeys db t = []

def retentionPhase : PassStage Db where
  run := purgeRetained t
  Settled db := (∀ row ∈ db.nonces, t - nonceRetentionMs < row.createdAt) ∧
    (∀ row ∈ db.results, t - enrollmentResultRetentionMs < row.createdAt) ∧
    ∀ row ∈ db.reports, t - reportRetentionMs < row.uploadedAt

/-- The aging of reports and the reconciliation, which settles what is derived from them. -/
def evidencePhase : PassStage Db where
  run db := (reconcileNodeCapabilities (clockAt t) (ageAllReports t (db, clockAt t)).1).1
  Settled db := ∀ nodeId d, db.dossier nodeId = some d → d.row.state = .active →
    d.reconciled t = d

def eventPhase : PassStage Db where
  run := retireEvents t
  Settled db := freshGroups t db = [] ∧
    (∀ row ∈ db.events, t - eventRetentionMs < row.occurredAt) ∧
    ∀ row ∈ db.audit, t - auditRetentionMs < row.recordedAt

def contactPhase : PassStage Db where
  run db := (ageContacts config (db, clockAt t)).1
  Settled db := ∀ nodeId d, db.dossier nodeId = some d → d.row.state = .active →
    d.contactAged config t = d

def sessionPhase : PassStage Db where
  run db := (auditExpiries (db, clockAt t)).1
  Settled db := expiredSessions db t t = []

def maintenancePhases : List (PassStage Db) :=
  [nodeKeyPhase t, routeKeyPhase t, retentionPhase t, evidencePhase t, eventPhase t,
    contactPhase config t, sessionPhase t]

/-- Maintenance at one instant is the pass of its phases. -/
theorem maintenance_clockAt (db : Db) :
    (maintenance config (clockAt t) db).2 = runAll (maintenancePhases config t) db := by
  have hnode : ∀ db, expireNodeKeys (db, clockAt t) = ((nodeKeyPhase t).run db, clockAt t) :=
    fun db => Prod.ext rfl (snd_forEachRow_clockAt ..)
  have hroute : ∀ db, expireRouteKeys (db, clockAt t) = ((routeKeyPhase t).run db, clockAt t) :=
    fun db => Prod.ext rfl (snd_forEachRow_clockAt ..)
  have haged : ∀ db, (ageAllReports t (db, clockAt t)).2 = clockAt t :=
    fun db => snd_forEachRow_clockAt ..
  have hreconciled : ∀ db, (reconcileNodeCapabilities (clockAt t) db).2 = clockAt t :=
    fun db => snd_forEachRow_clockAt ..
  have hcontacts : ∀ db, ageContacts config (db, clockAt t) =
      ((contactPhase config t).run db, clockAt t) :=
    fun db => Prod.ext rfl (snd_forEachRow_clockAt ..)
  have hdrop : (clockAt t).drop 1 = clockAt t := rfl
  have hpurged : expireAndPurge (clockAt t) db =
      (purgeRetained t ((routeKeyPhase t).run ((nodeKeyPhase t).run db)), clockAt t) := by
    rw [expireAndPurge, hdrop, hnode, hroute]
    rfl
  have hevidence : ∀ db, (reconcileNodeCapabilities (clockAt t)
      (ageAllReports t (db, clockAt t)).1).1 = (evidencePhase t).run db := fun _ => rfl
  have hretired : ∀ db, retireEvents t db = (eventPhase t).run db := fun _ => rfl
  have hretention : ∀ db, purgeRetained t db = (retentionPhase t).run db := fun _ => rfl
  have hexpiries : ∀ db, (auditExpiries (db, clockAt t)).1 = (sessionPhase t).run db := fun _ => rfl
  rw [maintenance, hpurged, ageRecords]
  dsimp only
  rw [show clockAt t 0 = t from rfl, haged, hreconciled, hevidence, hretired, hcontacts, hexpiries,
    hretention]
  simp only [runAll, maintenancePhases, List.foldl_cons, List.foldl_nil]

end

/-! ### Keys -/

/-- The ids of the nodes are unique. -/
def UniqueNodes (db : Db) : Prop := (db.nodes.map NodeRow.nodeId).Nodup

section

variable {config : Config} {t : ℤ}

theorem sound_nodeKeyPhase : (nodeKeyPhase t).Sound UniqueNodes where
  keeps db h := forEachRow_keeps (P := UniqueNodes) 1 expireNodeKey (fun _ _ h => h) _ db h
  settles db _ := by
    refine filter_forEachRow 1 Db.nodeKeys (fun row => row.state = .active ∧
      overlapEnded row.revokeAfter t)
      (fun key row => row.nodeId = key.nodeId ∧ row.keyId = key.keyId)
      (fun row => decide_eq_true ⟨rfl, rfl⟩) (fun clock db key => ?_) (db, clockAt t)
    exact ⟨_, fun row => decide_eq_false fun h => NodeKeyState.noConfusion h.1, rfl⟩
  fixes db _ h := by
    show (forEachRow 1 expireNodeKey (endedNodeKeys db t) (db, clockAt t)).1 = db
    have hnone : endedNodeKeys db t = [] := h
    rw [hnone]
    rfl

theorem sound_routeKeyPhase : (routeKeyPhase t).Sound UniqueNodes where
  keeps db h := forEachRow_keeps (P := UniqueNodes) 2 expireRouteKey (fun _ _ h => h) _ db h
  settles db _ := by
    refine filter_forEachRow 2 Db.hubRouteKeys (fun row => row.state = .rotating ∧
      overlapEnded row.revokeAfter t)
      (fun key row => row.nodeId = key.nodeId ∧ row.keyId = key.keyId)
      (fun row => decide_eq_true ⟨rfl, rfl⟩) (fun clock db key => ?_) (db, clockAt t)
    exact ⟨_, fun row => decide_eq_false fun h => RouteKeyState.noConfusion h.1, rfl⟩
  fixes db _ h := by
    show (forEachRow 2 expireRouteKey (endedRouteKeys db t) (db, clockAt t)).1 = db
    have hnone : endedRouteKeys db t = [] := h
    rw [hnone]
    rfl

theorem sound_sessionPhase : (sessionPhase t).Sound UniqueNodes where
  keeps db h := forEachRow_keeps (P := UniqueNodes) 2 auditExpiry (fun _ _ h => h) _ db h
  settles db _ := by
    refine filter_forEachRow 2 Db.sessions (fun row => row.revokedAt = none ∧
      row.expiryAuditedAt = none ∧ (row.expiresAt ≤ t ∨ row.idleUntil ≤ t))
      (fun session row => row.sessionId = session.sessionId)
      (fun row => decide_eq_true rfl) (fun clock db session => ?_) (db, clockAt t)
    refine ⟨fun row => { row with expiryAuditedAt := some (clock 0) }, fun row => ?_, rfl⟩
    exact decide_eq_false fun h => nomatch h.2.1
  fixes db _ h := by
    show (forEachRow 2 auditExpiry (expiredSessions db t t) (db, clockAt t)).1 = db
    have hnone : expiredSessions db t t = [] := h
    rw [hnone]
    rfl

/-! ### Retention -/

theorem sound_retentionPhase : (retentionPhase t).Sound UniqueNodes where
  keeps db h := h
  settles db _ := by
    refine ⟨fun row hrow => ?_, fun row hrow => ?_, fun row hrow => ?_⟩
    all_goals
      have hkept := of_decide_eq_false (mem_deleteWhere.mp hrow).2
      exact not_le.mp hkept
  fixes db _ h := by
    obtain ⟨hnonces, hresults, hreports⟩ := h
    have hkept : ∀ {Row : Type} (column : Row → ℤ) (limit : ℤ) (rows : List Row),
        (∀ row ∈ rows, limit < column row) →
        deleteWhere (fun row => column row ≤ limit) rows = rows := fun column limit rows hrows =>
      List.filter_eq_self.mpr fun row hrow => by simpa using hrows row hrow
    show purgeRetained t db = db
    rw [purgeRetained, hkept _ _ _ hnonces, hkept _ _ _ hresults, hkept _ _ _ hreports]

/-! ### Evidence -/

theorem getNodeRow_of_mem {db : Db} (hunique : UniqueNodes db) {node : NodeRow}
    (hnode : node ∈ db.nodes) : db.getNodeRow node.nodeId = some node :=
  find?_of_nodup hunique hnode rfl

/-- An update of a node that finds it as it would write it. -/
theorem updateNode_eq_self {db : Db} (hunique : UniqueNodes db) {node : NodeRow}
    (hnode : node ∈ db.nodes) {f : NodeRow → NodeRow} (hf : f node = node) :
    db.updateNode node.nodeId f = db := by
  have hrows : updateWhere (fun row => row.nodeId = node.nodeId) f db.nodes = db.nodes := by
    refine (List.map_congr_left fun row hrow => ?_).trans (List.map_id _)
    by_cases heq : row.nodeId = node.nodeId
    · rw [if_pos (decide_eq_true heq), eq_of_nodup_key hunique hrow hnode heq, hf]
      rfl
    · rw [if_neg (by simpa using heq)]
      rfl
  rw [Db.updateNode, hrows]

theorem reconciled_reconciled (d : Dossier) : (d.reconciled t).reconciled t = d.reconciled t := by
  have hstate : reconciledState t (d.reconciled t).row (d.reconciled t).latest =
      reconciledState t d.row d.latest := by
    show reconciledState t (d.reconciled t).row d.latest = reconciledState t d.row d.latest
    cases d.latest <;> rfl
  rw [Dossier.reconciled, hstate]
  rfl

theorem reconciled_eq_self_iff {d : Dossier} :
    d.reconciled t = d ↔ d.row.reconciled = reconciledState t d.row d.latest := by
  constructor
  · intro h
    have hrow := congrArg (fun d : Dossier => d.row.reconciled) h
    exact hrow.symm
  · intro h
    rw [Dossier.reconciled, ← h]
    rfl

/-- The aging of reports finds nothing to do where the evidence is reconciled. -/
theorem ageReports_of_reconciled {db : Db} (hunique : UniqueNodes db) {node : NodeRow}
    (hnode : node ∈ db.nodes)
    (h : node.reconciled = reconciledState t node (db.getLatestReport node.nodeId))
    (clock : Clock) : ageReports t clock db node = db := by
  rw [ageReports]
  cases hlatest : db.getLatestReport node.nodeId with
  | none =>
    rw [hlatest] at h
    obtain ⟨hcapabilities, hstale, hcompatible, hhealthy⟩ := ReconciledState.mk.inj h
    show resetEvidence clock db node = db
    rw [resetEvidence, if_neg]
    simp [hcapabilities, hstale, hcompatible, hhealthy]
  | some latest =>
    dsimp only
    split_ifs with hold
    · rw [hlatest, reconciledState, if_neg fun hfresh => absurd hfresh.2 (not_le.mpr hold)] at h
      obtain ⟨-, hstale, hcompatible, hhealthy⟩ := ReconciledState.mk.inj h
      have hjudged : ¬(node.orbitCompatible = .pass ∨ node.orbitCompatible = .fail) := by
        rw [hcompatible]
        decide
      rw [ageEvidence, if_neg hjudged, if_neg (not_not.mpr hhealthy)]
      refine updateNode_eq_self hunique hnode ?_
      rw [if_neg hjudged, ← hhealthy, ← hstale]
    · rfl

theorem sound_evidencePhase : (evidencePhase t).Sound UniqueNodes where
  keeps db h := nodup_nodes_of_ledger (ledger_reconcileNodeCapabilities ..)
    (nodup_nodes_of_ledger (ledger_forEachRow 2 (ledger_ageReports t) _ _) h)
  settles db h := by
    intro nodeId d hd hactive
    have haged : UniqueNodes (ageAllReports t (db, clockAt t)).1 := nodup_nodes_of_ledger
      (ledger_forEachRow 2 (ledger_ageReports t) (activeNodes db) (db, clockAt t)) h
    have hage : (ageAllReports t (db, clockAt t)).1.dossier nodeId = (db.dossier nodeId).map
        fun d => if d.row.state = .active then d.aged t else d :=
      dossier_ageAllReports t (s := (db, clockAt t)) h nodeId
    have hreconcile : ((evidencePhase t).run db).dossier nodeId = _ :=
      reconcile_dossier (clockAt t) _ haged nodeId
    rw [hd, hage, Option.map_map] at hreconcile
    obtain ⟨old, -, rfl⟩ := Option.map_eq_some_iff.mp hreconcile.symm
    by_cases hold : old.row.state = .active
    · have hagedState : (old.aged t).row.state = .active := (Dossier.aged_state ..).trans hold
      simp only [Function.comp, hold, hagedState, if_true]
      exact reconciled_reconciled _
    · simp only [Function.comp, hold, if_false] at hactive
  fixes db h hsettled := by
    have hreconciled : ∀ node ∈ db.nodes, node.state = .active →
        node.reconciled = reconciledState t node (db.getLatestReport node.nodeId) := by
      intro node hnode hactive
      obtain ⟨d, hd, rfl⟩ := Db.dossier_of_getNodeRow (getNodeRow_of_mem h hnode)
      rw [Db.getLatestReport_of_dossier hd]
      exact reconciled_eq_self_iff.mp (hsettled _ d hd hactive)
    have haged : (ageAllReports t (db, clockAt t)).1 = db := by
      refine forEachRow_eq_self 2 fun node hnode => ?_
      obtain ⟨hmem, hactive⟩ := List.mem_filter.mp hnode
      exact ageReports_of_reconciled h hmem (hreconciled node hmem (of_decide_eq_true hactive)) _
    show (reconcileNodeCapabilities (clockAt t) (ageAllReports t (db, clockAt t)).1).1 = db
    rw [haged]
    refine forEachRow_eq_self 3 fun node hnode => ?_
    obtain ⟨hmem, hactive⟩ := List.mem_filter.mp hnode
    rw [reconcileNode]
    exact if_pos (hreconciled node hmem (of_decide_eq_true hactive))

/-! ### Events -/

/-- The groups that have a summary after a rollup are those that need none. -/
theorem freshGroups_retireEvents (db : Db) : freshGroups t (retireEvents t db) = [] := by
  refine List.filter_eq_nil_iff.mpr fun group hgroup hfresh => ?_
  obtain ⟨row, hrow, hraw, hday, rfl⟩ := mem_rollupGroups.mp hgroup
  rw [events_retireEvents] at hrow
  obtain ⟨hmem, hretained⟩ := mem_retained.mp hrow
  rcases List.mem_append.mp hmem with hold | hnew
  · obtain ⟨hevent, hother⟩ := mem_deleteWhere.mp hold
    have hcandidate : row.group ∈ rollupGroups db (t - eventRollupAfterMs) :=
      mem_rollupGroups.mpr ⟨row, hevent, hraw, hday, rfl⟩
    have hsummarized : db.summarized row.group = true := by
      by_contra hnone
      exact of_decide_eq_false hother (List.mem_filter.mpr ⟨hcandidate, by simpa using hnone⟩)
    obtain ⟨summary, hsummary, hkind, hsubject, hat⟩ := Db.summarized_iff.mp hsummarized
    have hkept : summary.group ∉ freshGroups t db := fun h =>
      raw_freshGroups t db _ h (of_decide_eq_true hkind)
    have hstays : summary ∈ (retireEvents t db).events := by
      rw [events_retireEvents]
      refine mem_retained.mpr ⟨List.mem_append_left _ (mem_deleteWhere.mpr
        ⟨hsummary, decide_eq_false hkept⟩), ?_⟩
      rw [hat]
      exact hretained.trans_le (occurredAt_le_summaryAt rfl)
    have hafter : (retireEvents t db).summarized row.group = true :=
      Db.summarized_iff.mpr ⟨summary, hstays, hkind, hsubject, hat⟩
    rw [hafter] at hfresh
    cases hfresh
  · obtain ⟨other, -, n, -, rfl⟩ := of_mem_summaryRows hnew
    rw [isSummary_summaryRow] at hraw
    cases hraw

theorem sound_eventPhase : (eventPhase t).Sound UniqueNodes where
  keeps db h := nodup_nodes_of_ledger (ledger_retireEvents t db) h
  settles db _ := by
    refine ⟨freshGroups_retireEvents db, fun row hrow => ?_, fun row hrow => ?_⟩
    · have hevents : row ∈ (retireEvents t db).events := hrow
      rw [events_retireEvents] at hevents
      exact (mem_retained.mp hevents).2
    · have haudit : row ∈ (retireEvents t db).audit := hrow
      rw [retireEvents_eq] at haudit
      exact not_le.mp (of_decide_eq_false (mem_deleteWhere.mp haudit).2)
  fixes db _ h := by
    obtain ⟨hfresh, hevents, haudit⟩ := h
    have hretained : retained t db.events = db.events :=
      List.filter_eq_self.mpr fun row hrow => by simpa using hevents row hrow
    have hkept : deleteWhere (fun row => row.recordedAt ≤ t - auditRetentionMs) db.audit =
        db.audit := List.filter_eq_self.mpr fun row hrow => by simpa using haudit row hrow
    show retireEvents t db = db
    rw [retireEvents_eq, hfresh, rolledUp_nil, hretained, hkept]

/-- Later events are no matter of the rollup, and neither are they nor later audit rows old. -/
theorem settled_eventPhase_of_emits {db db' : Db} (hemits : Db.Emits t db db')
    (haudit : ∀ row ∈ db'.audit, row ∈ db.audit ∨ t ≤ row.recordedAt)
    (h : (eventPhase t).Settled db) : (eventPhase t).Settled db' := by
  obtain ⟨added, hadds, hadded⟩ := hemits
  obtain ⟨hfresh, hevents, hrecorded⟩ := h
  have heventRetention : 0 < eventRetentionMs := by decide
  have hauditRetention : 0 < auditRetentionMs := by decide
  refine ⟨List.filter_eq_nil_iff.mpr fun group hgroup hnone => ?_, fun row hrow => ?_,
    fun row hrow => ?_⟩
  · obtain ⟨row, hrow, hraw, hday, rfl⟩ := mem_rollupGroups.mp hgroup
    rw [hadds.events] at hrow
    rcases List.mem_append.mp hrow with hold | hnew
    · have hcandidate : row.group ∈ rollupGroups db (t - eventRollupAfterMs) :=
        mem_rollupGroups.mpr ⟨row, hold, hraw, hday, rfl⟩
      have hsummarized := List.filter_eq_nil_iff.mp hfresh row.group hcandidate
      rw [Bool.not_eq_true', Bool.not_eq_false] at hsummarized
      obtain ⟨summary, hsummary, hrest⟩ := Db.summarized_iff.mp hsummarized
      have hafter : db'.summarized row.group = true := Db.summarized_iff.mpr
        ⟨summary, hadds.events ▸ List.mem_append_left _ hsummary, hrest⟩
      rw [hafter] at hnone
      cases hnone
    · have hrecent := dayOf_mono (rollupLimit_le (hadded row hnew).2)
      exact absurd hday (not_lt.mpr hrecent)
  · rw [hadds.events] at hrow
    rcases List.mem_append.mp hrow with hold | hnew
    · exact hevents row hold
    · have hrecent := (hadded row hnew).2
      omega
  · rcases haudit row hrow with hold | hrecent
    · exact hrecorded row hold
    · omega

/-! ### Contacts -/

/-- A contact that has aged does not age any further at the same instant. -/
theorem agingTarget_of_aged {gapMs : ℤ} {node aged : NodeRow} {target : RegistryContact}
    (h : agingTarget config gapMs node = some target) (haged : aged.registryContact = target) :
    agingTarget config gapMs aged = none := by
  obtain ⟨-, hcase⟩ := agingTarget_eq_some h
  rw [Option.eq_none_iff_forall_ne_some]
  intro next hnext
  obtain ⟨hgap, hnextCase⟩ := agingTarget_eq_some hnext
  rw [haged] at hnextCase
  rcases hcase with ⟨rfl, -⟩ | ⟨rfl, -, hlost⟩
  · rcases hnextCase with ⟨-, hne⟩ | ⟨-, hfresh, -⟩
    · exact hne rfl
    · cases hfresh
  · rcases hnextCase with ⟨rfl, -⟩ | ⟨-, hfresh, -⟩
    · exact absurd hgap (not_lt.mpr hlost)
    · cases hfresh

theorem contactAged_of_none {d : Dossier}
    (h : ∀ lastBeat, d.row.lastHeartbeatAt = some lastBeat →
      agingTarget config (t - lastBeat) d.row = none) : d.contactAged config t = d := by
  cases hbeat : d.row.lastHeartbeatAt with
  | none => simp only [Dossier.contactAged, hbeat]
  | some lastBeat => simp only [Dossier.contactAged, hbeat, h lastBeat hbeat]

/-- What has aged has the contact that it aged to. -/
theorem contactAged_of_some {d : Dossier} {lastBeat : ℤ} {target : RegistryContact}
    (hbeat : d.row.lastHeartbeatAt = some lastBeat)
    (htarget : agingTarget config (t - lastBeat) d.row = some target) :
    (d.contactAged config t).row.registryContact = target ∧
      (d.contactAged config t).row.lastHeartbeatAt = some lastBeat := by
  simp only [Dossier.contactAged, hbeat, htarget]
  exact ⟨rfl, hbeat⟩

theorem contactAged_contactAged (d : Dossier) :
    (d.contactAged config t).contactAged config t = d.contactAged config t := by
  by_cases hnone : ∀ lastBeat, d.row.lastHeartbeatAt = some lastBeat →
      agingTarget config (t - lastBeat) d.row = none
  · rw [contactAged_of_none hnone, contactAged_of_none hnone]
  · push Not at hnone
    obtain ⟨lastBeat, hbeat, hsome⟩ := hnone
    obtain ⟨target, htarget⟩ := Option.ne_none_iff_exists'.mp hsome
    obtain ⟨hcontact, hsame⟩ := contactAged_of_some hbeat htarget
    refine contactAged_of_none fun beat hbeat' => ?_
    obtain rfl : lastBeat = beat := Option.some.inj (hsame.symm.trans hbeat')
    exact agingTarget_of_aged htarget hcontact

/-- An aged contact leaves nothing to do. -/
theorem ageContact_of_aged {node : NodeRow} {d : Dossier} (hrow : d.row = node)
    (haged : d.contactAged config t = d) {clock : Clock} (hclock : clock 0 = t) (db : Db) :
    ageContact config clock db node = db := by
  subst hrow
  rw [ageContact]
  cases hbeat : d.row.lastHeartbeatAt with
  | none => rfl
  | some lastBeat =>
    dsimp only
    rw [hclock]
    cases htarget : agingTarget config (t - lastBeat) d.row with
    | none => rfl
    | some target =>
      obtain ⟨hcontact, -⟩ := contactAged_of_some hbeat htarget
      rw [haged] at hcontact
      rw [agingTarget_of_aged htarget hcontact] at htarget
      cases htarget

theorem sound_contactPhase : (contactPhase config t).Sound UniqueNodes where
  keeps db h := nodup_nodes_of_ledger (ledger_forEachRow 2 (ledger_ageContact config) _ _) h
  settles db h := by
    intro nodeId d hd hactive
    obtain ⟨k, hdossier⟩ := dossier_ageContacts config (s := (db, clockAt t)) h nodeId
    have hrun : ((contactPhase config t).run db).dossier nodeId = (db.dossier nodeId).map
        fun d => if d.row.state = .active then d.contactAged config t else d := hdossier
    rw [hd] at hrun
    obtain ⟨old, -, rfl⟩ := Option.map_eq_some_iff.mp hrun.symm
    by_cases hold : old.row.state = .active
    · simp only [hold, if_true]
      exact contactAged_contactAged old
    · simp only [hold, if_false] at hactive
  fixes db h hsettled := by
    refine forEachRow_eq_self 2 fun node hnode => ?_
    obtain ⟨hmem, hactive⟩ := List.mem_filter.mp (List.mem_of_mem_filter hnode)
    obtain ⟨d, hd, hrow⟩ := Db.dossier_of_getNodeRow (getNodeRow_of_mem h hmem)
    have hactiveRow : d.row.state = .active := by
      rw [hrow]
      exact of_decide_eq_true hactive
    exact ageContact_of_aged hrow (hsettled _ d hd hactiveRow) rfl db

/-! ### What a phase leaves to the others -/

/-- A phase that only records. -/
def Records (q : PassStage Db) : Prop :=
  ∀ db, (q.run db).ledger = db.ledger ∧ (q.run db).reports = db.reports

theorem records_evidencePhase : Records (evidencePhase t) := fun _ =>
  ⟨(ledger_reconcileNodeCapabilities ..).trans (ledger_forEachRow 2 (ledger_ageReports t) _ _),
    (reports_reconcileNodeCapabilities ..).trans (reports_forEachRow 2 (reports_ageReports t) _ _)⟩

theorem records_eventPhase : Records (eventPhase t) := fun db =>
  ⟨ledger_retireEvents t db, reports_retireEvents t db⟩

theorem records_contactPhase : Records (contactPhase config t) := fun _ =>
  ⟨ledger_forEachRow 2 (ledger_ageContact config) _ _,
    reports_forEachRow 2 (reports_ageContact config) _ _⟩

theorem records_sessionPhase : Records (sessionPhase t) := fun _ => by
  have hreports : ∀ clock db session, (auditExpiry clock db session).reports = db.reports :=
    fun _ _ _ => rfl
  exact ⟨ledger_forEachRow 2 ledger_auditExpiry _ _, reports_forEachRow 2 hreports _ _⟩

/-- What is settled in the ledger and in the reports is spared by the phases that record. -/
theorem spares_records {p : PassStage Db}
    (hp : ∀ db db' : Db, db'.ledger = db.ledger → db'.reports = db.reports → p.Settled db →
      p.Settled db') :
    ∀ q ∈ [evidencePhase t, eventPhase t, contactPhase config t, sessionPhase t],
      p.Spares UniqueNodes q := by
  have hrecords : ∀ q ∈ [evidencePhase t, eventPhase t, contactPhase config t, sessionPhase t],
      Records q := by
    simp only [List.forall_mem_cons, List.not_mem_nil, false_implies, implies_true, and_true]
    exact ⟨records_evidencePhase, records_eventPhase, records_contactPhase, records_sessionPhase⟩
  intro q hq db _ hsettled
  exact hp db (q.run db) (hrecords q hq db).1 (hrecords q hq db).2 hsettled

theorem nodeKeyPhase_congr {db db' : Db} (h : db'.nodeKeys = db.nodeKeys)
    (hsettled : (nodeKeyPhase t).Settled db) : (nodeKeyPhase t).Settled db' := by
  show endedNodeKeys db' t = []
  rw [endedNodeKeys, h]
  exact hsettled

theorem routeKeyPhase_congr {db db' : Db} (h : db'.hubRouteKeys = db.hubRouteKeys)
    (hsettled : (routeKeyPhase t).Settled db) : (routeKeyPhase t).Settled db' := by
  show endedRouteKeys db' t = []
  rw [endedRouteKeys, h]
  exact hsettled

theorem retentionPhase_congr {db db' : Db} (h : db'.ledger = db.ledger)
    (hreports : db'.reports = db.reports) (hsettled : (retentionPhase t).Settled db) :
    (retentionPhase t).Settled db' := by
  have hnonces : db'.nonces = db.nonces := congrArg Ledger.nonces h
  have hresults : db'.results = db.results := congrArg Ledger.results h
  show (∀ row ∈ db'.nonces, _) ∧ (∀ row ∈ db'.results, _) ∧ ∀ row ∈ db'.reports, _
  rw [hnonces, hresults, hreports]
  exact hsettled

theorem spares_nodeKeyPhase : ∀ q ∈ (maintenancePhases config t).tail,
    (nodeKeyPhase t).Spares UniqueNodes q := by
  refine List.forall_mem_cons.mpr ⟨fun db _ h => ?_, List.forall_mem_cons.mpr ⟨fun _ _ h => h,
    spares_records fun _ _ hledger _ => nodeKeyPhase_congr (congrArg Ledger.nodeKeys hledger)⟩⟩
  refine nodeKeyPhase_congr ?_ h
  exact forEachRow_keeps (P := fun db' => db'.nodeKeys = db.nodeKeys) 2 expireRouteKey
    (fun _ _ h => h) _ db rfl

theorem spares_routeKeyPhase : ∀ q ∈ (maintenancePhases config t).tail.tail,
    (routeKeyPhase t).Spares UniqueNodes q :=
  List.forall_mem_cons.mpr ⟨fun _ _ h => h,
    spares_records fun _ _ hledger _ =>
      routeKeyPhase_congr (congrArg Ledger.hubRouteKeys hledger)⟩

/-- The evidence of a node is no matter of its contact. -/
theorem reconciled_contactAged {d : Dossier} (h : d.reconciled t = d) :
    (d.contactAged config t).reconciled t = d.contactAged config t := by
  rcases d.contactAged_cases config t with hsame | ⟨f, hamend, hf⟩
  · rw [hsame, h]
  · obtain ⟨contact, flags, hrow⟩ := hf d.row
    rw [reconciled_eq_self_iff] at h ⊢
    rw [hamend, Dossier.amend_row, Dossier.amend_latest, hrow]
    refine h.trans ?_
    cases d.latest <;> rfl

theorem spares_evidencePhase : ∀ q ∈ [eventPhase t, contactPhase config t, sessionPhase t],
    (evidencePhase t).Spares UniqueNodes q := by
  refine List.forall_mem_cons.mpr ⟨fun db _ h nodeId d hd => ?_, List.forall_mem_cons.mpr
    ⟨fun db hunique h nodeId d hd hactive => ?_, List.forall_mem_cons.mpr
      ⟨fun db _ h nodeId d hd => ?_, nofun⟩⟩⟩
  · exact h nodeId d ((dossier_retireEvents t db nodeId).symm.trans hd)
  · obtain ⟨k, hdossier⟩ := dossier_ageContacts config (s := (db, clockAt t)) hunique nodeId
    have hrun : ((contactPhase config t).run db).dossier nodeId = (db.dossier nodeId).map
        fun d => if d.row.state = .active then d.contactAged config t else d := hdossier
    rw [hd] at hrun
    obtain ⟨old, hold, rfl⟩ := Option.map_eq_some_iff.mp hrun.symm
    by_cases hstate : old.row.state = .active
    · simp only [hstate, if_true]
      exact reconciled_contactAged (h nodeId old hold hstate)
    · simp only [hstate, if_false] at hactive
  · exact h nodeId d ((dossier_auditExpiries (db, clockAt t) nodeId).symm.trans hd)

theorem spares_eventPhase : ∀ q ∈ [contactPhase config t, sessionPhase t],
    (eventPhase t).Spares UniqueNodes q := by
  refine List.forall_mem_cons.mpr ⟨fun db _ h => ?_, List.forall_mem_cons.mpr
    ⟨fun db _ h => ?_, nofun⟩⟩
  · have haudit : ((contactPhase config t).run db).audit = db.audit :=
      forEachRow_keeps (P := fun db' => db'.audit = db.audit) 2 (ageContact config)
        (fun db' node h => (congrArg Logbook.audit (logbook_ageContact config _ db' node)).trans h)
        _ db rfl
    refine settled_eventPhase_of_emits (.forEachRow 2
      (fun _ db node hclock => emits_ageContact hclock config db node) _ (db, clockAt t)
        fun _ => le_rfl) (fun row hrow => .inl (haudit ▸ hrow)) h
  · obtain ⟨hevents, hnext⟩ := events_forEachRow 2 auditExpiry (fun _ _ _ => ⟨rfl, rfl⟩)
      (expiredSessions db t t) (db, clockAt t)
    refine settled_eventPhase_of_emits (.of_eq hevents hnext) ?_ h
    refine forEachRow_keeps (P := fun db' => ∀ row ∈ db'.audit, row ∈ db.audit ∨ t ≤ row.recordedAt)
      2 auditExpiry (fun db' session h row hrow => ?_) _ db fun row hrow => .inl hrow
    rcases List.mem_append.mp hrow with hold | hnew
    · exact h row hold
    · rw [List.mem_singleton.mp hnew]
      exact .inr le_rfl

theorem spares_contactPhase : ∀ q ∈ [sessionPhase t],
    (contactPhase config t).Spares UniqueNodes q := by
  refine List.forall_mem_cons.mpr ⟨fun db _ h nodeId d hd => ?_, nofun⟩
  exact h nodeId d ((dossier_auditExpiries (db, clockAt t) nodeId).symm.trans hd)

theorem spares_maintenancePhases :
    (maintenancePhases config t).Pairwise (PassStage.Spares UniqueNodes) :=
  .cons spares_nodeKeyPhase (.cons spares_routeKeyPhase (.cons (spares_records fun _ _ =>
    retentionPhase_congr) (.cons spares_evidencePhase (.cons spares_eventPhase
      (.cons spares_contactPhase (.cons nofun .nil))))))

theorem sound_maintenancePhases :
    ∀ p ∈ maintenancePhases config t, p.Sound UniqueNodes := by
  simp only [maintenancePhases, List.forall_mem_cons, List.not_mem_nil, false_implies,
    implies_true, and_true]
  exact ⟨sound_nodeKeyPhase, sound_routeKeyPhase, sound_retentionPhase, sound_evidencePhase,
    sound_eventPhase, sound_contactPhase, sound_sessionPhase⟩

end

/-- A second maintenance at the same instant leaves the database as it is. -/
theorem maintenance_idempotent (env : Env) (calls : List Call) (config : Config) (t : ℤ) :
    let once := (maintenance config (clockAt t) (run env {} calls).db).2
    (maintenance config (clockAt t) once).2 = once := by
  dsimp only
  rw [maintenance_clockAt, maintenance_clockAt]
  exact runAll_idempotent sound_maintenancePhases spares_maintenancePhases
    (nodup_nodes_run env calls)

end DshOrbit.Registry
