import DshOrbit.Registry.Calls

/-!
# The ledger of the registry

Most of what the registry writes is a record: events, audit rows, health, contact,
sessions. What it accepts is decided by a few tables: who is a member, with which
keys, which tokens were used with which results, and which nonces were seen. This
is the view of the database through those tables; recording leaves it as it is.

## Main definitions

- `Ledger`, `Db.ledger`

## Main results

- `ledger_forEachRow` — a loop of records leaves the ledger as it is
- `ledger_recordHeartbeat`, `ledger_ageRecords` — the records of a heartbeat and of
  maintenance
-/

namespace DshOrbit.Registry

open DshOrbit.Lib DshOrbit.Protocol

structure Ledger where
  members : List (String × NodeState) := []
  nodeKeys : List NodeKeyRow := []
  tokens : List TokenRow := []
  results : List ResultRow := []
  nonces : List NonceRow := []
  hubRouteKeys : List HubRouteKeyRow := []

def NodeRow.member (node : NodeRow) : String × NodeState := (node.nodeId, node.state)

def Db.ledger (db : Db) : Ledger where
  members := db.nodes.map NodeRow.member
  nodeKeys := db.nodeKeys
  tokens := db.tokens
  results := db.results
  nonces := db.nonces
  hubRouteKeys := db.hubRouteKeys

namespace Db

/-! ### Reading the ledger -/

theorem nodeId_of_getNodeRow {db : Db} {nodeId : String} {node : NodeRow}
    (h : db.getNodeRow nodeId = some node) : node.nodeId = nodeId := by
  simpa using List.find?_some h

theorem member_of_getNodeRow {db : Db} {nodeId : String} {node : NodeRow}
    (h : db.getNodeRow nodeId = some node) : (nodeId, node.state) ∈ db.ledger.members := by
  refine List.mem_map.mpr ⟨node, List.mem_of_find?_eq_some h, ?_⟩
  rw [NodeRow.member, nodeId_of_getNodeRow h]

/-- A member is found under its id, in the state the ledger has. -/
theorem getNodeRow_of_member {db : Db} (hnodup : (db.ledger.members.map (·.1)).Nodup)
    {nodeId : String} {state : NodeState} (h : (nodeId, state) ∈ db.ledger.members) :
    ∃ node, db.getNodeRow nodeId = some node ∧ node.state = state := by
  obtain ⟨node, hmem, heq⟩ := List.mem_map.mp h
  obtain ⟨hid, hstate⟩ := Prod.mk.inj heq
  have hids : (db.nodes.map NodeRow.nodeId).Nodup := by
    simpa [ledger, NodeRow.member, Function.comp_def] using hnodup
  exact ⟨node, find?_of_nodup hids hmem hid, hstate⟩

theorem mem_of_getKeyRow {db : Db} {nodeId keyId : String} {key : NodeKeyRow}
    (h : db.getKeyRow nodeId keyId = some key) :
    key ∈ db.nodeKeys ∧ key.nodeId = nodeId ∧ key.keyId = keyId := by
  refine ⟨List.mem_of_find?_eq_some h, ?_⟩
  simpa using List.find?_some h

/-! ### Records -/

@[simp]
theorem ledger_insertEvent (db : Db) (occurredAt : ℤ)
    (nodeId dimension fromValue toValue source : String) :
    (db.insertEvent occurredAt nodeId dimension fromValue toValue source).ledger = db.ledger := rfl

@[simp]
theorem ledger_recordEvent (db : Db) (occurredAt : ℤ)
    (nodeId dimension fromValue toValue source : String) :
    (db.recordEvent occurredAt nodeId dimension fromValue toValue source).ledger = db.ledger := by
  unfold recordEvent
  split_ifs
  · rfl
  · rfl

@[simp]
theorem ledger_recordAudit (db : Db) (recordedAt : ℤ) (actor action : String) (detail : Json) :
    (db.recordAudit recordedAt actor action detail).ledger = db.ledger := rfl

/-- An update of a node that keeps its id and state is a record. -/
@[simp]
theorem ledger_updateNode (db : Db) (nodeId : String) (f : NodeRow → NodeRow)
    (hf : ∀ row, (f row).nodeId = row.nodeId ∧ (f row).state = row.state) :
    (db.updateNode nodeId f).ledger = db.ledger := by
  have hmember : ∀ row, (f row).member = row.member := fun row => by
    rw [NodeRow.member, (hf row).1, (hf row).2, NodeRow.member]
  simp only [ledger, updateNode, map_updateWhere NodeRow.member hmember]

/-- An update of a node that moves it to a state. -/
theorem ledger_updateNode_state (db : Db) (nodeId : String) (f : NodeRow → NodeRow)
    (state : NodeState) (hf : ∀ row, (f row).nodeId = row.nodeId ∧ (f row).state = state) :
    (db.updateNode nodeId f).ledger = { db.ledger with
      members := updateWhere (fun member => member.1 = nodeId) (fun member => (member.1, state))
        db.ledger.members } := by
  simp only [ledger, updateNode, updateWhere, List.map_map, Ledger.mk.injEq, and_true]
  refine List.map_congr_left fun row _ => ?_
  by_cases hrow : row.nodeId = nodeId
  · simp [hrow, NodeRow.member, hf row]
  · simp [hrow, NodeRow.member]

@[simp]
theorem ledger_transitionDimension (db : Db) (now : ℤ) (nodeId dimension : String)
    (column : NodeRow → String) (toValue source : String) :
    (db.transitionDimension now nodeId dimension column toValue source).ledger = db.ledger := by
  unfold transitionDimension
  split
  · rfl
  · exact ledger_recordEvent ..

@[simp]
theorem ledger_setReachable (db : Db) (now : ℤ) (nodeId : String) (reachable : Reachable)
    (source : String) : (db.setReachable now nodeId reachable source).ledger = db.ledger := by
  simp [setReachable]

@[simp]
theorem ledger_setAlertFlag (db : Db) (nodeId flag : String) :
    (db.setAlertFlag nodeId flag).ledger = db.ledger := by
  unfold setAlertFlag
  split
  · rfl
  · split_ifs
    · rfl
    · simp

@[simp]
theorem ledger_clearAlertFlag (db : Db) (nodeId flag : String) :
    (db.clearAlertFlag nodeId flag).ledger = db.ledger := by
  unfold clearAlertFlag
  split
  · rfl
  · split_ifs
    · simp
    · rfl

@[simp]
theorem ledger_transitionRegistryContact (env : Env) (db : Db) (readAt recordedAt : ℤ)
    (node : NodeRow) (toValue : RegistryContact) (source : String) :
    (db.transitionRegistryContact env readAt recordedAt node toValue source).ledger = db.ledger := by
  simp [transitionRegistryContact]

@[simp]
theorem ledger_withholdCapabilities (db : Db) (readings : Clock) (nodeId source : String) :
    (db.withholdCapabilities readings nodeId source).ledger = db.ledger := by
  unfold withholdCapabilities
  split
  · rfl
  · dsimp only
    split_ifs <;> simp

end Db

@[simp]
theorem ledger_recordHeartbeat (env : Env) (now : Clock) (db : Db) (node : NodeRow)
    (runtime : RuntimeIdentity) : (recordHeartbeat env now db node runtime).ledger = db.ledger := by
  unfold recordHeartbeat
  dsimp only
  split
  · simp
  · split_ifs <;> simp

/-! ### The records of maintenance -/

/-- A loop whose body records only. -/
theorem ledger_forEachRow {Row : Type} (width : ℕ) {body : Clock → Db → Row → Db}
    (hbody : ∀ clock db row, (body clock db row).ledger = db.ledger) (rows : List Row)
    (s : Db × Clock) : (forEachRow width body rows s).1.ledger = s.1.ledger := by
  induction rows generalizing s with
  | nil => rfl
  | cons row rows ih => exact (ih _).trans (hbody s.2 s.1 row)

theorem ledger_reconcileNode (now : ℤ) (readings : Clock) (db : Db) (node : NodeRow) :
    (reconcileNode now readings db node).ledger = db.ledger := by
  unfold reconcileNode
  dsimp only
  split_ifs
  · rfl
  · simp

@[simp]
theorem ledger_reconcileNodeCapabilities (clock : Clock) (db : Db) :
    (reconcileNodeCapabilities clock db).1.ledger = db.ledger :=
  ledger_forEachRow 3 (ledger_reconcileNode (clock 0)) _ _

theorem ledger_resetEvidence (readings : Clock) (db : Db) (node : NodeRow) :
    (resetEvidence readings db node).ledger = db.ledger := by
  unfold resetEvidence
  split_ifs
  · simp
  · rfl

theorem ledger_ageEvidence (readings : Clock) (db : Db) (node : NodeRow) :
    (ageEvidence readings db node).ledger = db.ledger := by
  unfold ageEvidence
  dsimp only
  split_ifs <;> simp

theorem ledger_ageReports (now : ℤ) (readings : Clock) (db : Db) (node : NodeRow) :
    (ageReports now readings db node).ledger = db.ledger := by
  unfold ageReports
  split
  · exact ledger_resetEvidence readings db node
  · split_ifs
    · exact ledger_ageEvidence readings db node
    · rfl

theorem ledger_rollupEvents (summaries : RollupGroup → Json) (db : Db) (group : RollupGroup) :
    (rollupEvents summaries db group).ledger = db.ledger := by
  unfold rollupEvents
  dsimp only
  split_ifs
  · rfl
  · rfl

theorem ledger_retireEvents (now : ℤ) (db : Db) : (retireEvents now db).ledger = db.ledger := by
  have hfold : ∀ (groups : List RollupGroup) (summaries : RollupGroup → Json) (db : Db),
      (groups.foldl (rollupEvents summaries) db).ledger = db.ledger := by
    intro groups summaries
    induction groups with
    | nil => exact fun _ => rfl
    | cons group groups ih => exact fun db => (ih _).trans (ledger_rollupEvents summaries db group)
  exact hfold _ _ db

theorem ledger_auditExpiry (readings : Clock) (db : Db) (session : SessionRow) :
    (auditExpiry readings db session).ledger = db.ledger := rfl

theorem ledger_ageContact (config : Config) (readings : Clock) (db : Db) (node : NodeRow) :
    (ageContact config readings db node).ledger = db.ledger := by
  unfold ageContact
  split
  · rfl
  · split
    · rfl
    · dsimp only
      split_ifs <;> simp

/-- All phases but those that revoke keys and purge rows are records. -/
theorem ledger_ageRecords (config : Config) (now : ℤ) (s : Db × Clock) :
    (ageRecords config now s).1.ledger = s.1.ledger := by
  have hexpiries : ∀ s : Db × Clock, (auditExpiries s).1.ledger = s.1.ledger :=
    fun s => ledger_forEachRow 2 ledger_auditExpiry _ _
  have hcontacts : ∀ s : Db × Clock, (ageContacts config s).1.ledger = s.1.ledger :=
    fun s => ledger_forEachRow 2 (ledger_ageContact config) _ s
  have hreports : (ageAllReports now s).1.ledger = s.1.ledger :=
    ledger_forEachRow 2 (ledger_ageReports now) _ s
  simp only [ageRecords, hexpiries, hcontacts, ledger_retireEvents,
    ledger_reconcileNodeCapabilities, hreports]

end DshOrbit.Registry
