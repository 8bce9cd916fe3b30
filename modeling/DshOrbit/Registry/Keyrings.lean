import DshOrbit.Registry.DossierSteps

/-!
# The keyring of a node

The keys of one node in the registry: those it signs its requests with, and those
the Hub signs with towards it. A call about another node leaves the keyring of
this one as it is.

## Main definitions

- `Keyring`, `Db.keyring`
- `Rotation`, `Restoration` — the accepted calls that add a node key
- `Keyring.Step` — the keyring of a member before and after a call

## Main results

- `step_keyring` — a step of the registry is a step of the keyring of each member
-/

namespace DshOrbit.Registry

open DshOrbit.Lib DshOrbit.Protocol

@[ext]
structure Keyring where
  nodeKeys : List NodeKeyRow
  routeKeys : List HubRouteKeyRow
  deriving DecidableEq

def Ledger.keyring (l : Ledger) (nodeId : String) : Keyring where
  nodeKeys := l.nodeKeys.filter fun key => key.nodeId = nodeId
  routeKeys := l.hubRouteKeys.filter fun key => key.nodeId = nodeId

def Db.keyring (db : Db) (nodeId : String) : Keyring := db.ledger.keyring nodeId

/-! ### Accepted calls -/

/-- The call is an authenticated request of the node, signed with `key`, to add the key `new`. -/
structure Rotation (env : Env) (s : RegistryState) (call : Call) (node : NodeRow)
    (key new : NodeKeyRow) : Prop where
  request : ∃ req body db1, call.operation = .machine req (.rotateCredential (some body)) ∧
    authenticateMachine env call.clock s.db req = .ok (node, key, db1) ∧
    rotationPublicKey body = .ok new.publicKey
  keyId : deriveKeyId env.crypto new.publicKey = .ok new.keyId
  inserted : new = ⟨node.nodeId, new.keyId, new.publicKey, .active, call.clock 3, none, none, none⟩
  fresh : ∀ other ∈ s.db.nodeKeys, (other.nodeId, other.keyId) ≠ (node.nodeId, new.keyId)

/-- The call is a re-enrollment of the node that proves possession of `historical` and adds
the key `new`. -/
structure Restoration (env : Env) (s : RegistryState) (call : Call) (node : NodeRow)
    (historical new : NodeKeyRow) : Prop where
  request : ∃ req result db', call.operation = .useToken (.reenroll req) ∧
    req.nodeId = some node.nodeId ∧ new.publicKey = req.fields.newPublicKey ∧
    checkPossession env s.db req req.fields = .ok historical ∧
    reenroll env call.entropy call.clock s.db req = .ok (result, db') ∧
    (s.db.getToken (tokenDigestOf env (req.token.getD ""))).any fun entry => entry.consumedAt = none
  keyId : deriveKeyId env.crypto new.publicKey = .ok new.keyId
  inserted : new = ⟨node.nodeId, new.keyId, new.publicKey, .active, call.clock 3, none, none, none⟩
  fresh : ∀ other ∈ s.db.nodeKeys, (other.nodeId, other.keyId) ≠ (node.nodeId, new.keyId)

/-! ### Steps -/

namespace Keyring

/-- The keyring after the end of `key` was set and the key `new` was added. -/
def rotated (key new : NodeKeyRow) (revokeAfter : ℤ) (k : Keyring) : Keyring :=
  { k with
    nodeKeys := updateWhere (fun row => row.keyId = key.keyId)
      (fun row => { row with revokeAfter := some revokeAfter }) k.nodeKeys ++ [new] }

def restored (historical new : NodeKeyRow) (routeKeys : List HubRouteKeyRow) (k : Keyring) : Keyring where
  nodeKeys := updateWhere (fun row => row.keyId = historical.keyId)
    (fun row => { row with revocationReason := some "reenroll-possession" }) (k.nodeKeys ++ [new])
  routeKeys

def deleted (now : ℤ) (k : Keyring) : Keyring where
  nodeKeys := updateWhere (fun row => row.state = .active) (NodeKeyRow.deleted now) k.nodeKeys
  routeKeys := updateWhere (fun row => row.state ≠ .revoked) (HubRouteKeyRow.deleted now) k.routeKeys

inductive Step (env : Env) (s : RegistryState) (call : Call) (node : NodeRow) : Keyring → Keyring → Prop
  | kept {k : Keyring} : Step env s call node k k
  | route {k : Keyring} (routeKeys : List HubRouteKeyRow) (hactive : node.state = .active) :
      Step env s call node k { k with routeKeys }
  | rotate {k : Keyring} (key new : NodeKeyRow) (hrotation : Rotation env s call node key new) :
      Step env s call node k (k.rotated key new (call.clock 4 + env.config.rotationOverlapMs))
  | restore {k : Keyring} (historical new : NodeKeyRow) (routeKeys : List HubRouteKeyRow)
      (hrestoration : Restoration env s call node historical new)
      (htombstoned : node.state = .tombstoned) :
      Step env s call node k (k.restored historical new routeKeys)
  | delete {k : Keyring} (hdeletes : Deletes call node.nodeId) (hactive : node.state = .active) :
      Step env s call node k (k.deleted (call.clock 0))
  | expire {k : Keyring} (f : NodeKeyRow → NodeKeyRow) (g : HubRouteKeyRow → HubRouteKeyRow) (n : ℕ)
      (hcall : call.operation = .maintenance)
      (hf : ∀ row, f row = row ∨ ∃ ended ∈ s.db.nodeKeys,
        ended.isKey row.nodeId row.keyId = true ∧ ended.state = .active ∧
        overlapEnded ended.revokeAfter (call.clock 1) = true ∧ ∃ revokedAt, f row = row.expired revokedAt)
      (hg : ∀ row, g row = row ∨ ∃ ended ∈ s.db.hubRouteKeys,
        ended.isKey row.nodeId row.keyId = true ∧ ended.state = .rotating ∧
        overlapEnded ended.revokeAfter (call.clock n) = true ∧
        ∃ revokedAt, g row = row.expired revokedAt) :
      Step env s call node k ⟨k.nodeKeys.map f, k.routeKeys.map g⟩

end Keyring

variable {env : Env} {s : RegistryState} {call : Call} {nodeId : String} {db db' : Db}

/-- What a call does to the keyring of a member. -/
def Keyring.Steps (env : Env) (s : RegistryState) (call : Call) (nodeId : String) (db' : Db) : Prop :=
  ∀ node, s.db.getNodeRow nodeId = some node →
    Keyring.Step env s call node (s.db.keyring nodeId) (db'.keyring nodeId)

theorem Db.keyring_congr (hnodeKeys : db'.nodeKeys = db.nodeKeys)
    (hrouteKeys : db'.hubRouteKeys = db.hubRouteKeys) (nodeId : String) :
    db'.keyring nodeId = db.keyring nodeId := by
  simp only [Db.keyring, Ledger.keyring, Db.ledger, hnodeKeys, hrouteKeys]

theorem Keyring.Steps.of_eq (h : db'.keyring nodeId = s.db.keyring nodeId) :
    Keyring.Steps env s call nodeId db' := by
  intro node _
  rw [h]
  exact .kept

theorem Keyring.Steps.of_ledger (h : db'.ledger = s.db.ledger) :
    Keyring.Steps env s call nodeId db' :=
  .of_eq (by rw [Db.keyring, h, Db.keyring])

theorem Keyring.steps_commit {attempt : Attempt Db}
    (h : ∀ db', attempt = .ok db' → Keyring.Steps env s call nodeId db') :
    Keyring.Steps env s call nodeId (commit s.db attempt) := by
  cases attempt with
  | error fault => exact .of_eq rfl
  | ok db' => exact h db' rfl

/-! ### Route keys -/

/-- The route keys of one node changed, and no node key. -/
structure Db.Reroutes (db db' : Db) (moved : String) : Prop where
  nodeKeys : db'.nodeKeys = db.nodeKeys
  others : ∀ other, other ≠ moved →
    (db'.hubRouteKeys.filter fun key => key.nodeId = other) =
      db.hubRouteKeys.filter fun key => key.nodeId = other

theorem Db.Reroutes.refl (db : Db) (moved : String) : db.Reroutes db moved := ⟨rfl, fun _ _ => rfl⟩

theorem Db.Reroutes.trans {db db1 db2 : Db} {moved : String} (h : db.Reroutes db1 moved)
    (h' : db1.Reroutes db2 moved) : db.Reroutes db2 moved where
  nodeKeys := h'.nodeKeys.trans h.nodeKeys
  others other hother := (h'.others other hother).trans (h.others other hother)

theorem Db.Reroutes.of_ledger {moved : String} (h : db'.ledger = db.ledger) :
    db.Reroutes db' moved where
  nodeKeys := congrArg Ledger.nodeKeys h
  others other _ := congrArg (fun l => (Ledger.keyring l other).routeKeys) h

theorem Db.Reroutes.keyring_eq {moved : String} (h : db.Reroutes db' moved) (hother : nodeId ≠ moved) :
    db'.keyring nodeId = db.keyring nodeId := by
  ext1
  · exact congrArg (List.filter _) h.nodeKeys
  · exact h.others nodeId hother

theorem Db.Reroutes.steps {db : Db} {moved : NodeRow} (h : db.Reroutes db' moved.nodeId)
    (hledger : db.keyring nodeId = s.db.keyring nodeId)
    (hnode : s.db.getNodeRow moved.nodeId = some moved) (hactive : moved.state = .active) :
    Keyring.Steps env s call nodeId db' := by
  intro node hfound
  rw [← hledger]
  by_cases hmoved : nodeId = moved.nodeId
  · subst hmoved
    obtain rfl := Option.some.inj (hnode.symm.trans hfound)
    have hkeyring : db'.keyring moved.nodeId =
        { db.keyring moved.nodeId with routeKeys := (db'.keyring moved.nodeId).routeKeys } := by
      ext1
      · exact congrArg (List.filter _) h.nodeKeys
      · rfl
    rw [hkeyring]
    exact .route _ hactive
  · rw [h.keyring_eq hmoved]
    exact .kept

theorem reroutes_append {moved : String} {row : HubRouteKeyRow} (hnode : row.nodeId = moved)
    (h : db'.ledger = { db.ledger with hubRouteKeys := db.hubRouteKeys ++ [row] }) :
    db.Reroutes db' moved where
  nodeKeys := congrArg Ledger.nodeKeys h
  others other hother := by
    have hkeys : db'.hubRouteKeys = db.hubRouteKeys ++ [row] := congrArg Ledger.hubRouteKeys h
    rw [hkeys, List.filter_append]
    simp [hnode, Ne.symm hother]

theorem reroutes_updateHubRouteKey {moved keyId : String} {f : HubRouteKeyRow → HubRouteKeyRow}
    (hf : ∀ row, (f row).nodeId = row.nodeId) : db.Reroutes (db.updateHubRouteKey moved keyId f) moved where
  nodeKeys := rfl
  others other hother := by
    refine filter_updateWhere_other (fun row => by rw [hf]) ?_
    intro row _ hrow
    have hother' : row.nodeId ≠ moved := by
      rw [of_decide_eq_true hrow]
      exact hother
    simp [hother']

theorem reroutes_ensureHubRouteKey {entropy : Entropy} {createdAt auditedAt : ℤ} {moved : String}
    {row : HubRouteKeyRow}
    (h : db.ensureHubRouteKey env entropy createdAt auditedAt moved = .ok (row, db')) :
    db.Reroutes db' moved := by
  rcases ensureHubRouteKey_ok h with ⟨-, rfl⟩ | ⟨-, hnode, -, hledger⟩
  · exact .refl db' moved
  · exact reroutes_append hnode hledger

theorem reroutes_acknowledgeHubRouteKeys {activatedAt overlapFrom auditedAt : ℤ} {moved : String}
    {ids : List Json} :
    db.Reroutes (db.acknowledgeHubRouteKeys env activatedAt overlapFrom auditedAt moved ids) moved := by
  have hactivate : ∀ keyId, db.Reroutes (db.activateRouteKey activatedAt moved keyId) moved :=
    fun keyId => reroutes_updateHubRouteKey fun _ => rfl
  unfold Db.acknowledgeHubRouteKeys
  split
  case h_1 => exact .refl db moved
  case h_2 key _ =>
    split_ifs
    · exact (hactivate key.keyId).trans (.of_ledger rfl)
    · exact .refl db moved
  case h_3 =>
    split
    case h_1 activeKey provisionedKey _ _ =>
      split_ifs
      · have hretire : ∀ (db : Db) (revokeAfter : ℤ),
            db.Reroutes (db.retireRouteKey revokeAfter moved activeKey.keyId) moved :=
          fun _ _ => reroutes_updateHubRouteKey fun _ => rfl
        exact ((hactivate provisionedKey.keyId).trans (hretire _ _)).trans (.of_ledger rfl)
      · exact .refl db moved
    case h_2 => exact .refl db moved

theorem reroutes_heartbeat {entropy : Entropy} {clock : Clock} {node : NodeRow}
    {rawBody : Option Json} {response : HeartbeatResponse}
    (h : heartbeatAuthenticated env entropy clock db node rawBody = .ok (response, db')) :
    db.Reroutes db' node.nodeId := by
  obtain ⟨body, -, h⟩ := bind_eq_ok.mp h
  obtain ⟨runtime, -, h⟩ := bind_eq_ok.mp h
  obtain ⟨⟨row, ensured⟩, hensure, h⟩ := bind_eq_ok.mp h
  obtain ⟨-, rfl⟩ := Prod.mk.inj (Except.ok.inj h)
  have hbeat : db.Reroutes (recordHeartbeat env clock db node runtime) node.nodeId :=
    .of_ledger (ledger_recordHeartbeat ..)
  refine (hbeat.trans ?_).trans (reroutes_ensureHubRouteKey hensure)
  unfold recordAcknowledgement
  split
  · exact .refl ..
  · exact reroutes_acknowledgeHubRouteKeys

theorem reroutes_rotateHubRouteKey {entropy : Entropy} {clock : Clock} {actor moved : Option String}
    {result : Db.RotateHubRouteKeyResult}
    (h : db.rotateHubRouteKey env entropy clock actor moved = .ok (result, db')) :
    ∃ node, db.getNodeRow node.nodeId = some node ∧ node.state = .active ∧
      db.Reroutes db' node.nodeId := by
  obtain ⟨moved, -, h⟩ := bind_eq_ok.mp h
  obtain ⟨actor, -, h⟩ := bind_eq_ok.mp h
  split at h
  case h_1 => cases h
  case h_2 node hnode =>
    split_ifs at h with hactive
    · cases h
    · dsimp only at h
      split at h
      case h_1 => cases h
      case h_2 =>
        split_ifs at h
        · cases h
        · obtain ⟨⟨row, inserted⟩, hprovision, h⟩ := bind_eq_ok.mp h
          obtain ⟨-, rfl⟩ := Prod.mk.inj (Except.ok.inj h)
          obtain ⟨keyId, -, hprovision⟩ := bind_eq_ok.mp hprovision
          obtain ⟨provisioned, hinsert, hprovision⟩ := bind_eq_ok.mp hprovision
          obtain ⟨-, rfl⟩ := Prod.mk.inj (Except.ok.inj hprovision)
          obtain ⟨-, rfl⟩ := Db.insertHubRouteKey_ok hinsert
          obtain rfl := Db.nodeId_of_getNodeRow hnode
          exact ⟨node, hnode, not_not.mp hactive, reroutes_append rfl rfl⟩

/-! ### Token requests -/

theorem keyring_append_other {key : NodeKeyRow} (hkey : key.nodeId ≠ nodeId)
    (hnodeKeys : db'.nodeKeys = db.nodeKeys ++ [key])
    (hrouteKeys : db'.hubRouteKeys = db.hubRouteKeys) : db'.keyring nodeId = db.keyring nodeId := by
  simp only [Db.keyring, Ledger.keyring, Db.ledger, hnodeKeys, hrouteKeys, List.filter_append]
  simp [hkey]

theorem reroutes_provisionRouteKey {entropy : Entropy} {admission : Admission}
    {createdAt auditedAt : ℤ} {moved : String}
    (h : admission.provisionRouteKey env entropy db createdAt auditedAt moved = .ok db') :
    db.Reroutes db' moved := by
  rcases provisionRouteKey_ok h with hledger | ⟨row, hrow, -, hledger⟩
  · exact .of_ledger hledger
  · exact reroutes_append hrow hledger

theorem keyring_admitNode {entropy : Entropy} {clock : Clock} {entry : TokenRow}
    {fields : EnrollFields} {actor keyId : String} {admission : Admission} {result : EnrollmentResult}
    (h : admitNode env entropy clock db entry fields actor keyId admission = .ok (result, db'))
    {node : NodeRow} (hnode : db.getNodeRow nodeId = some node) :
    db'.keyring nodeId = db.keyring nodeId := by
  obtain ⟨db1, hadmit, h⟩ := bind_eq_ok.mp h
  obtain ⟨hnew, hdb1⟩ := Db.insertNode_ok hadmit
  obtain ⟨db2, hkey, h⟩ := bind_eq_ok.mp h
  obtain ⟨-, hdb2⟩ := Db.insertNodeKey_ok hkey
  obtain ⟨db3, hroute, h⟩ := bind_eq_ok.mp h
  obtain ⟨db4, hresult, h⟩ := bind_eq_ok.mp h
  obtain ⟨-, hdb4⟩ := Db.insertResult_ok hresult
  obtain ⟨-, hdb'⟩ := Prod.mk.inj (Except.ok.inj h)
  have hother : nodeId ≠ "node_" ++ entropy.randomHex 0 16 := by
    intro hsame
    refine hnew node (List.mem_of_find?_eq_some hnode) ?_
    rw [Db.nodeId_of_getNodeRow hnode, hsame]
  have hnodeKeys : db2.nodeKeys = db1.nodeKeys ++ [_] := congrArg Db.nodeKeys hdb2
  have hrouteKeys : db2.hubRouteKeys = db1.hubRouteKeys := by rw [hdb2]
  calc db'.keyring nodeId = db3.keyring nodeId := by
        rw [← hdb', hdb4]
        rfl
    _ = db2.keyring nodeId := (reroutes_provisionRouteKey hroute).keyring_eq hother
    _ = db1.keyring nodeId := keyring_append_other (Ne.symm hother) hnodeKeys hrouteKeys
    _ = db.keyring nodeId := by
        rw [hdb1]
        rfl

theorem keyring_restoreNode_other {entropy : Entropy} {clock : Clock} {entry : TokenRow}
    {fields : ReenrollFields} {actor newKeyId : String} {historical : NodeKeyRow}
    {result : EnrollmentResult}
    (h : restoreNode env entropy clock db entry fields actor historical newKeyId = .ok (result, db'))
    (hother : nodeId ≠ fields.nodeId) : db'.keyring nodeId = db.keyring nodeId := by
  obtain ⟨db1, hnonce, h⟩ := bind_eq_ok.mp h
  obtain ⟨-, hdb1⟩ := reserveNonceRow_ok hnonce
  obtain ⟨db2, hresult, h⟩ := bind_eq_ok.mp h
  obtain ⟨-, hdb2⟩ := Db.insertResult_ok hresult
  obtain ⟨db3, hkey, h⟩ := bind_eq_ok.mp h
  obtain ⟨-, hdb3⟩ := Db.insertNodeKey_ok hkey
  obtain ⟨⟨row, db4⟩, hensure, h⟩ := bind_eq_ok.mp h
  obtain ⟨-, hdb'⟩ := Prod.mk.inj (Except.ok.inj h)
  have hkeys3 : db3.nodeKeys = db2.nodeKeys ++ [_] := congrArg Db.nodeKeys hdb3
  have hroutes3 : db3.hubRouteKeys = db2.hubRouteKeys := by rw [hdb3]
  have hledger := congrArg Db.ledger hdb'
  rw [Db.ledger_recordEvent, Db.ledger_recordAudit] at hledger
  have hpossession : db'.keyring nodeId = db4.keyring nodeId := by
    rw [Db.keyring, ← hledger]
    ext1
    · refine filter_updateWhere_other (by intro row; rfl) ?_
      intro row _ hrow
      have hrow' : row.nodeId ≠ fields.nodeId := by
        rw [of_decide_eq_true hrow]
        exact hother
      simp [hrow']
    · rfl
  calc db'.keyring nodeId = db4.keyring nodeId := hpossession
    _ = (db3.updateNode fields.nodeId (resetNode (clock 3))).keyring nodeId :=
        (reroutes_ensureHubRouteKey hensure).keyring_eq hother
    _ = db3.keyring nodeId := rfl
    _ = db2.keyring nodeId := keyring_append_other (Ne.symm hother) hkeys3 hroutes3
    _ = db.keyring nodeId := by
        rw [hdb2, hdb1]
        rfl

theorem keyring_restoreNode {entropy : Entropy} {clock : Clock} {entry : TokenRow}
    {fields : ReenrollFields} {actor newKeyId : String} {historical : NodeKeyRow}
    {result : EnrollmentResult}
    (h : restoreNode env entropy clock db entry fields actor historical newKeyId =
      .ok (result, db')) :
    ∃ new : NodeKeyRow,
      new = ⟨fields.nodeId, newKeyId, fields.newPublicKey, .active, clock 3, none, none, none⟩ ∧
      (∀ other ∈ db.nodeKeys, (other.nodeId, other.keyId) ≠ (fields.nodeId, newKeyId)) ∧
      ∃ routeKeys, db'.keyring fields.nodeId =
        (db.keyring fields.nodeId).restored historical new routeKeys := by
  obtain ⟨db1, hnonce, h⟩ := bind_eq_ok.mp h
  obtain ⟨-, hdb1⟩ := reserveNonceRow_ok hnonce
  obtain ⟨db2, hresult, h⟩ := bind_eq_ok.mp h
  obtain ⟨-, hdb2⟩ := Db.insertResult_ok hresult
  obtain ⟨db3, hkey, h⟩ := bind_eq_ok.mp h
  obtain ⟨hfresh, hdb3⟩ := Db.insertNodeKey_ok hkey
  obtain ⟨⟨row, db4⟩, hensure, h⟩ := bind_eq_ok.mp h
  obtain ⟨-, hdb'⟩ := Prod.mk.inj (Except.ok.inj h)
  have hdb2keys : db2.nodeKeys = db.nodeKeys := by
    rw [hdb2, hdb1]
    rfl
  rw [hdb2keys] at hfresh
  have hkeys3 : db3.nodeKeys = db2.nodeKeys ++ [_] := congrArg Db.nodeKeys hdb3
  have hkeys4 : db4.nodeKeys = db3.nodeKeys := (reroutes_ensureHubRouteKey hensure).nodeKeys
  have hkeys : db'.nodeKeys = updateWhere
      (fun row => row.nodeId = fields.nodeId ∧ row.keyId = historical.keyId)
      (fun row => { row with revocationReason := some "reenroll-possession" }) db4.nodeKeys := by
    have hrecorded := congrArg Ledger.nodeKeys (congrArg Db.ledger hdb')
    rw [Db.ledger_recordEvent] at hrecorded
    exact hrecorded.symm
  refine ⟨_, rfl, hfresh, (db'.keyring fields.nodeId).routeKeys, ?_⟩
  ext1
  · rw [Keyring.restored]
    simp only [Db.keyring, Ledger.keyring, Db.ledger]
    rw [hkeys, filter_updateWhere (by intro row; rfl), hkeys4, hkeys3, hdb2keys, List.filter_append]
    simp only [decide_true, List.filter_cons_of_pos, List.filter_nil]
    refine updateWhere_congr fun row hrow => ?_
    have hown : row.nodeId = fields.nodeId := by
      rcases List.mem_append.mp hrow with hrow | hrow
      · exact of_decide_eq_true (List.mem_filter.mp hrow).2
      · rw [List.mem_singleton.mp hrow]
    simp [hown]
  · rfl

/-- A re-enrollment that restores its node. -/
theorem restoration_of_restoreNode {req : ReenrollRequest} {result : EnrollmentResult}
    {entry : TokenRow} {historical : NodeKeyRow} {newKeyId : String} {node : NodeRow}
    (hcall : call.operation = .useToken (.reenroll req))
    (h : reenroll env call.entropy call.clock s.db req = .ok (result, db'))
    (hnodeId : isNodeId req.fields.nodeId = true)
    (hentry : s.db.getToken (tokenDigestOf env (req.token.getD "")) = some entry)
    (hconsumed : entry.consumedAt = none)
    (hpossession : checkPossession env s.db req req.fields = .ok historical)
    (hderived : deriveKeyId env.crypto req.fields.newPublicKey = .ok newKeyId)
    (hrestore : restoreNode env call.entropy call.clock s.db entry req.fields req.actor historical
      newKeyId = .ok (result, db'))
    (hnode : s.db.getNodeRow req.fields.nodeId = some node) :
    node.state = .tombstoned ∧ ∃ new routeKeys, Restoration env s call node historical new ∧
      db'.keyring req.fields.nodeId =
        (s.db.keyring req.fields.nodeId).restored historical new routeKeys := by
  obtain ⟨new, hnew, hfresh, routeKeys, hkeyring⟩ := keyring_restoreNode hrestore
  have hgiven := req.nodeId_eq_fields hnodeId
  obtain ⟨tombstoned, htombstoned, hstate⟩ := tombstoned_of_checkPossession hpossession
  obtain rfl := Option.some.inj (hnode.symm.trans htombstoned)
  have hnodeId := Db.nodeId_of_getNodeRow hnode
  refine ⟨hstate, new, routeKeys, ⟨?_, ?_, ?_, ?_⟩, hkeyring⟩
  · refine ⟨req, result, db', hcall, ?_, ?_, hpossession, h, by simp [hentry, hconsumed]⟩
    · rw [hnodeId]
      exact hgiven
    · rw [hnew]
  · rw [hnew]
    exact hderived
  · rw [hnew, hnodeId]
  · rw [hnew, hnodeId]
    exact hfresh

theorem Keyring.steps_reenroll {req : ReenrollRequest} {result : EnrollmentResult}
    (hcall : call.operation = .useToken (.reenroll req))
    (h : reenroll env call.entropy call.clock s.db req = .ok (result, db')) :
    Keyring.Steps env s call nodeId db' := by
  rcases reenroll_restores h with ⟨rfl, -⟩ | ⟨entry, historical, newKeyId, hnodeId, hentry, hconsumed,
    hpossession, hderived, hrestore⟩
  · exact .of_eq rfl
  · intro node hnode
    by_cases hown : nodeId = req.fields.nodeId
    · subst hown
      obtain ⟨hstate, new, routeKeys, hrestoration, hkeyring⟩ := restoration_of_restoreNode hcall h
        hnodeId hentry hconsumed hpossession hderived hrestore hnode
      rw [hkeyring]
      exact .restore historical new routeKeys hrestoration hstate
    · have hkept : db'.keyring nodeId = s.db.keyring nodeId := keyring_restoreNode_other hrestore hown
      rw [hkept]
      exact .kept

theorem Keyring.steps_submit {req : TokenRequest} {result : EnrollmentResult}
    (hcall : call.operation = .useToken req)
    (h : req.submit env call.entropy call.clock s.db = .ok (result, db')) :
    Keyring.Steps env s call nodeId db' := by
  cases req with
  | enroll req =>
    rcases enroll_admits h with rfl | ⟨entry, keyId, -, -, -, -, -, hadmit⟩
    · exact .of_eq rfl
    · intro node hnode
      rw [keyring_admitNode hadmit hnode]
      exact .kept
  | pair req =>
    rcases pair_admits h with rfl | ⟨entry, keyId, hubBaseUrl, -, -, hadmit⟩
    · exact .of_eq rfl
    · intro node hnode
      rw [keyring_admitNode hadmit hnode]
      exact .kept
  | reenroll req => exact steps_reenroll hcall h

/-! ### Machine requests -/

theorem keyring_rotated {key new : NodeKeyRow} {revokeAfter : ℤ} {moved : String}
    (hnode : new.nodeId = moved)
    (hnodeKeys : db'.nodeKeys = (db.setRevokeAfter moved key.keyId revokeAfter).nodeKeys ++ [new])
    (hrouteKeys : db'.hubRouteKeys = db.hubRouteKeys) :
    db'.keyring moved = (db.keyring moved).rotated key new revokeAfter := by
  ext1
  · simp only [Db.keyring, Ledger.keyring, Db.ledger, Keyring.rotated, Db.setRevokeAfter, hnodeKeys]
    rw [List.filter_append, filter_updateWhere (by intro row; rfl)]
    simp only [hnode, decide_true, List.filter_cons_of_pos, List.filter_nil, List.append_left_inj]
    refine updateWhere_congr fun row hrow => ?_
    simp [of_decide_eq_true (List.mem_filter.mp hrow).2]
  · exact congrArg (List.filter _) hrouteKeys

theorem keyring_rotated_other {key new : NodeKeyRow} {revokeAfter : ℤ} {moved : String}
    (hnode : new.nodeId = moved)
    (hnodeKeys : db'.nodeKeys = (db.setRevokeAfter moved key.keyId revokeAfter).nodeKeys ++ [new])
    (hrouteKeys : db'.hubRouteKeys = db.hubRouteKeys) (hother : nodeId ≠ moved) :
    db'.keyring nodeId = db.keyring nodeId := by
  have hother' : new.nodeId ≠ nodeId := by
    rw [hnode]
    exact Ne.symm hother
  have hset : (db.setRevokeAfter moved key.keyId revokeAfter).keyring nodeId = db.keyring nodeId := by
    ext1
    · refine filter_updateWhere_other (by intro row; rfl) fun row _ hrow => ?_
      have hrow' : row.nodeId ≠ moved := by
        rw [of_decide_eq_true hrow]
        exact hother
      simp [hrow']
    · rfl
  exact (keyring_append_other hother' hnodeKeys hrouteKeys).trans hset

/-- The key that an accepted rotation inserts. -/
theorem rotateCredential_inserts {clock : Clock} {node : NodeRow} {key : NodeKeyRow}
    {rawBody : Option Json} {response : RotationResponse}
    (h : rotateCredentialAuthenticated env clock db node key rawBody = .ok (response, db')) :
    ∃ (body : Json) (new : NodeKeyRow), rawBody = some body ∧
      rotationPublicKey body = .ok new.publicKey ∧ deriveKeyId env.crypto new.publicKey = .ok new.keyId ∧
      new = ⟨node.nodeId, new.keyId, new.publicKey, .active, clock 3, none, none, none⟩ ∧
      (∀ other ∈ db.nodeKeys, (other.nodeId, other.keyId) ≠ (node.nodeId, new.keyId)) ∧
      db'.nodeKeys = (db.setRevokeAfter node.nodeId key.keyId
        (clock 4 + env.config.rotationOverlapMs)).nodeKeys ++ [new] ∧
      db'.hubRouteKeys = db.hubRouteKeys := by
  obtain ⟨body, hbody, h⟩ := bind_eq_ok.mp h
  obtain ⟨newPublicKey, hpublicKey, h⟩ := bind_eq_ok.mp h
  obtain ⟨newKeyId, hkeyId, h⟩ := bind_eq_ok.mp h
  split_ifs at h
  · cases h
  · obtain ⟨inserted, hinsert, h⟩ := bind_eq_ok.mp h
    obtain ⟨-, rfl⟩ := Prod.mk.inj (Except.ok.inj h)
    obtain ⟨hnew, rfl⟩ := Db.insertNodeKey_ok hinsert
    refine ⟨body, ⟨node.nodeId, newKeyId, newPublicKey, .active, clock 3, none, none, none⟩,
      parseJsonBody_eq_ok.mp hbody, hpublicKey, orThrow_eq_ok.mp hkeyId, rfl, ?_, rfl, rfl⟩
    intro other hother heq
    refine hnew _ (mem_updateWhere_of_mem hother) ?_
    split_ifs <;> exact heq

theorem Keyring.steps_rotateCredential {req : MachineRequest} {rawBody : Option Json}
    {node : NodeRow} {key : NodeKeyRow} {db1 : Db} {response : RotationResponse}
    (hcall : call.operation = .machine req (.rotateCredential rawBody))
    (hauth : authenticateMachine env call.clock s.db req = .ok (node, key, db1))
    (h : rotateCredentialAuthenticated env call.clock db1 node key rawBody = .ok (response, db')) :
    Keyring.Steps env s call nodeId db' := by
  obtain ⟨fields, -, hchecked, -, hdb1⟩ := authenticateMachine_ok hauth
  obtain ⟨body, new, hraw, hpublicKey, hkeyId, hnew, hfresh, hnodeKeys, hrouteKeys⟩ :=
    rotateCredential_inserts h
  have hkeyring1 : ∀ id, db1.keyring id = s.db.keyring id := by
    intro id
    rw [hdb1]
    rfl
  have hnode : new.nodeId = node.nodeId := by rw [hnew]
  intro found hfound
  by_cases hmoved : nodeId = node.nodeId
  · subst hmoved
    have hid := Db.nodeId_of_getNodeRow hchecked.node_eq
    rw [hid] at hfound
    obtain rfl := Option.some.inj (hchecked.node_eq.symm.trans hfound)
    rw [keyring_rotated hnode hnodeKeys hrouteKeys, hkeyring1]
    refine .rotate key new ⟨⟨req, body, db1, ?_, hauth, hpublicKey⟩, hkeyId, hnew, ?_⟩
    · rw [hcall, hraw]
    · rw [hdb1] at hfresh
      exact hfresh
  · rw [keyring_rotated_other hnode hnodeKeys hrouteKeys hmoved, hkeyring1]
    exact .kept

theorem Keyring.steps_serveMachine {req : MachineRequest} {business : Business}
    (hcall : call.operation = .machine req business) :
    Keyring.Steps env s call nodeId (serveMachine env call.entropy call.clock s.db req business) := by
  unfold serveMachine
  split
  case h_1 => exact .of_eq rfl
  case h_2 node key db1 hauth =>
    obtain ⟨fields, -, hchecked, -, hdb1⟩ := authenticateMachine_ok hauth
    have hkeyring1 : ∀ id, db1.keyring id = s.db.keyring id := by
      intro id
      rw [hdb1]
      rfl
    have hnode : s.db.getNodeRow node.nodeId = some node := by
      rw [Db.nodeId_of_getNodeRow hchecked.node_eq]
      exact hchecked.node_eq
    cases hperform : business.perform env call.entropy call.clock db1 node key with
    | error fault => exact .of_eq (hkeyring1 nodeId)
    | ok db' =>
      cases business with
      | nothing =>
        obtain rfl := Except.ok.inj hperform
        exact .of_eq (hkeyring1 nodeId)
      | heartbeat rawBody =>
        obtain ⟨⟨response, _⟩, hbeat, rfl⟩ := map_eq_ok.mp hperform
        exact (reroutes_heartbeat hbeat).steps (hkeyring1 nodeId) hnode hchecked.active
      | uploadReport rawBody =>
        obtain ⟨⟨response, _⟩, hupload, rfl⟩ := map_eq_ok.mp hperform
        refine .of_eq (Eq.trans ?_ (hkeyring1 nodeId))
        exact congrArg (fun l => Ledger.keyring l nodeId) (ledger_uploadReport hupload)
      | rotateCredential rawBody =>
        obtain ⟨⟨response, _⟩, hrotate, rfl⟩ := map_eq_ok.mp hperform
        exact steps_rotateCredential hcall hauth hrotate

/-! ### Deletion -/

theorem keyring_tombstoneNode (clock : Clock) (db : Db) (node : NodeRow)
    (actor requestId reason : String) :
    (tombstoneNode clock db node actor requestId reason).keyring node.nodeId =
      (db.keyring node.nodeId).deleted (clock 0) := by
  rw [Db.keyring, ledger_tombstoneNode]
  ext1
  · refine (filter_updateWhere (by intro row; rfl) _).trans (updateWhere_congr fun row hrow => ?_)
    simp [of_decide_eq_true (List.mem_filter.mp hrow).2]
  · refine (filter_updateWhere (by intro row; rfl) _).trans (updateWhere_congr fun row hrow => ?_)
    simp [of_decide_eq_true (List.mem_filter.mp hrow).2]

theorem keyring_tombstoneNode_other (clock : Clock) (db : Db) {node : NodeRow}
    (actor requestId reason : String) (hother : nodeId ≠ node.nodeId) :
    (tombstoneNode clock db node actor requestId reason).keyring nodeId = db.keyring nodeId := by
  rw [Db.keyring, ledger_tombstoneNode]
  ext1
  · refine filter_updateWhere_other (by intro row; rfl) fun row _ hrow => ?_
    simp [of_decide_eq_true hrow, hother]
  · refine filter_updateWhere_other (by intro row; rfl) fun row _ hrow => ?_
    simp [of_decide_eq_true hrow, hother]

theorem Keyring.steps_deleteNode {req : DeleteRequest} (hcall : call.operation = .deleteNode req) :
    Keyring.Steps env s call nodeId (commitState s (deleteNode call.clock s req)).db := by
  cases h : deleteNode call.clock s req with
  | error fault => exact .of_eq rfl
  | ok answer =>
    obtain ⟨moved, hmoved, h⟩ := bind_eq_ok.mp h
    obtain ⟨requestId, -, h⟩ := bind_eq_ok.mp h
    obtain ⟨reason, -, h⟩ := bind_eq_ok.mp h
    split_ifs at h
    · cases h
    · split at h
      case h_1 => cases h
      case h_2 node hnode =>
        obtain rfl := Db.nodeId_of_getNodeRow hnode
        split at h
        case h_1 =>
          split_ifs at h
          · rw [← Except.ok.inj h]
            exact .of_eq rfl
          · cases h
        case h_2 =>
          split_ifs at h with hstate
          · cases h
          · rw [← Except.ok.inj h]
            intro found hfound
            by_cases hown : nodeId = node.nodeId
            · subst hown
              obtain rfl := Option.some.inj (hnode.symm.trans hfound)
              have hkeyring := keyring_tombstoneNode call.clock s.db node req.actor requestId reason
              refine Eq.mpr (congrArg _ hkeyring) (.delete ?_ (active_of_not_tombstoned hstate))
              exact ⟨req, hcall, (requireString_eq_ok.mp hmoved).1⟩
            · have hkeyring :=
                keyring_tombstoneNode_other call.clock s.db req.actor requestId reason hown
              exact Eq.mpr (congrArg _ hkeyring) .kept

/-! ### Maintenance -/

theorem keyring_map {f : NodeKeyRow → NodeKeyRow} {g : HubRouteKeyRow → HubRouteKeyRow}
    (hf : ∀ row, (f row).nodeId = row.nodeId) (hg : ∀ row, (g row).nodeId = row.nodeId)
    (hnodeKeys : db'.nodeKeys = db.nodeKeys.map f)
    (hrouteKeys : db'.hubRouteKeys = db.hubRouteKeys.map g) :
    db'.keyring nodeId =
      ⟨(db.keyring nodeId).nodeKeys.map f, (db.keyring nodeId).routeKeys.map g⟩ := by
  simp only [Db.keyring, Ledger.keyring, Db.ledger, hnodeKeys, hrouteKeys, List.filter_map]
  simp only [Function.comp_def, hf, hg]

/-- The keys after maintenance: those whose overlap has ended are expired. -/
structure Expired (clock : Clock) (db db' : Db) (f : NodeKeyRow → NodeKeyRow)
    (g : HubRouteKeyRow → HubRouteKeyRow) (n : ℕ) : Prop where
  nodeKeys : db'.nodeKeys = db.nodeKeys.map f
  routeKeys : db'.hubRouteKeys = db.hubRouteKeys.map g
  nodeKey : ∀ row, f row = row ∨ ∃ ended ∈ db.nodeKeys,
    ended.isKey row.nodeId row.keyId = true ∧ ended.state = .active ∧
    overlapEnded ended.revokeAfter (clock 1) = true ∧ ∃ revokedAt, f row = row.expired revokedAt
  routeKey : ∀ row, g row = row ∨ ∃ ended ∈ db.hubRouteKeys,
    ended.isKey row.nodeId row.keyId = true ∧ ended.state = .rotating ∧
    overlapEnded ended.revokeAfter (clock n) = true ∧ ∃ revokedAt, g row = row.expired revokedAt

theorem expired_expireAndPurge (clock : Clock) (db : Db) :
    ∃ f g n, Expired clock db (expireAndPurge clock db).1 f g n := by
  obtain ⟨f, hf, hnode⟩ :=
    forEachRow_expireNodeKey (endedNodeKeys db (clock 1)) (db, (clock.drop 1).drop 1)
  obtain ⟨a, ha⟩ := snd_forEachRow 1 expireNodeKey (endedNodeKeys db (clock 1))
    (db, (clock.drop 1).drop 1)
  rw [expireAndPurge]
  set expired := expireNodeKeys (db, clock.drop 1) with hexpired
  obtain ⟨g, hg, hroute⟩ :=
    forEachRow_expireRouteKey (endedRouteKeys expired.1 (expired.2 0)) (expired.1, expired.2.drop 1)
  have hreading : expired.2 0 = clock (1 + 1 + a) := by
    have : expired.2 = ((clock.drop 1).drop 1).drop a := ha
    rw [this, Clock.drop_drop, Clock.drop_drop, Clock.drop, Nat.add_zero, Nat.add_assoc]
  have hroutes : expired.1.hubRouteKeys = db.hubRouteKeys := congrArg Ledger.hubRouteKeys hnode
  rw [hreading] at hg
  refine ⟨f, g, 1 + 1 + a, ?_, ?_, fun row => (hf row).imp_right ?_, fun row => (hg row).imp_right ?_⟩
  · exact (congrArg Ledger.nodeKeys hroute).trans (congrArg Ledger.nodeKeys hnode)
  · exact (congrArg Ledger.hubRouteKeys hroute).trans (congrArg (List.map g) hroutes)
  · rintro ⟨⟨key, hkey, hsame⟩, hrow⟩
    obtain ⟨hmem, hstate, hended⟩ : key ∈ db.nodeKeys ∧ key.state = .active ∧
        overlapEnded key.revokeAfter (clock 1) = true := by
      simpa [endedNodeKeys] using hkey
    exact ⟨key, hmem, hsame, hstate, hended, hrow⟩
  · rintro ⟨⟨key, hkey, hsame⟩, hrow⟩
    rw [endedRouteKeys, hroutes] at hkey
    obtain ⟨hmem, hstate, hended⟩ : key ∈ db.hubRouteKeys ∧ key.state = .rotating ∧
        overlapEnded key.revokeAfter (clock (1 + 1 + a)) = true := by
      simpa using hkey
    exact ⟨key, hmem, hsame, hstate, hended, hrow⟩

theorem ledger_maintenance (config : Config) (clock : Clock) (db : Db) :
    (maintenance config clock db).2.ledger = (expireAndPurge clock db).1.ledger := by
  rw [maintenance, ledger_ageRecords]

theorem Keyring.steps_maintenance (hcall : call.operation = .maintenance) :
    Keyring.Steps env s call nodeId (step env s call).db := by
  rw [step, hcall]
  dsimp only
  obtain ⟨f, g, n, hexpired⟩ := expired_expireAndPurge call.clock s.db
  have hledger := ledger_maintenance env.config call.clock s.db
  have hf : ∀ row, (f row).nodeId = row.nodeId := by
    intro row
    rcases hexpired.nodeKey row with h | ⟨_, _, _, _, _, _, h⟩ <;> rw [h]
    rfl
  have hg : ∀ row, (g row).nodeId = row.nodeId := by
    intro row
    rcases hexpired.routeKey row with h | ⟨_, _, _, _, _, _, h⟩ <;> rw [h]
    rfl
  have hkeyring : (maintenance env.config call.clock s.db).2.keyring nodeId =
      (expireAndPurge call.clock s.db).1.keyring nodeId :=
    congrArg (fun l => Ledger.keyring l nodeId) hledger
  intro node _
  rw [hkeyring, keyring_map hf hg hexpired.nodeKeys hexpired.routeKeys]
  exact .expire f g n hcall hexpired.nodeKey hexpired.routeKey

/-! ### All steps -/

theorem keyring_mintEnrollmentToken {entropy : Entropy} {clock : Clock} {req : MintRequest}
    {minted : MintedToken} (h : mintEnrollmentToken env entropy clock db req = .ok (minted, db')) :
    db'.keyring nodeId = db.keyring nodeId := by
  unfold mintEnrollmentToken at h
  split_ifs at h
  · cases h
  · obtain ⟨_, -, h⟩ := bind_eq_ok.mp h
    obtain ⟨inserted, hinsert, h⟩ := bind_eq_ok.mp h
    obtain ⟨-, rfl⟩ := Prod.mk.inj (Except.ok.inj h)
    obtain ⟨-, rfl⟩ := Db.insertToken_ok hinsert
    rfl

/-- A step of the registry is a step of the keyring of each member. -/
theorem step_keyring (env : Env) (s : RegistryState) (call : Call) (nodeId : String) :
    Keyring.Steps env s call nodeId (step env s call).db := by
  obtain ⟨operation, clock, entropy⟩ := call
  cases operation with
  | mintEnrollmentToken req =>
    refine Keyring.steps_commit fun db' h => .of_eq ?_
    obtain ⟨⟨minted, _⟩, hmint, rfl⟩ := map_eq_ok.mp h
    exact keyring_mintEnrollmentToken hmint
  | useToken req =>
    refine Keyring.steps_commit fun db' h => ?_
    obtain ⟨⟨result, _⟩, hsubmit, rfl⟩ := map_eq_ok.mp h
    exact Keyring.steps_submit rfl hsubmit
  | machine req business => exact Keyring.steps_serveMachine rfl
  | deleteNode req => exact Keyring.steps_deleteNode rfl
  | setRouteTarget actor moved routeTarget => exact .of_ledger ledger_setRouteTarget
  | setRouteMode actor moved routeMode => exact .of_ledger ledger_setRouteMode
  | removeRouteTarget actor moved => exact .of_ledger ledger_removeRouteTarget
  | rotateHubRouteKey actor moved =>
    refine Keyring.steps_commit fun db' h => ?_
    obtain ⟨⟨result, _⟩, hrotate, rfl⟩ := map_eq_ok.mp h
    obtain ⟨node, hnode, hactive, hreroutes⟩ := reroutes_rotateHubRouteKey hrotate
    exact hreroutes.steps rfl hnode hactive
  | probeNode probed => exact .of_ledger (ledger_probeNode ..)
  | recordProbeResult probed answer context => exact .of_ledger (ledger_recordProbeResult ..)
  | bootstrapSession principal =>
    refine Keyring.steps_commit fun db' h => .of_ledger ?_
    obtain ⟨⟨row, _⟩, hsession, rfl⟩ := map_eq_ok.mp h
    exact ledger_bootstrapSession hsession
  | validateSession sessionId => exact .of_ledger ledger_validateSession
  | endSession sessionId actor => exact .of_ledger ledger_endSession
  | recordAudit actor action detail => exact .of_eq rfl
  | maintenance => exact Keyring.steps_maintenance rfl
  | restart =>
    rw [step]
    exact .of_ledger (ledger_reconcileNodeCapabilities clock s.db)

end DshOrbit.Registry
