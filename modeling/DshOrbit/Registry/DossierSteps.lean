import DshOrbit.Registry.Dossiers
import DshOrbit.Registry.RouteKeySets

/-!
# Steps of a dossier

What a call can do to the dossier of a node, with one constructor for each kind of
operation. A call about another node leaves the dossier as it is.

## Main definitions

- `Serves`, `Restores`, `Deletes`, `ProbeAccepted` — the accepted calls about a node
- `SetsConfiguration` — the calls that set the route mode, the route target or the era
- `Dossier.Step` — the dossier before and after a call

## Main results

- `step_dossier` — a step of the registry is a step of each dossier
-/

namespace DshOrbit.Registry

open DshOrbit.Lib DshOrbit.Protocol

/-! ### Accepted calls -/

/-- The call is a machine request of the node that is authenticated and whose operation
succeeds. -/
def Serves (env : Env) (s : RegistryState) (call : Call) (nodeId : String) (business : Business) :
    Prop :=
  ∃ req node key db db', call.operation = .machine req business ∧
    authenticateMachine env call.clock s.db req = .ok (node, key, db) ∧ node.nodeId = nodeId ∧
    business.perform env call.entropy call.clock db node key = .ok db'

/-- The call is a re-enrollment of the node that succeeds on a token not consumed before. -/
def Restores (env : Env) (s : RegistryState) (call : Call) (nodeId : String) : Prop :=
  ∃ req result db', call.operation = .useToken (.reenroll req) ∧ req.nodeId = some nodeId ∧
    reenroll env call.entropy call.clock s.db req = .ok (result, db') ∧
    (s.db.getToken (tokenDigestOf env (req.token.getD ""))).any fun entry => entry.consumedAt = none

def Deletes (call : Call) (nodeId : String) : Prop :=
  ∃ req, call.operation = .deleteNode req ∧ req.nodeId = some nodeId

def IsProbe (call : Call) (nodeId : String) : Prop :=
  call.operation = .probeNode nodeId ∨
    ∃ answer context, call.operation = .recordProbeResult nodeId answer context

/-- The call brings the answer of a probe that is not ignored: the node is active and in direct
mode, and its route target and signing key are those of the probe. -/
def ProbeAccepted (s : RegistryState) (call : Call) (nodeId : String) (success : Bool)
    (context : ProbeContext) : Prop :=
  ∃ answer, call.operation = .recordProbeResult nodeId answer context ∧
    (probeVerdict nodeId answer).1 = success ∧
    (s.db.getNodeRow nodeId).any (fun node => node.state = .active ∧ node.routeMode ≠ .reverse) ∧
    (s.db.getRouteTarget nodeId).map (·.routeTargetOrigin) = some context.routeTargetOrigin ∧
    (s.db.getActiveHubRouteKey nodeId).map (·.keyId) = some context.keyId

/-- The call sets the configuration of the node: its route target, its route mode, or its
enrollment era, which a deletion ends and a re-enrollment begins. -/
inductive SetsConfiguration (env : Env) (s : RegistryState) (call : Call) (nodeId : String) : Prop
  | target (actor : Option String) (routeTarget : Json) (result : RouteTargetRow × RegistryState)
      (hcall : call.operation = .setRouteTarget actor (some nodeId) routeTarget)
      (hresult : setRouteTarget env call.clock s actor (some nodeId) routeTarget = .ok result)
  | untarget (actor : Option String) (result : Bool × RegistryState)
      (hcall : call.operation = .removeRouteTarget actor (some nodeId))
      (hresult : removeRouteTarget call.clock s actor (some nodeId) = .ok result)
  | mode (actor : Option String) (routeMode : Option RouteMode) (result : RouteModeResult × RegistryState)
      (hcall : call.operation = .setRouteMode actor (some nodeId) routeMode)
      (hresult : setRouteMode call.clock s actor (some nodeId) routeMode = .ok result)
      (hchanged : result.1.changed = true)
  | deletion (req : DeleteRequest) (result : DeleteResult × RegistryState)
      (hcall : call.operation = .deleteNode req) (hnode : req.nodeId = some nodeId)
      (hresult : deleteNode call.clock s req = .ok result)
      (hfirst : result.1.idempotentReplay = false)
  | restoration (hrestores : Restores env s call nodeId)

/-! ### Steps -/

def NodeRow.buried (now : ℤ) (reason : String) (row : NodeRow) : NodeRow :=
  { row with
    state := .tombstoned
    tombstonedAt := some now
    tombstoneReason := some reason
    authenticated := .revoked }

def NodeRow.reached (reachable : Reachable) (row : NodeRow) : NodeRow := { row with reachable }

/-- A deletion. -/
def NodeRow.tombstone (now : ℤ) (reason : String) (row : NodeRow) : NodeRow :=
  (row.buried now reason).reached .unknown

/-- A change of the route mode. -/
def NodeRow.rerouted (routeMode : RouteMode) (row : NodeRow) : NodeRow :=
  { row with routeMode, reachable := .unknown }

/-- A change of the route target. -/
def Dossier.targeted (target : Option String) (d : Dossier) : Dossier :=
  { d with row := d.row.reached .unknown, target }

inductive Dossier.Step (env : Env) (s : RegistryState) (call : Call) (nodeId : String) :
    Dossier → Dossier → Prop
  | kept {d : Dossier} : Step env s call nodeId d d
  | heartbeat {d : Dossier} (rawBody : Option Json) (runtime : RuntimeIdentity)
      (hserves : Serves env s call nodeId (.heartbeat rawBody)) (hactive : d.row.state = .active) :
      Step env s call nodeId d (d.heartbeat (call.clock 5) runtime)
  | upload {d : Dossier} (rawBody : Option Json) (report : CompatibilityReport)
      (hserves : Serves env s call nodeId (.uploadReport rawBody)) (hactive : d.row.state = .active) :
      Step env s call nodeId d (d.upload s.db.nextReportId (call.clock 3) report)
  | delete {d : Dossier} (reason : String) (hdeletes : Deletes call nodeId)
      (hsets : SetsConfiguration env s call nodeId) (hactive : d.row.state = .active) :
      Step env s call nodeId d (d.amend (NodeRow.tombstone (call.clock 0) reason))
  | restore {d : Dossier} (hrestores : Restores env s call nodeId)
      (htombstoned : d.row.state = .tombstoned) :
      Step env s call nodeId d (d.amend (resetNode (call.clock 3)))
  | target {d : Dossier} (actor : Option String) (routeTarget : Json) (origin : String)
      (hcall : call.operation = .setRouteTarget actor (some nodeId) routeTarget)
      (hsets : SetsConfiguration env s call nodeId) (hactive : d.row.state = .active) :
      Step env s call nodeId d (d.targeted (some origin))
  | untarget {d : Dossier} (actor : Option String)
      (hcall : call.operation = .removeRouteTarget actor (some nodeId))
      (hsets : SetsConfiguration env s call nodeId) : Step env s call nodeId d (d.targeted none)
  | reroute {d : Dossier} (actor : Option String) (routeMode : RouteMode)
      (hcall : call.operation = .setRouteMode actor (some nodeId) (some routeMode))
      (hsets : SetsConfiguration env s call nodeId)
      (hactive : d.row.state = .active) (hchanged : d.row.routeMode ≠ routeMode) :
      Step env s call nodeId d (d.amend (NodeRow.rerouted routeMode))
  | abandon {d : Dossier} (hprobe : IsProbe call nodeId) (hactive : d.row.state = .active)
      (hcall : call.operation = .probeNode nodeId ∨ d.row.routeMode = .reverse) :
      Step env s call nodeId d (d.amend (NodeRow.reached .unknown))
  | reach {d : Dossier} (context : ProbeContext)
      (haccepted : ProbeAccepted s call nodeId true context) :
      Step env s call nodeId d (d.amend (NodeRow.reached .ok))
  | miss {d : Dossier} (context : ProbeContext)
      (haccepted : ProbeAccepted s call nodeId false context)
      (hfailures : routeProbeFailureThreshold ≤ s.getFailures nodeId + 1) :
      Step env s call nodeId d (d.amend (NodeRow.reached .unreachable))
  | maintain {d : Dossier} (n : ℕ) (hcall : call.operation = .maintenance) :
      Step env s call nodeId d (d.maintained env.config (call.clock 0)
        (reconcileReading call.clock s.db) (call.clock n))
  | reconcile {d : Dossier} (hcall : call.operation = .restart) (hactive : d.row.state = .active) :
      Step env s call nodeId d (d.reconciled (call.clock 0))

/-- The dossier of a node that was just minted. -/
def Dossier.New (call : Call) (d : Dossier) : Prop :=
  ∃ routeMode, d.row = { nodeId := d.row.nodeId, mintedAt := call.clock 1, authenticated := .ok, routeMode }

/-- What a call does to the dossier of a node, also where there was none before. -/
structure Dossier.Steps (env : Env) (s : RegistryState) (call : Call) (nodeId : String) (db' : Db) :
    Prop where
  known : ∀ d, s.db.dossier nodeId = some d →
    ∃ d', db'.dossier nodeId = some d' ∧ Dossier.Step env s call nodeId d d'
  new : s.db.dossier nodeId = none → ∀ d', db'.dossier nodeId = some d' → Dossier.New call d'

variable {env : Env} {s : RegistryState} {call : Call} {nodeId : String} {db' : Db}

theorem Dossier.Steps.of_eq (h : db'.dossier nodeId = s.db.dossier nodeId) :
    Dossier.Steps env s call nodeId db' where
  known d hd := ⟨d, h.trans hd, .kept⟩
  new hnone d' hd' := by
    rw [h, hnone] at hd'
    cases hd'

theorem Dossier.Steps.of_amends {moved : String} {g : Dossier → Dossier}
    (h : s.db.Amends db' moved g)
    (hstep : ∀ d, s.db.dossier moved = some d → Dossier.Step env s call moved d (g d)) :
    Dossier.Steps env s call nodeId db' := by
  by_cases hmoved : nodeId = moved
  · subst hmoved
    refine ⟨fun d hd => ⟨g d, ?_, hstep d hd⟩, fun hnone d' hd' => ?_⟩
    · rw [h.own, hd, Option.map_some]
    · rw [h.own, hnone, Option.map_none] at hd'
      cases hd'
  · exact .of_eq (h.others nodeId hmoved)

/-! ### Operations on other tables -/

/-- The rows of the nodes, their reports and their route targets are the same. -/
structure Db.SameFiles (db db' : Db) : Prop where
  nodes : db'.nodes = db.nodes
  reports : db'.reports = db.reports
  routeTargets : db'.routeTargets = db.routeTargets

theorem Db.SameFiles.refl (db : Db) : db.SameFiles db := ⟨rfl, rfl, rfl⟩

theorem Db.SameFiles.dossier {db : Db} (h : db.SameFiles db') (nodeId : String) :
    db'.dossier nodeId = db.dossier nodeId :=
  Db.dossier_congr h.nodes h.reports h.routeTargets nodeId

theorem sameFiles_ensureHubRouteKey {entropy : Entropy} {db : Db} {createdAt auditedAt : ℤ}
    {other : String} {row : HubRouteKeyRow}
    (h : db.ensureHubRouteKey env entropy createdAt auditedAt other = .ok (row, db')) :
    db.SameFiles db' := by
  unfold Db.ensureHubRouteKey at h
  split at h
  case h_1 =>
    rw [(Prod.mk.inj (Except.ok.inj h)).2]
    exact .refl _
  case h_2 =>
    obtain ⟨⟨row, inserted⟩, hprovision, h⟩ := bind_eq_ok.mp h
    obtain ⟨rfl, rfl⟩ := Prod.mk.inj (Except.ok.inj h)
    obtain ⟨keyId, -, hprovision⟩ := bind_eq_ok.mp hprovision
    obtain ⟨provisioned, hinsert, hprovision⟩ := bind_eq_ok.mp hprovision
    obtain ⟨-, rfl⟩ := Prod.mk.inj (Except.ok.inj hprovision)
    obtain ⟨-, rfl⟩ := Db.insertHubRouteKey_ok hinsert
    exact ⟨rfl, rfl, rfl⟩

/-! ### Tokens -/

theorem getNodeRow_append {db : Db} {row : NodeRow} (hnodes : db'.nodes = db.nodes ++ [row])
    (other : String) : db'.getNodeRow other =
      (db.getNodeRow other).or (if row.nodeId = other then some row else none) := by
  rw [Db.getNodeRow, hnodes, List.find?_append, Db.getNodeRow]
  by_cases hother : row.nodeId = other <;> simp [hother]

theorem dossier_append_ne {db : Db} {row : NodeRow} (hnodes : db'.nodes = db.nodes ++ [row])
    (hreports : db'.reports = db.reports) (htargets : db'.routeTargets = db.routeTargets)
    (hne : nodeId ≠ row.nodeId) : db'.dossier nodeId = db.dossier nodeId := by
  have hkept : db'.getNodeRow nodeId = db.getNodeRow nodeId := by
    rw [getNodeRow_append hnodes, if_neg (Ne.symm hne), Option.or_none]
  simp only [Db.dossier, hkept, hreports, Db.getRouteTarget, htargets]

theorem dossier_append_self {db : Db} {row : NodeRow}
    (hnew : ∀ other ∈ db.nodes, other.nodeId ≠ row.nodeId) (hnodes : db'.nodes = db.nodes ++ [row]) :
    db.dossier row.nodeId = none ∧ ∃ d, db'.dossier row.nodeId = some d ∧ d.row = row := by
  have hnone : db.getNodeRow row.nodeId = none :=
    List.find?_eq_none.mpr fun other hother => by simpa using hnew other hother
  refine ⟨Db.dossier_eq_none.mpr hnone, Db.dossier_of_getNodeRow ?_⟩
  rw [getNodeRow_append hnodes, hnone, if_pos rfl]
  rfl

theorem steps_admitNode {entropy : Entropy} {entry : TokenRow} {fields : EnrollFields}
    {actor keyId : String} {admission : Admission} {result : EnrollmentResult}
    (h : admitNode env entropy call.clock s.db entry fields actor keyId admission =
      .ok (result, db')) : Dossier.Steps env s call nodeId db' := by
  obtain ⟨db1, hnode, h⟩ := bind_eq_ok.mp h
  obtain ⟨hnew, hdb1⟩ := Db.insertNode_ok hnode
  obtain ⟨db2, hkey, h⟩ := bind_eq_ok.mp h
  obtain ⟨-, hdb2⟩ := Db.insertNodeKey_ok hkey
  obtain ⟨db3, hroute, h⟩ := bind_eq_ok.mp h
  obtain ⟨db4, hresult, h⟩ := bind_eq_ok.mp h
  obtain ⟨-, hdb4⟩ := Db.insertResult_ok hresult
  obtain ⟨-, hdb'⟩ := Prod.mk.inj (Except.ok.inj h)
  have hprovisioned : ∀ other, db3.dossier other = db2.dossier other := by
    intro other
    unfold Admission.provisionRouteKey at hroute
    split_ifs at hroute
    · obtain ⟨⟨row, _⟩, hensure, rfl⟩ := map_eq_ok.mp hroute
      exact (sameFiles_ensureHubRouteKey hensure).dossier other
    · rw [Except.ok.inj hroute]
  have hfinal : ∀ other, db'.dossier other = db1.dossier other := by
    intro other
    rw [← hdb', Db.dossier_recordAudit, hdb4]
    refine Eq.trans rfl ((hprovisioned other).trans ?_)
    rw [hdb2]
    rfl
  set admitted : NodeRow :=
    { nodeId := "node_" ++ entropy.randomHex 0 16
      mintedAt := call.clock 1
      authenticated := .ok
      routeMode := admission.routeMode }
  have hnew : ∀ other ∈ s.db.nodes, other.nodeId ≠ admitted.nodeId := hnew
  have hnodes : db1.nodes = s.db.nodes ++ [admitted] := congrArg Db.nodes hdb1
  have hreports : db1.reports = s.db.reports := by rw [hdb1]; rfl
  have htargets : db1.routeTargets = s.db.routeTargets := by rw [hdb1]; rfl
  by_cases hown : nodeId = admitted.nodeId
  · obtain ⟨hnone, d, hd, hrow⟩ := dossier_append_self hnew hnodes
    rw [← hown] at hnone hd
    constructor
    · intro d hd
      rw [hnone] at hd
      cases hd
    · intro _ d' hd'
      rw [hfinal, hd] at hd'
      obtain rfl := Option.some.inj hd'
      exact ⟨admission.routeMode, by rw [hrow]⟩
  · exact .of_eq ((hfinal nodeId).trans (dossier_append_ne hnodes hreports htargets hown))

theorem amends_restoreNode {entropy : Entropy} {clock : Clock} {db : Db} {entry : TokenRow}
    {fields : ReenrollFields} {actor newKeyId : String} {historical : NodeKeyRow}
    {result : EnrollmentResult}
    (h : restoreNode env entropy clock db entry fields actor historical newKeyId =
      .ok (result, db')) :
    db.Amends db' fields.nodeId (Dossier.amend (resetNode (clock 3))) := by
  obtain ⟨db1, hnonce, h⟩ := bind_eq_ok.mp h
  obtain ⟨-, hdb1⟩ := reserveNonceRow_ok hnonce
  obtain ⟨db2, hresult, h⟩ := bind_eq_ok.mp h
  obtain ⟨-, hdb2⟩ := Db.insertResult_ok hresult
  obtain ⟨db3, hkey, h⟩ := bind_eq_ok.mp h
  obtain ⟨-, hdb3⟩ := Db.insertNodeKey_ok hkey
  obtain ⟨⟨row, db4⟩, hensure, h⟩ := bind_eq_ok.mp h
  obtain ⟨-, hdb'⟩ := Prod.mk.inj (Except.ok.inj h)
  have hbefore : ∀ other, db3.dossier other = db.dossier other := by
    intro other
    rw [hdb3, hdb2, hdb1]
    rfl
  refine Db.Amends.before (Db.Amends.after (Db.amends_updateNode db3 fields.nodeId (by intro row; rfl))
    hbefore) fun other => ?_
  rw [← hdb', Db.dossier_recordEvent, Db.dossier_recordAudit]
  exact (sameFiles_ensureHubRouteKey hensure).dossier other

/-- An accepted enrollment leaves the database, or mints a node with the public key. -/
theorem enroll_admits {entropy : Entropy} {clock : Clock} {db : Db} {req : EnrollRequest}
    {result : EnrollmentResult} (h : enroll env entropy clock db req = .ok (result, db')) :
    db' = db ∨ ∃ entry keyId, db.getToken (tokenDigestOf env (req.token.getD "")) = some entry ∧
      entry.purpose = .enroll ∧ entry.consumedAt = none ∧ clock 0 < entry.expiresAt ∧
      deriveKeyId env.crypto req.fields.publicKey = .ok keyId ∧
      admitNode env entropy clock db entry req.fields req.actor keyId enrollAdmission =
        .ok (result, db') := by
  obtain ⟨fields, hfields, h⟩ := bind_eq_ok.mp h
  obtain ⟨rfl, -⟩ := checkEnrollFields_eq_ok.mp hfields
  split at h
  case h_1 => cases h
  case h_2 entry hentry =>
    dsimp only at h
    split_ifs at h with hpurpose hconsumed hexpired
    · cases h
    · obtain ⟨_, -, h⟩ := bind_eq_ok.mp h
      exact .inl (Prod.mk.inj (Except.ok.inj h)).2.symm
    · cases h
    · obtain ⟨keyId, hkeyId, h⟩ := bind_eq_ok.mp h
      split at h
      case h_1 => exact .inl (Prod.mk.inj (Except.ok.inj h)).2.symm
      case h_2 =>
        exact .inr ⟨entry, keyId, hentry, not_not.mp hpurpose,
          Option.not_isSome_iff_eq_none.mp hconsumed, not_le.mp hexpired,
          orThrow_eq_ok.mp hkeyId, h⟩

/-- An accepted pairing leaves the database, or mints a node with a public key that no active node
holds. -/
theorem pair_admits {entropy : Entropy} {clock : Clock} {db : Db} {req : EnrollRequest}
    {result : EnrollmentResult} (h : pair env entropy clock db req = .ok (result, db')) :
    db' = db ∨ ∃ entry keyId hubBaseUrl, deriveKeyId env.crypto req.fields.publicKey = .ok keyId ∧
      hasActiveIdentity db keyId req.fields.publicKey = false ∧
      admitNode env entropy clock db entry req.fields req.actor keyId (pairAdmission hubBaseUrl) =
        .ok (result, db') := by
  obtain ⟨fields, hfields, h⟩ := bind_eq_ok.mp h
  obtain ⟨rfl, -⟩ := checkEnrollFields_eq_ok.mp hfields
  split at h
  case h_1 => cases h
  case h_2 hubBaseUrl _ =>
    split at h
    case h_1 => cases h
    case h_2 entry hentry =>
      dsimp only at h
      split_ifs at h
      · cases h
      · cases h
      · obtain ⟨_, -, h⟩ := bind_eq_ok.mp h
        exact .inl (Prod.mk.inj (Except.ok.inj h)).2.symm
      · cases h
      · split at h
        case h_1 => exact .inl (Prod.mk.inj (Except.ok.inj h)).2.symm
        case h_2 =>
          obtain ⟨keyId, hkeyId, h⟩ := bind_eq_ok.mp h
          split_ifs at h with hidentity
          · cases h
          · exact .inr ⟨entry, keyId, hubBaseUrl, orThrow_eq_ok.mp hkeyId,
              Bool.of_not_eq_true hidentity, h⟩

/-- A re-enrollment leaves the database as it was, or restores its node. -/
theorem reenroll_restores {entropy : Entropy} {clock : Clock} {db : Db} {req : ReenrollRequest}
    {result : EnrollmentResult} (h : reenroll env entropy clock db req = .ok (result, db')) :
    db' = db ∧ ((db.getToken (tokenDigestOf env (req.token.getD ""))).any
        (fun entry => entry.consumedAt = none) = true →
          ∃ historical, checkPossession env db req req.fields = .ok historical) ∨ ∃ entry historical newKeyId, isNodeId req.fields.nodeId = true ∧
      db.getToken (tokenDigestOf env (req.token.getD "")) = some entry ∧ entry.consumedAt = none ∧
      checkPossession env db req req.fields = .ok historical ∧
      deriveKeyId env.crypto req.fields.newPublicKey = .ok newKeyId ∧
      restoreNode env entropy clock db entry req.fields req.actor historical newKeyId =
        .ok (result, db') := by
  obtain ⟨fields, hfields, h⟩ := bind_eq_ok.mp h
  obtain ⟨rfl, -, -, hnode, -⟩ := checkReenrollFields_ok hfields
  split at h
  case h_1 => cases h
  case h_2 entry hentry =>
    dsimp only at h
    split_ifs at h with _ _ hconsumed
    · cases h
    · cases h
    · obtain ⟨_, -, h⟩ := bind_eq_ok.mp h
      refine .inl ⟨(Prod.mk.inj (Except.ok.inj h)).2.symm, fun hunconsumed => ?_⟩
      rw [show db.getToken (tokenDigestOf env (req.token.getD "")) = some entry from hentry] at hunconsumed
      simp only [Option.any_some, decide_eq_true_eq] at hunconsumed
      simp [hunconsumed] at hconsumed
    · cases h
    · obtain ⟨historical, hpossession, h⟩ := bind_eq_ok.mp h
      split at h
      case h_1 =>
        exact .inl ⟨(Prod.mk.inj (Except.ok.inj h)).2.symm, fun _ => ⟨historical, hpossession⟩⟩
      case h_2 =>
        obtain ⟨newKeyId, hkey, h⟩ := bind_eq_ok.mp h
        exact .inr ⟨entry, historical, newKeyId, hnode, hentry,
          Option.not_isSome_iff_eq_none.mp hconsumed, hpossession, orThrow_eq_ok.mp hkey, h⟩

/-- The id of a request that names a node is given. -/
theorem ReenrollRequest.nodeId_eq_fields (req : ReenrollRequest)
    (h : isNodeId req.fields.nodeId = true) : req.nodeId = some req.fields.nodeId := by
  cases hreq : req.nodeId with
  | some id => simp [ReenrollRequest.fields, hreq]
  | none =>
    have hempty : req.fields.nodeId = "" := by simp [ReenrollRequest.fields, hreq]
    rw [hempty] at h
    exact absurd h (by decide)

theorem tombstoned_of_checkPossession {db : Db} {req : ReenrollRequest} {fields : ReenrollFields}
    {key : NodeKeyRow} (h : checkPossession env db req fields = .ok key) :
    ∃ node, db.getNodeRow fields.nodeId = some node ∧ node.state = .tombstoned := by
  unfold checkPossession at h
  split at h
  case h_1 => cases h
  case h_2 node hnode =>
    split_ifs at h with hstate
    · cases h
    · exact ⟨node, hnode, not_not.mp hstate⟩

theorem steps_reenroll {req : ReenrollRequest} {result : EnrollmentResult}
    (hcall : call.operation = .useToken (.reenroll req))
    (h : reenroll env call.entropy call.clock s.db req = .ok (result, db')) :
    Dossier.Steps env s call nodeId db' := by
  rcases reenroll_restores h with ⟨rfl, -⟩ | ⟨entry, historical, newKeyId, hnodeId, hentry, hconsumed,
    hpossession, -, hrestore⟩
  · exact .of_eq rfl
  · refine .of_amends (amends_restoreNode hrestore) fun d hd => .restore ?_ ?_
    · exact ⟨req, result, db', hcall, req.nodeId_eq_fields hnodeId, h, by simp [hentry, hconsumed]⟩
    · obtain ⟨node, hnode, hstate⟩ := tombstoned_of_checkPossession hpossession
      rw [Db.row_of_dossier hd hnode]
      exact hstate

theorem steps_submit {req : TokenRequest} {result : EnrollmentResult}
    (hcall : call.operation = .useToken req)
    (h : req.submit env call.entropy call.clock s.db = .ok (result, db')) :
    Dossier.Steps env s call nodeId db' := by
  cases req with
  | enroll req =>
    rcases enroll_admits h with rfl | ⟨entry, keyId, -, -, -, -, -, hadmit⟩
    · exact .of_eq rfl
    · exact steps_admitNode hadmit
  | pair req =>
    rcases pair_admits h with rfl | ⟨entry, keyId, hubBaseUrl, -, -, hadmit⟩
    · exact .of_eq rfl
    · exact steps_admitNode hadmit
  | reenroll req => exact steps_reenroll hcall h

/-! ### Machine requests -/

theorem sameFiles_recordAcknowledgement (clock : Clock) (db : Db) (other : String)
    (ids : Option Json) : db.SameFiles (recordAcknowledgement env clock db other ids) := by
  unfold recordAcknowledgement
  split
  · exact .refl _
  · unfold Db.acknowledgeHubRouteKeys
    split
    · exact .refl _
    · split_ifs <;> exact ⟨rfl, rfl, rfl⟩
    · split
      · split_ifs <;> exact ⟨rfl, rfl, rfl⟩
      · exact .refl _

/-- The runtime identity that the body of a heartbeat names. -/
def namedRuntime (rawBody : Option Json) : Attempt RuntimeIdentity := do
  let body ← parseJsonBody rawBody
  requireIdentityJson body

theorem amends_heartbeat {entropy : Entropy} {clock : Clock} {db : Db} {node : NodeRow}
    {rawBody : Option Json} {response : HeartbeatResponse}
    (hnode : db.getNodeRow node.nodeId = some node)
    (h : heartbeatAuthenticated env entropy clock db node rawBody = .ok (response, db')) :
    ∃ runtime, namedRuntime rawBody = .ok runtime ∧
      db.Amends db' node.nodeId (Dossier.heartbeat (clock 5) runtime) := by
  obtain ⟨body, hbody, h⟩ := bind_eq_ok.mp h
  obtain ⟨runtime, hruntime, h⟩ := bind_eq_ok.mp h
  obtain ⟨⟨row, ensured⟩, hensure, h⟩ := bind_eq_ok.mp h
  obtain ⟨-, rfl⟩ := Prod.mk.inj (Except.ok.inj h)
  refine ⟨runtime, bind_eq_ok.mpr ⟨body, hbody, hruntime⟩,
    (amends_recordHeartbeat env clock db node runtime hnode).before fun other => ?_⟩
  exact ((sameFiles_ensureHubRouteKey hensure).dossier other).trans
    ((sameFiles_recordAcknowledgement ..).dossier other)

theorem steps_serveMachine {req : MachineRequest} {business : Business}
    (hcall : call.operation = .machine req business) :
    Dossier.Steps env s call nodeId
      (serveMachine env call.entropy call.clock s.db req business) := by
  unfold serveMachine
  split
  case h_1 => exact .of_eq rfl
  case h_2 node key db1 hauth =>
    obtain ⟨fields, -, hchecked, -, hdb1⟩ := authenticateMachine_ok hauth
    have hnodeId := Db.nodeId_of_getNodeRow hchecked.node_eq
    have hreserved : ∀ other, db1.dossier other = s.db.dossier other := by
      intro other
      rw [hdb1]
      rfl
    have hnode : db1.getNodeRow node.nodeId = some node := by
      rw [hdb1, hnodeId]
      exact hchecked.node_eq
    have hactive : ∀ d, s.db.dossier node.nodeId = some d → d.row.state = .active := by
      intro d hd
      rw [← hreserved] at hd
      rw [Db.row_of_dossier hd hnode]
      exact hchecked.active
    cases hperform : business.perform env call.entropy call.clock db1 node key with
    | error fault => exact .of_eq (hreserved nodeId)
    | ok db' =>
      have hserves : Serves env s call node.nodeId business :=
        ⟨req, node, key, db1, db', hcall, hauth, rfl, hperform⟩
      cases business with
      | nothing =>
        obtain rfl := Except.ok.inj hperform
        exact .of_eq (hreserved nodeId)
      | heartbeat rawBody =>
        obtain ⟨⟨response, _⟩, hbeat, rfl⟩ := map_eq_ok.mp hperform
        obtain ⟨runtime, -, hamends⟩ := amends_heartbeat hnode hbeat
        exact .of_amends (hamends.after hreserved) fun d hd =>
          .heartbeat rawBody runtime hserves (hactive d hd)
      | uploadReport rawBody =>
        obtain ⟨⟨response, _⟩, hupload, rfl⟩ := map_eq_ok.mp hperform
        obtain ⟨input, report, -, -, hamends⟩ := amends_uploadReport hnode hupload
        have hid : db1.nextReportId = s.db.nextReportId := by rw [hdb1]
        rw [hid] at hamends
        exact .of_amends (hamends.after hreserved) fun d hd =>
          .upload rawBody report hserves (hactive d hd)
      | rotateCredential rawBody =>
        obtain ⟨⟨response, _⟩, hrotate, rfl⟩ := map_eq_ok.mp hperform
        refine .of_eq (Eq.trans ?_ (hreserved nodeId))
        obtain ⟨body, -, hrotate⟩ := bind_eq_ok.mp hrotate
        obtain ⟨newPublicKey, -, hrotate⟩ := bind_eq_ok.mp hrotate
        obtain ⟨newKeyId, -, hrotate⟩ := bind_eq_ok.mp hrotate
        split_ifs at hrotate
        · cases hrotate
        · obtain ⟨inserted, hinsert, hrotate⟩ := bind_eq_ok.mp hrotate
          obtain ⟨-, rfl⟩ := Prod.mk.inj (Except.ok.inj hrotate)
          obtain ⟨-, rfl⟩ := Db.insertNodeKey_ok hinsert
          rfl

theorem amends_setReachable (db : Db) (now : ℤ) (moved : String) (reachable : Reachable)
    (source : String) :
    db.Amends (db.setReachable now moved reachable source) moved
      (Dossier.amend (NodeRow.reached reachable)) :=
  (Db.amends_updateNode _ moved (by intro row; rfl)).after fun other =>
    Db.dossier_transitionDimension ..

theorem amends_tombstoneNode {clock : Clock} {db : Db} {node : NodeRow}
    {actor requestId reason : String} (hnode : db.getNodeRow node.nodeId = some node) :
    db.Amends (tombstoneNode clock db node actor requestId reason) node.nodeId
      (Dossier.amend (NodeRow.tombstone (clock 0) reason)) := by
  obtain ⟨d, hd, rfl⟩ := Db.dossier_of_getNodeRow hnode
  have hstate := Db.amends_updateNode db d.row.nodeId (f := NodeRow.buried (clock 0) reason)
    (by intro row; rfl)
  refine Db.Amends.before (Db.Amends.before ?_ fun other => Db.dossier_recordAudit ..)
    fun other => Db.dossier_recordEvent ..
  split_ifs with hreachable
  · refine Db.Amends.congr (Db.Amends.trans (g := Dossier.amend (NodeRow.buried (clock 0) reason)) ?_
      (amends_setReachable _ (clock 1) d.row.nodeId .unknown "node-delete")) fun _ _ => rfl
    exact hstate.before fun other => rfl
  · refine Db.Amends.of_dossier hd (hstate.before fun other => rfl) ?_
    have hunknown : d.row.reachable = .unknown := not_not.mp hreachable
    rw [Dossier.amend, Dossier.amend, NodeRow.tombstone, NodeRow.reached, ← hunknown]
    rfl

theorem active_of_not_tombstoned {state : NodeState} (h : state ≠ .tombstoned) : state = .active := by
  cases state with
  | active => rfl
  | tombstoned => exact absurd rfl h

/-- An accepted deletion answers for an earlier one, or tombstones its node. -/
theorem deleteNode_ok {clock : Clock} {req : DeleteRequest} {result : DeleteResult × RegistryState}
    (h : deleteNode clock s req = .ok result) :
    result.1.idempotentReplay = true ∧ result.2 = s ∨
      ∃ node reason requestId, req.nodeId = some node.nodeId ∧
        s.db.getNodeRow node.nodeId = some node ∧ node.state = .active ∧
        result.1.idempotentReplay = false ∧ result.2 = { s.forgetFailures node.nodeId with
          db := tombstoneNode clock s.db node req.actor requestId reason } := by
  obtain ⟨moved, hmoved, h⟩ := bind_eq_ok.mp h
  obtain ⟨requestId, -, h⟩ := bind_eq_ok.mp h
  obtain ⟨reason, -, h⟩ := bind_eq_ok.mp h
  split_ifs at h
  · cases h
  · split at h
    case h_1 => cases h
    case h_2 node hnode =>
      obtain rfl := Db.nodeId_of_getNodeRow hnode
      split at h
      case h_1 =>
        split_ifs at h
        · obtain rfl := Except.ok.inj h
          exact .inl ⟨rfl, rfl⟩
        · cases h
      case h_2 =>
        split_ifs at h with hstate
        · cases h
        · obtain rfl := Except.ok.inj h
          exact .inr ⟨node, reason, requestId, (requireString_eq_ok.mp hmoved).1, hnode,
            active_of_not_tombstoned hstate, rfl, rfl⟩

theorem steps_deleteNode {req : DeleteRequest} (hcall : call.operation = .deleteNode req) :
    Dossier.Steps env s call nodeId (commitState s (deleteNode call.clock s req)).db := by
  cases h : deleteNode call.clock s req with
  | error fault => exact .of_eq rfl
  | ok result =>
    rcases deleteNode_ok h with ⟨-, hsame⟩ | ⟨node, reason, requestId, hreq, hnode, hactive, hfirst, hdb⟩
    · exact .of_eq (congrArg (fun s => s.db.dossier nodeId) hsame)
    · rw [commitState, hdb]
      refine .of_amends (amends_tombstoneNode hnode) fun d hd =>
        .delete reason ⟨req, hcall, hreq⟩ (.deletion req result hcall hreq h hfirst) ?_
      rw [Db.row_of_dossier hd hnode]
      exact hactive

/-- A change of the route targets of one node. -/
theorem amends_routeTargets {db : Db} {moved : String} {targets : List RouteTargetRow}
    {target : Option String}
    (hown : (targets.find? fun row => row.nodeId = moved).map (·.routeTargetOrigin) = target)
    (hothers : ∀ other, other ≠ moved → (targets.find? fun row => row.nodeId = other) =
      db.getRouteTarget other) :
    db.Amends { db with routeTargets := targets } moved fun d => { d with target } := by
  constructor
  · simp only [Db.dossier, Option.map_map]
    refine congrArg₂ Option.map (funext fun row => ?_) rfl
    simp only [Function.comp, Db.getRouteTarget, hown]
  · intro other hother
    simp only [Db.dossier]
    refine congrArg₂ Option.map (funext fun row => ?_) rfl
    simp only [Db.getRouteTarget, hothers other hother]

theorem amends_targeted {db db1 : Db} {moved : String} {target : Option String}
    (h : db.Amends db1 moved fun d => { d with target }) (now : ℤ) (source : String) :
    db.Amends (db1.setReachable now moved .unknown source) moved fun d => d.targeted target :=
  (h.trans (amends_setReachable db1 now moved .unknown source)).congr fun _ _ => rfl

/-- An accepted change of a route target. -/
theorem setRouteTarget_ok {clock : Clock} {actor moved : Option String} {routeTarget : Json}
    {result : RouteTargetRow × RegistryState}
    (h : setRouteTarget env clock s actor moved routeTarget = .ok result) :
    ∃ node origin, moved = some node.nodeId ∧ s.db.getNodeRow node.nodeId = some node ∧
      node.state = .active ∧ s.db.Amends result.2.db node.nodeId (Dossier.targeted (some origin)) ∧
      result.2.routeProbeFailures = (s.forgetFailures node.nodeId).routeProbeFailures := by
  obtain ⟨id, hid, h⟩ := bind_eq_ok.mp h
  obtain ⟨actorText, -, h⟩ := bind_eq_ok.mp h
  split at h
  case h_1 => cases h
  case h_2 node hnode =>
    obtain rfl := Db.nodeId_of_getNodeRow hnode
    split_ifs at h with hstate
    · cases h
    · split at h
      case h_1 => cases h
      case h_2 origin _ =>
        obtain rfl := Except.ok.inj h
        refine ⟨node, origin, (requireString_eq_ok.mp hid).1, hnode,
          active_of_not_tombstoned hstate, ?_, rfl⟩
        cases htarget : s.db.getRouteTarget node.nodeId with
        | none =>
          have hnone := List.find?_eq_none.mp htarget
          refine amends_targeted ?_ (clock 2) "route-target-change"
          refine Db.Amends.before (amends_routeTargets ?_ ?_) fun other => Db.dossier_recordAudit ..
          · rw [List.find?_append, show (s.db.routeTargets.find? fun row => row.nodeId = node.nodeId) =
              none from htarget]
            simp
          · intro other hother
            rw [List.find?_append]
            simp [Db.getRouteTarget, Ne.symm hother]
        | some existing =>
          have hf : ∀ row : RouteTargetRow,
              ({ row with routeTargetOrigin := origin, updatedAt := clock 0 } :
                RouteTargetRow).nodeId = row.nodeId := fun _ => rfl
          refine amends_targeted ?_ (clock 2) "route-target-change"
          refine Db.Amends.before (amends_routeTargets ?_ ?_) fun other => Db.dossier_recordAudit ..
          · rw [find?_updateWhere hf, show (s.db.routeTargets.find? fun row =>
              row.nodeId = node.nodeId) = some existing from htarget]
            simp
          · intro other hother
            rw [find?_updateWhere hf]
            simp [hother, Db.getRouteTarget]

theorem steps_setRouteTarget {actor moved : Option String} {routeTarget : Json}
    (hcall : call.operation = .setRouteTarget actor moved routeTarget) :
    Dossier.Steps env s call nodeId
      (commitState s (setRouteTarget env call.clock s actor moved routeTarget)).db := by
  cases h : setRouteTarget env call.clock s actor moved routeTarget with
  | error fault => exact .of_eq rfl
  | ok result =>
    obtain ⟨node, origin, hmoved, hnode, hactive, hamends, -⟩ := setRouteTarget_ok h
    rw [hmoved] at hcall h
    refine .of_amends hamends fun d hd =>
      .target actor routeTarget origin hcall (.target actor routeTarget result hcall h) ?_
    rw [Db.row_of_dossier hd hnode]
    exact hactive

/-- An accepted removal of a route target. -/
theorem removeRouteTarget_ok {clock : Clock} {actor moved : Option String}
    {result : Bool × RegistryState} (h : removeRouteTarget clock s actor moved = .ok result) :
    ∃ id, moved = some id ∧ s.db.Amends result.2.db id (Dossier.targeted none) ∧
      result.2.routeProbeFailures = (s.forgetFailures id).routeProbeFailures := by
  obtain ⟨id, hid, h⟩ := bind_eq_ok.mp h
  obtain ⟨actorText, -, h⟩ := bind_eq_ok.mp h
  split at h
  case h_1 => cases h
  case h_2 node hnode =>
    obtain rfl := Except.ok.inj h
    refine ⟨id, (requireString_eq_ok.mp hid).1, ?_, rfl⟩
    cases htarget : s.db.getRouteTarget id with
    | none =>
      refine amends_targeted ?_ (clock 1) "route-target-remove"
      refine amends_routeTargets ?_ fun _ _ => rfl
      exact (congrArg (Option.map _) htarget).trans rfl
    | some target =>
      refine amends_targeted ?_ (clock 1) "route-target-remove"
      refine Db.Amends.before (amends_routeTargets ?_ ?_) fun other => Db.dossier_recordAudit ..
      · rw [deleteWhere, List.find?_filter]
        simp
      · intro other hother
        rw [deleteWhere, List.find?_filter, Db.getRouteTarget]
        refine congrArg (fun p => s.db.routeTargets.find? p) (funext fun row => ?_)
        by_cases hrow : row.nodeId = other
        · simp [hrow, hother]
        · simp [hrow]

theorem steps_removeRouteTarget {actor moved : Option String}
    (hcall : call.operation = .removeRouteTarget actor moved) :
    Dossier.Steps env s call nodeId
      (commitState s (removeRouteTarget call.clock s actor moved)).db := by
  cases h : removeRouteTarget call.clock s actor moved with
  | error fault => exact .of_eq rfl
  | ok result =>
    obtain ⟨id, hmoved, hamends, -⟩ := removeRouteTarget_ok h
    rw [hmoved] at hcall h
    exact .of_amends hamends fun d _ => .untarget actor hcall (.untarget actor result hcall h)

/-- An accepted change of a route mode finds the mode as it is, or sets it. -/
theorem setRouteMode_ok {clock : Clock} {actor moved : Option String} {routeMode : Option RouteMode}
    {result : RouteModeResult × RegistryState}
    (h : setRouteMode clock s actor moved routeMode = .ok result) :
    result.1.changed = false ∧ result.2 = s ∨
      ∃ node mode, moved = some node.nodeId ∧ routeMode = some mode ∧
        s.db.getNodeRow node.nodeId = some node ∧ node.state = .active ∧ node.routeMode ≠ mode ∧
        result.1.changed = true ∧
        s.db.Amends result.2.db node.nodeId (Dossier.amend (NodeRow.rerouted mode)) ∧
        result.2.routeProbeFailures = (s.forgetFailures node.nodeId).routeProbeFailures := by
  obtain ⟨actorText, -, h⟩ := bind_eq_ok.mp h
  obtain ⟨id, hid, h⟩ := bind_eq_ok.mp h
  cases routeMode with
  | none => cases h
  | some mode =>
    dsimp only at h
    split at h
    case h_1 => cases h
    case h_2 node hnode =>
      obtain rfl := Db.nodeId_of_getNodeRow hnode
      split_ifs at h with hstate hsame hreachable
      · cases h
      · obtain rfl := Except.ok.inj h
        exact .inl ⟨rfl, rfl⟩
      all_goals
        obtain rfl := Except.ok.inj h
        refine .inr ⟨node, mode, (requireString_eq_ok.mp hid).1, rfl, hnode,
          active_of_not_tombstoned hstate, hsame, rfl, ?_, rfl⟩
        refine Db.Amends.before (Db.Amends.before (Db.Amends.after
          (Db.amends_updateNode _ node.nodeId (by intro row; rfl)) fun other => ?_)
            fun other => Db.dossier_recordAudit ..) fun other => Db.dossier_recordEvent ..
      · exact Db.dossier_transitionDimension ..
      · rfl

theorem steps_setRouteMode {actor moved : Option String} {routeMode : Option RouteMode}
    (hcall : call.operation = .setRouteMode actor moved routeMode) :
    Dossier.Steps env s call nodeId
      (commitState s (setRouteMode call.clock s actor moved routeMode)).db := by
  cases h : setRouteMode call.clock s actor moved routeMode with
  | error fault => exact .of_eq rfl
  | ok result =>
    rcases setRouteMode_ok h with ⟨-, hsame⟩ |
      ⟨node, mode, hmoved, hmode, hnode, hactive, hother, hchanged, hamends, -⟩
    · exact .of_eq (congrArg (fun s => s.db.dossier nodeId) hsame)
    · rw [hmoved, hmode] at hcall h
      refine .of_amends hamends fun d hd =>
        .reroute actor mode hcall (.mode actor (some mode) result hcall h hchanged) ?_ ?_
      · rw [Db.row_of_dossier hd hnode]
        exact hactive
      · rw [Db.row_of_dossier hd hnode]
        exact hother

/-! ### Probes -/

/-- An amendment that is made only where it changes something. -/
theorem amends_unless {db : Db} {moved : String} {node : NodeRow} {now : ℤ} {reachable : Reachable}
    {source : String} (hnode : db.getNodeRow moved = some node) :
    db.Amends (if node.reachable ≠ reachable then db.setReachable now moved reachable source else db)
      moved (Dossier.amend (NodeRow.reached reachable)) := by
  split_ifs with hchanged
  · exact amends_setReachable ..
  · refine (Db.amends_of_eq fun _ => rfl).congr fun d hd => ?_
    obtain rfl := Db.row_of_dossier hd hnode
    rw [Dossier.amend, NodeRow.reached, ← not_not.mp hchanged]
    rfl

theorem amends_abandonProbe {now : ℤ} {node : NodeRow} {source : String}
    (hnode : s.db.getNodeRow node.nodeId = some node) :
    s.db.Amends (abandonProbe now s node source).db node.nodeId
      (Dossier.amend (NodeRow.reached .unknown)) := by
  have hdb : (abandonProbe now s node source).db =
      if node.reachable ≠ .unknown then s.db.setReachable now node.nodeId .unknown source
      else s.db := by
    unfold abandonProbe
    dsimp only
    split_ifs <;> rfl
  rw [hdb]
  exact amends_unless hnode

theorem steps_probeNode {probed : String} (hcall : call.operation = .probeNode probed) :
    Dossier.Steps env s call nodeId (probeNode call.clock s probed).2.db := by
  unfold probeNode
  split
  case h_1 => exact .of_eq rfl
  case h_2 node hnode =>
    obtain rfl := Db.nodeId_of_getNodeRow hnode
    have habandon : ∀ source, node.state = .active → Dossier.Steps env s call nodeId
        (abandonProbe (call.clock 0) s node source).db := by
      intro source hactive
      refine .of_amends (amends_abandonProbe hnode) fun d hd => .abandon (.inl hcall) ?_ (.inl hcall)
      rw [Db.row_of_dossier hd hnode]
      exact hactive
    split_ifs with hstate hreverse
    · exact .of_eq rfl
    · exact habandon _ (not_not.mp hstate)
    · split
      · exact habandon _ (not_not.mp hstate)
      · split
        · exact habandon _ (not_not.mp hstate)
        · exact .of_eq rfl

theorem steps_recordProbeResult {probed : String} {answer : ProbeAnswer} {context : ProbeContext}
    (hcall : call.operation = .recordProbeResult probed answer context) :
    Dossier.Steps env s call nodeId
      (recordProbeResult call.clock s probed (probeVerdict probed answer).1 context).2.db := by
  unfold recordProbeResult
  split
  case h_1 => exact .of_eq rfl
  case h_2 node hnode =>
    obtain rfl := Db.nodeId_of_getNodeRow hnode
    dsimp only
    split_ifs with hstate hreverse hcontext hsuccess hreached hfailures hunreachable
    · exact .of_eq rfl
    · refine .of_amends (amends_abandonProbe hnode) fun d hd =>
        .abandon (.inr ⟨answer, context, hcall⟩) ?_ (.inr ?_)
      · rw [Db.row_of_dossier hd hnode]
        exact not_not.mp hstate
      · rw [Db.row_of_dossier hd hnode]
        exact hreverse
    · exact .of_eq rfl
    all_goals
      obtain ⟨htarget, hkey⟩ := not_or.mp hcontext
      have haccepted : ∀ success, (probeVerdict node.nodeId answer).1 = success →
          ProbeAccepted s call node.nodeId success context := fun success hverdict =>
        ⟨answer, hcall, hverdict, by simp [hnode, not_not.mp hstate, hreverse], not_not.mp htarget,
          not_not.mp hkey⟩
    · exact .of_amends (amends_setReachable ..) fun d hd => .reach context (haccepted true hsuccess)
    · exact .of_eq rfl
    · exact .of_amends (amends_setReachable ..) fun d hd =>
        .miss context (haccepted false (by simpa using hsuccess)) hfailures
    · exact .of_eq rfl
    · exact .of_eq rfl

/-! ### All steps -/

theorem steps_commit {attempt : Attempt Db}
    (h : ∀ db', attempt = .ok db' → Dossier.Steps env s call nodeId db') :
    Dossier.Steps env s call nodeId (commit s.db attempt) := by
  cases attempt with
  | error fault => exact .of_eq rfl
  | ok db' => exact h db' rfl

theorem sameFiles_mintEnrollmentToken {entropy : Entropy} {clock : Clock} {db : Db} {req : MintRequest}
    {minted : MintedToken}
    (h : mintEnrollmentToken env entropy clock db req = .ok (minted, db')) :
    db.SameFiles db' := by
  unfold mintEnrollmentToken at h
  split_ifs at h
  · cases h
  · obtain ⟨_, -, h⟩ := bind_eq_ok.mp h
    obtain ⟨inserted, hinsert, h⟩ := bind_eq_ok.mp h
    obtain ⟨-, rfl⟩ := Prod.mk.inj (Except.ok.inj h)
    obtain ⟨-, rfl⟩ := Db.insertToken_ok hinsert
    exact ⟨rfl, rfl, rfl⟩

theorem sameFiles_rotateHubRouteKey {entropy : Entropy} {clock : Clock} {db : Db}
    {actor moved : Option String} {result : Db.RotateHubRouteKeyResult}
    (h : db.rotateHubRouteKey env entropy clock actor moved = .ok (result, db')) :
    db.SameFiles db' := by
  obtain ⟨_, -, h⟩ := bind_eq_ok.mp h
  obtain ⟨_, -, h⟩ := bind_eq_ok.mp h
  split at h
  case h_1 => cases h
  case h_2 =>
    split_ifs at h
    · cases h
    · dsimp only at h
      split at h
      case h_1 => cases h
      case h_2 =>
        split_ifs at h
        · cases h
        · obtain ⟨⟨row, inserted⟩, hprovision, h⟩ := bind_eq_ok.mp h
          obtain ⟨-, rfl⟩ := Prod.mk.inj (Except.ok.inj h)
          obtain ⟨keyId, -, hprovision⟩ := bind_eq_ok.mp hprovision
          obtain ⟨provisioned, hinsert, hprovision⟩ := bind_eq_ok.mp hprovision
          obtain ⟨-, rfl⟩ := Prod.mk.inj (Except.ok.inj hprovision)
          obtain ⟨-, rfl⟩ := Db.insertHubRouteKey_ok hinsert
          exact ⟨rfl, rfl, rfl⟩

theorem sameFiles_bootstrapSession {entropy : Entropy} {clock : Clock} {db : Db}
    {principal : String} {row : SessionRow}
    (h : bootstrapSession entropy clock db principal = .ok (row, db')) : db.SameFiles db' := by
  unfold bootstrapSession at h
  dsimp only at h
  split at h
  case h_1 => cases h
  case h_2 =>
    obtain ⟨-, rfl⟩ := Prod.mk.inj (Except.ok.inj h)
    exact ⟨rfl, rfl, rfl⟩

theorem sameFiles_validateSession (clock : Clock) (db : Db) (sessionId : String) :
    db.SameFiles (validateSession clock db sessionId).2 := by
  unfold validateSession
  split
  · exact .refl _
  · split_ifs <;> exact ⟨rfl, rfl, rfl⟩

theorem sameFiles_endSession (clock : Clock) (db : Db) (sessionId actor : String) :
    db.SameFiles (endSession clock db sessionId actor).2 := by
  unfold endSession
  split <;> exact ⟨rfl, rfl, rfl⟩

theorem steps_maintenance (hcall : call.operation = .maintenance)
    (hnodup : (s.db.nodes.map NodeRow.nodeId).Nodup) :
    Dossier.Steps env s call nodeId (step env s call).db := by
  rw [step, hcall]
  dsimp only
  obtain ⟨n, hmaintained⟩ := dossier_maintenance env.config call.clock s.db hnodup nodeId
  constructor
  · intro d hd
    refine ⟨_, ?_, .maintain n hcall⟩
    rw [hmaintained, hd, Option.map_some]
  · intro hnone d' hd'
    rw [hmaintained, hnone, Option.map_none] at hd'
    cases hd'

theorem steps_restart (hcall : call.operation = .restart)
    (hnodup : (s.db.nodes.map NodeRow.nodeId).Nodup) :
    Dossier.Steps env s call nodeId (step env s call).db := by
  rw [step, hcall]
  dsimp only
  have hreconciled := reconcile_dossier call.clock s.db hnodup nodeId
  constructor
  · intro d hd
    rw [hd, Option.map_some] at hreconciled
    by_cases hactive : d.row.state = .active
    · rw [if_pos hactive] at hreconciled
      exact ⟨_, hreconciled, .reconcile hcall hactive⟩
    · rw [if_neg hactive] at hreconciled
      exact ⟨d, hreconciled, .kept⟩
  · intro hnone d' hd'
    rw [hreconciled, hnone, Option.map_none] at hd'
    cases hd'

/-- A step of the registry is a step of each dossier. -/
theorem step_dossier (env : Env) (s : RegistryState) (call : Call)
    (hnodup : (s.db.nodes.map NodeRow.nodeId).Nodup) (nodeId : String) :
    Dossier.Steps env s call nodeId (step env s call).db := by
  obtain ⟨operation, clock, entropy⟩ := call
  cases operation with
  | mintEnrollmentToken req =>
    refine steps_commit fun db' h => .of_eq ?_
    obtain ⟨⟨minted, _⟩, hmint, rfl⟩ := map_eq_ok.mp h
    exact (sameFiles_mintEnrollmentToken hmint).dossier nodeId
  | useToken req =>
    refine steps_commit fun db' h => ?_
    obtain ⟨⟨result, _⟩, hsubmit, rfl⟩ := map_eq_ok.mp h
    exact steps_submit rfl hsubmit
  | machine req business => exact steps_serveMachine rfl
  | deleteNode req => exact steps_deleteNode rfl
  | setRouteTarget actor moved routeTarget => exact steps_setRouteTarget rfl
  | setRouteMode actor moved routeMode => exact steps_setRouteMode rfl
  | removeRouteTarget actor moved => exact steps_removeRouteTarget rfl
  | rotateHubRouteKey actor moved =>
    refine steps_commit fun db' h => .of_eq ?_
    obtain ⟨⟨result, _⟩, hrotate, rfl⟩ := map_eq_ok.mp h
    exact (sameFiles_rotateHubRouteKey hrotate).dossier nodeId
  | probeNode probed => exact steps_probeNode rfl
  | recordProbeResult probed answer context => exact steps_recordProbeResult rfl
  | bootstrapSession principal =>
    refine steps_commit fun db' h => .of_eq ?_
    obtain ⟨⟨row, _⟩, hsession, rfl⟩ := map_eq_ok.mp h
    exact (sameFiles_bootstrapSession hsession).dossier nodeId
  | validateSession sessionId => exact .of_eq ((sameFiles_validateSession ..).dossier nodeId)
  | endSession sessionId actor => exact .of_eq ((sameFiles_endSession ..).dossier nodeId)
  | recordAudit actor action detail => exact .of_eq rfl
  | maintenance => exact steps_maintenance rfl hnodup
  | restart => exact steps_restart rfl hnodup

/-! ### Runs -/

theorem nodup_nodes_run (env : Env) (calls : List Call) :
    ((run env {} calls).db.nodes.map NodeRow.nodeId).Nodup := by
  have hnodup := (run_routeKeysSound env calls).members_nodup
  simpa [Db.ledger, NodeRow.member, Function.comp_def] using hnodup

/-- What holds of a new dossier and is kept by every step of it holds after every run, with
the calls of the run in view. -/
theorem run_dossier {P : List Call → Dossier → Prop}
    (hnew : ∀ calls call d, (run env {} calls).db.dossier nodeId = none →
      (step env (run env {} calls) call).db.dossier nodeId = some d → Dossier.New call d →
      P (calls ++ [call]) d)
    (hstep : ∀ calls call d d', (run env {} calls).db.dossier nodeId = some d →
      (step env (run env {} calls) call).db.dossier nodeId = some d' →
      Dossier.Step env (run env {} calls) call nodeId d d' → P calls d → P (calls ++ [call]) d')
    (calls : List Call) :
    ∀ d, (run env {} calls).db.dossier nodeId = some d → P calls d := by
  induction calls using List.reverseRecOn with
  | nil =>
    intro d hd
    cases hd
  | append_singleton calls call ih =>
    intro d' hd'
    rw [run_append] at hd'
    have hsteps := step_dossier env (run env {} calls) call (nodup_nodes_run env calls) nodeId
    cases hd : (run env {} calls).db.dossier nodeId with
    | none =>
      exact hnew calls call d' hd hd' (hsteps.new hd d' hd')
    | some d =>
      obtain ⟨after, hafter, hmove⟩ := hsteps.known d hd
      obtain rfl : after = d' := Option.some.inj (hafter.symm.trans hd')
      exact hstep calls call d after hd hafter hmove (ih d hd)

end DshOrbit.Registry
