import DshOrbit.Registry.Eras
import DshOrbit.Registry.Tombstones

/-!
# Deletions and their replays

A deletion is recorded in the audit trail. A later request with the same request id, node and
reason is answered from that record, and changes nothing: what it reports is the answer of the
earlier deletion, also when the node was re-enrolled in between.

## Main definitions

- `Erases` — the call is a deletion that is not answered from the record
- `StaysDeleted` — the node was deleted, and has not been re-enrolled since

## Main results

- `tombstoned_iff` — the tombstoned nodes are those that stay deleted
- `deletion_sound` — what a deletion that reports success leaves
-/

namespace DshOrbit.Registry

open DshOrbit.Lib DshOrbit.Protocol

variable {env : Env} {s : RegistryState} {calls : List Call} {call : Call} {nodeId : String}

/-! ### Tombstoned nodes -/

/-- The call deletes the node, and is not answered from the record of an earlier deletion. -/
def Erases (s : RegistryState) (call : Call) (nodeId : String) : Prop :=
  ∃ req result, call.operation = .deleteNode req ∧ req.nodeId = some nodeId ∧
    deleteNode call.clock s req = .ok result ∧ result.1.idempotentReplay = false

/-- The node was deleted in the run, and has not been re-enrolled since. -/
def StaysDeleted (env : Env) (calls : List Call) (nodeId : String) : Prop :=
  ∃ before deletion after, calls = before ++ deletion :: after ∧
    Erases (run env {} before) deletion nodeId ∧
    EachStep (step env) (fun s call => ¬Restores env s call nodeId)
      (run env {} (before ++ [deletion])) after

theorem StaysDeleted.append (h : StaysDeleted env calls nodeId)
    (hrestores : ¬Restores env (run env {} calls) call nodeId) :
    StaysDeleted env (calls ++ [call]) nodeId := by
  obtain ⟨before, deletion, after, rfl, herases, hkept⟩ := h
  refine ⟨before, deletion, after ++ [call], ?_, herases, hkept.append_singleton ?_⟩
  · rw [List.append_assoc, List.cons_append]
  · rw [List.append_cons, run_append] at hrestores
    exact hrestores

theorem Erases.of_sets (hdeletes : Deletes call nodeId) (hsets : SetsConfiguration env s call nodeId) :
    Erases s call nodeId := by
  obtain ⟨req, hcall, -⟩ := hdeletes
  cases hsets with
  | deletion req' result hcall' hnode hresult hfirst =>
    exact ⟨req', result, hcall', hnode, hresult, hfirst⟩
  | target _ _ _ hcall' => cases hcall.symm.trans hcall'
  | untarget _ _ hcall' => cases hcall.symm.trans hcall'
  | mode _ _ _ hcall' => cases hcall.symm.trans hcall'
  | restoration hrestores =>
    obtain ⟨_, _, _, hcall', -⟩ := hrestores
    cases hcall.symm.trans hcall'

/-- A node becomes tombstoned by a deletion only, and a re-enrollment lifts its tombstone. -/
theorem tombstoned_step {d d' : Dossier} (hstep : Dossier.Step env s call nodeId d d')
    (hstate : d'.row.state = .tombstoned) :
    Erases s call nodeId ∨ d.row.state = .tombstoned := by
  have hroute : ∀ {after : Dossier}, after.route = d.route → after.row.state = .tombstoned →
      Erases s call nodeId ∨ d.row.state = .tombstoned := by
    intro after hroute hstate
    exact .inr ((congrArg Dossier.Route.state hroute).symm.trans hstate)
  cases hstep with
  | kept => exact .inr hstate
  | heartbeat => exact hroute (Dossier.heartbeat_route ..) hstate
  | upload => exact hroute (Dossier.upload_route ..) hstate
  | maintain => exact hroute (Dossier.maintained_route ..) hstate
  | reconcile => exact hroute (Dossier.reconciled_route ..) hstate
  | delete _ hdeletes hsets => exact .inl (.of_sets hdeletes hsets)
  | restore => cases hstate
  | reach => exact .inr hstate
  | miss => exact .inr hstate
  | target => exact .inr hstate
  | untarget => exact .inr hstate
  | reroute => exact .inr hstate
  | abandon => exact .inr hstate

theorem not_restores_of_tombstoned {d' : Dossier}
    (hd' : (step env (run env {} calls) call).db.dossier nodeId = some d')
    (hstate : d'.row.state = .tombstoned) : ¬Restores env (run env {} calls) call nodeId := by
  intro hrestores
  rw [dossier_of_restores (run_tokensSound env calls) hrestores] at hd'
  obtain ⟨d, -, rfl⟩ := Option.map_eq_some_iff.mp hd'
  cases hstate

theorem staysDeleted_of_tombstoned (env : Env) (calls : List Call) {d : Dossier}
    (hd : (run env {} calls).db.dossier nodeId = some d) :
    d.row.state = .tombstoned → StaysDeleted env calls nodeId := by
  refine run_dossier (P := fun calls d => d.row.state = .tombstoned →
    StaysDeleted env calls nodeId) ?_ ?_ calls d hd
  · rintro _ _ d - - ⟨routeMode, hrow⟩ hstate
    rw [hrow] at hstate
    cases hstate
  · intro calls call d d' _ hd' hstep ih hstate
    obtain herases | hbefore := tombstoned_step hstep hstate
    · exact ⟨calls, call, [], rfl, herases, trivial⟩
    · exact (ih hbefore).append (not_restores_of_tombstoned hd' hstate)

/-- A deletion leaves its node tombstoned. -/
theorem Erases.tombstoned (h : Erases s call nodeId) :
    ∃ node, (step env s call).db.getNodeRow nodeId = some node ∧ node.state = .tombstoned := by
  obtain ⟨req, result, hcall, hreq, hresult, hfirst⟩ := h
  obtain ⟨hreplay, -⟩ | ⟨node, reason, requestId, hnodeId, hnode, -, -, hdb⟩ := deleteNode_ok hresult
  · rw [hfirst] at hreplay
    cases hreplay
  · obtain rfl := Option.some.inj (hreq.symm.trans hnodeId)
    obtain ⟨d, hd, rfl⟩ := Db.dossier_of_getNodeRow hnode
    have hown : (tombstoneNode call.clock s.db d.row req.actor requestId reason).dossier
        d.row.nodeId = (s.db.dossier d.row.nodeId).map
          (Dossier.amend (NodeRow.tombstone (call.clock 0) reason)) :=
      (amends_tombstoneNode hnode).own
    rw [hd] at hown
    have hrow := (Db.dossier_eq_some.mp hown).1
    refine ⟨d.row.tombstone (call.clock 0) reason, ?_, rfl⟩
    rw [step, hcall]
    dsimp only
    rw [hresult, commitState, hdb]
    exact hrow

/-- The tombstoned nodes are those that were deleted and not re-enrolled since. -/
theorem tombstoned_iff (env : Env) (calls : List Call) (nodeId : String) :
    (∃ node, (run env {} calls).db.getNodeRow nodeId = some node ∧ node.state = .tombstoned) ↔
      StaysDeleted env calls nodeId := by
  constructor
  · rintro ⟨node, hnode, hstate⟩
    obtain ⟨d, hd, rfl⟩ := Db.dossier_of_getNodeRow hnode
    exact staysDeleted_of_tombstoned env calls hd hstate
  · rintro ⟨before, deletion, after, rfl, herases, hkept⟩
    obtain ⟨node, hnode, hstate⟩ :
        ∃ node, (step env (run env {} before) deletion).db.getNodeRow nodeId = some node ∧
          node.state = .tombstoned := herases.tombstoned
    have hrun : run env {} (before ++ [deletion]) = step env (run env {} before) deletion :=
      run_append env {} before [deletion]
    rw [← hrun] at hnode
    rw [List.append_cons]
    exact ⟨node, ((tombstone_safe env _ nodeId node hnode hstate).2 after hkept).1, hstate⟩

/-! ### Deletions that report success -/

/-- The node is tombstoned, and none of its keys authenticates. -/
structure Deleted (env : Env) (db : Db) (nodeId : String) : Prop where
  tombstoned : ∃ node, db.getNodeRow nodeId = some node ∧ node.state = .tombstoned
  nodeKeys : ∀ key ∈ db.nodeKeys, key.nodeId = nodeId → ∀ now, ¬key.AcceptedAt now
  routeKeys : ∀ key ∈ db.hubRouteKeys, key.nodeId = nodeId → key.state = .revoked
  refused : ∀ clock req result, req.nodeId = some nodeId →
    authenticateMachine env clock db req ≠ .ok result

theorem deleted_iff (env : Env) (calls : List Call) (nodeId : String) :
    Deleted env (run env {} calls).db nodeId ↔ StaysDeleted env calls nodeId := by
  rw [← tombstoned_iff]
  refine ⟨fun h => h.tombstoned, ?_⟩
  rintro ⟨node, hnode, hstate⟩
  obtain rfl := Db.nodeId_of_getNodeRow hnode
  have hburied := run_buried env calls hnode hstate
  refine ⟨⟨node, hnode, hstate⟩, fun key hkey hown => (hburied.nodeKeys key hkey hown).2,
    hburied.routeKeys, ?_⟩
  rintro clock req ⟨other, key, db'⟩ hreq hresult
  obtain ⟨fields, hfields, hchecked, -, -⟩ := authenticateMachine_ok hresult
  -- the tombstone is what the request finds as its node
  have hfound := hchecked.node_eq
  rw [(checkMachineFields_ok hfields).1, hreq, Option.getD_some, hnode] at hfound
  obtain rfl := Option.some.inj hfound
  have hactive := hchecked.active
  rw [hstate] at hactive
  cases hactive

theorem deleteNode_prior {clock : Clock} {req : DeleteRequest}
    {result : DeleteResult × RegistryState} (h : deleteNode clock s req = .ok result) :
    result.1.idempotentReplay = (priorDeletion s.db (req.requestId.getD "")).isSome := by
  obtain ⟨nodeId, -, h⟩ := bind_eq_ok.mp h
  obtain ⟨requestId, hrequestId, h⟩ := bind_eq_ok.mp h
  obtain ⟨reason, -, h⟩ := bind_eq_ok.mp h
  rw [(requireString_eq_ok.mp hrequestId).1, Option.getD_some]
  split_ifs at h
  · cases h
  · split at h
    case h_1 => cases h
    case h_2 node hnode =>
      split at h
      case h_1 prior hprior =>
        split_ifs at h
        · obtain rfl := Except.ok.inj h
          rw [hprior]
          rfl
        · cases h
      case h_2 hprior =>
        split_ifs at h
        · cases h
        · obtain rfl := Except.ok.inj h
          rw [hprior]
          rfl

/-- A deletion that reports success leaves the node deleted, unless the request id was recorded
before and the node has been re-enrolled since its last deletion. What is answered from the record
changes nothing. -/
theorem deletion_sound (env : Env) (calls : List Call) (clock : Clock) (req : DeleteRequest)
    (result : DeleteResult) (s' : RegistryState) (nodeId : String)
    (hnode : req.nodeId = some nodeId)
    (h : deleteNode clock (run env {} calls) req = .ok (result, s')) :
    (Deleted env s'.db nodeId ↔
      ((priorDeletion (run env {} calls).db (req.requestId.getD "")).isSome →
        StaysDeleted env calls nodeId)) ∧
    ((priorDeletion (run env {} calls).db (req.requestId.getD "")).isSome →
      s' = run env {} calls) := by
  have hprior : result.idempotentReplay = _ := deleteNode_prior h
  rw [← hprior]
  obtain ⟨hreplay, hsame⟩ | ⟨node, _, _, -, -, -, hfirst, -⟩ := deleteNode_ok h
  · dsimp only at hreplay hsame
    rw [hreplay, hsame]
    exact ⟨(deleted_iff env calls nodeId).trans ⟨fun h _ => h, fun h => h rfl⟩, fun _ => rfl⟩
  · dsimp only at hfirst
    rw [hfirst]
    refine ⟨iff_of_true ?_ fun hreplay => absurd hreplay (by decide), fun hreplay => ?_⟩
    · set call : Call := ⟨.deleteNode req, clock, sampleEntropy 0⟩ with hcall
      have hstep : run env {} (calls ++ [call]) = s' := by
        rw [run_append, run, runFrom_cons, runFrom_nil, step, hcall]
        dsimp only
        rw [h]
        rfl
      rw [← hstep, deleted_iff]
      exact ⟨calls, call, [], rfl, ⟨req, (result, s'), rfl, hnode, h, hfirst⟩, trivial⟩
    · cases hreplay

def sampleDeleteRequest : DeleteRequest :=
  { actor := "operator", nodeId := some sampleNodeId
    requestId := some "d2d2d2d2d2d2d2d2d2d2d2d2d2d2d2d2", reason := some "decommissioned" }

theorem deleteNode_replay {node : NodeRow} {prior : AuditRow}
    (hnode : s.db.getNodeRow sampleNodeId = some node)
    (hprior : priorDeletion s.db "d2d2d2d2d2d2d2d2d2d2d2d2d2d2d2d2" = some prior)
    (hdetail : prior.detail = .obj [("nodeId", .str sampleNodeId),
      ("reason", .str "decommissioned"), ("requestId", .str "d2d2d2d2d2d2d2d2d2d2d2d2d2d2d2d2")]) :
    deleteNode (clockAt 1700000000000) s sampleDeleteRequest = .ok (⟨sampleNodeId, true⟩, s) := by
  have hnodeId : requireString (some sampleNodeId) "nodeId" = .ok sampleNodeId :=
    requireString_eq_ok.mpr ⟨rfl, by simp [sampleNodeId]⟩
  have hrequestId : isRequestId "d2d2d2d2d2d2d2d2d2d2d2d2d2d2d2d2" = true :=
    (matchesHex_ofList 32 _).trans rfl
  have hrequest : requireString (some "d2d2d2d2d2d2d2d2d2d2d2d2d2d2d2d2") "requestId" = .ok _ :=
    requireString_eq_ok.mpr ⟨rfl, ne_empty_of_matchesHex hrequestId⟩
  refine bind_eq_ok.mpr ⟨_, hnodeId, bind_eq_ok.mpr ⟨_, hrequest, bind_eq_ok.mpr
    ⟨"decommissioned", requireString_eq_ok.mpr ⟨rfl, by simp⟩, ?_⟩⟩⟩
  rw [hrequestId, hnode]
  dsimp only
  rw [hprior]
  dsimp only
  rw [hdetail, if_neg (by decide)]
  have hsame : (Json.obj [("nodeId", .str sampleNodeId), ("reason", .str "decommissioned"),
      ("requestId", .str "d2d2d2d2d2d2d2d2d2d2d2d2d2d2d2d2")]).field "nodeId" =
        some (.str sampleNodeId) := rfl
  exact if_pos ⟨congrArg (Option.bind · Json.str?) hsame, rfl⟩

/-- The repeat of a deletion reports success for a node that was re-enrolled and is active. -/
theorem deletion_replayed : ∃ calls result s' node,
    calls = sampleEnrollment ++ [sampleDeletion, reenrollMint, sampleReenroll] ∧
    sampleDeletion.operation = .deleteNode sampleDeleteRequest ∧
    deleteNode (clockAt 1700000000000) (run sampleEnv {} calls) sampleDeleteRequest =
      .ok (result, s') ∧
    s'.db.getNodeRow sampleNodeId = some node ∧ node.state = .active := by
  obtain ⟨result, db', hrestore, ⟨node, hnode, hstate⟩, prior, hprior, hdetail⟩ :
      ∃ result db', restoreNode sampleEnv (sampleEntropy 0) (clockAt 1700000000000)
          remintedDb reenrollTokenRow sampleReenrollRequest.fields "system" deletedKey secondKeyId =
            .ok (result, db') ∧
        (∃ node, db'.getNodeRow sampleNodeId = some node ∧ node.state = .active) ∧
        ∃ prior, priorDeletion db' "d2d2d2d2d2d2d2d2d2d2d2d2d2d2d2d2" = some prior ∧
          prior.detail = .obj [("nodeId", .str sampleNodeId), ("reason", .str "decommissioned"),
            ("requestId", .str "d2d2d2d2d2d2d2d2d2d2d2d2d2d2d2d2")] := by
    refine ⟨_, _, bind_eq_ok.mpr ⟨_, rfl, bind_eq_ok.mpr ⟨_, rfl, bind_eq_ok.mpr ⟨_, rfl,
      bind_eq_ok.mpr ⟨_, ensureHubRouteKey_sample rfl rfl, rfl⟩⟩⟩⟩, ⟨_, rfl, rfl⟩, _, rfl, rfl⟩
  have hreenroll : reenroll sampleEnv (sampleEntropy 0) (clockAt 1700000000000) remintedDb
      sampleReenrollRequest = .ok (result, db') :=
    reenroll_of_restoreNode (by decide) (by decide) rfl rfl rfl rfl rfl hrestore
  have hrun : run sampleEnv {} (sampleEnrollment ++ [sampleDeletion, reenrollMint, sampleReenroll]) =
      ⟨db', []⟩ := by
    rw [show sampleEnrollment ++ [sampleDeletion, reenrollMint, sampleReenroll] =
      (sampleEnrollment ++ [sampleDeletion, reenrollMint]) ++ [sampleReenroll] from rfl, run_append,
      run_reminted, run, runFrom_cons, runFrom_nil, step, sampleReenroll]
    dsimp only
    rw [show (TokenRequest.reenroll sampleReenrollRequest).submit sampleEnv (sampleEntropy 0)
      (clockAt 1700000000000) remintedDb = .ok (result, db') from hreenroll]
    rfl
  refine ⟨_, _, _, node, rfl, rfl, deleteNode_replay (by rw [hrun]; exact hnode)
    (by rw [hrun]; exact hprior) hdetail, ?_, hstate⟩
  rw [hrun]
  exact hnode

/-- The repeat of the deletion, while the node is not re-enrolled. -/
theorem deletion_sound_repeat : ∃ calls result s',
    calls = sampleEnrollment ++ [sampleDeletion] ∧
    deleteNode (clockAt 1700000000000) (run sampleEnv {} calls) sampleDeleteRequest =
      .ok (result, s') ∧ Deleted sampleEnv s'.db sampleNodeId := by
  have hnode : (run sampleEnv {} (sampleEnrollment ++ [sampleDeletion])).db.getNodeRow
      sampleNodeId = some sampleTombstone := by
    rw [run_sampleDeletion]
    exact getNodeRow_deletedDb
  obtain ⟨prior, hprior, hdetail⟩ : ∃ prior,
      priorDeletion deletedDb "d2d2d2d2d2d2d2d2d2d2d2d2d2d2d2d2" = some prior ∧
        prior.detail = .obj [("nodeId", .str sampleNodeId), ("reason", .str "decommissioned"),
          ("requestId", .str "d2d2d2d2d2d2d2d2d2d2d2d2d2d2d2d2")] := ⟨_, rfl, rfl⟩
  have hrepeat := deleteNode_replay hnode (by rw [run_sampleDeletion]; exact hprior) hdetail
  refine ⟨_, _, _, rfl, hrepeat, ?_⟩
  refine (deletion_sound sampleEnv _ _ _ _ _ sampleNodeId rfl hrepeat).1.mpr fun _ => ?_
  exact (tombstoned_iff ..).mp ⟨sampleTombstone, hnode, rfl⟩

end DshOrbit.Registry
