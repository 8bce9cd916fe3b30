import DshOrbit.Registry.Keyrings
import DshOrbit.Registry.Tokens

/-!
# Tombstones

Deleting a node revokes its keys and leaves a tombstone. Only a re-enrollment of the
node lifts it: a request that was authenticated, a probe that was sent, or a change
that was decided before the deletion finds the tombstone when it is carried out.

## Main definitions

- `Buried` — a tombstoned node holds no key that is accepted, and is not reachable

## Main results

- `tombstone_safe` — a tombstoned node is buried, and stays as it is until it is
  re-enrolled
-/

namespace DshOrbit.Registry

open DshOrbit.Lib DshOrbit.Protocol

variable {env : Env} {clock : Clock} {Rotates : NodeKeyRow → Prop} {Purges : Prop}

/-! ### Keys of tombstoned nodes -/

/-- Only an active node has node keys that are not revoked. -/
def NodeKeysLive (l : Ledger) : Prop :=
  ∀ key ∈ l.nodeKeys, key.state ≠ .revoked → (key.nodeId, .active) ∈ l.members

theorem NodeKeysLive.of_members {l l' : Ledger} (h : NodeKeysLive l)
    (hkeys : ∀ key ∈ l'.nodeKeys, key.state ≠ .revoked → ∃ old ∈ l.nodeKeys,
      old.nodeId = key.nodeId ∧ old.state ≠ .revoked)
    (hactive : ∀ nodeId, (nodeId, .active) ∈ l.members → (nodeId, .active) ∈ l'.members) :
    NodeKeysLive l' := by
  intro key hkey hlive
  obtain ⟨old, hold, hnode, hstate⟩ := hkeys key hkey hlive
  exact hactive _ (hnode ▸ h old hold hstate)

theorem change_nodeKeysLive (l l' : Ledger) (h : Ledger.Change env clock Rotates Purges l l')
    (hl : NodeKeysLive l) : NodeKeysLive l' := by
  cases h with
  | enter use hnew =>
    intro key hkey hlive
    rcases List.mem_append.mp hkey with hkey | hkey
    · exact List.mem_append_left _ (hl key hkey hlive)
    · rw [List.mem_singleton.mp hkey]
      exact List.mem_append_right _ (List.mem_singleton.mpr rfl)
  | restore use hmember historicalKeyId =>
    have hactive : ∀ nodeId, (nodeId, .active) ∈ l.members →
        (nodeId, .active) ∈ (use.restored historicalKeyId).members := by
      intro nodeId hmem
      by_cases hnode : nodeId = use.key.nodeId
      · exact mem_updateWhere.mpr (.inr ⟨_, hmem, by simp [hnode], rfl⟩)
      · exact (mem_moved hnode).mpr hmem
    have hrestored : (use.key.nodeId, .active) ∈ (use.restored historicalKeyId).members :=
      mem_updateWhere.mpr (.inr ⟨_, hmember, by simp, rfl⟩)
    have hinserted : ∀ key ∈ l.nodeKeys ++ [use.key], key.state ≠ .revoked →
        (key.nodeId, .active) ∈ (use.restored historicalKeyId).members := by
      intro key hkey hlive
      rcases List.mem_append.mp hkey with hkey | hkey
      · exact hactive _ (hl key hkey hlive)
      · rw [List.mem_singleton.mp hkey]
        exact hrestored
    intro key hkey hlive
    rcases mem_updateWhere.mp hkey with ⟨hkey, -⟩ | ⟨old, hold, -, rfl⟩
    · exact hinserted key hkey hlive
    · exact hinserted old hold hlive
  | rotate key new hkey haccepted hmember hrotates hnode hnew hstate hrevokeAfter =>
    intro other hother hlive
    rcases List.mem_append.mp hother with hother | hother
    · rcases mem_updateWhere.mp hother with ⟨hother, -⟩ | ⟨old, hold, -, rfl⟩
      · exact hl other hother hlive
      · exact hl old hold hlive
    · rw [List.mem_singleton.mp hother, hnode]
      exact hmember
  | tombstone nodeId now =>
    intro key hkey hlive
    rcases mem_updateWhere.mp hkey with ⟨hkept, hother⟩ | ⟨old, -, -, rfl⟩
    · have hnode : key.nodeId ≠ nodeId := by
        intro hsame
        refine of_decide_eq_false hother ⟨hsame, ?_⟩
        cases hstate : key.state with
        | active => rfl
        | revoked => exact absurd hstate hlive
      exact (mem_moved hnode).mpr (hl key hkept hlive)
    · exact absurd rfl hlive
  | expireNodeKeys f now hf =>
    intro key hkey hlive
    obtain ⟨old, hold, rfl⟩ := List.mem_map.mp hkey
    rcases hf old with heq | ⟨_, _, _, _, _, revokedAt, heq⟩
    · rw [heq] at hlive ⊢
      exact hl old hold hlive
    · rw [heq] at hlive
      exact absurd rfl hlive
  | _ => exact hl

/-- The keys that a node holds are revoked, and its reachability is not known. -/
structure Buried (db : Db) (node : NodeRow) : Prop where
  nodeKeys : ∀ key ∈ db.nodeKeys, key.nodeId = node.nodeId →
    key.state = .revoked ∧ ∀ now, ¬key.AcceptedAt now
  routeKeys : ∀ key ∈ db.hubRouteKeys, key.nodeId = node.nodeId → key.state = .revoked
  reachable : node.reachable = .unknown

theorem run_nodeKeysLive (env : Env) (calls : List Call) :
    NodeKeysLive (run env {} calls).db.ledger :=
  run_invariant (fun _ => change_nodeKeysLive) calls fun _ h => (List.not_mem_nil h).elim

/-- A member is not active and tombstoned at once. -/
theorem not_active_of_tombstoned {db : Db} (hnodup : (db.ledger.members.map (·.1)).Nodup)
    {node : NodeRow} {nodeId : String} (hnode : db.getNodeRow nodeId = some node)
    (hstate : node.state = .tombstoned) : (nodeId, NodeState.active) ∉ db.ledger.members := by
  intro hactive
  obtain ⟨other, hother, hactive⟩ := Db.getNodeRow_of_member hnodup hactive
  obtain rfl := Option.some.inj (hnode.symm.trans hother)
  rw [hstate] at hactive
  cases hactive

/-! ### Rows of tombstoned nodes -/

/-- The reachability of a tombstoned node is not known. -/
def Dossier.Unreached (d : Dossier) : Prop := d.row.state = .tombstoned → d.row.reachable = .unknown

theorem active_of_probeAccepted {s : RegistryState} {call : Call} {nodeId : String} {success : Bool}
    {context : ProbeContext} {d : Dossier} (hd : s.db.dossier nodeId = some d)
    (h : ProbeAccepted s call nodeId success context) : d.row.state = .active := by
  obtain ⟨_, -, -, hnode, -⟩ := h
  rw [(Db.dossier_eq_some.mp hd).1] at hnode
  simp only [Option.any_some, decide_eq_true_eq] at hnode
  exact hnode.1

/-- What a step leaves of the row of a tombstoned node, unless it restores the node. -/
theorem row_of_tombstoned {s : RegistryState} {call : Call} {nodeId : String} {d d' : Dossier}
    (hd : s.db.dossier nodeId = some d) (hstep : Dossier.Step env s call nodeId d d')
    (hstate : d.row.state = .tombstoned) (hrestores : ¬Restores env s call nodeId)
    (hreachable : d.row.reachable = .unknown) : d'.row = d.row := by
  have hactive : d.row.state ≠ .active := by simp [hstate]
  cases hstep with
  | kept => rfl
  | untarget actor hcall hsets =>
    rw [Dossier.targeted, NodeRow.reached, ← hreachable]
  | maintain n hcall =>
    rw [Dossier.maintained, if_neg hactive]
    rfl
  | restore hrestored _ => exact absurd hrestored hrestores
  | heartbeat _ _ _ h => exact absurd h hactive
  | upload _ _ _ h => exact absurd h hactive
  | delete _ _ _ h => exact absurd h hactive
  | target _ _ _ _ _ h => exact absurd h hactive
  | reroute _ _ _ _ h _ => exact absurd h hactive
  | abandon _ h _ => exact absurd h hactive
  | reach _ h => exact absurd (active_of_probeAccepted hd h) hactive
  | miss _ h _ => exact absurd (active_of_probeAccepted hd h) hactive
  | reconcile _ h => exact absurd h hactive

theorem step_unreached {s : RegistryState} {call : Call} {nodeId : String} {d d' : Dossier}
    (hd : s.db.dossier nodeId = some d) (hstep : Dossier.Step env s call nodeId d d')
    (h : d.Unreached) : d'.Unreached := by
  have hkept : ∀ {after : Dossier}, after.route = d.route → after.Unreached := by
    intro after hroute hstate
    have hstates : after.row.state = d.row.state := congrArg Dossier.Route.state hroute
    have hreachables : after.row.reachable = d.row.reachable :=
      congrArg Dossier.Route.reachable hroute
    rw [hreachables]
    exact h (hstates ▸ hstate)
  cases hstep with
  | kept => exact h
  | heartbeat => exact hkept (Dossier.heartbeat_route ..)
  | upload => exact hkept (Dossier.upload_route ..)
  | maintain => exact hkept (Dossier.maintained_route ..)
  | reconcile => exact hkept (Dossier.reconciled_route ..)
  | reach context haccepted =>
    intro hstate
    rw [Dossier.amend_row, NodeRow.reached, active_of_probeAccepted hd haccepted] at hstate
    cases hstate
  | miss context haccepted hfailures =>
    intro hstate
    rw [Dossier.amend_row, NodeRow.reached, active_of_probeAccepted hd haccepted] at hstate
    cases hstate
  | restore => exact fun _ => rfl
  | delete => exact fun _ => rfl
  | target => exact fun _ => rfl
  | untarget => exact fun _ => rfl
  | reroute => exact fun _ => rfl
  | abandon => exact fun _ => rfl

theorem run_unreached (env : Env) (calls : List Call) {nodeId : String} {d : Dossier}
    (hd : (run env {} calls).db.dossier nodeId = some d) : d.Unreached := by
  refine run_dossier (P := fun _ d => d.Unreached) ?_ ?_ calls d hd
  · rintro _ _ d - - ⟨routeMode, hrow⟩ hstate
    rw [hrow] at hstate
    cases hstate
  · exact fun calls call d d' hd _ hstep => step_unreached hd hstep

/-! ### Runs -/

theorem run_buried (env : Env) (calls : List Call) {nodeId : String} {node : NodeRow}
    (hnode : (run env {} calls).db.getNodeRow nodeId = some node)
    (hstate : node.state = .tombstoned) : Buried (run env {} calls).db node := by
  obtain rfl := Db.nodeId_of_getNodeRow hnode
  have hsound := run_routeKeysSound env calls
  have hnot := not_active_of_tombstoned hsound.members_nodup hnode hstate
  obtain ⟨d, hd, rfl⟩ := Db.dossier_of_getNodeRow hnode
  constructor
  · intro key hkey hown
    have hrevoked : key.state = .revoked := by
      by_contra hlive
      exact hnot (hown ▸ run_nodeKeysLive env calls key hkey hlive)
    refine ⟨hrevoked, fun now haccepted => ?_⟩
    rw [NodeKeyRow.AcceptedAt, hrevoked] at haccepted
    cases haccepted.1
  · intro key hkey hown
    by_contra hlive
    exact hnot (hown ▸ hsound.owned key hkey hlive)
  · exact run_unreached env calls hd hstate

/-- What a step leaves of the keys of a tombstoned node, unless it restores the node. -/
theorem keyring_of_tombstoned {s : RegistryState} {call : Call} {node : NodeRow} {k k' : Keyring}
    (hstep : Keyring.Step env s call node k k')
    (hstate : node.state = .tombstoned) (hrestores : ¬Restores env s call node.nodeId)
    (hburied : Buried s.db node) (hk : k = s.db.keyring node.nodeId) : k' = k := by
  have hactive : node.state ≠ .active := by simp [hstate]
  cases hstep with
  | kept => rfl
  | route _ h => exact absurd h hactive
  | rotate key new hrotation =>
    obtain ⟨req, body, db1, -, hauth, -⟩ := hrotation.request
    obtain ⟨_, -, hchecked, -, -⟩ := authenticateMachine_ok hauth
    exact absurd hchecked.active hactive
  | restore historical new routeKeys hrestoration _ =>
    obtain ⟨req, result, db', hcall, hnodeId, -, -, hreenroll, hunconsumed⟩ := hrestoration.request
    exact absurd ⟨req, result, db', hcall, hnodeId, hreenroll, hunconsumed⟩ hrestores
  | delete _ h => exact absurd h hactive
  | expire f g n hcall hf hg =>
    subst hk
    -- an ended key of the node would be one that is not revoked
    ext1
    · refine (List.map_congr_left fun row hrow => ?_).trans (List.map_id _)
      obtain ⟨-, hrow⟩ := List.mem_filter.mp hrow
      refine (hf row).resolve_right ?_
      rintro ⟨ended, hended, hsame, hlive, -, -⟩
      have hown : ended.nodeId = node.nodeId :=
        (congrArg Prod.fst (NodeKeyRow.isKey_iff.mp hsame)).trans (of_decide_eq_true hrow)
      rw [(hburied.nodeKeys ended hended hown).1] at hlive
      cases hlive
    · refine (List.map_congr_left fun row hrow => ?_).trans (List.map_id _)
      obtain ⟨-, hrow⟩ := List.mem_filter.mp hrow
      refine (hg row).resolve_right ?_
      rintro ⟨ended, hended, hsame, hlive, -, -⟩
      have hown : ended.nodeId = node.nodeId :=
        (congrArg Prod.fst (HubRouteKeyRow.isKey_iff.mp hsame)).trans (of_decide_eq_true hrow)
      rw [hburied.routeKeys ended hended hown] at hlive
      cases hlive

/-- One step on a tombstoned node that does not restore it. -/
theorem step_tombstone (env : Env) (calls : List Call) (call : Call) {nodeId : String}
    {node : NodeRow} (hnode : (run env {} calls).db.getNodeRow nodeId = some node)
    (hstate : node.state = .tombstoned) (hrestores : ¬Restores env (run env {} calls) call nodeId) :
    (step env (run env {} calls) call).db.getNodeRow nodeId = some node ∧
      (step env (run env {} calls) call).db.keyring nodeId = (run env {} calls).db.keyring nodeId := by
  obtain ⟨d, hd, rfl⟩ := Db.dossier_of_getNodeRow hnode
  have hburied := run_buried env calls hnode hstate
  have hsteps := step_dossier env (run env {} calls) call (nodup_nodes_run env calls) nodeId
  obtain ⟨d', hd', hstep⟩ := hsteps.known d hd
  have hkeys := step_keyring env (run env {} calls) call nodeId d.row hnode
  obtain rfl := Db.nodeId_of_dossier hd
  refine ⟨?_, keyring_of_tombstoned hkeys hstate hrestores hburied rfl⟩
  rw [(Db.dossier_eq_some.mp hd').1]
  exact congrArg some (row_of_tombstoned hd hstep hstate hrestores hburied.reachable)

/-- A tombstoned node is buried, and no later call that does not restore the node changes
its row or its keys. -/
theorem tombstone_safe (env : Env) (calls : List Call) (nodeId : String) (node : NodeRow)
    (hnode : (run env {} calls).db.getNodeRow nodeId = some node)
    (hstate : node.state = .tombstoned) :
    Buried (run env {} calls).db node ∧ ∀ later : List Call,
      EachStep (step env) (fun s call => ¬Restores env s call nodeId) (run env {} calls) later →
        (run env {} (calls ++ later)).db.getNodeRow nodeId = some node ∧
        (run env {} (calls ++ later)).db.keyring nodeId = (run env {} calls).db.keyring nodeId := by
  refine ⟨run_buried env calls hnode hstate, fun later => ?_⟩
  induction later generalizing calls with
  | nil => exact fun _ => by rw [List.append_nil]; exact ⟨hnode, rfl⟩
  | cons call rest ih =>
    rintro ⟨hcall, hrest⟩
    have hstepped : step env (run env {} calls) call = run env {} (calls ++ [call]) :=
      (run_append env {} calls [call]).symm
    obtain ⟨hkept, hkeyring⟩ := step_tombstone env calls call hnode hstate hcall
    rw [hstepped] at hkept hkeyring hrest
    have hrun := ih (calls ++ [call]) hkept hrest
    rw [List.append_assoc, List.singleton_append] at hrun
    exact ⟨hrun.1, hrun.2.trans hkeyring⟩

def sampleTombstone : NodeRow := sampleNode.tombstone 1700000000000 "decommissioned"

theorem run_sampleDeletion :
    run sampleEnv {} (sampleEnrollment ++ [sampleDeletion]) = ⟨deletedDb, []⟩ := by
  have hdeletion : step sampleEnv ⟨enrolledDb, []⟩ sampleDeletion = ⟨deletedDb, []⟩ :=
    step_deletion rfl (by decide) rfl
  rw [run_append, run_sampleEnrollment, run, runFrom_cons, hdeletion, runFrom_nil]

theorem getNodeRow_deletedDb : deletedDb.getNodeRow sampleNodeId = some sampleTombstone := rfl

/-- The maintenance of a day later finds the tombstone as it was left. -/
theorem tombstone_safe_maintenance : ∃ s sweep,
    s = run sampleEnv {} (sampleEnrollment ++ [sampleDeletion]) ∧
    sweep = (⟨.maintenance, clockAt 1700086400000, sampleEntropy 0⟩ : Call) ∧
    Buried s.db sampleTombstone ∧
    (run sampleEnv {} ((sampleEnrollment ++ [sampleDeletion]) ++ [sweep])).db.getNodeRow
      sampleNodeId = some sampleTombstone := by
  refine ⟨_, _, rfl, rfl, ?_⟩
  have hnode : (run sampleEnv {} (sampleEnrollment ++ [sampleDeletion])).db.getNodeRow sampleNodeId =
      some sampleTombstone := by
    rw [run_sampleDeletion]
    exact getNodeRow_deletedDb
  obtain ⟨hburied, hlater⟩ := tombstone_safe sampleEnv (sampleEnrollment ++ [sampleDeletion])
    sampleNodeId sampleTombstone hnode rfl
  refine ⟨hburied, (hlater [⟨.maintenance, clockAt 1700086400000, sampleEntropy 0⟩] ⟨?_, trivial⟩).1⟩
  rintro ⟨req, result, db', hcall, -⟩
  cases hcall

end DshOrbit.Registry
