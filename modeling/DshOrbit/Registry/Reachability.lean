import DshOrbit.Registry.Tombstones

/-!
# Reachability

A probe is sent with the route target and the signing key of its time, and its answer
counts only where both are still those of the node. Between the two any other call may
run. What is known of a node's reachability is therefore told by the calls since its
configuration was set.

## Main definitions

- `acceptedProbe` — the verdict of the probe whose answer a call brings
- `ReachedSince`, `FailedSince` — the evidence for each reachability

## Main results

- `reachability_sound` — the reachability of a node has its evidence, and a probe whose
  context has passed changes nothing
-/

namespace DshOrbit.Registry

open DshOrbit.Lib DshOrbit.Protocol

variable {env : Env} {s : RegistryState} {call : Call} {nodeId : String}

/-! ### Accepted probes -/

/-- The verdict and the context of the probe whose answer the call brings, unless the
answer is ignored. -/
def acceptedProbe (s : RegistryState) (call : Call) (nodeId : String) : Option (Bool × ProbeContext) :=
  match call.operation with
  | .recordProbeResult probed answer context =>
    if probed = nodeId ∧
        (s.db.getNodeRow nodeId).any (fun node => node.state = .active ∧ node.routeMode ≠ .reverse) ∧
        (s.db.getRouteTarget nodeId).map (·.routeTargetOrigin) = some context.routeTargetOrigin ∧
        (s.db.getActiveHubRouteKey nodeId).map (·.keyId) = some context.keyId then
      some ((probeVerdict nodeId answer).1, context)
    else none
  | _ => none

theorem acceptedProbe_eq_some {success : Bool} {context : ProbeContext} :
    acceptedProbe s call nodeId = some (success, context) ↔
      ProbeAccepted s call nodeId success context := by
  unfold acceptedProbe ProbeAccepted
  cases call.operation with
  | recordProbeResult probed answer given =>
    dsimp only
    split_ifs with h
    · obtain ⟨rfl, hnode, htarget, hkey⟩ := h
      constructor
      · intro hsome
        obtain ⟨rfl, rfl⟩ := Prod.mk.inj (Option.some.inj hsome)
        exact ⟨answer, rfl, rfl, hnode, htarget, hkey⟩
      · rintro ⟨answer', hcall, hverdict, -⟩
        obtain ⟨-, rfl, rfl⟩ := Operation.recordProbeResult.inj hcall
        rw [hverdict]
    · constructor
      · intro hsome
        cases hsome
      · rintro ⟨answer', hcall, -, hnode, htarget, hkey⟩
        obtain ⟨rfl, -, rfl⟩ := Operation.recordProbeResult.inj hcall
        exact absurd ⟨rfl, hnode, htarget, hkey⟩ h
  | _ => simp

/-! ### Failure counts -/

theorem getFailures_congr {s s' : RegistryState}
    (h : s'.routeProbeFailures = s.routeProbeFailures) (nodeId : String) :
    s'.getFailures nodeId = s.getFailures nodeId := by
  rw [RegistryState.getFailures, h, RegistryState.getFailures]

theorem getFailures_forgetFailures (s : RegistryState) (forgotten nodeId : String) :
    (s.forgetFailures forgotten).getFailures nodeId =
      if nodeId = forgotten then 0 else s.getFailures nodeId := by
  simp only [RegistryState.getFailures, RegistryState.forgetFailures, deleteWhere, List.find?_filter]
  split_ifs with hsame
  · subst hsame
    have hnone : (s.routeProbeFailures.find? fun _ => false) = none :=
      List.find?_eq_none.mpr fun entry _ => Bool.false_ne_true
    simp [hnone]
  · refine congrArg (fun p => ((s.routeProbeFailures.find? p).map (·.2)).getD 0) (funext fun entry => ?_)
    by_cases hentry : entry.1 = nodeId
    · simp [hentry, hsame]
    · simp [hentry]

theorem getFailures_setFailures (s : RegistryState) (counted nodeId : String) (fails : ℕ) :
    (s.setFailures counted fails).getFailures nodeId =
      if nodeId = counted then fails else s.getFailures nodeId := by
  have hforgotten := getFailures_forgetFailures s counted nodeId
  simp only [RegistryState.getFailures, RegistryState.forgetFailures] at hforgotten
  simp only [RegistryState.getFailures, RegistryState.setFailures, List.find?_append]
  split_ifs at hforgotten ⊢ with hsame
  · subst hsame
    have hnone : ((deleteWhere (fun entry => decide (entry.1 = nodeId)) s.routeProbeFailures).find?
        fun entry => decide (entry.1 = nodeId)) = none :=
      List.find?_eq_none.mpr fun entry hentry => by
        simpa using (mem_deleteWhere.mp hentry).2
    simp [hnone]
  · rw [← hforgotten]
    simp [Ne.symm hsame]

/-- What a call does to the failure count of a node. -/
inductive FailureStep (env : Env) (s : RegistryState) (call : Call) (nodeId : String) : ℕ → ℕ → Prop
  | reset (n : ℕ) : FailureStep env s call nodeId n 0
  | kept (n : ℕ) (hsets : SetsConfiguration env s call nodeId → Restores env s call nodeId)
      (hprobe : acceptedProbe s call nodeId = none) : FailureStep env s call nodeId n n
  | failed (n : ℕ) (context : ProbeContext)
      (hprobe : acceptedProbe s call nodeId = some (false, context)) :
      FailureStep env s call nodeId n (n + 1)

theorem commitState_ok {α : Type} (result : α × RegistryState) :
    commitState s (.ok result) = result.2 := rfl

/-- The operations that set a configuration other than by a re-enrollment. -/
def Operation.configures : Operation → Bool
  | .deleteNode _ | .setRouteTarget .. | .setRouteMode .. | .removeRouteTarget .. => true
  | _ => false

theorem SetsConfiguration.restores (h : SetsConfiguration env s call nodeId)
    (hop : call.operation.configures = false) : Restores env s call nodeId := by
  cases h with
  | restoration hrestores => exact hrestores
  | target _ _ _ hcall _ => rw [hcall] at hop; cases hop
  | untarget _ _ hcall _ => rw [hcall] at hop; cases hop
  | mode _ _ _ hcall _ _ => rw [hcall] at hop; cases hop
  | deletion _ _ hcall _ _ _ => rw [hcall] at hop; cases hop

variable {s' : RegistryState}

theorem FailureStep.of_reset (h : s'.getFailures nodeId = 0) :
    FailureStep env s call nodeId (s.getFailures nodeId) (s'.getFailures nodeId) := by
  rw [h]
  exact .reset _

theorem FailureStep.of_eq (h : s'.getFailures nodeId = s.getFailures nodeId)
    (hsets : SetsConfiguration env s call nodeId → Restores env s call nodeId)
    (hprobe : acceptedProbe s call nodeId = none) :
    FailureStep env s call nodeId (s.getFailures nodeId) (s'.getFailures nodeId) := by
  rw [h]
  exact .kept _ hsets hprobe

/-- A state in which the failures of one node are forgotten. -/
theorem FailureStep.of_forget {forgotten : String}
    (h : s'.routeProbeFailures = (s.forgetFailures forgotten).routeProbeFailures)
    (hother : nodeId ≠ forgotten → (SetsConfiguration env s call nodeId → Restores env s call nodeId) ∧
      acceptedProbe s call nodeId = none) :
    FailureStep env s call nodeId (s.getFailures nodeId) (s'.getFailures nodeId) := by
  have hfailures := (getFailures_congr h nodeId).trans (getFailures_forgetFailures s forgotten nodeId)
  by_cases hsame : nodeId = forgotten
  · rw [if_pos hsame] at hfailures
    exact .of_reset hfailures
  · rw [if_neg hsame] at hfailures
    exact .of_eq hfailures (hother hsame).1 (hother hsame).2

theorem failures_deleteNode {req : DeleteRequest} (hcall : call.operation = .deleteNode req) :
    FailureStep env s call nodeId (s.getFailures nodeId)
      ((commitState s (deleteNode call.clock s req)).getFailures nodeId) := by
  have hprobe : acceptedProbe s call nodeId = none := by rw [acceptedProbe, hcall]
  have hsets : ∀ h : SetsConfiguration env s call nodeId, Restores env s call nodeId ∨
      req.nodeId = some nodeId ∧ ∃ result, deleteNode call.clock s req = .ok result ∧
        result.1.idempotentReplay = false := by
    intro h
    cases h with
    | restoration hrestores => exact .inl hrestores
    | deletion req' result hcall' hnode hresult hfirst =>
      obtain rfl := Operation.deleteNode.inj (hcall.symm.trans hcall')
      exact .inr ⟨hnode, result, hresult, hfirst⟩
    | target _ _ _ hcall' _ => rw [hcall] at hcall'; cases hcall'
    | untarget _ _ hcall' _ => rw [hcall] at hcall'; cases hcall'
    | mode _ _ _ hcall' _ _ => rw [hcall] at hcall'; cases hcall'
  cases h : deleteNode call.clock s req with
  | error fault =>
    refine .of_eq rfl (fun hset => (hsets hset).resolve_right ?_) hprobe
    rintro ⟨-, result, hresult, -⟩
    rw [h] at hresult
    cases hresult
  | ok result =>
    rw [commitState_ok]
    rcases deleteNode_ok h with ⟨hreplay, hsame⟩ | ⟨node, _, _, hreq, -, -, -, hdb⟩
    · refine .of_eq (congrArg (fun s => s.getFailures nodeId) hsame)
        (fun hset => (hsets hset).resolve_right ?_) hprobe
      rintro ⟨-, again, hagain, hfirst⟩
      obtain rfl := Except.ok.inj (h.symm.trans hagain)
      rw [hreplay] at hfirst
      cases hfirst
    · have hfailures : result.2.routeProbeFailures =
          (s.forgetFailures node.nodeId).routeProbeFailures := by rw [hdb]
      refine .of_forget hfailures fun hother => ⟨fun hset => (hsets hset).resolve_right ?_, hprobe⟩
      rintro ⟨hnode, -⟩
      exact hother (Option.some.inj (hnode.symm.trans hreq))

theorem failures_setRouteTarget {actor moved : Option String} {routeTarget : Json}
    (hcall : call.operation = .setRouteTarget actor moved routeTarget) :
    FailureStep env s call nodeId (s.getFailures nodeId)
      ((commitState s (setRouteTarget env call.clock s actor moved routeTarget)).getFailures nodeId) := by
  have hprobe : acceptedProbe s call nodeId = none := by rw [acceptedProbe, hcall]
  have hsets : ∀ h : SetsConfiguration env s call nodeId, Restores env s call nodeId ∨
      moved = some nodeId ∧ ∃ result, setRouteTarget env call.clock s actor moved routeTarget =
        .ok result := by
    intro h
    cases h with
    | restoration hrestores => exact .inl hrestores
    | target actor' routeTarget' result hcall' hresult =>
      obtain ⟨rfl, rfl, rfl⟩ := Operation.setRouteTarget.inj (hcall.symm.trans hcall')
      exact .inr ⟨rfl, result, hresult⟩
    | deletion _ _ hcall' _ _ _ => rw [hcall] at hcall'; cases hcall'
    | untarget _ _ hcall' _ => rw [hcall] at hcall'; cases hcall'
    | mode _ _ _ hcall' _ _ => rw [hcall] at hcall'; cases hcall'
  cases h : setRouteTarget env call.clock s actor moved routeTarget with
  | error fault =>
    refine .of_eq rfl (fun hset => (hsets hset).resolve_right ?_) hprobe
    rintro ⟨-, result, hresult⟩
    rw [h] at hresult
    cases hresult
  | ok result =>
    rw [commitState_ok]
    obtain ⟨node, _, hmoved, -, -, -, hfailures⟩ := setRouteTarget_ok h
    refine .of_forget hfailures fun hother => ⟨fun hset => (hsets hset).resolve_right ?_, hprobe⟩
    rintro ⟨hnode, -⟩
    exact hother (Option.some.inj (hnode.symm.trans hmoved))

theorem failures_removeRouteTarget {actor moved : Option String}
    (hcall : call.operation = .removeRouteTarget actor moved) :
    FailureStep env s call nodeId (s.getFailures nodeId)
      ((commitState s (removeRouteTarget call.clock s actor moved)).getFailures nodeId) := by
  have hprobe : acceptedProbe s call nodeId = none := by rw [acceptedProbe, hcall]
  have hsets : ∀ h : SetsConfiguration env s call nodeId, Restores env s call nodeId ∨
      moved = some nodeId ∧ ∃ result, removeRouteTarget call.clock s actor moved = .ok result := by
    intro h
    cases h with
    | restoration hrestores => exact .inl hrestores
    | untarget actor' result hcall' hresult =>
      obtain ⟨rfl, rfl⟩ := Operation.removeRouteTarget.inj (hcall.symm.trans hcall')
      exact .inr ⟨rfl, result, hresult⟩
    | deletion _ _ hcall' _ _ _ => rw [hcall] at hcall'; cases hcall'
    | target _ _ _ hcall' _ => rw [hcall] at hcall'; cases hcall'
    | mode _ _ _ hcall' _ _ => rw [hcall] at hcall'; cases hcall'
  cases h : removeRouteTarget call.clock s actor moved with
  | error fault =>
    refine .of_eq rfl (fun hset => (hsets hset).resolve_right ?_) hprobe
    rintro ⟨-, result, hresult⟩
    rw [h] at hresult
    cases hresult
  | ok result =>
    rw [commitState_ok]
    obtain ⟨id, hmoved, -, hfailures⟩ := removeRouteTarget_ok h
    refine .of_forget hfailures fun hother => ⟨fun hset => (hsets hset).resolve_right ?_, hprobe⟩
    rintro ⟨hnode, -⟩
    exact hother (Option.some.inj (hnode.symm.trans hmoved))

theorem failures_setRouteMode {actor moved : Option String} {routeMode : Option RouteMode}
    (hcall : call.operation = .setRouteMode actor moved routeMode) :
    FailureStep env s call nodeId (s.getFailures nodeId)
      ((commitState s (setRouteMode call.clock s actor moved routeMode)).getFailures nodeId) := by
  have hprobe : acceptedProbe s call nodeId = none := by rw [acceptedProbe, hcall]
  have hsets : ∀ h : SetsConfiguration env s call nodeId, Restores env s call nodeId ∨
      moved = some nodeId ∧ ∃ result, setRouteMode call.clock s actor moved routeMode = .ok result ∧
        result.1.changed = true := by
    intro h
    cases h with
    | restoration hrestores => exact .inl hrestores
    | mode actor' routeMode' result hcall' hresult hchanged =>
      obtain ⟨rfl, rfl, rfl⟩ := Operation.setRouteMode.inj (hcall.symm.trans hcall')
      exact .inr ⟨rfl, result, hresult, hchanged⟩
    | deletion _ _ hcall' _ _ _ => rw [hcall] at hcall'; cases hcall'
    | target _ _ _ hcall' _ => rw [hcall] at hcall'; cases hcall'
    | untarget _ _ hcall' _ => rw [hcall] at hcall'; cases hcall'
  cases h : setRouteMode call.clock s actor moved routeMode with
  | error fault =>
    refine .of_eq rfl (fun hset => (hsets hset).resolve_right ?_) hprobe
    rintro ⟨-, result, hresult, -⟩
    rw [h] at hresult
    cases hresult
  | ok result =>
    rw [commitState_ok]
    rcases setRouteMode_ok h with ⟨hunchanged, hsame⟩ | ⟨node, _, hmoved, -, -, -, -, -, -, hfailures⟩
    · refine .of_eq (congrArg (fun s => s.getFailures nodeId) hsame)
        (fun hset => (hsets hset).resolve_right ?_) hprobe
      rintro ⟨-, again, hagain, hchanged⟩
      obtain rfl := Except.ok.inj (h.symm.trans hagain)
      rw [hunchanged] at hchanged
      cases hchanged
    · refine .of_forget hfailures fun hother => ⟨fun hset => (hsets hset).resolve_right ?_, hprobe⟩
      rintro ⟨hnode, -⟩
      exact hother (Option.some.inj (hnode.symm.trans hmoved))

/-! ### Probes and failure counts -/

theorem failures_abandonProbe (now : ℤ) (s : RegistryState) (node : NodeRow) (source : String) :
    (abandonProbe now s node source).routeProbeFailures =
      (s.forgetFailures node.nodeId).routeProbeFailures := by
  unfold abandonProbe
  dsimp only
  split_ifs <;> rfl

theorem failures_probeNode {probed : String} (hcall : call.operation = .probeNode probed) :
    FailureStep env s call nodeId (s.getFailures nodeId)
      ((probeNode call.clock s probed).2.getFailures nodeId) := by
  have hprobe : acceptedProbe s call nodeId = none := by rw [acceptedProbe, hcall]
  have hsets : SetsConfiguration env s call nodeId → Restores env s call nodeId :=
    fun h => h.restores (by rw [hcall]; rfl)
  have habandon : ∀ (node : NodeRow) (source : String), FailureStep env s call nodeId
      (s.getFailures nodeId) ((abandonProbe (call.clock 0) s node source).getFailures nodeId) :=
    fun node source => .of_forget (failures_abandonProbe ..) fun _ => ⟨hsets, hprobe⟩
  unfold probeNode
  split
  · exact .of_eq rfl hsets hprobe
  · split_ifs
    · exact .of_eq rfl hsets hprobe
    · exact habandon ..
    · split
      · exact habandon ..
      · split
        · exact habandon ..
        · exact .of_eq rfl hsets hprobe

theorem failures_recordProbeResult {probed : String} {answer : ProbeAnswer} {context : ProbeContext}
    (hcall : call.operation = .recordProbeResult probed answer context) :
    FailureStep env s call nodeId (s.getFailures nodeId)
      ((recordProbeResult call.clock s probed (probeVerdict probed answer).1 context).2.getFailures
        nodeId) := by
  have hsets : SetsConfiguration env s call nodeId → Restores env s call nodeId :=
    fun h => h.restores (by rw [hcall]; rfl)
  have hother : nodeId ≠ probed → acceptedProbe s call nodeId = none := by
    intro hne
    rw [acceptedProbe, hcall]
    exact if_neg fun h => hne h.1.symm
  unfold recordProbeResult
  split
  case h_1 hnone =>
    refine .of_eq rfl hsets ?_
    by_cases hsame : nodeId = probed
    · rw [acceptedProbe, hcall, hsame]
      exact if_neg fun h => by simp [hnone] at h
    · exact hother hsame
  case h_2 node hnode =>
    obtain rfl := Db.nodeId_of_getNodeRow hnode
    dsimp only
    split_ifs with hstate hreverse hcontext hsuccess hreached hfailures hunreachable
    · refine .of_eq rfl hsets ?_
      by_cases hsame : nodeId = node.nodeId
      · rw [acceptedProbe, hcall, hsame]
        exact if_neg fun h => by simp [hnode, hstate] at h
      · exact hother hsame
    · exact .of_forget (failures_abandonProbe ..) fun h => ⟨hsets, hother h⟩
    · exact .of_forget rfl fun h => ⟨hsets, hother h⟩
    · exact .of_forget rfl fun h => ⟨hsets, hother h⟩
    · exact .of_forget rfl fun h => ⟨hsets, hother h⟩
    all_goals
      have hcounted : ∀ s' : RegistryState, s'.routeProbeFailures = (s.setFailures node.nodeId
          (s.getFailures node.nodeId + 1)).routeProbeFailures →
          FailureStep env s call nodeId (s.getFailures nodeId) (s'.getFailures nodeId) := by
        intro s' hs'
        have hfailures := (getFailures_congr hs' nodeId).trans (getFailures_setFailures ..)
        by_cases hsame : nodeId = node.nodeId
        · subst hsame
          rw [if_pos rfl] at hfailures
          rw [hfailures]
          refine .failed _ context (acceptedProbe_eq_some.mpr ?_)
          obtain ⟨htarget, hkey⟩ := not_or.mp hcontext
          exact ⟨answer, hcall, by simpa using hsuccess, by simp [hnode, not_not.mp hstate, hreverse],
            not_not.mp htarget, not_not.mp hkey⟩
        · rw [if_neg hsame] at hfailures
          exact .of_eq hfailures hsets (hother hsame)
      exact hcounted _ rfl

/-- A step of the registry is a step of each failure count. -/
theorem step_failures (env : Env) (s : RegistryState) (call : Call) (nodeId : String) :
    FailureStep env s call nodeId (s.getFailures nodeId) ((step env s call).getFailures nodeId) := by
  have hkept : call.operation.configures = false → acceptedProbe s call nodeId = none →
      (step env s call).routeProbeFailures = s.routeProbeFailures →
      FailureStep env s call nodeId (s.getFailures nodeId) ((step env s call).getFailures nodeId) :=
    fun hop hprobe h => .of_eq (getFailures_congr h nodeId) (fun hset => hset.restores hop) hprobe
  obtain ⟨operation, clock, entropy⟩ := call
  cases operation with
  | deleteNode req => exact failures_deleteNode rfl
  | setRouteTarget actor moved routeTarget => exact failures_setRouteTarget rfl
  | setRouteMode actor moved routeMode => exact failures_setRouteMode rfl
  | removeRouteTarget actor moved => exact failures_removeRouteTarget rfl
  | probeNode probed => exact failures_probeNode rfl
  | recordProbeResult probed answer context => exact failures_recordProbeResult rfl
  | restart => exact .of_reset rfl
  | _ => exact hkept rfl rfl (by rw [step])

/-! ### What a configuration leaves -/

theorem unknown_of_amends {db' : Db} {g : Dossier → Dossier} {d' : Dossier}
    (hamends : s.db.Amends db' nodeId g) (hg : ∀ d, (g d).row.reachable = .unknown)
    (hd' : db'.dossier nodeId = some d') : d'.row.reachable = .unknown := by
  rw [hamends.own] at hd'
  obtain ⟨d, -, rfl⟩ := Option.map_eq_some_iff.mp hd'
  exact hg d

theorem unknown_of_restores (hrestores : Restores env s call nodeId)
    (hunreached : ∀ d, s.db.dossier nodeId = some d → d.Unreached) {d' : Dossier}
    (hd' : (step env s call).db.dossier nodeId = some d') : d'.row.reachable = .unknown := by
  obtain ⟨req, result, db', hcall, hnode, hreenroll, hunconsumed⟩ := hrestores
  have hstep : (step env s call).db = db' := by
    rw [step, hcall]
    dsimp only [TokenRequest.submit]
    rw [hreenroll]
    rfl
  rw [hstep] at hd'
  have hid : req.fields.nodeId = nodeId := by rw [ReenrollRequest.fields, hnode]; rfl
  rcases reenroll_restores hreenroll with ⟨rfl, hpossession⟩ | ⟨_, _, _, _, _, _, _, _, hrestore⟩
  · obtain ⟨historical, hpossession⟩ := hpossession hunconsumed
    obtain ⟨node, hfound, hstate⟩ := tombstoned_of_checkPossession hpossession
    rw [hid] at hfound
    refine hunreached d' hd' ?_
    rw [Db.row_of_dossier hd' hfound]
    exact hstate
  · refine unknown_of_amends (hid ▸ amends_restoreNode hrestore) (fun d => ?_) hd'
    rfl

/-- A call that sets the configuration of a node leaves its reachability unknown. -/
theorem unknown_of_sets (hsets : SetsConfiguration env s call nodeId)
    (hunreached : ∀ d, s.db.dossier nodeId = some d → d.Unreached) {d' : Dossier}
    (hd' : (step env s call).db.dossier nodeId = some d') : d'.row.reachable = .unknown := by
  cases hsets with
  | target actor routeTarget result hcall hresult =>
    rw [step, hcall] at hd'
    dsimp only at hd'
    rw [hresult, commitState_ok] at hd'
    obtain ⟨node, origin, hmoved, -, -, hamends, -⟩ := setRouteTarget_ok hresult
    obtain rfl := Option.some.inj hmoved
    exact unknown_of_amends hamends (fun _ => rfl) hd'
  | untarget actor result hcall hresult =>
    rw [step, hcall] at hd'
    dsimp only at hd'
    rw [hresult, commitState_ok] at hd'
    obtain ⟨id, hmoved, hamends, -⟩ := removeRouteTarget_ok hresult
    obtain rfl := Option.some.inj hmoved
    exact unknown_of_amends hamends (fun _ => rfl) hd'
  | mode actor routeMode result hcall hresult hchanged =>
    rw [step, hcall] at hd'
    dsimp only at hd'
    rw [hresult, commitState_ok] at hd'
    rcases setRouteMode_ok hresult with ⟨hunchanged, -⟩ | ⟨node, mode, hmoved, -, -, -, -, -, hamends, -⟩
    · rw [hunchanged] at hchanged
      cases hchanged
    · obtain rfl := Option.some.inj hmoved
      exact unknown_of_amends hamends (fun _ => rfl) hd'
  | deletion req result hcall hnode hresult hfirst =>
    rw [step, hcall] at hd'
    dsimp only at hd'
    rw [hresult, commitState_ok] at hd'
    rcases deleteNode_ok hresult with ⟨hreplay, -⟩ | ⟨node, reason, requestId, hreq, hfound, -, -, hdb⟩
    · rw [hreplay] at hfirst
      cases hfirst
    · obtain rfl := Option.some.inj (hnode.symm.trans hreq)
      rw [hdb] at hd'
      exact unknown_of_amends (amends_tombstoneNode hfound) (fun _ => rfl) hd'
  | restoration hrestores => exact unknown_of_restores hrestores hunreached hd'

/-- An accepted success leaves the node reachable. -/
theorem ok_of_acceptedProbe {context : ProbeContext} {d' : Dossier}
    (hprobe : acceptedProbe s call nodeId = some (true, context))
    (hd' : (step env s call).db.dossier nodeId = some d') : d'.row.reachable = .ok := by
  obtain ⟨answer, hcall, hverdict, hnode, htarget, hkey⟩ := acceptedProbe_eq_some.mp hprobe
  cases hfound : s.db.getNodeRow nodeId with
  | none => simp [hfound] at hnode
  | some node =>
    rw [hfound] at hnode
    obtain ⟨hactive, hdirect⟩ := of_decide_eq_true hnode
    have hcontext : ¬((s.db.getRouteTarget nodeId).map (·.routeTargetOrigin) ≠
        some context.routeTargetOrigin ∨
        (s.db.getActiveHubRouteKey nodeId).map (·.keyId) ≠ some context.keyId) := by
      rw [not_or, not_not, not_not]
      exact ⟨htarget, hkey⟩
    rw [step, hcall] at hd'
    dsimp only at hd'
    rw [recordProbeResult, hfound] at hd'
    dsimp only at hd'
    rw [if_neg (not_not.mpr hactive), if_neg hdirect, if_neg hcontext, if_pos hverdict] at hd'
    split_ifs at hd' with hchanged
    · rw [(amends_setReachable ..).own] at hd'
      obtain ⟨d, -, rfl⟩ := Option.map_eq_some_iff.mp hd'
      rfl
    · rw [Db.row_of_dossier hd' hfound]
      exact not_not.mp hchanged

/-! ### Evidence -/

/-- The call neither sets the configuration of the node nor reaches it. -/
def Quiet (env : Env) (nodeId : String) (s : RegistryState) (call : Call) : Prop :=
  ¬SetsConfiguration env s call nodeId ∧ ∀ context, acceptedProbe s call nodeId ≠ some (true, context)

/-- Some accepted probe of the target succeeded since the configuration was last set. -/
def ReachedSince (env : Env) (nodeId target : String) (calls : List Call) : Prop :=
  ∃ before probe after context, calls = before ++ probe :: after ∧
    acceptedProbe (run env {} before) probe nodeId = some (true, context) ∧
    context.routeTargetOrigin = target ∧
    EachStep (step env) (fun s call => ¬SetsConfiguration env s call nodeId)
      (run env {} (before ++ [probe])) after

/-- The call brings an accepted failure of a probe of the target. -/
def failsProbe (nodeId target : String) (s : RegistryState) (call : Call) : Bool :=
  match acceptedProbe s call nodeId with
  | some (false, context) => context.routeTargetOrigin = target
  | _ => false

/-- At the end of the run `n` probes of the target failed, and none since the first of them
succeeded, nor was the configuration set. -/
def FailedSince (env : Env) (nodeId target : String) (calls : List Call) (n : ℕ) : Prop :=
  ∃ before since, calls = before ++ since ∧
    EachStep (step env) (Quiet env nodeId) (run env {} before) since ∧
    n ≤ countSteps (step env) (failsProbe nodeId target) (run env {} before) since

variable {target : String} {calls : List Call} {n : ℕ}

theorem failedSince_zero (env : Env) (nodeId target : String) (calls : List Call) :
    FailedSince env nodeId target calls 0 :=
  ⟨calls, [], (List.append_nil _).symm, trivial, Nat.zero_le _⟩

theorem FailedSince.quiet (h : FailedSince env nodeId target calls n)
    (hcall : Quiet env nodeId (run env {} calls) call) :
    FailedSince env nodeId target (calls ++ [call]) n := by
  obtain ⟨before, since, rfl, hquiet, hcount⟩ := h
  rw [run_append] at hcall
  refine ⟨before, since ++ [call], List.append_assoc .., hquiet.append_singleton hcall, ?_⟩
  exact hcount.trans countSteps_le_append

theorem FailedSince.failed (h : FailedSince env nodeId target calls n)
    (hcall : Quiet env nodeId (run env {} calls) call)
    (hfails : failsProbe nodeId target (run env {} calls) call = true) :
    FailedSince env nodeId target (calls ++ [call]) (n + 1) := by
  obtain ⟨before, since, rfl, hquiet, hcount⟩ := h
  rw [run_append] at hcall hfails
  refine ⟨before, since ++ [call], List.append_assoc .., hquiet.append_singleton hcall, ?_⟩
  rw [countSteps_append_singleton hfails]
  exact Nat.succ_le_succ hcount

theorem ReachedSince.kept (h : ReachedSince env nodeId target calls)
    (hcall : ¬SetsConfiguration env (run env {} calls) call nodeId) :
    ReachedSince env nodeId target (calls ++ [call]) := by
  obtain ⟨before, probe, after, context, rfl, hprobe, htarget, hkept⟩ := h
  refine ⟨before, probe, after ++ [call], context, ?_, hprobe, htarget, hkept.append_singleton ?_⟩
  · rw [List.append_assoc, List.cons_append]
  · rw [List.append_cons, run_append] at hcall
    exact hcall

theorem FailedSince.mono {m : ℕ} (h : FailedSince env nodeId target calls n) (hle : m ≤ n) :
    FailedSince env nodeId target calls m := by
  obtain ⟨before, since, hcalls, hquiet, hcount⟩ := h
  exact ⟨before, since, hcalls, hquiet, hle.trans hcount⟩

/-! ### Steps of a configuration -/

variable {d d' : Dossier}

theorem not_sets_of_acceptedProbe {success : Bool} {context : ProbeContext}
    (h : acceptedProbe s call nodeId = some (success, context)) :
    ¬SetsConfiguration env s call nodeId := by
  obtain ⟨answer, hcall, -⟩ := acceptedProbe_eq_some.mp h
  intro hsets
  obtain ⟨_, _, _, hcall', -⟩ := hsets.restores (by rw [hcall]; rfl)
  rw [hcall] at hcall'
  cases hcall'

theorem tombstoned_of_restores (hd : s.db.dossier nodeId = some d)
    (h : Restores env s call nodeId) : d.row.state = .tombstoned := by
  obtain ⟨req, result, db', -, hnode, hreenroll, hunconsumed⟩ := h
  have hid : req.fields.nodeId = nodeId := by rw [ReenrollRequest.fields, hnode]; rfl
  have hpossession : ∃ historical, checkPossession env s.db req req.fields = .ok historical := by
    rcases reenroll_restores hreenroll with ⟨-, h⟩ | ⟨_, historical, _, _, _, _, h, _, _⟩
    · exact h hunconsumed
    · exact ⟨historical, h⟩
  obtain ⟨historical, hpossession⟩ := hpossession
  obtain ⟨node, hfound, hstate⟩ := tombstoned_of_checkPossession hpossession
  rw [hid] at hfound
  rw [Db.row_of_dossier hd hfound]
  exact hstate

/-- Where the configuration is not set, it stays. -/
theorem configuration_of_not_sets (hstep : Dossier.Step env s call nodeId d d')
    (hsets : ¬SetsConfiguration env s call nodeId) :
    d'.row.state = d.row.state ∧ d'.row.routeMode = d.row.routeMode ∧ d'.target = d.target := by
  have hkept : ∀ {after : Dossier}, after.route = d.route →
      after.row.state = d.row.state ∧ after.row.routeMode = d.row.routeMode ∧
        after.target = d.target := fun hroute =>
    ⟨congrArg Dossier.Route.state hroute, congrArg Dossier.Route.routeMode hroute,
      congrArg Dossier.Route.target hroute⟩
  cases hstep with
  | kept => exact ⟨rfl, rfl, rfl⟩
  | heartbeat => exact hkept (Dossier.heartbeat_route ..)
  | upload => exact hkept (Dossier.upload_route ..)
  | maintain => exact hkept (Dossier.maintained_route ..)
  | reconcile => exact hkept (Dossier.reconciled_route ..)
  | delete _ _ h => exact absurd h hsets
  | restore h => exact absurd (.restoration h) hsets
  | target _ _ _ _ h => exact absurd h hsets
  | untarget _ _ h => exact absurd h hsets
  | reroute _ _ _ h => exact absurd h hsets
  | abandon => exact ⟨rfl, rfl, rfl⟩
  | reach => exact ⟨rfl, rfl, rfl⟩
  | miss => exact ⟨rfl, rfl, rfl⟩

/-- The reachability after a step: as it was, unknown, or what an accepted probe found. -/
theorem reachable_cases (hstep : Dossier.Step env s call nodeId d d') :
    d'.row.reachable = d.row.reachable ∨ d'.row.reachable = .unknown ∨
      (∃ context, acceptedProbe s call nodeId = some (true, context) ∧ d'.row.reachable = .ok) ∨
      ∃ context, acceptedProbe s call nodeId = some (false, context) ∧
        d'.row.reachable = .unreachable ∧ routeProbeFailureThreshold ≤ s.getFailures nodeId + 1 := by
  have hkept : ∀ {after : Dossier}, after.route = d.route → after.row.reachable = d.row.reachable :=
    fun hroute => congrArg Dossier.Route.reachable hroute
  cases hstep with
  | kept => exact .inl rfl
  | heartbeat => exact .inl (hkept (Dossier.heartbeat_route ..))
  | upload => exact .inl (hkept (Dossier.upload_route ..))
  | maintain => exact .inl (hkept (Dossier.maintained_route ..))
  | reconcile => exact .inl (hkept (Dossier.reconciled_route ..))
  | reach context h => exact .inr (.inr (.inl ⟨context, acceptedProbe_eq_some.mpr h, rfl⟩))
  | miss context h hfailures =>
    exact .inr (.inr (.inr ⟨context, acceptedProbe_eq_some.mpr h, rfl, hfailures⟩))
  | _ => exact .inr (.inl rfl)

/-- What an accepted probe tells of the dossier it finds. -/
theorem configuration_of_acceptedProbe {success : Bool} {context : ProbeContext}
    (hd : s.db.dossier nodeId = some d)
    (h : acceptedProbe s call nodeId = some (success, context)) :
    d.row.state = .active ∧ d.row.routeMode = .direct ∧ d.target = some context.routeTargetOrigin := by
  obtain ⟨_, -, -, hnode, htarget, -⟩ := acceptedProbe_eq_some.mp h
  obtain ⟨hrow, -, hdtarget⟩ := Db.dossier_eq_some.mp hd
  rw [hrow] at hnode
  obtain ⟨hactive, hdirect⟩ := of_decide_eq_true hnode
  refine ⟨hactive, ?_, hdtarget.trans htarget⟩
  cases hmode : d.row.routeMode with
  | direct => rfl
  | reverse => exact absurd hmode hdirect

/-! ### Runs -/

/-- The failure count and the reachability of a node after a run. -/
structure Evidenced (env : Env) (nodeId : String) (calls : List Call) (d : Dossier) : Prop where
  tombstoned : d.row.state = .tombstoned → (run env {} calls).getFailures nodeId = 0
  failures : ∀ target, d.target = some target →
    FailedSince env nodeId target calls ((run env {} calls).getFailures nodeId)
  reverse : d.row.routeMode = .reverse → d.row.reachable = .unknown
  ok : d.row.reachable = .ok → d.row.state = .active ∧ d.row.routeMode = .direct ∧
    ∃ target, d.target = some target ∧ ReachedSince env nodeId target calls
  unreachable : d.row.reachable = .unreachable →
    ∃ target, d.target = some target ∧
      FailedSince env nodeId target calls routeProbeFailureThreshold

theorem step_tombstoned_failures (hd : (run env {} calls).db.dossier nodeId = some d)
    (hstep : Dossier.Step env (run env {} calls) call nodeId d d')
    (h : d.row.state = .tombstoned → (run env {} calls).getFailures nodeId = 0)
    (hstate : d'.row.state = .tombstoned) :
    (step env (run env {} calls) call).getFailures nodeId = 0 := by
  have hfailures := step_failures env (run env {} calls) call nodeId
  generalize (step env (run env {} calls) call).getFailures nodeId = after at hfailures
  cases hfailures with
  | reset => rfl
  | kept hsets _ =>
    refine h ?_
    by_cases hset : SetsConfiguration env (run env {} calls) call nodeId
    · exact tombstoned_of_restores hd (hsets hset)
    · rw [← (configuration_of_not_sets hstep hset).1]
      exact hstate
  | failed context hprobe =>
    obtain ⟨hactive, -⟩ := configuration_of_acceptedProbe hd hprobe
    have hkept := (configuration_of_not_sets hstep (not_sets_of_acceptedProbe hprobe)).1
    rw [hkept, hactive] at hstate
    cases hstate

theorem failsProbe_of_acceptedProbe {context : ProbeContext}
    (h : acceptedProbe s call nodeId = some (false, context))
    (htarget : context.routeTargetOrigin = target) : failsProbe nodeId target s call = true := by
  rw [failsProbe, h]
  simpa using htarget

theorem step_failedSince (hd : (run env {} calls).db.dossier nodeId = some d)
    (hstep : Dossier.Step env (run env {} calls) call nodeId d d')
    (htombstoned : d.row.state = .tombstoned → (run env {} calls).getFailures nodeId = 0)
    (h : ∀ target, d.target = some target →
      FailedSince env nodeId target calls ((run env {} calls).getFailures nodeId))
    (htarget : d'.target = some target) :
    FailedSince env nodeId target (calls ++ [call])
      ((step env (run env {} calls) call).getFailures nodeId) := by
  have hfailures := step_failures env (run env {} calls) call nodeId
  generalize (step env (run env {} calls) call).getFailures nodeId = after at hfailures
  cases hfailures with
  | reset => exact failedSince_zero ..
  | kept hsets hprobe =>
    by_cases hset : SetsConfiguration env (run env {} calls) call nodeId
    · rw [htombstoned (tombstoned_of_restores hd (hsets hset))]
      exact failedSince_zero ..
    · rw [(configuration_of_not_sets hstep hset).2.2] at htarget
      refine (h target htarget).quiet ⟨hset, fun context => ?_⟩
      rw [hprobe]
      exact Option.some_ne_none _ ∘ Eq.symm
  | failed context hprobe =>
    have hset : ¬SetsConfiguration env (run env {} calls) call nodeId :=
      not_sets_of_acceptedProbe hprobe
    rw [(configuration_of_not_sets hstep hset).2.2] at htarget
    obtain ⟨-, -, hfound⟩ := configuration_of_acceptedProbe hd hprobe
    refine (h target htarget).failed ⟨hset, fun other => ?_⟩ ?_
    · rw [hprobe]
      simp
    · exact failsProbe_of_acceptedProbe hprobe (Option.some.inj (hfound.symm.trans htarget))

theorem step_evidenced (hd : (run env {} calls).db.dossier nodeId = some d)
    (hd' : (step env (run env {} calls) call).db.dossier nodeId = some d')
    (hstep : Dossier.Step env (run env {} calls) call nodeId d d')
    (h : Evidenced env nodeId calls d) : Evidenced env nodeId (calls ++ [call]) d' := by
  have hunreached : ∀ d, (run env {} calls).db.dossier nodeId = some d → d.Unreached :=
    fun d hd => run_unreached env calls hd
  have hnot : d'.row.reachable ≠ .unknown → ¬SetsConfiguration env (run env {} calls) call nodeId :=
    fun hknown hsets => hknown (unknown_of_sets hsets hunreached hd')
  have hrun : run env {} (calls ++ [call]) = step env (run env {} calls) call :=
    run_append env {} calls [call]
  have hfailed : ∀ target, d'.target = some target → FailedSince env nodeId target (calls ++ [call])
      ((step env (run env {} calls) call).getFailures nodeId) :=
    fun target htarget => step_failedSince hd hstep h.tombstoned h.failures htarget
  constructor
  · intro hstate
    rw [hrun]
    exact step_tombstoned_failures hd hstep h.tombstoned hstate
  · rw [hrun]
    exact hfailed
  · intro hreverse
    by_contra hknown
    obtain ⟨-, hmode, -⟩ := configuration_of_not_sets hstep (hnot hknown)
    rw [hmode] at hreverse
    rcases reachable_cases hstep with hsame | hunknown | ⟨_, hprobe, -⟩ | ⟨_, hprobe, -⟩
    · exact hknown (hsame.trans (h.reverse hreverse))
    · exact hknown hunknown
    · rw [(configuration_of_acceptedProbe hd hprobe).2.1] at hreverse
      cases hreverse
    · rw [(configuration_of_acceptedProbe hd hprobe).2.1] at hreverse
      cases hreverse
  · intro hok
    have hsets := hnot (by rw [hok]; decide)
    obtain ⟨hstate, hmode, htargets⟩ := configuration_of_not_sets hstep hsets
    rw [hstate, hmode, htargets]
    rcases reachable_cases hstep with hsame | hunknown | ⟨context, hprobe, -⟩ | ⟨_, -, hmiss, -⟩
    · obtain ⟨hactive, hdirect, target, htarget, hreached⟩ := h.ok (hsame.symm.trans hok)
      exact ⟨hactive, hdirect, target, htarget, hreached.kept hsets⟩
    · rw [hunknown] at hok
      cases hok
    · obtain ⟨hactive, hdirect, htarget⟩ := configuration_of_acceptedProbe hd hprobe
      exact ⟨hactive, hdirect, _, htarget, calls, call, [], context, rfl, hprobe, rfl, trivial⟩
    · rw [hmiss] at hok
      cases hok
  · intro hunreachable
    have hsets := hnot (by rw [hunreachable]; decide)
    obtain ⟨-, -, htargets⟩ := configuration_of_not_sets hstep hsets
    rcases reachable_cases hstep with hsame | hunknown | ⟨_, -, hreach⟩ | ⟨context, hprobe, -, hcount⟩
    · obtain ⟨target, htarget, hsince⟩ := h.unreachable (hsame.symm.trans hunreachable)
      refine ⟨target, htargets.trans htarget, hsince.quiet ⟨hsets, fun context hsuccess => ?_⟩⟩
      rw [ok_of_acceptedProbe hsuccess hd'] at hunreachable
      cases hunreachable
    · rw [hunknown] at hunreachable
      cases hunreachable
    · rw [hreach] at hunreachable
      cases hunreachable
    · obtain ⟨-, -, htarget⟩ := configuration_of_acceptedProbe hd hprobe
      refine ⟨_, htargets.trans htarget, FailedSince.mono (FailedSince.failed (h.failures _ htarget)
        ⟨hsets, fun other => ?_⟩ (failsProbe_of_acceptedProbe hprobe rfl)) hcount⟩
      rw [hprobe]
      simp

/-- No failures are counted for an unknown node. -/
theorem step_getFailures_of_unknown (hnone : s.db.dossier nodeId = none)
    (h : s.getFailures nodeId = 0) : (step env s call).getFailures nodeId = 0 := by
  have hfailures := step_failures env s call nodeId
  rw [h] at hfailures
  generalize (step env s call).getFailures nodeId = after at hfailures
  cases hfailures with
  | reset => rfl
  | kept => rfl
  | failed context hprobe =>
    obtain ⟨_, -, -, hnode, -⟩ := acceptedProbe_eq_some.mp hprobe
    rw [Db.dossier_eq_none.mp hnone] at hnode
    cases hnode

theorem run_getFailures_of_unknown (env : Env) (calls : List Call)
    (hnone : (run env {} calls).db.dossier nodeId = none) :
    (run env {} calls).getFailures nodeId = 0 := by
  induction calls using List.reverseRecOn with
  | nil => rfl
  | append_singleton calls call ih =>
    rw [run_append] at hnone ⊢
    have hbefore : (run env {} calls).db.dossier nodeId = none := by
      cases hd : (run env {} calls).db.dossier nodeId with
      | none => rfl
      | some d =>
        have hsteps := step_dossier env (run env {} calls) call (nodup_nodes_run env calls) nodeId
        obtain ⟨after, hafter, -⟩ := hsteps.known d hd
        cases hafter.symm.trans hnone
    exact step_getFailures_of_unknown hbefore (ih hbefore)

theorem run_evidenced (env : Env) (calls : List Call)
    (hd : (run env {} calls).db.dossier nodeId = some d) : Evidenced env nodeId calls d := by
  refine run_dossier ?_ (fun calls call d d' hd hd' hstep => step_evidenced hd hd' hstep) calls d hd
  intro calls call d hnone hd ⟨routeMode, hrow⟩
  have hfailures : (run env {} (calls ++ [call])).getFailures nodeId = 0 := by
    rw [run_append]
    exact step_getFailures_of_unknown hnone (run_getFailures_of_unknown env calls hnone)
  have hunknown : d.row.reachable = .unknown := by rw [hrow]
  constructor
  · exact fun _ => hfailures
  · intro target _
    rw [hfailures]
    exact failedSince_zero ..
  · exact fun _ => hunknown
  · intro hok
    rw [hunknown] at hok
    cases hok
  · intro hunreachable
    rw [hunknown] at hunreachable
    cases hunreachable

/-! ### Route keys that are spent -/

section RouteKeySpent

variable {Rotates : NodeKeyRow → Prop} {Purges : Prop} {clock : Clock} {id : String × String}

/-- A route key that the ledger has, it keeps. -/
theorem change_routeKeyIds (l l' : Ledger) (h : Ledger.Change env clock Rotates Purges l l')
    (hl : id ∈ l.hubRouteKeys.map HubRouteKeyRow.id) :
    id ∈ l'.hubRouteKeys.map HubRouteKeyRow.id := by
  cases h with
  | provision row _ _ =>
    rw [List.map_append]
    exact List.mem_append_left _ hl
  | activate key activatedAt _ _ _ =>
    have hmap := map_updateWhere (p := HubRouteKeyRow.isKey key.nodeId key.keyId)
      (f := HubRouteKeyRow.activated activatedAt) HubRouteKeyRow.id (by intro row; rfl) l.hubRouteKeys
    exact hmap.symm ▸ hl
  | succeed old new activatedAt overlapFrom _ _ _ _ _ =>
    have hactivate := map_updateWhere (p := HubRouteKeyRow.isKey old.nodeId new.keyId)
      (f := HubRouteKeyRow.activated activatedAt) HubRouteKeyRow.id (by intro row; rfl) l.hubRouteKeys
    refine ((map_updateWhere HubRouteKeyRow.id ?_ _).trans hactivate).symm ▸ hl
    intro row
    rfl
  | tombstone nodeId now =>
    refine (map_updateWhere HubRouteKeyRow.id ?_ l.hubRouteKeys).symm ▸ hl
    intro row
    rfl
  | expireRouteKeys f now hf =>
    rw [List.map_map]
    refine (List.map_congr_left fun row _ => ?_) ▸ hl
    rcases hf row with heq | ⟨_, _, _, _, _, revokedAt, heq⟩
    · rw [Function.comp, heq]
    · rw [Function.comp, heq]
      rfl
  | _ => exact hl

/-- The ledger has the route key, and it is revoked. -/
structure Ledger.RouteKeySpent (id : String × String) (l : Ledger) : Prop where
  has : id ∈ l.hubRouteKeys.map HubRouteKeyRow.id
  revoked : ∀ row ∈ l.hubRouteKeys, row.id = id → row.state = .revoked

/-- A revoked route key stays revoked. -/
theorem change_routeKeySpent (l l' : Ledger) (h : Ledger.Change env clock Rotates Purges l l')
    (hl : l.RouteKeySpent id) : l'.RouteKeySpent id := by
  refine ⟨change_routeKeyIds l l' h hl.has, ?_⟩
  cases h with
  | provision row hmember hrow =>
    intro other hother hid
    rcases List.mem_append.mp hother with hother | hother
    · exact hl.revoked other hother hid
    · obtain rfl := List.mem_singleton.mp hother
      obtain ⟨old, hold, hsame⟩ := List.mem_map.mp hl.has
      exact absurd (hsame.trans hid.symm) (hrow.new old hold)
  | activate key activatedAt hkey hstate hsole =>
    intro row hrow hid
    rcases mem_updateWhere.mp hrow with ⟨hrow, -⟩ | ⟨old, hold, hsame, rfl⟩
    · exact hl.revoked row hrow hid
    · have hrevoked := hl.revoked key hkey ((HubRouteKeyRow.isKey_iff.mp hsame).symm.trans hid)
      rw [hstate] at hrevoked
      cases hrevoked
  | succeed old new activatedAt overlapFrom hold hnew hnode hactive hprovisioned =>
    intro row hrow hid
    rcases mem_updateWhere.mp hrow with ⟨hrow, -⟩ | ⟨before, -, hsame, rfl⟩
    · rcases mem_updateWhere.mp hrow with ⟨hrow, -⟩ | ⟨before, -, hsame, rfl⟩
      · exact hl.revoked row hrow hid
      · have hnewId : new.id = id := by
          rw [← hid, HubRouteKeyRow.id, hnode]
          exact (HubRouteKeyRow.isKey_iff.mp hsame).symm
        have hrevoked := hl.revoked new hnew hnewId
        rw [hprovisioned] at hrevoked
        cases hrevoked
    · have hrevoked := hl.revoked old hold ((HubRouteKeyRow.isKey_iff.mp hsame).symm.trans hid)
      rw [hactive] at hrevoked
      cases hrevoked
  | tombstone nodeId now =>
    intro row hrow hid
    rcases mem_updateWhere.mp hrow with ⟨hrow, -⟩ | ⟨old, -, -, rfl⟩
    · exact hl.revoked row hrow hid
    · rfl
  | expireRouteKeys f now hf =>
    intro row hrow hid
    obtain ⟨old, hold, rfl⟩ := List.mem_map.mp hrow
    rcases hf old with heq | ⟨_, _, _, _, _, revokedAt, heq⟩
    · rw [heq] at hid ⊢
      exact hl.revoked old hold hid
    · rw [heq]
      rfl
  | _ => exact hl.revoked

end RouteKeySpent

theorem mem_of_getActiveHubRouteKey {db : Db} {key : HubRouteKeyRow}
    (h : db.getActiveHubRouteKey nodeId = some key) :
    key ∈ db.hubRouteKeys ∧ key.nodeId = nodeId ∧ key.state ≠ .revoked := by
  have hnewest : ∀ {state : RouteKeyState}, (orderBy (fun row => -row.createdAt)
      (db.hubRouteKeys.filter fun row => row.nodeId = nodeId ∧ row.state = state)).head? = some key →
      key ∈ db.hubRouteKeys ∧ key.nodeId = nodeId ∧ key.state = state := by
    intro state hhead
    have hmem := mem_orderBy.mp (List.mem_of_head? hhead)
    rw [List.mem_filter, decide_eq_true_eq] at hmem
    exact hmem
  rw [Db.getActiveHubRouteKey, Option.or_eq_some_iff] at h
  rcases h with h | ⟨-, h⟩
  · obtain ⟨hkey, hnode, hstate⟩ := hnewest h
    exact ⟨hkey, hnode, by simp [hstate]⟩
  · obtain ⟨hkey, hnode, hstate⟩ := hnewest h
    exact ⟨hkey, hnode, by simp [hstate]⟩

/-- What a probe took with it. -/
theorem context_of_sent {now : Clock} {context : ProbeContext}
    (h : (probeNode now s nodeId).1 = .sent context) :
    (s.db.getActiveHubRouteKey nodeId).map (·.keyId) = some context.keyId := by
  unfold probeNode at h
  split at h
  · cases h
  · split_ifs at h
    split at h
    · cases h
    · split at h
      · cases h
      case h_2 activeKey hkey =>
        obtain rfl := ProbeStart.sent.inj h
        rw [hkey]
        rfl

/-! ### Probes whose context has passed -/

/-- The context of a probe is not that of the node any more: the route target or the signing
key is another, or the node was deleted after the probe was sent. -/
inductive Outdated (env : Env) (nodeId : String) (calls : List Call) (context : ProbeContext) : Prop
  | target (h : ((run env {} calls).db.getRouteTarget nodeId).map (·.routeTargetOrigin) ≠
      some context.routeTargetOrigin)
  | key (h : ((run env {} calls).db.getActiveHubRouteKey nodeId).map (·.keyId) ≠ some context.keyId)
  | deleted (before first rest : List Call) (probe : Call) (node : NodeRow)
      (hcalls : calls = (before ++ probe :: first) ++ rest)
      (hprobe : probe.operation = .probeNode nodeId)
      (hsent : (probeNode probe.clock (run env {} before) nodeId).1 = .sent context)
      (hnode : (run env {} (before ++ probe :: first)).db.getNodeRow nodeId = some node)
      (hstate : node.state = .tombstoned)

/-- The key that signed a probe is spent once its node is deleted. -/
theorem routeKeySpent_of_deleted {before first : List Call} {probe : Call} {node : NodeRow}
    {context : ProbeContext}
    (hsent : (probeNode probe.clock (run env {} before) nodeId).1 = .sent context)
    (hnode : (run env {} (before ++ probe :: first)).db.getNodeRow nodeId = some node)
    (hstate : node.state = .tombstoned) :
    (run env {} (before ++ probe :: first)).db.ledger.RouteKeySpent (nodeId, context.keyId) := by
  obtain ⟨key, hkey, hkeyId⟩ := Option.map_eq_some_iff.mp (context_of_sent hsent)
  obtain ⟨hmem, hown, -⟩ := mem_of_getActiveHubRouteKey hkey
  have hid : key.id = (nodeId, context.keyId) := by rw [HubRouteKeyRow.id, hown, hkeyId]
  have hburied := run_buried env _ hnode hstate
  refine ⟨?_, fun row hrow hrowId => hburied.routeKeys row hrow ?_⟩
  · rw [run_append]
    refine run_invariant (fun _ => change_routeKeyIds) (probe :: first) ?_
    exact List.mem_map.mpr ⟨key, hmem, hid⟩
  · rw [Db.nodeId_of_getNodeRow hnode]
    exact congrArg Prod.fst hrowId

theorem acceptedProbe_of_outdated {answer : ProbeAnswer} {context : ProbeContext}
    (hcall : call.operation = .recordProbeResult nodeId answer context)
    (h : Outdated env nodeId calls context) : acceptedProbe (run env {} calls) call nodeId = none := by
  have hkey : ((run env {} calls).db.getActiveHubRouteKey nodeId).map (·.keyId) ≠
      some context.keyId → acceptedProbe (run env {} calls) call nodeId = none := by
    intro hother
    rw [acceptedProbe, hcall]
    exact if_neg fun haccepted => hother haccepted.2.2.2
  cases h with
  | target hother =>
    rw [acceptedProbe, hcall]
    exact if_neg fun haccepted => hother haccepted.2.2.1
  | key hother => exact hkey hother
  | deleted before first rest probe node hcalls hprobe hsent hnode hstate =>
    refine hkey fun hsame => ?_
    obtain ⟨key, hactive, hkeyId⟩ := Option.map_eq_some_iff.mp hsame
    obtain ⟨hmem, hown, hlive⟩ := mem_of_getActiveHubRouteKey hactive
    have hspent := routeKeySpent_of_deleted hsent hnode hstate
    have hend : (run env {} calls).db.ledger.RouteKeySpent (nodeId, context.keyId) := by
      rw [hcalls, run_append]
      exact run_invariant (fun _ => change_routeKeySpent) rest hspent
    exact hlive (hend.revoked key hmem (by rw [HubRouteKeyRow.id, hown, hkeyId]))

/-- An answer that is ignored leaves the reachability as it was. -/
theorem reachable_of_ignored {answer : ProbeAnswer} {context : ProbeContext}
    (hcall : call.operation = .recordProbeResult nodeId answer context)
    (hignored : acceptedProbe s call nodeId = none)
    (hreverse : d.row.routeMode = .reverse → d.row.reachable = .unknown)
    (hstep : Dossier.Step env s call nodeId d d') : d'.row.reachable = d.row.reachable := by
  cases hstep with
  | kept => rfl
  | abandon hprobe hactive hmode =>
    refine Eq.symm (hreverse (hmode.resolve_left ?_))
    rw [hcall]
    exact Operation.noConfusion
  | reach context' haccepted =>
    rw [acceptedProbe_eq_some.mpr haccepted] at hignored
    cases hignored
  | miss context' haccepted _ =>
    rw [acceptedProbe_eq_some.mpr haccepted] at hignored
    cases hignored
  | heartbeat _ _ hserves _ =>
    obtain ⟨_, _, _, _, _, hmachine, -⟩ := hserves
    cases hcall.symm.trans hmachine
  | upload _ _ hserves _ =>
    obtain ⟨_, _, _, _, _, hmachine, -⟩ := hserves
    cases hcall.symm.trans hmachine
  | delete _ hdeletes _ _ =>
    obtain ⟨_, hdelete, -⟩ := hdeletes
    cases hcall.symm.trans hdelete
  | restore hrestores _ =>
    obtain ⟨_, _, _, htoken, -⟩ := hrestores
    cases hcall.symm.trans htoken
  | target _ _ _ htarget _ _ => cases hcall.symm.trans htarget
  | untarget _ huntarget _ => cases hcall.symm.trans huntarget
  | reroute _ _ hreroute _ _ _ => cases hcall.symm.trans hreroute
  | maintain _ hmaintenance => cases hcall.symm.trans hmaintenance
  | reconcile hrestart _ => cases hcall.symm.trans hrestart

/-! ### The reachability of a node -/

/-- What is known of a node's reachability has its evidence since the configuration of the
node was last set, and the answer of an outdated probe changes nothing of it. -/
theorem reachability_sound (env : Env) (calls : List Call) (nodeId : String) (node : NodeRow)
    (hnode : (run env {} calls).db.getNodeRow nodeId = some node) :
    (node.reachable = .ok → node.state = .active ∧ node.routeMode = .direct ∧
      ∃ target, ((run env {} calls).db.getRouteTarget nodeId).map (·.routeTargetOrigin) = some target ∧
        ReachedSince env nodeId target calls) ∧
    (node.reachable = .unreachable →
      ∃ target, ((run env {} calls).db.getRouteTarget nodeId).map (·.routeTargetOrigin) = some target ∧
        FailedSince env nodeId target calls 3) ∧
    ∀ (call : Call) (answer : ProbeAnswer) (context : ProbeContext),
      call.operation = .recordProbeResult nodeId answer context →
      Outdated env nodeId calls context →
      ((step env (run env {} calls) call).db.getNodeRow nodeId).map (·.reachable) =
        some node.reachable := by
  obtain ⟨d, hd, rfl⟩ := Db.dossier_of_getNodeRow hnode
  obtain ⟨-, -, htarget⟩ := Db.dossier_eq_some.mp hd
  have hevidenced := run_evidenced env calls hd
  rw [← htarget]
  refine ⟨hevidenced.ok, hevidenced.unreachable, fun call answer context hcall houtdated => ?_⟩
  have hsteps := step_dossier env (run env {} calls) call (nodup_nodes_run env calls) nodeId
  obtain ⟨d', hd', hstep⟩ := hsteps.known d hd
  rw [(Db.dossier_eq_some.mp hd').1, Option.map_some]
  exact congrArg some (reachable_of_ignored hcall (acceptedProbe_of_outdated hcall houtdated)
    hevidenced.reverse hstep)

def sampleAnswer : Call :=
  { operation := .recordProbeResult sampleNodeId (.failed "timeout") ⟨"https://node.example", firstRouteKey.keyId⟩
    clock := clockAt 1700000000000
    entropy := sampleEntropy 0 }

/-- A node without a route target is not reached by the answer of a probe. -/
theorem reachability_sound_enrolled : ∃ s answered,
    s = run sampleEnv {} sampleEnrollment ∧ answered = step sampleEnv s sampleAnswer ∧
    s.db.getNodeRow sampleNodeId = some sampleNode ∧
    (answered.db.getNodeRow sampleNodeId).map (·.reachable) = some .unknown := by
  have hnode : (run sampleEnv {} sampleEnrollment).db.getNodeRow sampleNodeId = some sampleNode := by
    rw [run_sampleEnrollment]
    rfl
  refine ⟨_, _, rfl, rfl, hnode, ?_⟩
  obtain ⟨-, -, houtdated⟩ := reachability_sound sampleEnv sampleEnrollment sampleNodeId sampleNode hnode
  refine houtdated sampleAnswer _ _ rfl (.target ?_)
  rw [run_sampleEnrollment]
  exact Option.some_ne_none _ ∘ Eq.symm

end DshOrbit.Registry
