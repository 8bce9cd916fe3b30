import DshOrbit.Fleet.Job
import DshOrbit.Lib.Run
import DshOrbit.Lib.JsString
import DshOrbit.Protocol

/-!
# The fleet job scheduler

What `submitJob` accepts (`registry/fleet-scheduler.mjs`), and the scheduler as a system:
jobs are submitted, their workers and calls go on in any order, and any of them may be
cancelled in between.

## Main definitions

- `validateFleetTargetSpec`, `submitJob` — the checks and the effect of a submission
- `hasActiveJobForSchedule` — what the schedules ask
- `Scheduler.step` — one event
-/

namespace DshOrbit.Fleet

open DshOrbit.Lib DshOrbit.Registry DshOrbit.Protocol

/-- `${value}`. -/
def templateText : Option Json → String
  | none => "undefined"
  | some value => value.toText

/-- An error with the code that `submitJob` gives it. -/
structure SubmitError where
  code : String
  message : String
  deriving DecidableEq, Repr

/-! ### Targets -/

/-- `validateTargetScope` (`registry/flow-tracker.mjs`): the node that a text names. -/
def validateTargetScope (targetNodeId : Json) : Option String :=
  match targetNodeId with
  | .str text =>
    let trimmed := trim text
    let lower := toLowerCase trimmed
    if trimmed = "" then none
    else if lower = "*" ∨ lower = "all" ∨ lower = "any" ∨ lower = "broadcast" ∨ lower = "cluster" ∨
        trimmed.toList.contains ',' ∨ trimmed.toList.contains ' ' ∨ trimmed.toList.contains ';' then
      none
    else
      let normalized := if "node_".toList.isPrefixOf trimmed.toList then trimmed
        else "node_" ++ trimmed
      if isNodeId normalized then some normalized else none
  | _ => none

def isWildcard (targetSpec : Json) : Bool :=
  targetSpec.str? = some "*" || (targetSpec.field "mode").bind Json.str? = some "all" ||
    (targetSpec.field "mode").bind Json.str? = some "broadcast" ||
    (targetSpec.field "nodeIds").bind Json.str? = some "*"

/-- The explicitly named nodes, each once. -/
def explicitTargets (registry : Option NodeTable) :
    List Json → List String → Except SubmitError (List String)
  | [], seen => .ok seen
  | raw :: rest, seen =>
    match validateTargetScope raw with
    | none => .error ⟨"invalid-target-node", "invalid target node: " ++ raw.toText⟩
    | some nodeId =>
      let known := match registry with
        | none => true
        | some table => (table.db.getNodeRow nodeId).any fun row => row.state ≠ .tombstoned
      if !known then
        .error ⟨"target-not-found", "node not found or tombstoned: " ++ nodeId⟩
      else if nodeId ∈ seen then explicitTargets registry rest seen
      else explicitTargets registry rest (seen ++ [nodeId])

/-- The active nodes that show a capability. -/
def capableTargets (registry : Option NodeTable) (capName : String) : List String :=
  match registry with
  | none => []
  | some table =>
    (table.db.listNodes.filter fun node => node.state = .active &&
      node.health.capabilities.any (fun capability => capability.name = capName) &&
      !node.health.capabilitiesStale).map NodeSummary.nodeId

def validateFleetTargetSpec (registry : Option NodeTable) (targetSpec : Option Json) :
    Except SubmitError (List String) :=
  if targetSpec.any isWildcard then
    .error ⟨"wildcard-prohibited", "bare wildcard target specification is prohibited"⟩
  else
    match targetSpec with
    | some (.obj fields) =>
      let mode := (Json.obj fields).field "mode"
      if mode.bind Json.str? = some "explicit" then
        match (Json.obj fields).field "nodeIds" with
        | some (.arr (raw :: rest)) => explicitTargets registry (raw :: rest) []
        | _ => .error ⟨"empty-target-set", "explicit targetSpec requires non-empty nodeIds array"⟩
      else if mode.bind Json.str? = some "capability" then
        match ((Json.obj fields).field "capability").bind Json.str? with
        | some capability =>
          if trim capability = "" then
            .error ⟨"invalid-capability-spec", "capability mode requires non-empty capability string"⟩
          else if capableTargets registry (trim capability) = [] then
            .error ⟨"empty-target-set",
              "no qualified active nodes possess capability " ++ trim capability⟩
          else .ok (capableTargets registry (trim capability))
        | none =>
          .error ⟨"invalid-capability-spec", "capability mode requires non-empty capability string"⟩
      else .error ⟨"unknown-target-mode", "unknown targetSpec mode: " ++ templateText mode⟩
    | _ => .error ⟨"invalid-target-spec", "targetSpec is required and must be an object"⟩

/-! ### Submissions -/

def isJobId (s : String) : Bool :=
  "job_".toList.isPrefixOf s.toList && matchesHex 32 (String.ofList (s.toList.drop 4))

def allowedTaskTypes : List String := ["command", "diagnostic", "health-check", "package-audit"]

mutual

/-- How deep values are nested inside a value. -/
def nesting : Json → ℕ
  | .arr items => nestingItems items
  | .obj fields => nestingFields fields
  | _ => 0

def nestingItems : List Json → ℕ
  | [] => 0
  | item :: rest => max (nesting item + 1) (nestingItems rest)

def nestingFields : List (String × Json) → ℕ
  | [] => 0
  | (_, value) :: rest => max (nesting value + 1) (nestingFields rest)

end

/-- The parameters of `submitJob` as its callers give them, `none` for `undefined`. -/
structure Submission where
  jobId : Option Json := none
  taskType : Option Json
  payload : Option Json
  targetSpec : Option Json
  requiredCapabilities : Option Json
  timeoutMs : Option Json
  operatorPrincipal : String

/-- The timeout of the job: its own, or else the one in its payload, rounded down. -/
def parsedTimeout (timeoutMs : Option Json) (payload : Json) : Option ℤ :=
  match timeoutMs with
  | some (.num number) =>
    if 0 < number then some number.floor else (Job.payloadTimeoutMs payload).map Rat.floor
  | _ => (Job.payloadTimeoutMs payload).map Rat.floor

/-- The payload of a job, checked. -/
def validatePayload (payload : Option Json) : Except SubmitError Json :=
  match payload.getD (.obj []) with
  | .obj fields =>
    if 64 < nesting (.obj fields) then
      .error ⟨"invalid-payload",
        "payload must be JSON-serializable: payload exceeds maximum nesting depth"⟩
    else .ok (.obj fields)
  | _ => .error ⟨"invalid-payload", "payload must be an object"⟩

structure Scheduler where
  jobs : List Job := []

namespace Scheduler

def getJob (s : Scheduler) (jobId : String) : Option Job :=
  s.jobs.find? fun job => job.jobId = jobId

/-- Whether a pending or running job carries the id of the schedule in its payload. -/
def hasActiveJobForSchedule (s : Scheduler) (scheduleId : String) : Bool :=
  s.jobs.any fun job =>
    (job.payload.field "_fleetScheduleId").bind Json.str? = some scheduleId &&
      (job.status = .pending || job.status = .running)

variable (settings : Settings) (registry : Option NodeTable) (now : ℤ)

/-- The record of a job that passed the checks. -/
def newJob (jobId taskType : String) (payload targetSpec : Json) (targets : List String)
    (submission : Submission) : Job where
  jobId := jobId
  taskType := taskType
  payload := payload
  targetSpec := targetSpec
  requiredCapabilities := (submission.requiredCapabilities.bind Json.arr?).getD []
  timeoutMs := parsedTimeout submission.timeoutMs payload
  operatorPrincipal := if submission.operatorPrincipal = "" then "operator"
    else submission.operatorPrincipal
  createdAt := now
  summary := { totalTargets := targets.length }
  results := targets.map fun nodeId => { nodeId := nodeId }

/-- The job id that a caller gives; `null` is no id. -/
def givenJobId (jobId : Option Json) : Except SubmitError (Option String) :=
  let bad : SubmitError := ⟨"invalid-job-id", "invalid jobId: " ++ templateText jobId ++
    "; must match /^job_[0-9a-f]\x7b32\x7d$/"⟩
  match jobId with
  | none | some .null => .ok none
  | some (.str text) => if isJobId text then .ok (some text) else .error bad
  | some _ => .error bad

/-- The task type, one of those allowed. -/
def givenTaskType (taskType : Option Json) : Except SubmitError String :=
  let bad : SubmitError := ⟨"invalid-task-type", "invalid taskType: " ++ templateText taskType ++
    "; must be one of " ++ String.intercalate ", " allowedTaskTypes⟩
  match taskType with
  | some (.str text) => if text ∈ allowedTaskTypes then .ok text else .error bad
  | _ => .error bad

/-- The checks of `submitJob` in their order: the id of a job that exists already, or the
new job. -/
def validateSubmission (s : Scheduler) (draw : String) (submission : Submission) :
    Except SubmitError (String ⊕ Job) := do
  let jobId ← givenJobId submission.jobId
  if (jobId.bind s.getJob).isSome then
    return .inl (jobId.getD "")
  let taskType ← givenTaskType submission.taskType
  let targets ← validateFleetTargetSpec registry submission.targetSpec
  let payload ← validatePayload submission.payload
  return .inr (newJob now (jobId.getD ("job_" ++ draw)) taskType payload
    (submission.targetSpec.getD .null) targets submission)

/-- `submitJob`: the job begins at once. -/
def submitJob (s : Scheduler) (draw : String) (submission : Submission) :
    Except SubmitError (Scheduler × String) :=
  (s.validateSubmission registry now draw submission).map fun
    | .inl jobId => (s, jobId)
    | .inr job => ({ jobs := s.jobs ++ [job.beginExecution settings registry now] }, job.jobId)

/-! ### Events -/

/-- A submission with the registry it is checked against, or a task of a job. The random
part of a job id is drawn with the submission. -/
inductive Event
  | submit (registry : Option NodeTable) (draw : String) (submission : Submission)
  | act (jobId : String) (action : Job.Action)

/-- One event at a reading of the clock. A random id is never drawn twice. -/
def step (s : Scheduler) : ℤ × Event → Scheduler
  | (now, .submit registry draw submission) =>
    if s.jobs.any fun job => job.jobId = "job_" ++ draw then s
    else
      match s.submitJob settings registry now draw submission with
      | .ok (s', _) => s'
      | .error _ => s
  | (now, .act jobId action) =>
    { jobs := updateWhere (fun job => job.jobId = jobId)
        (fun job => job.act settings now action) s.jobs }

/-- The scheduler after a run of events. -/
def run (events : List (ℤ × Event)) : Scheduler := runFrom (step settings) {} events

end Scheduler

end DshOrbit.Fleet
