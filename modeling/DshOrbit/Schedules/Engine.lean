import DshOrbit.Fleet.Scrub
import DshOrbit.Schedules.Parser

/-!
# The schedule engine

Persistent schedules and their runs (`registry/schedule-engine.mjs`). The evaluator and the
startup reconciliation work through rows that they selected earlier; a dispatch submits a
job and then records the run and updates the schedule from the row it started with. Between
any two of these steps, and inside a dispatch while the transport is called, other operations
may take place.

## Main definitions

- `ScheduleRow`, `RunRow` — the tables
- `Engine` — the tables, the fleet scheduler and the rows that the engine holds
- `Engine.beginDispatch`, `Engine.record` — the two parts of `dispatchScheduleRun`
- `Engine.step` — one event
-/

namespace DshOrbit.Schedules

open DshOrbit.Lib DshOrbit.Fleet

/-! ### Tables -/

inductive ScheduleStatus
  | active
  | paused
  | completed
  | error
  deriving DecidableEq, Repr

inductive ConcurrencyPolicy
  | forbid
  | allow
  deriving DecidableEq, Repr

inductive MissedRunPolicy
  | skip
  | runOnce
  deriving DecidableEq, Repr

inductive TriggerType
  | scheduled
  | manual
  | catchUp
  deriving DecidableEq, Repr

inductive RunStatus
  | dispatched
  | completed
  | failed
  | partialResult
  | skipped
  | cancelled
  deriving DecidableEq, Repr

/-- A row of `fleet_schedules`. The columns with JSON texts hold the values. -/
structure ScheduleRow where
  scheduleId : String
  name : String
  description : Option String
  scheduleType : ScheduleType
  cronExpression : Option String
  intervalMs : Json
  taskType : String
  payload : Json
  targetSpec : Json
  requiredCapabilities : Json
  timeoutMs : Json
  status : ScheduleStatus
  concurrencyPolicy : ConcurrencyPolicy
  missedRunPolicy : MissedRunPolicy
  createdAt : String
  updatedAt : String
  createdBy : String
  nextRunAt : Option String
  lastRunAt : Option String
  totalRuns : ℤ
  maxRuns : Json

/-- A row of `fleet_schedule_runs`. -/
structure RunRow where
  runId : String
  scheduleId : String
  jobId : Option String
  triggeredAt : String
  triggerType : TriggerType
  status : RunStatus
  summary : Option Summary := none
  durationMs : Option ℤ := none
  errorCode : Option String := none
  errorMessage : Option String := none

/-! ### Creating schedules -/

def codedError (code message : String) : SubmitError := ⟨code, message⟩

/-- `sched_` with 16 to 64 hexadecimal digits. -/
def isScheduleId (s : String) : Bool :=
  let digits := s.toList.drop 6
  "sched_".toList.isPrefixOf s.toList && 16 ≤ digits.length && digits.length ≤ 64 &&
    digits.all isLowerHexChar

/-- The blanks around a numeric text that the affinity of a column skips. -/
def isSqlBlank (c : Char) : Bool := c == ' ' || (9 ≤ c.toNat && c.toNat ≤ 13)

/-- The number as which a column of type `INTEGER` stores a numeric text. -/
def affinityNumber (chars : List Char) : Option ℚ :=
  let trimmed := ((chars.dropWhile isSqlBlank).reverse.dropWhile isSqlBlank).reverse
  let value := match trimmed with
    | '+' :: rest => readDecimal rest
    | '-' :: rest => (readDecimal rest).map fun q => -q
    | rest => readDecimal rest
  value.bind roundDouble

/-- A value bound to a column of type `INTEGER`. -/
def bindInteger : Json → Except SubmitError Json
  | .null => .ok .null
  | .num number => .ok (.num number)
  | .str text => .ok (((affinityNumber text.toList).map Json.num).getD (.str text))
  | _ => .error ⟨"ERR_INVALID_ARG_TYPE", "Provided value cannot be bound to SQLite parameter"⟩

/-- A value bound to a column of type `TEXT NOT NULL`. -/
def bindText : Option Json → Except SubmitError String
  | some (.str text) => .ok text
  | some (.num number) => .ok (numberText number)
  | some .null => .error ⟨"ERR_SQLITE_ERROR", "NOT NULL constraint failed"⟩
  | _ => .error ⟨"ERR_INVALID_ARG_TYPE", "Provided value cannot be bound to SQLite parameter"⟩

/-- Whether a value counts as true. -/
def isTruthy : Json → Bool
  | .null | .bool false => false
  | .num number => number ≠ 0
  | .str text => text ≠ ""
  | _ => true

/-- `value ? value.trim() : null`. -/
def trimmedText (value : Json) : Except SubmitError (Option String) :=
  if isTruthy value then
    match value with
    | .str text => .ok (some (trim text))
    | _ => .error ⟨"", "value.trim is not a function"⟩
  else .ok none

/-- What `validateTarget` accepts: the shape of a target specification. -/
def validateTarget (targetSpec : Option Json) : Except SubmitError Json :=
  match targetSpec with
  | none => .error ⟨"invalid-target-spec", "targetSpec is required and must be an object"⟩
  | some spec =>
    if isWildcard spec then
      .error ⟨"wildcard-prohibited", "bare wildcard target specification is prohibited"⟩
    else
      match spec with
      | .obj fields =>
        let mode := (Json.obj fields).field "mode"
        if mode.bind Json.str? = some "explicit" then
          match (Json.obj fields).field "nodeIds" with
          | some (.arr (_ :: _)) => .ok spec
          | _ => .error ⟨"empty-target-set", "explicit targetSpec requires non-empty nodeIds array"⟩
        else if mode.bind Json.str? = some "capability" then
          match ((Json.obj fields).field "capability").bind Json.str? with
          | some capability =>
            if trim capability = "" then .error ⟨"invalid-capability-spec",
              "capability mode requires non-empty capability string"⟩
            else .ok spec
          | none => .error ⟨"invalid-capability-spec",
              "capability mode requires non-empty capability string"⟩
        else .error ⟨"unknown-target-mode", "unknown targetSpec mode: " ++ templateText mode⟩
      | _ => .error ⟨"invalid-target-spec", "targetSpec is required and must be an object"⟩

/-- The parameters of `createSchedule`, `none` for `undefined`. -/
structure ScheduleSpec where
  scheduleId : Option Json := none
  name : Option Json
  description : Option Json := none
  scheduleType : Option Json
  cronExpression : Option Json := none
  intervalMs : Option Json := none
  taskType : Option Json
  payload : Option Json := none
  targetSpec : Option Json
  requiredCapabilities : Option Json := none
  timeoutMs : Option Json := none
  concurrencyPolicy : Option Json := none
  missedRunPolicy : Option Json := none
  maxRuns : Option Json := none
  createdBy : String

namespace ScheduleSpec

def givenId (spec : ScheduleSpec) : Except SubmitError (Option String) :=
  let bad : SubmitError := ⟨"invalid-schedule-id", "invalid scheduleId: " ++
    templateText spec.scheduleId ++ "; must match /^sched_[0-9a-f]\x7b16,64\x7d$/"⟩
  match spec.scheduleId with
  | none | some .null => .ok none
  | some (.str text) => if isScheduleId text then .ok (some text) else .error bad
  | some _ => .error bad

def givenName (spec : ScheduleSpec) : Except SubmitError String :=
  let bad : SubmitError :=
    ⟨"invalid-schedule-name", "name is required and must be non-empty string"⟩
  match spec.name with
  | some (.str text) => if trim text = "" then .error bad else .ok (trim text)
  | _ => .error bad

def givenType (spec : ScheduleSpec) : Except SubmitError ScheduleType :=
  match spec.scheduleType.bind Json.str? with
  | some "cron" => .ok .cron
  | some "interval" => .ok .interval
  | some "once" => .ok .once
  | _ => .error ⟨"invalid-schedule-type", "scheduleType must be one of: cron, interval, once"⟩

def givenConcurrency (spec : ScheduleSpec) : Except SubmitError ConcurrencyPolicy :=
  match (spec.concurrencyPolicy.getD (.str "forbid")).str? with
  | some "forbid" => .ok .forbid
  | some "allow" => .ok .allow
  | _ => .error ⟨"invalid-concurrency-policy", "concurrencyPolicy must be one of: forbid, allow"⟩

def givenMissedRun (spec : ScheduleSpec) : Except SubmitError MissedRunPolicy :=
  match (spec.missedRunPolicy.getD (.str "skip")).str? with
  | some "skip" => .ok .skip
  | some "run-once" => .ok .runOnce
  | _ => .error ⟨"invalid-missed-run-policy", "missedRunPolicy must be one of: skip, run-once"⟩

/-- The checks that depend on the type of the schedule. -/
def checkTrigger (spec : ScheduleSpec) (scheduleType : ScheduleType) : Except SubmitError Unit :=
  match scheduleType with
  | .cron => (parseCronExpression (spec.cronExpression.bind Json.str?)).map fun _ => ()
  | .interval =>
    match validInterval (spec.intervalMs.getD .null) with
    | some _ => .ok ()
    | none => .error ⟨"invalid-interval", "intervalMs must be an integer >= 1000"⟩
  | .once => .ok ()

/-- The row that `createSchedule` inserts. -/
def toRow (spec : ScheduleSpec) (now : ℤ) (draw : String) : Except SubmitError ScheduleRow := do
  let givenId ← spec.givenId
  let name ← spec.givenName
  let scheduleType ← spec.givenType
  let concurrencyPolicy ← spec.givenConcurrency
  let missedRunPolicy ← spec.givenMissedRun
  spec.checkTrigger scheduleType
  let targetSpec ← validateTarget spec.targetSpec
  let nextRunAt ← calculateNextRunAt scheduleType (spec.cronExpression.bind Json.str?)
    (spec.intervalMs.getD .null) now
  let description ← trimmedText (spec.description.getD .null)
  let cronExpression ← trimmedText (spec.cronExpression.getD .null)
  let intervalMs ← bindInteger (spec.intervalMs.getD .null)
  let taskType ← bindText spec.taskType
  let timeoutMs ← bindInteger (spec.timeoutMs.getD .null)
  let maxRuns ← bindInteger (spec.maxRuns.getD .null)
  let payload := spec.payload.getD (.obj [])
  let requiredCapabilities := spec.requiredCapabilities.getD (.arr [])
  return {
    scheduleId := givenId.getD ("sched_" ++ draw)
    name, description, scheduleType, cronExpression, intervalMs, taskType
    payload := if isTruthy payload then payload else .obj []
    targetSpec
    requiredCapabilities := if isTruthy requiredCapabilities then requiredCapabilities else .arr []
    timeoutMs
    status := .active
    concurrencyPolicy, missedRunPolicy
    createdAt := toIsoString now
    updatedAt := toIsoString now
    createdBy := spec.createdBy
    nextRunAt
    lastRunAt := none
    totalRuns := 0
    maxRuns }

end ScheduleSpec

/-! ### Rows and jobs -/

/-- The schedule of a row, as every reader gets it: its payload is scrubbed. -/
def hydrateScheduleRow (row : ScheduleRow) : ScheduleRow :=
  { row with payload := scrubSensitiveCredentials row.payload }

namespace ScheduleRow

/-- `calculateNextRunAt(schedule, now)`. -/
def next (schedule : ScheduleRow) (now : ℤ) : Except SubmitError (Option String) :=
  calculateNextRunAt schedule.scheduleType schedule.cronExpression schedule.intervalMs now

/-- `UPDATE fleet_schedules SET status, next_run_at, updated_at`. -/
def arm (now : ℤ) (status : ScheduleStatus) (nextRunAt : Option String) (row : ScheduleRow) :
    ScheduleRow :=
  { row with status := status, nextRunAt := nextRunAt, updatedAt := toIsoString now }

/-- `schedule.maxRuns && totalRuns >= schedule.maxRuns`. -/
def limitReached (schedule : ScheduleRow) (totalRuns : ℤ) : Bool :=
  match schedule.maxRuns with
  | .num number => number ≠ 0 ∧ number ≤ totalRuns
  | .str text => text ≠ "" ∧ (numberOf text).any fun number => number ≤ (totalRuns : ℚ)
  | _ => false

end ScheduleRow

/-- `{ ...fields, [name]: value }`: an entry of that name keeps its place. -/
def setField (name : String) (value : Json) (fields : List (String × Json)) :
    List (String × Json) :=
  if fields.any fun entry => entry.1 == name then
    fields.map fun entry => if entry.1 == name then (name, value) else entry
  else fields ++ [(name, value)]

/-- The entries that spreading a value gives: the indices of an array or a text name theirs. -/
def spreadFields : Json → List (String × Json)
  | .obj fields => fields
  | .arr items => items.zipIdx.map fun entry => (toString entry.2, entry.1)
  | .str text => text.toList.zipIdx.map fun entry => (toString entry.2, .str (String.singleton entry.1))
  | _ => []

/-- The payload of a job: that of the schedule, marked with the schedule and the run. -/
def jobPayload (schedule : ScheduleRow) (runId : String) : Json :=
  .obj (setField "_fleetScheduleRunId" (.str runId)
    (setField "_fleetScheduleId" (.str schedule.scheduleId)
      (if isTruthy schedule.payload then spreadFields schedule.payload else [])))

/-- What a dispatch submits. -/
def scheduleSubmission (schedule : ScheduleRow) (runId : String) : Submission where
  taskType := some (.str schedule.taskType)
  payload := some (jobPayload schedule runId)
  targetSpec := some schedule.targetSpec
  requiredCapabilities := some schedule.requiredCapabilities
  timeoutMs := some schedule.timeoutMs
  operatorPrincipal := "schedule:" ++ schedule.createdBy

/-! ### The engine -/

/-- A dispatch between its submission and its bookkeeping. -/
structure Dispatch where
  schedule : ScheduleRow
  triggerType : TriggerType
  runId : String
  jobId : Option String
  error : Option SubmitError := none

/-- The random parts of the ids that a dispatch draws. -/
structure Draws where
  run : String
  job : String

structure Engine where
  schedules : List ScheduleRow := []
  runs : List RunRow := []
  fleet : Scheduler := {}
  running : Bool := false
  due : Option (List ScheduleRow) := none
  missed : List ScheduleRow := []
  dispatches : List Dispatch := []
  links : List (String × String) := []

namespace Engine

variable (settings : Settings) (registry : Option NodeTable) (now : ℤ)

def getRow (s : Engine) (scheduleId : String) : Option ScheduleRow :=
  s.schedules.find? fun row => row.scheduleId = scheduleId

def getSchedule (s : Engine) (scheduleId : String) : Option ScheduleRow :=
  (s.getRow scheduleId).map hydrateScheduleRow

def updateSchedule (scheduleId : String) (f : ScheduleRow → ScheduleRow) (s : Engine) : Engine :=
  { s with schedules := updateWhere (fun row => row.scheduleId = scheduleId) f s.schedules }

/-- Active rows whose next run is not later than now, as SQL compares the texts. -/
def dueRows (s : Engine) : List ScheduleRow :=
  s.schedules.filter fun row => row.status = .active &&
    row.nextRunAt.any fun nextRunAt => nextRunAt ≤ toIsoString now

/-- An insert of a run, refused without its schedule. -/
def insertRun (run : RunRow) (s : Engine) : Option Engine :=
  if s.schedules.any fun row => row.scheduleId = run.scheduleId then
    some { s with runs := s.runs ++ [run] }
  else none

theorem insertRun_eq_some {run : RunRow} {s s' : Engine} :
    s.insertRun run = some s' ↔
      (∃ row ∈ s.schedules, row.scheduleId = run.scheduleId) ∧
        s' = { s with runs := s.runs ++ [run] } := by
  rw [insertRun]
  split_ifs with h
  · obtain ⟨row, hrow, hid⟩ := List.any_eq_true.mp h
    rw [Option.some.injEq, eq_comm]
    exact ⟨fun heq => ⟨⟨row, hrow, of_decide_eq_true hid⟩, heq⟩, And.right⟩
  · refine ⟨False.elim, ?_⟩
    rintro ⟨⟨row, hrow, hid⟩, -⟩
    exact absurd (List.any_eq_true.mpr ⟨row, hrow, decide_eq_true hid⟩) h

/-- An exception ends the evaluation it was thrown in. -/
def abandon (triggerType : TriggerType) (s : Engine) : Engine :=
  if triggerType = .scheduled then { s with due := none } else s

/-! ### Dispatching -/

/-- The record of a run that was skipped because another one is in flight. -/
def skippedRun (schedule : ScheduleRow) (triggerType : TriggerType) (runId : String) : RunRow where
  runId := runId
  scheduleId := schedule.scheduleId
  jobId := none
  triggeredAt := toIsoString now
  triggerType := triggerType
  status := .skipped
  errorCode := some "concurrency-forbid"
  errorMessage := some "previous execution still in flight"

/-- The status and the next run of a schedule that is not completed. -/
def afterSkip (schedule : ScheduleRow) : ScheduleStatus × Option String :=
  match schedule.next now with
  | .ok nextRunAt => (schedule.status, nextRunAt)
  | .error _ => (.error, none)

/-- The branch of `dispatchScheduleRun` that records a skipped run. -/
def recordSkip (schedule : ScheduleRow) (triggerType : TriggerType) (runId : String)
    (s : Engine) : Engine :=
  match s.insertRun (skippedRun now schedule triggerType runId) with
  | none => s.abandon triggerType
  | some s =>
    s.updateSchedule schedule.scheduleId
      (ScheduleRow.arm now (afterSkip now schedule).1 (afterSkip now schedule).2)

/-- `dispatchScheduleRun` up to its bookkeeping. -/
def beginDispatch (schedule : ScheduleRow) (triggerType : TriggerType) (draws : Draws)
    (s : Engine) : Engine :=
  let runId := "srun_" ++ draws.run
  if schedule.concurrencyPolicy = .forbid ∧
      s.fleet.hasActiveJobForSchedule schedule.scheduleId = true then
    s.recordSkip now schedule triggerType runId
  else
    match s.fleet.submitJob settings registry now draws.job (scheduleSubmission schedule runId) with
    | .ok (fleet, jobId) =>
      { s with
        fleet := fleet
        dispatches := s.dispatches ++
          [{ schedule := schedule, triggerType := triggerType, runId := runId, jobId := some jobId }]
        links := s.links ++ [(jobId, runId)] }
    | .error e =>
      { s with
        dispatches := s.dispatches ++ [{ schedule := schedule, triggerType := triggerType,
                                         runId := runId, jobId := none, error := some e }] }

/-- The status and the next run of a schedule after a dispatch. -/
def afterDispatch (schedule : ScheduleRow) : ScheduleStatus × Option String :=
  if schedule.limitReached (schedule.totalRuns + 1) then (.completed, none)
  else afterSkip now schedule

/-- The record of a dispatch. -/
def dispatchedRun (dispatch : Dispatch) : RunRow where
  runId := dispatch.runId
  scheduleId := dispatch.schedule.scheduleId
  jobId := dispatch.jobId
  triggeredAt := toIsoString now
  triggerType := dispatch.triggerType
  status := if dispatch.error.isNone then .dispatched else .failed
  errorCode := dispatch.error.map fun e => if e.code = "" then "dispatch-error" else e.code
  errorMessage := dispatch.error.map SubmitError.message

/-- A schedule after a dispatch that started from an earlier row of it. -/
def accountFor (schedule row : ScheduleRow) : ScheduleRow :=
  { row.arm now (afterDispatch now schedule).1 (afterDispatch now schedule).2 with
    totalRuns := schedule.totalRuns + 1
    lastRunAt := some (toIsoString now) }

/-- The bookkeeping of a dispatch, from the schedule it started with. -/
def recordDispatch (dispatch : Dispatch) (s : Engine) : Engine :=
  match s.insertRun (dispatchedRun now dispatch) with
  | none => s.abandon dispatch.triggerType
  | some s => s.updateSchedule dispatch.schedule.scheduleId (accountFor now dispatch.schedule)

/-- The bookkeeping of the dispatch that began last. -/
def record (s : Engine) : Engine :=
  match s.dispatches.getLast? with
  | none => s
  | some dispatch => { s with dispatches := s.dispatches.dropLast }.recordDispatch now dispatch

/-! ### The evaluator and the startup reconciliation -/

/-- `evaluateDueSchedules` up to its loop. -/
def evaluate (s : Engine) : Engine :=
  if s.due.isSome ∨ s.running = false then s
  else
    { s with due := some (((s.dueRows now).insertionSort fun a b =>
        a.nextRunAt.getD "" ≤ b.nextRunAt.getD "").take 50) }

/-- One round of the loop; the next one begins only after the bookkeeping of this one. -/
def evaluateNext (draws : Draws) (s : Engine) : Engine :=
  if s.dispatches.any fun dispatch => dispatch.triggerType = .scheduled then s
  else
    match s.due with
    | none => s
    | some [] => { s with due := none }
    | some (row :: rest) =>
      if s.running then
        { s with due := some rest }.beginDispatch settings registry now (hydrateScheduleRow row)
          .scheduled draws
      else { s with due := none }

/-- `start` up to the loop of `reconcileOnStartup`. -/
def start (s : Engine) : Engine :=
  if s.running then s
  else { s with running := true, missed := s.missed ++ s.dueRows now }

/-- The reconciliation of one missed row. -/
def reconcileNext (draws : Draws) (s : Engine) : Engine :=
  match s.missed with
  | [] => s
  | row :: rest =>
    let s := { s with missed := rest }
    match row.missedRunPolicy with
    | .runOnce => s.beginDispatch settings registry now (hydrateScheduleRow row) .catchUp draws
    | .skip =>
      match row.next now with
      | .ok nextRunAt =>
        s.updateSchedule row.scheduleId fun row => row.arm now row.status nextRunAt
      | .error _ => s.updateSchedule row.scheduleId (ScheduleRow.arm now .error none)

/-! ### Operations on schedules -/

def createSchedule (spec : ScheduleSpec) (draw : String) (s : Engine) : Except SubmitError Engine :=
  match spec.toRow now draw with
  | .error e => .error e
  | .ok row =>
    match insertUnique ScheduleRow.scheduleId row s.schedules with
    | some schedules => .ok { s with schedules := schedules }
    | none => .error ⟨"ERR_SQLITE_ERROR", "UNIQUE constraint failed: fleet_schedules.schedule_id"⟩

def pauseSchedule (scheduleId : String) (s : Engine) : Engine :=
  match s.getSchedule scheduleId with
  | none => s
  | some current =>
    if current.status = .active then
      s.updateSchedule scheduleId fun row => row.arm now .paused row.nextRunAt
    else s

def resumeSchedule (scheduleId : String) (s : Engine) : Engine :=
  match s.getSchedule scheduleId with
  | none => s
  | some current =>
    if current.status = .paused then
      match current.next now with
      | .ok nextRunAt => s.updateSchedule scheduleId (ScheduleRow.arm now .active nextRunAt)
      | .error _ => s
    else s

/-- The runs of a schedule are deleted with it. -/
def deleteSchedule (scheduleId : String) (s : Engine) : Engine :=
  { s with
    schedules := deleteWhere (fun row => row.scheduleId = scheduleId) s.schedules
    runs := deleteWhere (fun run => run.scheduleId = scheduleId) s.runs }

/-- The trigger route: the schedule is read and dispatched at once. -/
def trigger (scheduleId : String) (draws : Draws) (s : Engine) : Engine :=
  match s.getSchedule scheduleId with
  | none => s
  | some schedule => s.beginDispatch settings registry now schedule .manual draws

/-! ### Jobs -/

/-- The status that a run takes from its job; a job that is not over has none that the table
allows. -/
def runStatusOf : FleetJobStatus → Option RunStatus
  | .completed => some .completed
  | .failed => some .failed
  | .partialResult => some .partialResult
  | .pending | .running => none

/-- The execution of a job has come to its end. -/
def settledJob (job : Job) : Bool :=
  job.finished || job.workers.any fun worker => match worker with
    | .rejected => true
    | _ => false

/-- The callbacks on the end of a job update the runs it was dispatched for. -/
def report (jobId : String) (s : Engine) : Engine :=
  match s.fleet.getJob jobId with
  | none => s
  | some job =>
    if settledJob job then
      { s with
        links := deleteWhere (fun link => link.1 = jobId) s.links
        runs := updateWhere (fun run => s.links.contains (jobId, run.runId))
          (fun run =>
            match runStatusOf job.status with
            | some status =>
              { run with
                status := status
                summary := some job.summary
                durationMs := match job.finishedAt, job.startedAt with
                  | some finishedAt, some startedAt => some (max 0 (finishedAt - startedAt))
                  | _, _ => none }
            | none =>
              { run with
                status := .failed
                errorCode := some "run-update-error"
                errorMessage := some "CHECK constraint failed: fleet_schedule_runs" }) s.runs }
    else s

/-! ### Events -/

inductive Event
  | create (spec : ScheduleSpec) (draw : String)
  | pause (scheduleId : String)
  | resume (scheduleId : String)
  | delete (scheduleId : String)
  | trigger (registry : Option NodeTable) (scheduleId : String) (draws : Draws)
  | start
  | stop
  | reconcileNext (registry : Option NodeTable) (draws : Draws)
  | evaluate
  | evaluateNext (registry : Option NodeTable) (draws : Draws)
  | record
  | fleet (event : Scheduler.Event)
  | report (jobId : String)
  | restart

/-- The ids that an event draws are new. -/
def fresh (draws : Draws) (s : Engine) : Bool :=
  !(s.runs.any fun run => run.runId = "srun_" ++ draws.run) &&
    !(s.links.any fun link => link.2 = "srun_" ++ draws.run) &&
    !(s.dispatches.any fun dispatch => dispatch.runId = "srun_" ++ draws.run) &&
    !(s.fleet.jobs.any fun job => job.jobId = "job_" ++ draws.job)

/-- One event at a reading of the clock. A random id is never drawn twice, and the process ends
only between tasks. -/
def step (s : Engine) : ℤ × Event → Engine
  | (now, .create spec draw) =>
    match s.createSchedule now spec draw with
    | .ok s' => s'
    | .error _ => s
  | (now, .pause scheduleId) => s.pauseSchedule now scheduleId
  | (now, .resume scheduleId) => s.resumeSchedule now scheduleId
  | (_, .delete scheduleId) => s.deleteSchedule scheduleId
  | (now, .trigger registry scheduleId draws) =>
    if s.fresh draws then s.trigger settings registry now scheduleId draws else s
  | (now, .start) => s.start now
  | (_, .stop) => { s with running := false }
  | (now, .reconcileNext registry draws) =>
    if s.fresh draws then s.reconcileNext settings registry now draws else s
  | (now, .evaluate) => s.evaluate now
  | (now, .evaluateNext registry draws) =>
    if s.fresh draws then s.evaluateNext settings registry now draws else s
  | (now, .record) => s.record now
  | (now, .fleet event) => { s with fleet := s.fleet.step settings (now, event) }
  | (_, .report jobId) => s.report jobId
  | (_, .restart) =>
    if s.dispatches.isEmpty then { schedules := s.schedules, runs := s.runs } else s

/-- The engine after a run of events. -/
def run (events : List (ℤ × Event)) : Engine := runFrom (step settings) {} events

end Engine

end DshOrbit.Schedules
