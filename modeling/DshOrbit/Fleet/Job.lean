import DshOrbit.Lib.Json
import DshOrbit.Registry.Evidence

/-!
# Fleet jobs

A job of `registry/fleet-scheduler.mjs` while it is executed: its targets and their
results, the workers that take targets from a queue and hand them to the transport, and
what is still outstanding there.

A worker awaits the transport or its timer, whichever comes first, and goes on in a task
of its own. Between any two tasks the job may be cancelled. A call that outlived its timer
stays outstanding until the transport settles it.

## Main definitions

- `Job` — the record of a job, with its workers and the outstanding transport calls
- `Job.advance`, `Job.settle`, `Job.expire`, `Job.resume`, `Job.finish`, `Job.cancel` — the
  tasks of `executeJob` and `cancelJob`
- `Job.act` — one of them at a reading of the clock
-/

namespace DshOrbit.Fleet

open DshOrbit.Lib DshOrbit.Registry

/-! ### Statuses -/

inductive FleetJobStatus
  | pending
  | running
  | completed
  | failed
  | partialResult
  deriving DecidableEq, Repr

def FleetJobStatus.isTerminal : FleetJobStatus → Bool
  | .completed | .failed | .partialResult => true
  | .pending | .running => false

/-- The status of a task on a node; `other` is a value outside the vocabulary, `none` if
there is none. -/
inductive NodeTaskStatus
  | pending
  | running
  | completed
  | failed
  | timeout
  | unreachable
  | skipped
  | other (value : Option String)
  deriving DecidableEq, Repr

namespace NodeTaskStatus

/-- The status as which a value is stored and compared. -/
def ofValue : Option Json → NodeTaskStatus
  | none => .other none
  | some (.str value) =>
    if value = "pending" then .pending
    else if value = "running" then .running
    else if value = "completed" then .completed
    else if value = "failed" then .failed
    else if value = "timeout" then .timeout
    else if value = "unreachable" then .unreachable
    else if value = "skipped" then .skipped
    else .other (some value)
  | some value => .other (some value.toText)

def isTerminal : NodeTaskStatus → Bool
  | .completed | .failed | .timeout | .unreachable | .skipped => true
  | .pending | .running | .other _ => false

/-- A task that `cancelJob` marks as failed. -/
def isOpen : NodeTaskStatus → Bool
  | .pending | .running => true
  | _ => false

end NodeTaskStatus

structure Summary where
  totalTargets : ℕ
  completed : ℕ := 0
  failed : ℕ := 0
  skipped : ℕ := 0
  timeout : ℕ := 0
  unreachable : ℕ := 0
  deriving DecidableEq, Repr

/-- The counter that a returned status moves: the last branch takes every other value. -/
def Summary.count (summary : Summary) : NodeTaskStatus → Summary
  | .completed => { summary with completed := summary.completed + 1 }
  | .timeout => { summary with timeout := summary.timeout + 1 }
  | .unreachable => { summary with unreachable := summary.unreachable + 1 }
  | _ => { summary with failed := summary.failed + 1 }

/-- `computedTotal` of the accounting check. -/
def Summary.computedTotal (summary : Summary) : ℕ :=
  summary.completed + summary.failed + summary.skipped + summary.timeout + summary.unreachable

/-! ### Results and transport calls -/

structure NodeTask where
  nodeId : String
  status : NodeTaskStatus := .pending
  reason : Option String := none
  error : Option Json := none
  exitCode : Option Json := none
  stdout : Option Json := none
  stderr : Option Json := none
  startedAt : Option ℤ := none
  finishedAt : Option ℤ := none
  durationMs : Option ℤ := none

/-- What the transport returns for a node: any of the fields may be missing. -/
structure DispatchResult where
  status : Option Json := none
  exitCode : Option Json := none
  stdout : Option Json := none
  stderr : Option Json := none
  error : Option Json := none

/-- A value that has no properties. -/
inductive Nullish
  | null
  | undefined
  deriving DecidableEq, Repr

def Nullish.text : Nullish → String
  | .null => "null"
  | .undefined => "undefined"

/-- How a call of the transport settles. -/
inductive Settlement
  | resolved (result : DispatchResult)
  | resolvedNullish (value : Nullish)
  | rejected (code message : Option Json)
  | rejectedNullish (value : Nullish)

structure Call where
  nodeId : String
  startedAt : ℤ
  timeoutMs : ℚ

inductive Worker
  | ready
  | dispatching (nodeId : String)
  | settled (nodeId : String) (outcome : Settlement)
  | ended
  | rejected

/-- The node a worker has taken and not yet reported. -/
def Worker.nodeId? : Worker → Option String
  | .dispatching nodeId | .settled nodeId _ => some nodeId
  | .ready | .ended | .rejected => none

def Worker.isEnded : Worker → Bool
  | .ended => true
  | _ => false

/-- `{ code, message }` of an error. -/
def errorObject (code : Json) (message : Option Json) : Json :=
  .obj (("code", code) :: (message.map fun text => ("message", text)).toList)

/-- `value || fallback`. -/
def orElse (value : Option Json) (fallback : Json) : Json :=
  match value with
  | none | some .null | some (.bool false) => fallback
  | some (.num number) => if number = 0 then fallback else .num number
  | some (.str text) => if text = "" then fallback else .str text
  | some other => other

def jobCancelled (message : String) : Json :=
  errorObject (.str "job-cancelled") (some (.str message))

namespace NodeTask

variable (now : ℤ)

/-- The task is handed to the transport. -/
def start (task : NodeTask) : NodeTask :=
  { task with status := .running, startedAt := some now }

/-- The task is over after a dispatch. -/
def conclude (status : NodeTaskStatus) (task : NodeTask) : NodeTask :=
  { task with
    status := status
    finishedAt := some now
    durationMs := some (max 0 (now - task.startedAt.getD now)) }

/-- What the transport returned is stored. -/
def store (result : DispatchResult) (task : NodeTask) : NodeTask :=
  { task.conclude now (.ofValue result.status) with
    exitCode := result.exitCode.or task.exitCode
    stdout := result.stdout.or task.stdout
    stderr := result.stderr.or task.stderr
    error := result.error.or task.error }

/-- An exception is stored. -/
def storeError (code message : Option Json) (task : NodeTask) : NodeTask :=
  { task.conclude now .failed with
    error := some (errorObject (orElse code (.str "dispatch-error")) message) }

def skip (reason : String) (task : NodeTask) : NodeTask :=
  { nodeId := task.nodeId, status := .skipped, reason := some reason, finishedAt := some now }

/-- The task was cancelled before its dispatch. -/
def drop (task : NodeTask) : NodeTask :=
  { nodeId := task.nodeId
    status := .failed
    error := some (jobCancelled "job was cancelled before dispatch")
    finishedAt := some now }

def cancel (task : NodeTask) : NodeTask :=
  { task with
    status := .failed
    error := some (jobCancelled "job was cancelled")
    finishedAt := some now }

end NodeTask

/-! ### Jobs -/

structure Settings where
  maxConcurrentDispatches : ℕ := 8
  defaultTimeoutMs : ℚ := 30000

def Settings.poolLimit (settings : Settings) : ℕ :=
  max 1 (min 128 settings.maxConcurrentDispatches)

def Settings.fallbackTimeoutMs (settings : Settings) : ℚ := max 100 settings.defaultTimeoutMs

structure Job where
  jobId : String
  taskType : String
  payload : Json
  targetSpec : Json
  requiredCapabilities : List Json
  timeoutMs : Option ℤ
  operatorPrincipal : String
  createdAt : ℤ
  startedAt : Option ℤ := none
  finishedAt : Option ℤ := none
  status : FleetJobStatus := .pending
  summary : Summary
  results : List NodeTask
  aborted : Bool := false
  queue : List String := []
  workers : List Worker := []
  calls : List Call := []
  finished : Bool := false

namespace Job

/-- The nodes of the results. -/
def targets (job : Job) : List String := job.results.map NodeTask.nodeId

def task (job : Job) (nodeId : String) : Option NodeTask :=
  job.results.find? fun task => task.nodeId = nodeId

def updateTask (nodeId : String) (f : NodeTask → NodeTask) (job : Job) : Job :=
  { job with results := updateWhere (fun task => task.nodeId = nodeId) f job.results }

def setWorker (i : ℕ) (worker : Worker) (job : Job) : Job :=
  { job with workers := job.workers.set i worker }

/-- `typeof job.payload?.timeoutMs === "number" && job.payload.timeoutMs > 0`. -/
def payloadTimeoutMs (payload : Json) : Option ℚ :=
  match payload.field "timeoutMs" with
  | some (.num number) => if 0 < number then some number else none
  | _ => none

/-- The timeout of each task of the job. -/
def taskTimeoutMs (settings : Settings) (job : Job) : ℚ :=
  match job.timeoutMs with
  | some number =>
    if 0 < number then number
    else (payloadTimeoutMs job.payload).getD settings.fallbackTimeoutMs
  | none => (payloadTimeoutMs job.payload).getD settings.fallbackTimeoutMs

end Job

/-- The delay after which `setTimeout` fires: a number it cannot take counts as 1. -/
def timerDelay (ms : ℚ) : ℤ := if 1 ≤ ms ∧ ms ≤ 2147483647 then ms.floor else 1

/-! ### Eligibility -/

/-- The registry that the scheduler asks: one row for each node id. -/
structure NodeTable where
  db : Db
  unique : (db.nodes.map NodeRow.nodeId).Nodup

/-- The registry after a run of its operations. -/
def NodeTable.afterRun (env : Env) (calls : List Registry.Call) : NodeTable where
  db := (Registry.run env {} calls).db
  unique := nodup_nodes_run env calls

/-- Why a target is skipped before dispatch; none where it is eligible. -/
def skipReason (registry : Option NodeTable) (requiredCapabilities : List Json)
    (nodeId : String) : Option String :=
  if requiredCapabilities.isEmpty then none
  else
    match registry with
    | none => some "capability-evidence-stale"
    | some table =>
      match table.db.getNodeRow nodeId with
      | none => some "target-not-found"
      | some row =>
        if row.capabilitiesStale then some "capability-evidence-stale"
        else if requiredCapabilities.all fun required =>
            row.capabilities.any fun capability => required.str? = some capability.name then none
        else some "lacks-capability"

namespace Job

variable (settings : Settings) (registry : Option NodeTable) (now : ℤ)

/-- Step A for one target. -/
def filterTarget (job : Job) (nodeId : String) : Job :=
  if job.aborted then
    { job.updateTask nodeId (NodeTask.drop now) with
      summary.failed := job.summary.failed + 1 }
  else
    match skipReason registry job.requiredCapabilities nodeId with
    | some reason =>
      { job.updateTask nodeId (NodeTask.skip now reason) with
        summary.skipped := job.summary.skipped + 1 }
    | none => { job with queue := job.queue ++ [nodeId] }

/-- Step A: the eligible targets are queued. -/
def filterTargets (job : Job) : Job := job.targets.foldl (filterTarget registry now) job

/-- The workers stand before their loops. -/
def staff (job : Job) : Job :=
  { job with workers := List.replicate (min settings.poolLimit job.queue.length) .ready }

/-- `executeJob` up to its first await. -/
def beginExecution (job : Job) : Job :=
  (({ job with status := .running, startedAt := some now } : Job).filterTargets registry now).staff
    settings

/-- A worker hands a target to the transport. -/
def startDispatch (i : ℕ) (nodeId : String) (job : Job) : Job :=
  { job.updateTask nodeId (NodeTask.start now) with
    queue := job.queue.tail
    calls := job.calls ++
      [{ nodeId := nodeId, startedAt := now, timeoutMs := job.taskTimeoutMs settings }]
    workers := job.workers.set i (.dispatching nodeId) }

/-- A worker at its loop condition: it ends, or takes the next target from the queue. -/
def advance (i : ℕ) (job : Job) : Job :=
  match job.workers[i]? with
  | some .ready =>
    match job.queue with
    | [] => job.setWorker i .ended
    | nodeId :: rest =>
      if job.aborted then job.setWorker i .ended
      else
        match job.task nodeId with
        | none => { job with queue := rest }.setWorker i .rejected
        | some task =>
          if task.status = .failed then { job with queue := rest }
          else job.startDispatch settings now i nodeId
  | _ => job

/-- The transport settles a call; a worker that still waits for it goes on from there. -/
def settle (nodeId : String) (outcome : Settlement) (job : Job) : Job :=
  if job.calls.any fun call => call.nodeId = nodeId then
    { job with
      calls := deleteWhere (fun call => call.nodeId = nodeId) job.calls
      workers := job.workers.map fun worker =>
        match worker with
        | .dispatching other => if other = nodeId then .settled nodeId outcome else worker
        | _ => worker }
  else job

/-- What the timer resolves the race with. -/
def timeoutResult (call : Call) : DispatchResult :=
  { status := some (.str "timeout")
    error := some (errorObject (.str "task-timeout") (some (.str
      ("task on node " ++ call.nodeId ++ " timed out after " ++ numberText call.timeoutMs ++
        "ms")))) }

/-- The timer of a worker's dispatch fires. The call itself stays outstanding. -/
def expire (i : ℕ) (job : Job) : Job :=
  match job.workers[i]? with
  | some (.dispatching nodeId) =>
    match job.calls.find? fun call => call.nodeId = nodeId with
    | some call =>
      if call.startedAt + timerDelay call.timeoutMs ≤ now then
        job.setWorker i (.settled nodeId (.resolved (timeoutResult call)))
      else job
    | none => job
  | _ => job

/-- The branch of `dispatchNext` that records an exception. -/
def recordFailure (nodeId : String) (code message : Option Json) (job : Job) : Job :=
  { job.updateTask nodeId (NodeTask.storeError now code message) with
    summary.failed := job.summary.failed + 1 }

/-- The branch of `dispatchNext` that records what the transport returned. -/
def recordResult (nodeId : String) (result : DispatchResult) (job : Job) : Job :=
  { job.updateTask nodeId (NodeTask.store now result) with
    summary := job.summary.count (.ofValue result.status) }

/-- A worker goes on after its dispatch. -/
def resume (i : ℕ) (job : Job) : Job :=
  match job.workers[i]? with
  | some (.settled nodeId outcome) =>
    match job.task nodeId with
    | none => job.setWorker i .rejected
    | some task =>
      if job.aborted ∨ task.status = .failed then job.setWorker i .ready
      else
        match outcome with
        | .resolved result => (job.recordResult now nodeId result).setWorker i .ready
        | .resolvedNullish value =>
          (job.recordFailure now nodeId none (some (.str
            ("Cannot read properties of " ++ value.text ++ " (reading 'status')")))).setWorker i
            .ready
        | .rejected code message => (job.recordFailure now nodeId code message).setWorker i .ready
        | .rejectedNullish _ =>
          -- reading the code of the reason throws before the failure is counted
          (job.updateTask nodeId (NodeTask.conclude now .failed)).setWorker i .rejected
  | _ => job

/-- The terminal status of step C. -/
def terminalStatus (job : Job) : FleetJobStatus :=
  if job.aborted ∨ job.status = .failed then .failed
  else if job.summary.completed = job.summary.totalTargets then .completed
  else if job.summary.completed = 0 then .failed
  else .partialResult

/-- Step C, once, when every worker has ended. A failed check of the accounting leaves the job
failed. -/
def finish (job : Job) : Job :=
  if !job.finished && job.workers.all Worker.isEnded then
    { job with
      finished := true
      finishedAt := some now
      status :=
        if job.summary.computedTotal ≠ job.summary.totalTargets ∨
            job.results.length ≠ job.summary.totalTargets then .failed
        else job.terminalStatus }
  else job

/-- `cancelJob`. -/
def cancel (job : Job) : Job :=
  if job.status.isTerminal then job
  else
    { job with
      aborted := true
      status := .failed
      finishedAt := some now
      results := updateWhere (fun task => task.status.isOpen) (NodeTask.cancel now) job.results
      summary.failed := job.summary.failed + job.results.countP fun task => task.status.isOpen }

/-- A task of the execution, or a cancellation. -/
inductive Action
  | advance (worker : ℕ)
  | settle (nodeId : String) (outcome : Settlement)
  | expire (worker : ℕ)
  | resume (worker : ℕ)
  | finish
  | cancel

def act (job : Job) : Action → Job
  | .advance worker => job.advance settings now worker
  | .settle nodeId outcome => job.settle nodeId outcome
  | .expire worker => job.expire now worker
  | .resume worker => job.resume now worker
  | .finish => job.finish now
  | .cancel => job.cancel now

end Job

end DshOrbit.Fleet
