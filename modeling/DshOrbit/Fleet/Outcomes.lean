import DshOrbit.Fleet.Lifecycle
import DshOrbit.Fleet.Scrub
import DshOrbit.Lib.IsoTime

/-!
# Outcomes of fleet jobs

What `getJob` returns of a job, and what of it is fixed once the job is terminal
(`registry/fleet-scheduler.mjs`). A cancelled job is terminal at once, while its workers still
await the transport. None of them writes a result when it goes on, but the end of the execution
sets the finish time of the job again.

## Main definitions

- `Job.snapshot` — the snapshot that `getJob` returns
- `JobSnapshot.outcome` — the parts that a terminal job keeps
- `Scheduler.Punctual` — a cancelled execution ends at the instant of its cancellation

## Main results

- `outcome_kept` — terminal jobs keep their outcome where every end of a cancelled execution is
  punctual
-/

namespace DshOrbit.Fleet

open DshOrbit.Lib

/-! ### Snapshots -/

/-- A property that is there only where it has a value. -/
def optionalField (name : String) (value : Option Json) : List (String × Json) :=
  (value.map fun value => (name, value)).toList

/-- The text of a status; a value outside the vocabulary is kept as its text. -/
def NodeTaskStatus.text : NodeTaskStatus → Option String
  | .pending => some "pending"
  | .running => some "running"
  | .completed => some "completed"
  | .failed => some "failed"
  | .timeout => some "timeout"
  | .unreachable => some "unreachable"
  | .skipped => some "skipped"
  | .other value => value

def isoJson (instant : ℤ) : Json := .str (toIsoString instant)

def NodeTask.toJson (task : NodeTask) : Json :=
  .obj (("nodeId", .str task.nodeId) ::
    (optionalField "status" (task.status.text.map .str) ++
      optionalField "reason" (task.reason.map .str) ++ optionalField "error" task.error ++
      optionalField "exitCode" task.exitCode ++ optionalField "stdout" task.stdout ++
      optionalField "stderr" task.stderr ++
      optionalField "startedAt" (task.startedAt.map isoJson) ++
      optionalField "finishedAt" (task.finishedAt.map isoJson) ++
      optionalField "durationMs" (task.durationMs.map fun ms => .num ms)))

/-- `job.results`. -/
def resultsJson (results : List NodeTask) : Json :=
  .obj (results.map fun task => (task.nodeId, task.toJson))

structure JobSnapshot where
  jobId : String
  taskType : String
  payload : Json
  targetSpec : Json
  requiredCapabilities : List Json
  timeoutMs : Option ℤ
  operatorPrincipal : String
  createdAt : String
  startedAt : Option String
  finishedAt : Option String
  status : FleetJobStatus
  summary : Summary
  results : Json

def scrubbed (scrub : Bool) (value : Json) : Json :=
  if scrub then scrubSensitiveCredentials value else value

/-- `getJob` of a job that exists. -/
def Job.snapshot (scrub : Bool) (job : Job) : JobSnapshot where
  jobId := job.jobId
  taskType := job.taskType
  payload := scrubbed scrub job.payload
  targetSpec := job.targetSpec
  requiredCapabilities := job.requiredCapabilities
  timeoutMs := job.timeoutMs
  operatorPrincipal := job.operatorPrincipal
  createdAt := toIsoString job.createdAt
  startedAt := job.startedAt.map toIsoString
  finishedAt := job.finishedAt.map toIsoString
  status := job.status
  summary := job.summary
  results := scrubbed scrub (resultsJson job.results)

/-- `getJob`; none where there is no such job. -/
def Scheduler.getSnapshot (s : Scheduler) (scrub : Bool) (jobId : String) : Option JobSnapshot :=
  (s.getJob jobId).map (Job.snapshot scrub)

/-- What is known of a job when it is over. -/
structure Outcome where
  status : FleetJobStatus
  finishedAt : Option String
  summary : Summary
  results : Json

def JobSnapshot.outcome (snapshot : JobSnapshot) : Outcome where
  status := snapshot.status
  finishedAt := snapshot.finishedAt
  summary := snapshot.summary
  results := snapshot.results

namespace Job

variable {job job' : Job} {settings : Settings} {now : ℤ}

/-! ### Terminal jobs -/

/-- Where the end of a cancelled execution comes at the instant of the cancellation. -/
def Punctual (job : Job) (now : ℤ) : Action → Prop
  | .finish => job.aborted = true → job.finished = false →
      job.workers.all Worker.isEnded = true → job.finishedAt = some now
  | _ => True

instance (job : Job) (now : ℤ) : (action : Action) → Decidable (job.Punctual now action)
  | .finish => inferInstanceAs (Decidable (job.aborted = true → job.finished = false →
      job.workers.all Worker.isEnded = true → job.finishedAt = some now))
  | .advance _ | .settle .. | .expire _ | .resume _ | .cancel => inferInstanceAs (Decidable True)

/-- How a job has come to a terminal status. -/
structure Closed (job : Job) : Prop where
  aborted : job.aborted = true → job.status = .failed
  terminal : job.status.isTerminal = true →
    job.aborted = true ∨ job.finished = true ∧ job.workers.all Worker.isEnded = true

/-- The jobs agree on what their outcomes show. -/
structure SameOutcome (job job' : Job) : Prop where
  status : job'.status = job.status
  finishedAt : job'.finishedAt = job.finishedAt
  summary : job'.summary = job.summary
  results : job'.results = job.results

theorem SameOutcome.refl (job : Job) : SameOutcome job job := ⟨rfl, rfl, rfl, rfl⟩

theorem SameOutcome.outcome (h : SameOutcome job job') (scrub : Bool) :
    (job'.snapshot scrub).outcome = (job.snapshot scrub).outcome := by
  simp only [snapshot, JobSnapshot.outcome, h.status, h.finishedAt, h.summary, h.results]

/-- The end of an execution comes once, when every worker has ended. -/
theorem finish_cases (job : Job) (now : ℤ) :
    (job.finished = false ∧ job.workers.all Worker.isEnded = true) ∧
      job.finish now =
        { job with
          finished := true
          finishedAt := some now
          status :=
            if job.summary.computedTotal ≠ job.summary.totalTargets ∨
                job.results.length ≠ job.summary.totalTargets then .failed
            else job.terminalStatus } ∨
    ¬(job.finished = false ∧ job.workers.all Worker.isEnded = true) ∧ job.finish now = job := by
  by_cases hdone : job.finished = false ∧ job.workers.all Worker.isEnded = true
  · refine .inl ⟨hdone, ?_⟩
    rw [Job.finish, if_pos]
    rwa [Bool.and_eq_true, Bool.not_eq_true']
  · exact .inr ⟨hdone, finish_of_not_done hdone⟩

theorem finished_act (h : job.finished = true) (action : Action) :
    (job.act settings now action).finished = true := by
  cases action with
  | advance i => exact (frame_advance i).finished.trans h
  | settle nodeId outcome => exact (frame_settle nodeId outcome).finished.trans h
  | expire i => exact (frame_expire i).finished.trans h
  | resume i => exact (frame_resume i).finished.trans h
  | finish =>
    rcases finish_cases job now with ⟨-, hfinish⟩ | ⟨-, hfinish⟩ <;> rw [Job.act, hfinish]
    exact h
  | cancel =>
    rw [Job.act, Job.cancel]
    split_ifs <;> exact h

theorem aborted_of_act {action : Action} (h : (job.act settings now action).aborted = true) :
    job.aborted = true ∨ (job.act settings now action).status = .failed := by
  cases action with
  | advance i => exact .inl ((frame_advance i).aborted.symm.trans h)
  | settle nodeId outcome => exact .inl ((frame_settle nodeId outcome).aborted.symm.trans h)
  | expire i => exact .inl ((frame_expire i).aborted.symm.trans h)
  | resume i => exact .inl ((frame_resume i).aborted.symm.trans h)
  | finish =>
    refine .inl ?_
    rw [Job.act, Job.finish] at h
    split_ifs at h <;> exact h
  | cancel =>
    rw [Job.act, Job.cancel] at h ⊢
    split_ifs at h ⊢
    · exact .inl h
    · exact .inr rfl

theorem terminalStatus_of_aborted (h : job.aborted = true) : job.terminalStatus = .failed := by
  rw [terminalStatus, if_pos (.inl h)]

/-- The end of a cancelled execution is a failure. -/
theorem status_finish (haborted : job.aborted = true) (hstatus : job.status = .failed) :
    (job.finish now).status = .failed := by
  rcases finish_cases job now with ⟨-, hfinish⟩ | ⟨-, hfinish⟩ <;> rw [hfinish]
  · show (if _ then FleetJobStatus.failed else job.terminalStatus) = _
    rw [terminalStatus_of_aborted haborted]
    split_ifs <;> rfl
  · exact hstatus

theorem Closed.act (h : job.Closed) (action : Action) : (job.act settings now action).Closed := by
  constructor
  · intro haborted
    rcases aborted_of_act haborted with hold | hfailed
    · have hstatus := h.aborted hold
      by_cases hends : job.EndsBy action
      · cases action with
        | finish => exact status_finish hold hstatus
        | cancel =>
          exfalso
          have hopen : job.status.isTerminal = false := hends
          rw [hstatus] at hopen
          exact Bool.noConfusion hopen
        | _ => exact hends.elim
      · rw [status_act hends]
        exact hstatus
    · exact hfailed
  · intro hterminal
    by_cases hends : job.EndsBy action
    · cases action with
      | finish =>
        refine .inr ⟨?_, all_ended_act hends.2 .finish⟩
        rcases finish_cases job now with ⟨-, hfinish⟩ | ⟨hnot, -⟩
        · rw [Job.act, hfinish]
        · exact absurd hends hnot
      | cancel =>
        refine .inl ?_
        rw [Job.act, Job.cancel, if_neg (by rw [hends]; exact Bool.false_ne_true)]
      | _ => exact hends.elim
    · rw [status_act hends] at hterminal
      rcases h.terminal hterminal with haborted | ⟨hfinished, hended⟩
      · exact .inl (aborted_act haborted action)
      · exact .inr ⟨finished_act hfinished action, all_ended_act hended action⟩

/-! ### What workers write -/

theorem sameOutcome_advance (h : job.aborted = true ∨ job.workers.all Worker.isEnded = true)
    (i : ℕ) : SameOutcome job (job.advance settings now i) := by
  rw [Job.advance]
  split
  next hworker =>
    split
    · exact ⟨rfl, rfl, rfl, rfl⟩
    · rcases h with haborted | hended
      · rw [if_pos haborted]
        exact ⟨rfl, rfl, rfl, rfl⟩
      · cases all_ended_set hended hworker
  next => exact .refl job

/-- A worker that goes on after its dispatch leaves the results of a stopped job. -/
theorem sameOutcome_resume (h : job.aborted = true ∨ job.workers.all Worker.isEnded = true)
    (i : ℕ) : SameOutcome job (job.resume now i) := by
  rw [Job.resume]
  split
  next hworker =>
    split
    · exact ⟨rfl, rfl, rfl, rfl⟩
    · rcases h with haborted | hended
      · rw [if_pos (.inl haborted)]
        exact ⟨rfl, rfl, rfl, rfl⟩
      · cases all_ended_set hended hworker
  next => exact .refl job

theorem sameOutcome_finish (h : job.Closed) (hterminal : job.status.isTerminal = true)
    (hpunctual : job.Punctual now .finish) : SameOutcome job (job.finish now) := by
  rcases finish_cases job now with ⟨⟨hopen, hended⟩, hfinish⟩ | ⟨-, hfinish⟩
  · rcases h.terminal hterminal with haborted | ⟨hfinished, -⟩
    · have hstatus := h.aborted haborted
      refine ⟨(status_finish haborted hstatus).trans hstatus.symm, ?_, ?_, ?_⟩
      · rw [hpunctual haborted hopen hended, hfinish]
      · rw [hfinish]
      · rw [hfinish]
    · exact Bool.noConfusion (hfinished.symm.trans hopen)
  · rw [hfinish]
    exact .refl job

/-- No task changes the outcome of a terminal job, but a late end of a cancelled execution. -/
theorem sameOutcome_act (h : job.Closed) (hterminal : job.status.isTerminal = true)
    {action : Action} (hpunctual : job.Punctual now action) :
    SameOutcome job (job.act settings now action) := by
  have hstopped : job.aborted = true ∨ job.workers.all Worker.isEnded = true :=
    (h.terminal hterminal).imp_right And.right
  cases action with
  | advance i => exact sameOutcome_advance hstopped i
  | settle nodeId outcome =>
    rw [Job.act, Job.settle]
    split_ifs <;> exact ⟨rfl, rfl, rfl, rfl⟩
  | expire i =>
    rw [Job.act, Job.expire]
    split
    · split
      · split_ifs <;> exact ⟨rfl, rfl, rfl, rfl⟩
      · exact .refl job
    · exact .refl job
  | resume i => exact sameOutcome_resume hstopped i
  | finish => exact sameOutcome_finish h hterminal hpunctual
  | cancel =>
    rw [Job.act, Job.cancel, if_pos hterminal]
    exact .refl job

theorem closed_beginExecution {registry : Option NodeTable} (haborted : job.aborted = false) :
    (job.beginExecution settings registry now).Closed := by
  have hframe := (@frame_foldl now registry job.targets
    { job with status := .running, startedAt := some now }).1
  constructor
  · intro habort
    exact Bool.noConfusion (haborted.symm.trans (hframe.aborted.symm.trans habort))
  · intro hterminal
    rw [status_beginExecution] at hterminal
    cases hterminal

end Job

/-! ### Runs -/

namespace Scheduler

variable {settings : Settings}

/-- The end of a cancelled execution comes at the instant at which the job was cancelled. -/
def Punctual (s : Scheduler) : ℤ × Event → Prop
  | (now, .act jobId action) => ∀ job ∈ s.jobs, job.jobId = jobId → job.Punctual now action
  | (_, .submit ..) => True

instance (s : Scheduler) : (event : ℤ × Event) → Decidable (s.Punctual event)
  | (now, .act jobId action) => inferInstanceAs (Decidable (∀ job ∈ s.jobs, job.jobId = jobId →
      job.Punctual now action))
  | (_, .submit ..) => inferInstanceAs (Decidable True)

theorem step_closed {s : Scheduler} {event : ℤ × Event} (h : ∀ job ∈ s.jobs, job.Closed) :
    ∀ job ∈ (s.step settings event).jobs, job.Closed := by
  intro job hjob
  rcases mem_step hjob with ⟨jobId, action, -, old, hold, -, rfl⟩ | hold |
    ⟨registry, draw, submission, fresh, -, hvalid, rfl⟩
  · exact (h old hold).act action
  · exact h job hold
  · obtain ⟨jobId, taskType, payload, targets, -, -, rfl⟩ := validateSubmission_eq_job hvalid
    exact Job.closed_beginExecution rfl

theorem run_closed (settings : Settings) (events : List (ℤ × Event)) :
    ∀ job ∈ (run settings events).jobs, job.Closed :=
  @runFrom_invariant _ _ (step settings) (fun s => ∀ job ∈ s.jobs, job.Closed)
    (fun _ _ => True) {} events (fun _ _ hs _ => step_closed hs)
    (fun _ hjob => absurd hjob List.not_mem_nil) (eachStep_true events)

/-- A job that exists is found after a step as its task leaves it. -/
theorem getJob_step {s : Scheduler} {jobId : String} {job : Job} (h : s.getJob jobId = some job)
    (event : ℤ × Event) :
    (s.step settings event).getJob jobId = some job ∨
      ∃ action, event.2 = .act jobId action ∧
        (s.step settings event).getJob jobId = some (job.act settings event.1 action) := by
  obtain ⟨now, event⟩ := event
  cases event with
  | submit registry draw submission =>
    refine .inl ?_
    rw [step]
    split_ifs
    · exact h
    · split
      next s' newId hsubmit =>
        rcases submitJob_cases hsubmit with ⟨rfl, -⟩ | ⟨fresh, rfl, -⟩
        · exact h
        · rw [getJob, List.find?_append]
          exact congrArg (fun found => Option.or found _) h
      next => exact h
  | act moved action =>
    have hid : ∀ job : Job, (job.act settings now action).jobId = job.jobId :=
      fun job => congrArg JobIdentity.jobId (Job.identity_act action)
    have hfind : (s.step settings (now, .act moved action)).getJob jobId =
        some (if jobId = moved then job.act settings now action else job) := by
      rw [getJob] at h ⊢
      rw [step, find?_updateWhere hid, h, Option.map_some]
    by_cases hmoved : jobId = moved
    · subst hmoved
      rw [if_pos rfl] at hfind
      exact .inr ⟨action, rfl, hfind⟩
    · rw [if_neg hmoved] at hfind
      exact .inl hfind

theorem step_sameOutcome {s : Scheduler} {event : ℤ × Event}
    (hclosed : ∀ job ∈ s.jobs, job.Closed) (hpunctual : s.Punctual event) {jobId : String}
    {job : Job} (h : s.getJob jobId = some job) (hterminal : job.status.isTerminal = true) :
    ∃ job', (s.step settings event).getJob jobId = some job' ∧ Job.SameOutcome job job' := by
  have hmem := List.mem_of_find?_eq_some h
  have hid : job.jobId = jobId := by
    rw [getJob] at h
    have hfound := List.find?_some h
    rwa [decide_eq_true_eq] at hfound
  rcases getJob_step h event with hsame | ⟨action, hevent, hmoved⟩
  · exact ⟨job, hsame, .refl job⟩
  · obtain ⟨now, event⟩ := event
    subst hevent
    exact ⟨_, hmoved, Job.sameOutcome_act (hclosed job hmem) hterminal (hpunctual job hmem hid)⟩

/-- From a terminal status on, later events leave the outcome of a job. -/
theorem runFrom_sameOutcome {s : Scheduler} {later : List (ℤ × Event)}
    (hclosed : ∀ job ∈ s.jobs, job.Closed) (h : EachStep (step settings) Punctual s later)
    {jobId : String} {job : Job} (hjob : s.getJob jobId = some job)
    (hterminal : job.status.isTerminal = true) :
    ∃ job', (runFrom (step settings) s later).getJob jobId = some job' ∧
      Job.SameOutcome job job' := by
  induction later generalizing s job with
  | nil => exact ⟨job, hjob, .refl job⟩
  | cons event rest ih =>
    obtain ⟨middle, hmiddle, hfirst⟩ := step_sameOutcome hclosed h.1 hjob hterminal
    obtain ⟨last, hlast, hrest⟩ :=
      ih (step_closed hclosed) h.2 hmiddle (hfirst.status ▸ hterminal)
    exact ⟨last, hlast, hrest.status.trans hfirst.status, hrest.finishedAt.trans hfirst.finishedAt,
      hrest.summary.trans hfirst.summary, hrest.results.trans hfirst.results⟩

/-- The snapshot of a job that was terminal earlier in a run shows the same outcome later. -/
def OutcomesKept (settings : Settings) (earlier later : List (ℤ × Event)) : Prop :=
  ∀ scrub jobId snapshot, (run settings earlier).getSnapshot scrub jobId = some snapshot →
    snapshot.status.isTerminal = true →
      ∃ snapshot', (run settings (earlier ++ later)).getSnapshot scrub jobId = some snapshot' ∧
        snapshot'.outcome = snapshot.outcome

/-- In every run whose cancelled executions end punctually, terminal jobs keep their outcome. -/
theorem outcome_kept (settings : Settings) (earlier later : List (ℤ × Event))
    (h : EachStep (step settings) Punctual {} (earlier ++ later)) :
    OutcomesKept settings earlier later := by
  intro scrub jobId snapshot hsnapshot hterminal
  obtain ⟨job, hjob, rfl⟩ := Option.map_eq_some_iff.mp hsnapshot
  obtain ⟨job', hjob', hsame⟩ := runFrom_sameOutcome (run_closed settings earlier)
    (eachStep_append.mp h).2 hjob hterminal
  refine ⟨job'.snapshot scrub, ?_, hsame.outcome scrub⟩
  rw [getSnapshot, run, runFrom_append, ← run, hjob', Option.map_some]

/-! ### Samples -/

/-- The transport settles after a cancellation, and the execution ends. -/
def windUp (now : ℤ) : List (ℤ × Event) :=
  [(now, .act sampleJobId (.settle sampleNode (.resolved {}))),
    (now, .act sampleJobId (.resume 0)), (now, .act sampleJobId (.advance 0)),
    (now, .act sampleJobId .finish)]

/-- A job that is cancelled while its dispatch is under way. -/
def cancelledRun : List (ℤ × Event) :=
  [(0, .submit none sampleDraw sampleSubmission), (0, .act sampleJobId (.advance 0)),
    (1, .act sampleJobId .cancel)]

theorem outcome_kept_sample :
    (∃ job ∈ (run {} cancelledRun).jobs, job.status.isTerminal = true) ∧
      OutcomesKept {} cancelledRun (windUp 1) :=
  ⟨by decide +kernel, outcome_kept {} cancelledRun (windUp 1) (by decide +kernel)⟩

/-- The transport settles one millisecond after the cancellation: the end of the execution moves
the finish time of a job that was terminal already. -/
theorem finish_time_moves : ¬OutcomesKept {} cancelledRun (windUp 2) := by
  intro hkept
  have hearlier : ((run {} cancelledRun).getSnapshot false sampleJobId).map
      (fun snapshot => (snapshot.status, snapshot.finishedAt)) =
        some (.failed, some "1970-01-01T00:00:00.001Z") := by decide +kernel
  have hlater : ((run {} (cancelledRun ++ windUp 2)).getSnapshot false sampleJobId).map
      JobSnapshot.finishedAt = some (some "1970-01-01T00:00:00.002Z") := by decide +kernel
  obtain ⟨snapshot, hsnapshot, hparts⟩ := Option.map_eq_some_iff.mp hearlier
  obtain ⟨hstatus, hfinished⟩ := Prod.mk.inj hparts
  obtain ⟨snapshot', hsnapshot', houtcome⟩ :=
    hkept false sampleJobId snapshot hsnapshot (by rw [hstatus]; rfl)
  rw [hsnapshot', Option.map_some] at hlater
  have hsame : snapshot'.finishedAt = snapshot.finishedAt := congrArg Outcome.finishedAt houtcome
  rw [hfinished, Option.some.inj hlater] at hsame
  revert hsame
  decide

end Scheduler

end DshOrbit.Fleet
