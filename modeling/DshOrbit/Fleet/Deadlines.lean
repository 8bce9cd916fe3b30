import DshOrbit.Fleet.Concurrency
import DshOrbit.Fleet.Outcomes
import Mathlib.Algebra.Order.Floor.Ring
import Mathlib.Data.Rat.Floor

/-!
# Timeouts of fleet tasks

A job takes its timeout from the submission, from its payload, or from the scheduler, and each of
its dispatches races a timer (`registry/fleet-scheduler.mjs`). The delay of a timer is a 32-bit
number: a longer one, or one below a millisecond, fires after a millisecond.

## Main definitions

- `Submission.acceptedTimeoutMs` — the timeout that a submission is accepted with
- `Submission.FitsTimer` — a timer can wait that long
- `Job.Elapsed` — the timeout of a job has passed since a task was started
- `Scheduler.InTime` — a step accepts a timeout that fits, or lets no transport answer that its call
  timed out before the timeout has passed

## Main results

- `fitsTimer_iff` — when the timer of a task waits for its timeout
- `Job.Timed.act` — a task is recorded as timed out only after its timeout
- `timeouts_honoured` — the same over whole runs
-/

namespace DshOrbit.Fleet

open DshOrbit.Lib

/-! ### Accepted timeouts -/

/-- The timeout that a submission gives, in its own field or in its payload. -/
def Submission.givenTimeoutMs (submission : Submission) : Option ℚ :=
  match submission.timeoutMs with
  | some (.num number) =>
    if 0 < number then some number
    else Job.payloadTimeoutMs (submission.payload.getD (.obj []))
  | _ => Job.payloadTimeoutMs (submission.payload.getD (.obj []))

/-- The timeout that a submission is accepted with. -/
def Submission.acceptedTimeoutMs (settings : Settings) (submission : Submission) : ℚ :=
  submission.givenTimeoutMs.getD settings.fallbackTimeoutMs

/-- The delay that the timers of a job are asked for: a timeout that was given is rounded down. -/
def Submission.requestedDelay (settings : Settings) (submission : Submission) : ℚ :=
  (submission.givenTimeoutMs.map fun ms => (ms.floor : ℚ)).getD settings.fallbackTimeoutMs

/-- A timer can wait as long as the timeout. -/
def Submission.FitsTimer (settings : Settings) (submission : Submission) : Prop :=
  submission.requestedDelay settings ≤ 2147483647

instance (settings : Settings) (submission : Submission) :
    Decidable (submission.FitsTimer settings) :=
  inferInstanceAs (Decidable (submission.requestedDelay settings ≤ 2147483647))

theorem parsedTimeout_eq (submission : Submission) :
    parsedTimeout submission.timeoutMs (submission.payload.getD (.obj [])) =
      submission.givenTimeoutMs.map Rat.floor := by
  rw [Submission.givenTimeoutMs]
  cases submission.timeoutMs with
  | none => rfl
  | some value =>
    cases value with
    | num number =>
      dsimp only [parsedTimeout]
      split_ifs <;> rfl
    | _ => rfl

theorem payloadTimeoutMs_pos {payload : Json} {ms : ℚ}
    (h : Job.payloadTimeoutMs payload = some ms) : 0 < ms := by
  rw [Job.payloadTimeoutMs] at h
  split at h
  · split_ifs at h with hpos
    exact (Option.some.inj h) ▸ hpos
  · cases h

theorem givenTimeoutMs_pos {submission : Submission} {ms : ℚ}
    (h : submission.givenTimeoutMs = some ms) : 0 < ms := by
  rw [Submission.givenTimeoutMs] at h
  split at h
  · split_ifs at h with hpos
    · exact (Option.some.inj h) ▸ hpos
    · exact payloadTimeoutMs_pos h
  · exact payloadTimeoutMs_pos h

theorem one_le_timerDelay (ms : ℚ) : 1 ≤ timerDelay ms := by
  rw [timerDelay]
  split_ifs with h
  · exact Rat.le_floor_iff.mpr h.1
  · exact le_rfl

/-- The timer of a long timeout waits for it exactly if it fits. -/
theorem floor_le_timerDelay_iff {ms : ℚ} (h : 2 ≤ ms) :
    ms.floor ≤ timerDelay ms ↔ ms ≤ 2147483647 := by
  have hone : (1 : ℚ) ≤ ms := le_trans (by norm_num) h
  have htwo : 2 ≤ ms.floor := Rat.le_floor_iff.mpr h
  rw [timerDelay]
  split_ifs with hfits
  · exact iff_of_true le_rfl hfits.2
  · refine iff_of_false (by omega) ?_
    intro hle
    exact hfits ⟨hone, hle⟩

/-- A job is of a submission: it keeps its timeout and its payload. -/
structure Job.OfSubmission (job : Job) (submission : Submission) : Prop where
  timeoutMs : job.timeoutMs = submission.givenTimeoutMs.map Rat.floor
  payload : job.payload = submission.payload.getD (.obj [])

theorem Job.OfSubmission.of_identity {job job' : Job} {submission : Submission}
    (h : job.OfSubmission submission) (hid : job'.identity = job.identity) :
    job'.OfSubmission submission where
  timeoutMs := (congrArg JobIdentity.timeoutMs hid).trans h.timeoutMs
  payload := (congrArg JobIdentity.payload hid).trans h.payload

/-- The timeout of a job, rounded down. -/
def Job.roundedTimeoutMs (settings : Settings) (job : Job) : ℤ :=
  job.timeoutMs.getD settings.fallbackTimeoutMs.floor

variable {settings : Settings} {submission : Submission} {job : Job} {now : ℤ}

theorem roundedTimeoutMs_eq (h : job.OfSubmission submission) :
    job.roundedTimeoutMs settings = (submission.acceptedTimeoutMs settings).floor := by
  rw [Job.roundedTimeoutMs, h.timeoutMs, Submission.acceptedTimeoutMs]
  cases submission.givenTimeoutMs <;> rfl

theorem payloadTimeoutMs_of_given (h : submission.givenTimeoutMs = none) :
    Job.payloadTimeoutMs (submission.payload.getD (.obj [])) = none := by
  rw [Submission.givenTimeoutMs] at h
  split at h
  · split_ifs at h
    exact h
  · exact h

/-- The timers of a job wait for its timeout exactly if they can. -/
theorem fitsTimer_iff (h : job.OfSubmission submission) :
    job.roundedTimeoutMs settings ≤ timerDelay (job.taskTimeoutMs settings) ↔
      submission.FitsTimer settings := by
  rw [Job.roundedTimeoutMs, Submission.FitsTimer, Submission.requestedDelay, Job.taskTimeoutMs,
    h.timeoutMs, h.payload]
  cases hgiven : submission.givenTimeoutMs with
  | none =>
    have hlong : 2 ≤ settings.fallbackTimeoutMs :=
      le_trans (by norm_num) (le_max_left (100 : ℚ) settings.defaultTimeoutMs)
    rw [payloadTimeoutMs_of_given hgiven]
    exact floor_le_timerDelay_iff hlong
  | some ms =>
    have hpos : 0 ≤ ms.floor := Rat.le_floor_iff.mpr (givenTimeoutMs_pos hgiven).le
    simp only [Option.map_some, Option.getD_some]
    by_cases hshort : ms.floor ≤ 1
    · have hdelay := one_le_timerDelay
      refine iff_of_true (hshort.trans (hdelay _)) ?_
      exact_mod_cast hshort.trans (by norm_num)
    · have hlong : (2 : ℚ) ≤ (ms.floor : ℚ) := by exact_mod_cast not_le.mp hshort
      rw [if_pos (by linarith)]
      have hiff := floor_le_timerDelay_iff hlong
      rw [Rat.floor_intCast] at hiff
      exact hiff

/-! ### Elapsed timeouts -/

namespace Job

/-- The timeout of the job has passed, by one of the readings, since the task was started. -/
def Elapsed (settings : Settings) (job : Job) (readings : List ℤ) (task : NodeTask) : Prop :=
  ∃ startedAt, task.startedAt = some startedAt ∧
    ∃ reading ∈ readings, startedAt + job.roundedTimeoutMs settings ≤ reading

/-- What holds of a job between any two of its tasks, at the readings of the clock so far: tasks
are started once, calls know when, and what is settled or recorded as timed out has waited for the
timeout of the job. -/
structure Timed (settings : Settings) (readings : List ℤ) (job : Job) : Prop where
  waits : job.roundedTimeoutMs settings ≤ timerDelay (job.taskTimeoutMs settings)
  queue : job.queue.Nodup
  queued : ∀ task ∈ job.results, task.nodeId ∈ job.queue → task.startedAt = none
  called : ∀ call ∈ job.calls, call.timeoutMs = job.taskTimeoutMs settings ∧
    ∀ task ∈ job.results, task.nodeId = call.nodeId → task.startedAt = some call.startedAt
  settled : ∀ nodeId result, .settled nodeId (.resolved result) ∈ job.workers →
    NodeTaskStatus.ofValue result.status = .timeout →
      ∀ task ∈ job.results, task.nodeId = nodeId → job.Elapsed settings readings task
  recorded : ∀ task ∈ job.results, task.status = .timeout → job.Elapsed settings readings task

/-- A transport does not answer that its call timed out before the timeout has passed. -/
def InTime (settings : Settings) (job : Job) (now : ℤ) : Action → Prop
  | .settle nodeId (.resolved result) =>
    (∃ worker ∈ job.workers, worker.awaited = some nodeId) →
      NodeTaskStatus.ofValue result.status = .timeout →
        ∀ call ∈ job.calls, call.nodeId = nodeId →
          call.startedAt + job.roundedTimeoutMs settings ≤ now
  | _ => True

variable {job' : Job} {readings readings' : List ℤ} {task : NodeTask}

theorem timeouts_of_identity (h : job'.identity = job.identity) :
    job'.roundedTimeoutMs settings = job.roundedTimeoutMs settings ∧
      job'.taskTimeoutMs settings = job.taskTimeoutMs settings := by
  have htimeout : job'.timeoutMs = job.timeoutMs := congrArg JobIdentity.timeoutMs h
  have hpayload : job'.payload = job.payload := congrArg JobIdentity.payload h
  constructor
  · rw [roundedTimeoutMs, roundedTimeoutMs, htimeout]
  · rw [taskTimeoutMs, taskTimeoutMs, htimeout, hpayload]

theorem Elapsed.mono (h : job.Elapsed settings readings task) (hreadings : readings ⊆ readings') :
    job.Elapsed settings readings' task := by
  obtain ⟨startedAt, hstarted, reading, hreading, hle⟩ := h
  exact ⟨startedAt, hstarted, reading, hreadings hreading, hle⟩

/-- A task keeps its start, and is recorded as timed out only where the timeout has passed. -/
def Follows (settings : Settings) (job : Job) (readings : List ℤ) (task task' : NodeTask) : Prop :=
  task'.nodeId = task.nodeId ∧ task'.startedAt = task.startedAt ∧
    (task'.status = .timeout → task.status = .timeout ∨ job.Elapsed settings readings task)

/-- A step that starts no task. -/
theorem Timed.frame (h : job.Timed settings readings) (hid : job'.identity = job.identity)
    (hreadings : readings ⊆ readings') (hqueue : job'.queue <:+ job.queue)
    (hcalls : job'.calls.Sublist job.calls)
    (hresults : ∀ task' ∈ job'.results, ∃ task ∈ job.results,
      job.Follows settings readings' task task')
    (hworkers : ∀ nodeId result, .settled nodeId (.resolved result) ∈ job'.workers →
      .settled nodeId (.resolved result) ∈ job.workers ∨
        (NodeTaskStatus.ofValue result.status = .timeout →
          ∀ task ∈ job.results, task.nodeId = nodeId → job.Elapsed settings readings' task)) :
    job'.Timed settings readings' := by
  obtain ⟨hrounded, htimeout⟩ := timeouts_of_identity hid
  have helapsed : ∀ {task task' : NodeTask}, task'.startedAt = task.startedAt →
      job.Elapsed settings readings' task → job'.Elapsed settings readings' task' := by
    rintro task task' hstarted ⟨startedAt, hat, reading, hreading, hle⟩
    exact ⟨startedAt, hstarted.trans hat, reading, hreading, hrounded.symm ▸ hle⟩
  refine ⟨?_, h.queue.sublist hqueue.sublist, ?_, ?_, ?_, ?_⟩
  · rw [hrounded, htimeout]
    exact h.waits
  · intro task' htask' hin
    obtain ⟨task, htask, hnode, hstarted, -⟩ := hresults task' htask'
    rw [hstarted]
    exact h.queued task htask (hqueue.subset (hnode ▸ hin))
  · intro call hcall
    obtain ⟨hms, hstarts⟩ := h.called call (hcalls.subset hcall)
    refine ⟨hms.trans htimeout.symm, ?_⟩
    intro task' htask' hsame
    obtain ⟨task, htask, hnode, hstarted, -⟩ := hresults task' htask'
    exact hstarted.trans (hstarts task htask (hnode.symm.trans hsame))
  · intro nodeId result hworker hstatus task' htask' hsame
    obtain ⟨task, htask, hnode, hstarted, -⟩ := hresults task' htask'
    apply helapsed hstarted
    cases hworkers nodeId result hworker with
    | inl hold =>
      have hat := h.settled nodeId result hold hstatus task htask (hnode.symm.trans hsame)
      exact hat.mono hreadings
    | inr hnew => exact hnew hstatus task htask (hnode.symm.trans hsame)
  · intro task' htask' hstatus
    obtain ⟨task, htask, -, hstarted, hfollows⟩ := hresults task' htask'
    apply helapsed hstarted
    cases hfollows hstatus with
    | inl hold => exact (h.recorded task htask hold).mono hreadings
    | inr hnew => exact hnew

theorem Follows.refl (task : NodeTask) : job.Follows settings readings task task :=
  ⟨rfl, rfl, fun hstatus => .inl hstatus⟩

/-- The results after a statement that keeps the start of a task. -/
theorem follows_updateWhere {p : NodeTask → Bool} {f : NodeTask → NodeTask}
    (h : ∀ task ∈ job.results, p task = true → job.Follows settings readings task (f task)) :
    ∀ task' ∈ updateWhere p f job.results, ∃ task ∈ job.results,
      job.Follows settings readings task task' := by
  intro task' htask'
  rcases mem_updateWhere.mp htask' with ⟨hin, -⟩ | ⟨task, hin, hp, rfl⟩
  · exact ⟨task', hin, .refl task'⟩
  · exact ⟨task, hin, h task hin hp⟩

theorem follows_self : ∀ task' ∈ job.results, ∃ task ∈ job.results,
    job.Follows settings readings task task' := fun task' hin => ⟨task', hin, .refl task'⟩

theorem Timed.mono (h : job.Timed settings readings) (hreadings : readings ⊆ readings') :
    job.Timed settings readings' :=
  h.frame rfl hreadings List.suffix_rfl (List.Sublist.refl _) follows_self
    fun _ _ hsettled => .inl hsettled

/-- A worker without a node holds no result. -/
theorem ne_settled_of_idle {worker : Worker} (hidle : worker.nodeId? = none) (nodeId : String)
    (outcome : Settlement) : worker ≠ .settled nodeId outcome := by
  rintro rfl
  cases hidle

/-- A worker that is set to something else than a result leaves the others. -/
theorem settled_set {i : ℕ} {worker : Worker} {nodeId : String} {outcome : Settlement}
    (hworker : ∀ nodeId outcome, worker ≠ .settled nodeId outcome)
    (h : .settled nodeId outcome ∈ job.workers.set i worker) :
    .settled nodeId outcome ∈ job.workers := by
  cases List.mem_or_eq_of_mem_set h with
  | inl hold => exact hold
  | inr hnew => exact absurd hnew.symm (hworker nodeId outcome)

theorem Timed.startDispatch (h : job.Timed settings readings) {i : ℕ} {nodeId : String}
    {rest : List String} (hqueue : job.queue = nodeId :: rest) :
    (job.startDispatch settings now i nodeId).Timed settings (readings ++ [now]) := by
  have hnodup := h.queue
  rw [hqueue, List.nodup_cons] at hnodup
  -- a task that is started has not been started before, so no call and no result is of it
  have hfresh : ∀ task ∈ job.results, task.nodeId = nodeId → task.startedAt = none := by
    intro task htask hsame
    apply h.queued task htask
    rw [hqueue, hsame]
    exact List.mem_cons_self
  have hresults : ∀ task' ∈ (job.startDispatch settings now i nodeId).results,
      (task' ∈ job.results ∧ task'.nodeId ≠ nodeId) ∨
        ∃ task ∈ job.results, task.nodeId = nodeId ∧ task' = task.start now := by
    intro task' htask'
    rcases mem_updateWhere.mp htask' with ⟨hin, hother⟩ | ⟨task, hin, hsame, rfl⟩
    · exact .inl ⟨hin, of_decide_eq_false hother⟩
    · exact .inr ⟨task, hin, of_decide_eq_true hsame, rfl⟩
  refine ⟨h.waits, ?_, ?_, ?_, ?_, ?_⟩
  · rw [Job.startDispatch, hqueue]
    exact hnodup.2
  · intro task' htask' hin
    rw [Job.startDispatch, hqueue, List.tail_cons] at hin
    rcases hresults task' htask' with ⟨hold, -⟩ | ⟨task, -, hsame, rfl⟩
    · apply h.queued task' hold
      rw [hqueue]
      exact List.mem_cons_of_mem nodeId hin
    · exact absurd (hsame ▸ hin) hnodup.1
  · intro call hcall
    rw [Job.startDispatch] at hcall
    cases List.mem_append.mp hcall with
    | inl hold =>
      obtain ⟨hms, hstarts⟩ := h.called call hold
      refine ⟨hms, ?_⟩
      intro task' htask' hsame
      rcases hresults task' htask' with ⟨hin, -⟩ | ⟨task, hin, hnode, rfl⟩
      · exact hstarts task' hin hsame
      · have hstarted := hstarts task hin hsame
        rw [hfresh task hin hnode] at hstarted
        cases hstarted
    | inr hnew =>
      obtain rfl := List.mem_singleton.mp hnew
      refine ⟨rfl, ?_⟩
      intro task' htask' hsame
      rcases hresults task' htask' with ⟨-, hother⟩ | ⟨task, -, -, rfl⟩
      · exact absurd hsame hother
      · rfl
  · intro other result hworker hstatus task' htask' hsame
    have hold : Worker.settled other (.resolved result) ∈ job.workers := by
      refine settled_set ?_ hworker
      intro _ _ hcase
      cases hcase
    rcases hresults task' htask' with ⟨hin, -⟩ | ⟨task, hin, hnode, rfl⟩
    · exact (h.settled other result hold hstatus task' hin hsame).mono (List.subset_append_left _ _)
    · obtain ⟨startedAt, hstarted, -⟩ := h.settled other result hold hstatus task hin hsame
      rw [hfresh task hin hnode] at hstarted
      cases hstarted
  · intro task' htask' hstatus
    rcases hresults task' htask' with ⟨hin, -⟩ | ⟨task, -, -, rfl⟩
    · exact (h.recorded task' hin hstatus).mono (List.subset_append_left _ _)
    · cases hstatus

/-! ### Every task of a job -/

/-- A worker that is set leaves what the others hold. -/
theorem Timed.setWorker (h : job.Timed settings readings) (i : ℕ) {worker : Worker}
    (hworker : ∀ nodeId outcome, worker ≠ .settled nodeId outcome)
    (hreadings : readings ⊆ readings') : (job.setWorker i worker).Timed settings readings' :=
  h.frame rfl hreadings List.suffix_rfl (List.Sublist.refl _) follows_self
    fun _ _ hsettled => .inl (settled_set hworker hsettled)

theorem Timed.dropQueue (h : job.Timed settings readings) {rest : List String}
    (hqueue : rest <:+ job.queue) : ({ job with queue := rest } : Job).Timed settings readings :=
  h.frame rfl (List.Subset.refl _) hqueue (List.Sublist.refl _) follows_self
    fun _ _ hsettled => .inl hsettled

theorem Timed.advance (h : job.Timed settings readings) (i : ℕ) :
    (job.advance settings now i).Timed settings (readings ++ [now]) := by
  have hreadings : readings ⊆ readings ++ [now] := List.subset_append_left _ _
  rw [Job.advance]
  split
  · split
    · exact h.setWorker i (ne_settled_of_idle rfl) hreadings
    next nodeId rest hqueue =>
      have hsuffix : rest <:+ job.queue := hqueue ▸ List.suffix_cons nodeId rest
      split_ifs
      · exact h.setWorker i (ne_settled_of_idle rfl) hreadings
      · split
        · exact (h.dropQueue hsuffix).setWorker i (ne_settled_of_idle rfl) hreadings
        · split_ifs
          · exact (h.mono hreadings).dropQueue hsuffix
          · exact h.startDispatch hqueue
  · exact h.mono hreadings

theorem Timed.settle (h : job.Timed settings readings) {nodeId : String} {outcome : Settlement}
    (hin : job.InTime settings now (.settle nodeId outcome)) :
    (job.settle nodeId outcome).Timed settings (readings ++ [now]) := by
  have hreadings : readings ⊆ readings ++ [now] := List.subset_append_left _ _
  rw [Job.settle]
  split_ifs with hcall
  · refine h.frame rfl hreadings List.suffix_rfl List.filter_sublist follows_self ?_
    intro other result hworker
    obtain ⟨worker, hold, hafter⟩ := List.mem_map.mp hworker
    cases worker with
    | dispatching waiting =>
      dsimp only at hafter
      split_ifs at hafter with hsame
      · right
        intro hstatus task htask hnode
        obtain ⟨rfl, rfl⟩ := Worker.settled.inj hafter
        obtain ⟨call, hmem, hid⟩ := List.any_eq_true.mp hcall
        have hid := of_decide_eq_true hid
        have hlate := hin ⟨_, hold, congrArg some hsame⟩ hstatus call hmem hid
        exact ⟨call.startedAt, (h.called call hmem).2 task htask (hnode.trans hid.symm), now,
          List.mem_append_right _ List.mem_cons_self, hlate⟩
    | settled _ _ => exact .inl (hafter ▸ hold)
    | ready => cases hafter
    | ended => cases hafter
    | rejected => cases hafter
  · exact h.mono hreadings

theorem Timed.expire (h : job.Timed settings readings) (i : ℕ) :
    (job.expire now i).Timed settings (readings ++ [now]) := by
  have hreadings : readings ⊆ readings ++ [now] := List.subset_append_left _ _
  rw [Job.expire]
  split
  next nodeId _ =>
    split
    next call hfind =>
      have hmem := List.mem_of_find?_eq_some hfind
      have hid := List.find?_some hfind
      rw [decide_eq_true_eq] at hid
      split_ifs with hdue
      · refine h.frame rfl hreadings List.suffix_rfl (List.Sublist.refl _) follows_self ?_
        intro other result hworker
        cases List.mem_or_eq_of_mem_set hworker with
        | inl hold => exact .inl hold
        | inr hnew =>
          right
          intro _ task htask hnode
          obtain ⟨hother, -⟩ := Worker.settled.inj hnew
          obtain ⟨hms, hstarts⟩ := h.called call hmem
          -- the timer fired after its delay, and the delay is no shorter than the timeout
          have hwaits := h.waits
          rw [← hms] at hwaits
          exact ⟨call.startedAt, hstarts task htask (hnode.trans (hother.trans hid.symm)), now,
            List.mem_append_right _ List.mem_cons_self, by omega⟩
      · exact h.mono hreadings
    · exact h.mono hreadings
  · exact h.mono hreadings

/-- A worker reports on its task. -/
theorem Timed.report (h : job.Timed settings readings) {i : ℕ} {worker : Worker} {nodeId : String}
    {f : NodeTask → NodeTask} {summary : Summary} (hreadings : readings ⊆ readings')
    (hworker : ∀ nodeId outcome, worker ≠ .settled nodeId outcome)
    (hf : ∀ task ∈ job.results, task.nodeId = nodeId →
      job.Follows settings readings' task (f task)) :
    (({ job.updateTask nodeId f with summary := summary } : Job).setWorker i worker).Timed settings
      readings' := by
  refine h.frame rfl hreadings List.suffix_rfl (List.Sublist.refl _) ?_
    fun _ _ hsettled => .inl (settled_set hworker hsettled)
  exact follows_updateWhere fun task htask hsame => hf task htask (of_decide_eq_true hsame)

theorem Timed.resume (h : job.Timed settings readings) (i : ℕ) :
    (job.resume now i).Timed settings (readings ++ [now]) := by
  have hreadings : readings ⊆ readings ++ [now] := List.subset_append_left _ _
  rw [Job.resume]
  split
  next nodeId outcome hworker =>
    have hheld := List.mem_of_getElem? hworker
    split
    · exact h.setWorker i (ne_settled_of_idle rfl) hreadings
    · split_ifs
      · exact h.setWorker i (ne_settled_of_idle rfl) hreadings
      · cases outcome with
        | resolved result =>
          refine h.report hreadings (ne_settled_of_idle rfl) fun task htask hnode => ⟨rfl, rfl, ?_⟩
          intro hstatus
          exact .inr ((h.settled nodeId result hheld hstatus task htask hnode).mono hreadings)
        | resolvedNullish value =>
          exact h.report hreadings (ne_settled_of_idle rfl) fun _ _ _ =>
            ⟨rfl, rfl, fun hstatus => by cases hstatus⟩
        | rejected code message =>
          exact h.report hreadings (ne_settled_of_idle rfl) fun _ _ _ =>
            ⟨rfl, rfl, fun hstatus => by cases hstatus⟩
        | rejectedNullish value =>
          exact h.report hreadings (ne_settled_of_idle rfl) fun _ _ _ =>
            ⟨rfl, rfl, fun hstatus => by cases hstatus⟩
  · exact h.mono hreadings

/-- Every task of a job in time records as timed out only where the timeout has passed. -/
theorem Timed.act (h : job.Timed settings readings) {action : Action}
    (hin : job.InTime settings now action) :
    (job.act settings now action).Timed settings (readings ++ [now]) := by
  have hreadings : readings ⊆ readings ++ [now] := List.subset_append_left _ _
  cases action with
  | advance i => exact h.advance i
  | settle nodeId outcome => exact h.settle hin
  | expire i => exact h.expire i
  | resume i => exact h.resume i
  | finish =>
    have hfields : (job.finish now).queue = job.queue ∧ (job.finish now).calls = job.calls ∧
        (job.finish now).results = job.results ∧ (job.finish now).workers = job.workers := by
      rw [Job.finish]
      split_ifs <;> exact ⟨rfl, rfl, rfl, rfl⟩
    obtain ⟨hqueue, hcalls, hresults, hworkers⟩ := hfields
    have hid : (job.act settings now .finish).identity = job.identity := identity_act .finish
    refine h.frame hid hreadings ?_ ?_ ?_ ?_
    · exact hqueue ▸ List.suffix_rfl
    · exact hcalls ▸ List.Sublist.refl _
    · intro task' htask'
      exact ⟨task', hresults ▸ htask', .refl task'⟩
    · exact fun _ _ hsettled => .inl (hworkers ▸ hsettled)
  | cancel =>
    rw [Job.act, Job.cancel]
    split_ifs
    · exact h.mono hreadings
    · refine h.frame rfl hreadings List.suffix_rfl (List.Sublist.refl _) ?_
        fun _ _ hsettled => .inl hsettled
      exact follows_updateWhere fun _ _ _ => ⟨rfl, rfl, fun hstatus => by cases hstatus⟩

/-! ### New jobs -/

theorem fresh_foldl {registry : Option NodeTable} (rest : List String)
    (h : ∀ task ∈ job.results, task.startedAt = none ∧ task.status ≠ .timeout) :
    ∀ task ∈ (rest.foldl (Job.filterTarget registry now) job).results,
      task.startedAt = none ∧ task.status ≠ .timeout := by
  induction rest generalizing job with
  | nil => exact h
  | cons nodeId rest ih =>
    apply ih
    rw [Job.filterTarget]
    split_ifs
    · intro task htask
      rcases mem_updateWhere.mp htask with ⟨hin, -⟩ | ⟨old, -, -, rfl⟩
      · exact h task hin
      · exact ⟨rfl, fun hstatus => by cases hstatus⟩
    · split
      · intro task htask
        rcases mem_updateWhere.mp htask with ⟨hin, -⟩ | ⟨old, -, -, rfl⟩
        · exact h task hin
        · exact ⟨rfl, fun hstatus => by cases hstatus⟩
      · exact h

/-- An execution begins with no task started. -/
theorem timed_beginExecution {registry : Option NodeTable} (readings : List ℤ)
    (hwaits : job.roundedTimeoutMs settings ≤ timerDelay (job.taskTimeoutMs settings))
    (hqueue : (job.beginExecution settings registry now).queue.Nodup) (hcalls : job.calls = [])
    (hresults : ∀ task ∈ job.results, task.startedAt = none ∧ task.status ≠ .timeout) :
    (job.beginExecution settings registry now).Timed settings readings := by
  have hid := identity_beginExecution settings registry now job
  obtain ⟨hrounded, htimeout⟩ := timeouts_of_identity hid
  have hfresh : ∀ task ∈ (job.beginExecution settings registry now).results,
      task.startedAt = none ∧ task.status ≠ .timeout := fresh_foldl _ hresults
  refine ⟨?_, hqueue, fun task htask _ => (hfresh task htask).1, ?_, ?_, ?_⟩
  · rw [hrounded, htimeout]
    exact hwaits
  · intro call hcall
    rw [calls_beginExecution, hcalls] at hcall
    cases hcall
  · intro nodeId result hworker
    cases List.eq_of_mem_replicate hworker
  · intro task htask hstatus
    exact absurd hstatus (hfresh task htask).2

end Job

/-! ### Runs -/

namespace Scheduler

/-- A step accepts a timeout that a timer can wait for, or lets no transport answer early that its
call timed out. -/
def InTime (settings : Settings) (s : Scheduler) : ℤ × Event → Prop
  | (now, .submit registry draw submission) =>
    (s.validateSubmission registry now draw submission).toOption.any Sum.isRight = true →
      submission.FitsTimer settings
  | (now, .act jobId action) => ∀ job ∈ s.jobs, job.jobId = jobId → job.InTime settings now action

/-- The tasks of a job that a submission made are recorded as timed out only where at least the
timeout that it was accepted with, rounded down, has passed since they were started. -/
def TimeoutsHonoured (settings : Settings) (events : List (ℤ × Event)) : Prop :=
  ∀ earlier now registry draw submission later jobId job,
    events = earlier ++ (now, .submit registry draw submission) :: later →
    (run settings earlier).getJob jobId = none →
    ((run settings (earlier ++ [(now, .submit registry draw submission)])).getJob jobId).isSome →
    (run settings events).getJob jobId = some job →
    ∀ task ∈ job.results, task.status = .timeout →
      ∃ startedAt, task.startedAt = some startedAt ∧ ∃ reading ∈ later.map Prod.fst,
        startedAt + (submission.acceptedTimeoutMs settings).floor ≤ reading

variable {s : Scheduler} {jobId : String}

/-- A submission that makes a job keeps in it the timeout it is accepted with. -/
theorem timed_submit {registry : Option NodeTable} {draw : String}
    (hin : s.InTime settings (now, .submit registry draw submission))
    (hnone : s.getJob jobId = none)
    (h : (s.step settings (now, .submit registry draw submission)).getJob jobId = some job) :
    job.OfSubmission submission ∧ job.Timed settings [] := by
  have hmem := List.mem_of_find?_eq_some h
  have hid := List.find?_some h
  rcases mem_step hmem with ⟨_, _, hevent, -⟩ | hold | ⟨_, _, _, fresh, hevent, hvalid, rfl⟩
  · cases hevent
  · exact absurd hid (List.find?_eq_none.mp hnone job hold)
  · cases hevent
    have hfits : submission.FitsTimer settings := hin (by rw [hvalid]; rfl)
    have hconsistent := consistent_of_validateSubmission settings hvalid
    obtain ⟨newId, taskType, payload, targets, -, hpayload, rfl⟩ := validateSubmission_eq_job hvalid
    have hgiven : payload = submission.payload.getD (.obj []) := by
      rw [validatePayload] at hpayload
      split at hpayload
      · split_ifs at hpayload
        next hobj _ => exact (Except.ok.inj hpayload).symm.trans hobj.symm
      · cases hpayload
    subst hgiven
    have hof : (newJob now newId taskType (submission.payload.getD (.obj []))
        (submission.targetSpec.getD .null) targets submission).OfSubmission submission :=
      ⟨parsedTimeout_eq submission, rfl⟩
    refine ⟨hof.of_identity (Job.identity_beginExecution settings registry now _), ?_⟩
    apply Job.timed_beginExecution [] ((fitsTimer_iff hof).mpr hfits) hconsistent.queue rfl
    intro task htask
    obtain ⟨nodeId, -, rfl⟩ := List.mem_map.mp htask
    exact ⟨rfl, nofun⟩

/-- A job stays timed while steps are in time. -/
theorem timed_runFrom {readings : List ℤ} {later : List (ℤ × Event)}
    (hin : EachStep (step settings) (InTime settings) s later)
    (hjob : s.getJob jobId = some job) (h : job.Timed settings readings) :
    ∃ job', (runFrom (step settings) s later).getJob jobId = some job' ∧
      job'.identity = job.identity ∧ job'.Timed settings (readings ++ later.map Prod.fst) := by
  induction later generalizing s job readings with
  | nil => exact ⟨job, hjob, rfl, h.mono (List.subset_append_left _ _)⟩
  | cons event rest ih =>
    have hreadings : readings ++ [event.1] ++ rest.map Prod.fst =
        readings ++ (event :: rest).map Prod.fst := by
      rw [List.append_assoc]
      rfl
    rcases getJob_step hjob event with hsame | ⟨action, hevent, hmoved⟩
    · obtain ⟨job', hjob', hid, htimed⟩ :=
        ih hin.2 hsame (h.mono (List.subset_append_left readings [event.1]))
      exact ⟨job', hjob', hid, hreadings ▸ htimed⟩
    · obtain ⟨now, event⟩ := event
      subst hevent
      have hid := List.find?_some hjob
      rw [decide_eq_true_eq] at hid
      have hnow := hin.1 job (List.mem_of_find?_eq_some hjob) hid
      obtain ⟨job', hjob', hident, htimed⟩ := ih hin.2 hmoved (h.act hnow)
      exact ⟨job', hjob', hident.trans (Job.identity_act action), hreadings ▸ htimed⟩

/-- In every run in time, tasks are recorded as timed out only after the timeout that their
submission was accepted with. -/
theorem timeouts_honoured (settings : Settings) (events : List (ℤ × Event))
    (h : EachStep (step settings) (InTime settings) {} events) :
    TimeoutsHonoured settings events := by
  rintro earlier now registry draw submission later jobId job rfl hnone hmade hjob
  obtain ⟨hsubmit, hlater⟩ := h.of_split
  obtain ⟨fresh, hfresh⟩ := Option.isSome_iff_exists.mp hmade
  rw [run, runFrom_append, runFrom_cons, runFrom_nil] at hfresh
  rw [run, runFrom_append, runFrom_cons] at hjob
  obtain ⟨hof, htimed⟩ := timed_submit hsubmit hnone hfresh
  obtain ⟨job', hjob', hid, htimed'⟩ := timed_runFrom hlater hfresh htimed
  obtain rfl := Option.some.inj (hjob.symm.trans hjob')
  intro task htask hstatus
  obtain ⟨startedAt, hstarted, reading, hreading, hle⟩ := htimed'.recorded task htask hstatus
  rw [roundedTimeoutMs_eq (hof.of_identity hid)] at hle
  exact ⟨startedAt, hstarted, reading, hreading, hle⟩

/-! ### Samples -/

/-- A task whose timer fires. -/
def timedOutRun (timeoutMs : ℚ) (firedAt : ℤ) : List (ℤ × Event) :=
  [(0, .submit none sampleDraw { sampleSubmission with timeoutMs := some (.num timeoutMs) }),
    (0, .act sampleJobId (.advance 0)), (firedAt, .act sampleJobId (.expire 0)),
    (firedAt, .act sampleJobId (.resume 0))]

theorem timeouts_honoured_sample :
    (∃ job ∈ (run {} (timedOutRun 1500 1500)).jobs, ∃ task ∈ job.results,
      task.status = .timeout) ∧
    TimeoutsHonoured {} (timedOutRun 1500 1500) := by
  refine ⟨by decide +kernel, timeouts_honoured {} (timedOutRun 1500 1500) ⟨?_, ?_, ?_, ?_, trivial⟩⟩
  · intro _
    decide +kernel
  · exact fun _ _ _ => trivial
  · exact fun _ _ _ => trivial
  · exact fun _ _ _ => trivial

/-- A timeout of 2147483648 ms ends after 1 ms. -/
theorem long_timeout_fires_at_once :
    ¬∀ settings events, TimeoutsHonoured settings events := by
  intro h
  have htimedOut : ((run {} (timedOutRun 2147483648 1)).getJob sampleJobId).any (fun job =>
      job.results.any fun task => task.status = .timeout ∧ task.startedAt = some 0) = true := by
    decide +kernel
  obtain ⟨job, hjob, hresults⟩ := (Option.any_eq_true _ _).mp htimedOut
  obtain ⟨task, htask, hparts⟩ := List.any_eq_true.mp hresults
  obtain ⟨hstatus, hstarted⟩ := of_decide_eq_true hparts
  obtain ⟨startedAt, hat, reading, hreading, hle⟩ := h {} (timedOutRun 2147483648 1) [] 0 none
    sampleDraw _ _ sampleJobId job rfl rfl (by decide +kernel) hjob task htask hstatus
  obtain rfl := Option.some.inj (hstarted.symm.trans hat)
  have hreadings : ∀ reading ∈ ([0, 1, 1] : List ℤ), reading ≤ 1 := by decide
  have hone := hreadings reading hreading
  have hfloor : (Submission.acceptedTimeoutMs {}
      { sampleSubmission with timeoutMs := some (.num 2147483648) }).floor = 2147483648 := by
    decide +kernel
  rw [hfloor] at hle
  omega

end Scheduler

end DshOrbit.Fleet
