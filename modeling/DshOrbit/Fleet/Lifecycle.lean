import DshOrbit.Fleet.Accounting

/-!
# The life of a fleet job

What the tasks of a job leave as it is, and what they can still do once its status is
terminal. A terminal job starts no dispatch, but one that a cancellation or a timer ended
may leave calls of the transport outstanding.

## Main definitions

- `Job.identity` — what is fixed when a job is submitted
- `Job.Stopped` — a terminal job was cancelled, or all its workers have ended
- `Job.EndsBy` — the task that makes a job terminal

## Main results

- `identity_act`, `terminal_act` — the identity and a terminal status stay
- `calls_act` — a stopped job without calls makes none
-/

namespace DshOrbit.Fleet

open DshOrbit.Lib

/-- What is fixed when a job is submitted. -/
structure JobIdentity where
  jobId : String
  taskType : String
  payload : Json
  targetSpec : Json
  requiredCapabilities : List Json
  timeoutMs : Option ℤ
  operatorPrincipal : String
  createdAt : ℤ

namespace Job

variable {job : Job} {settings : Settings} {now : ℤ}

def identity (job : Job) : JobIdentity where
  jobId := job.jobId
  taskType := job.taskType
  payload := job.payload
  targetSpec := job.targetSpec
  requiredCapabilities := job.requiredCapabilities
  timeoutMs := job.timeoutMs
  operatorPrincipal := job.operatorPrincipal
  createdAt := job.createdAt

/-- A terminal job was cancelled, or all its workers have ended. -/
def Stopped (job : Job) : Prop :=
  job.status.isTerminal = true → job.aborted = true ∨ job.workers.all Worker.isEnded = true

/-- The task makes the job terminal. -/
def EndsBy (job : Job) : Action → Prop
  | .cancel => job.status.isTerminal = false
  | .finish => job.finished = false ∧ job.workers.all Worker.isEnded = true
  | _ => False

instance (job : Job) : (action : Action) → Decidable (job.EndsBy action)
  | .cancel => inferInstanceAs (Decidable (job.status.isTerminal = false))
  | .finish => inferInstanceAs (Decidable (job.finished = false ∧
      job.workers.all Worker.isEnded = true))
  | .advance _ | .settle .. | .expire _ | .resume _ => inferInstanceAs (Decidable False)

/-! ### Single tasks -/

/-- The parts of a job that its workers do not write. -/
structure Frame (job job' : Job) : Prop where
  identity : job'.identity = job.identity
  status : job'.status = job.status
  aborted : job'.aborted = job.aborted
  finished : job'.finished = job.finished
  finishedAt : job'.finishedAt = job.finishedAt

theorem Frame.refl (job : Job) : Frame job job := ⟨rfl, rfl, rfl, rfl, rfl⟩

theorem frame_advance (i : ℕ) : Frame job (job.advance settings now i) := by
  rw [Job.advance]
  split
  · split
    · exact ⟨rfl, rfl, rfl, rfl, rfl⟩
    · split_ifs
      · exact ⟨rfl, rfl, rfl, rfl, rfl⟩
      · split
        · exact ⟨rfl, rfl, rfl, rfl, rfl⟩
        · split_ifs <;> exact ⟨rfl, rfl, rfl, rfl, rfl⟩
  · exact .refl job

theorem frame_settle (nodeId : String) (outcome : Settlement) :
    Frame job (job.settle nodeId outcome) := by
  rw [Job.settle]
  split_ifs
  · exact ⟨rfl, rfl, rfl, rfl, rfl⟩
  · exact .refl job

theorem frame_expire (i : ℕ) : Frame job (job.expire now i) := by
  rw [Job.expire]
  split
  · split
    · split_ifs <;> exact ⟨rfl, rfl, rfl, rfl, rfl⟩
    · exact .refl job
  · exact .refl job

theorem frame_resume (i : ℕ) : Frame job (job.resume now i) := by
  rw [Job.resume]
  split
  · split
    · exact ⟨rfl, rfl, rfl, rfl, rfl⟩
    · split_ifs
      · exact ⟨rfl, rfl, rfl, rfl, rfl⟩
      · split <;> exact ⟨rfl, rfl, rfl, rfl, rfl⟩
  · exact .refl job

theorem terminalStatus_isTerminal : job.terminalStatus.isTerminal = true := by
  rw [Job.terminalStatus]
  split_ifs <;> rfl

theorem finish_of_not_done (h : ¬(job.finished = false ∧ job.workers.all Worker.isEnded = true)) :
    job.finish now = job := by
  rw [Job.finish, if_neg]
  rwa [Bool.and_eq_true, Bool.not_eq_true']

theorem finish_isTerminal (h : job.finished = false ∧ job.workers.all Worker.isEnded = true) :
    (job.finish now).status.isTerminal = true := by
  rw [Job.finish, if_pos (by rw [Bool.and_eq_true, Bool.not_eq_true']; exact h)]
  show (if _ then FleetJobStatus.failed else job.terminalStatus).isTerminal = true
  split_ifs
  · rfl
  · exact terminalStatus_isTerminal

/-! ### Every task -/

/-- No task changes what was submitted. -/
theorem identity_act (action : Action) : (job.act settings now action).identity = job.identity := by
  cases action with
  | advance i => exact (frame_advance i).identity
  | settle nodeId outcome => exact (frame_settle nodeId outcome).identity
  | expire i => exact (frame_expire i).identity
  | resume i => exact (frame_resume i).identity
  | finish =>
    rw [Job.act, Job.finish]
    split_ifs <;> rfl
  | cancel =>
    rw [Job.act, Job.cancel]
    split_ifs <;> rfl

/-- A task that does not end the job leaves its status. -/
theorem status_act {action : Action} (h : ¬job.EndsBy action) :
    (job.act settings now action).status = job.status := by
  cases action with
  | advance i => exact (frame_advance i).status
  | settle nodeId outcome => exact (frame_settle nodeId outcome).status
  | expire i => exact (frame_expire i).status
  | resume i => exact (frame_resume i).status
  | finish => rw [Job.act, finish_of_not_done h]
  | cancel =>
    rw [Job.act, Job.cancel, if_pos]
    exact Bool.of_not_eq_false h

theorem endsBy_isTerminal {action : Action} (h : job.EndsBy action) :
    (job.act settings now action).status.isTerminal = true := by
  cases action with
  | finish => exact finish_isTerminal h
  | cancel =>
    rw [Job.act, Job.cancel, if_neg (by rw [h]; exact Bool.false_ne_true)]
    rfl
  | _ => exact h.elim

/-- A terminal status stays terminal. -/
theorem terminal_act (settings : Settings) (now : ℤ) (h : job.status.isTerminal = true)
    (action : Action) :
    (job.act settings now action).status.isTerminal = true := by
  by_cases hends : job.EndsBy action
  · exact endsBy_isTerminal hends
  · rw [status_act hends]
    exact h

theorem all_ended_set {workers : List Worker} (h : workers.all Worker.isEnded = true) {i : ℕ}
    {worker : Worker} (hworker : workers[i]? = some worker) : worker = .ended := by
  have hended := List.all_eq_true.mp h worker (List.mem_of_getElem? hworker)
  cases worker <;> first | rfl | exact absurd hended Bool.false_ne_true

theorem all_ended_act (h : job.workers.all Worker.isEnded = true) (action : Action) :
    (job.act settings now action).workers.all Worker.isEnded = true := by
  cases action with
  | advance i =>
    rw [Job.act, Job.advance]
    split
    next hworker => cases all_ended_set h hworker
    next => exact h
  | settle nodeId outcome =>
    rw [Job.act, Job.settle]
    split_ifs
    · refine List.all_eq_true.mpr fun worker hworker => ?_
      obtain ⟨old, hold, rfl⟩ := List.mem_map.mp hworker
      have hended := List.all_eq_true.mp h old hold
      cases old <;> first | rfl | exact absurd hended Bool.false_ne_true
    · exact h
  | expire i =>
    rw [Job.act, Job.expire]
    split
    next hworker => cases all_ended_set h hworker
    next => exact h
  | resume i =>
    rw [Job.act, Job.resume]
    split
    next hworker => cases all_ended_set h hworker
    next => exact h
  | finish =>
    rw [Job.act, Job.finish]
    split_ifs <;> exact h
  | cancel =>
    rw [Job.act, Job.cancel]
    split_ifs <;> exact h

theorem aborted_act (h : job.aborted = true) (action : Action) :
    (job.act settings now action).aborted = true := by
  cases action with
  | advance i => exact (frame_advance i).aborted.trans h
  | settle nodeId outcome => exact (frame_settle nodeId outcome).aborted.trans h
  | expire i => exact (frame_expire i).aborted.trans h
  | resume i => exact (frame_resume i).aborted.trans h
  | finish =>
    rw [Job.act, Job.finish]
    split_ifs <;> exact h
  | cancel =>
    rw [Job.act, Job.cancel]
    split_ifs
    · exact h
    · rfl

theorem Stopped.act (h : job.Stopped) (action : Action) :
    (job.act settings now action).Stopped := by
  intro hterminal
  by_cases hends : job.EndsBy action
  · cases action with
    | finish => exact .inr (all_ended_act hends.2 .finish)
    | cancel =>
      refine .inl ?_
      rw [Job.act, Job.cancel, if_neg (by rw [hends]; exact Bool.false_ne_true)]
    | _ => exact hends.elim
  · rw [status_act hends] at hterminal
    rcases h hterminal with haborted | hended
    · exact .inl (aborted_act haborted action)
    · exact .inr (all_ended_act hended action)

theorem calls_resume (i : ℕ) : (job.resume now i).calls = job.calls := by
  rw [Job.resume]
  split
  · split
    · rfl
    · split_ifs
      · rfl
      · split <;> rfl
  · rfl

theorem calls_expire (i : ℕ) : (job.expire now i).calls = job.calls := by
  rw [Job.expire]
  split
  · split
    · split_ifs <;> rfl
    · rfl
  · rfl

/-- A terminal job without outstanding calls makes none. -/
theorem calls_act (hstopped : job.Stopped) (hterminal : job.status.isTerminal = true)
    (hcalls : job.calls = []) (action : Action) : (job.act settings now action).calls = [] := by
  cases action with
  | advance i =>
    rw [Job.act, Job.advance]
    split
    next hworker =>
      split
      · exact hcalls
      · rcases hstopped hterminal with haborted | hended
        · rw [if_pos haborted]
          exact hcalls
        · cases all_ended_set hended hworker
    next => exact hcalls
  | settle nodeId outcome =>
    rw [Job.act, Job.settle, if_neg]
    · exact hcalls
    · rw [hcalls]
      exact Bool.false_ne_true
  | expire i => exact (calls_expire i).trans hcalls
  | resume i => exact (calls_resume i).trans hcalls
  | finish =>
    rw [Job.act, Job.finish]
    split_ifs <;> exact hcalls
  | cancel =>
    rw [Job.act, Job.cancel, if_pos hterminal]
    exact hcalls

/-- The task that ends a job leaves its calls as they are. -/
theorem calls_of_endsBy {action : Action} (h : job.EndsBy action) :
    (job.act settings now action).calls = job.calls := by
  cases action with
  | finish =>
    rw [Job.act, Job.finish]
    split_ifs <;> rfl
  | cancel =>
    rw [Job.act, Job.cancel]
    split_ifs <;> rfl
  | _ => exact h.elim

/-! ### Dispatches -/

/-- The target that a worker at its loop condition hands to the transport. -/
def nextTarget (job : Job) (i : ℕ) : Option String :=
  match job.workers[i]? with
  | some .ready =>
    if job.aborted then none
    else job.queue.head?.filter fun nodeId =>
      (job.task nodeId).any fun task => task.status ≠ .failed
  | _ => none

/-- A worker at its loop condition starts a dispatch, or makes no call. -/
theorem advance_cases (job : Job) (settings : Settings) (now : ℤ) (i : ℕ) :
    (∃ nodeId rest, job.nextTarget i = some nodeId ∧ job.workers[i]? = some .ready ∧
      job.aborted = false ∧ job.queue = nodeId :: rest ∧
      job.advance settings now i = job.startDispatch settings now i nodeId) ∨
    job.nextTarget i = none ∧ (job.advance settings now i).calls = job.calls ∧
      (job.advance settings now i).queue <:+ job.queue := by
  cases hworker : job.workers[i]? with
  | none =>
    refine .inr ?_
    rw [nextTarget, Job.advance, hworker]
    exact ⟨rfl, rfl, List.suffix_rfl⟩
  | some worker =>
    cases worker with
    | ready =>
      cases hqueue : job.queue with
      | nil =>
        refine .inr ?_
        simp only [nextTarget, Job.advance, hworker, hqueue]
        refine ⟨?_, rfl, ?_⟩
        · split_ifs <;> rfl
        · exact ⟨[], hqueue⟩
      | cons nodeId rest =>
        cases haborted : job.aborted with
        | true =>
          refine .inr ?_
          simp only [nextTarget, Job.advance, hworker, hqueue, haborted, if_true]
          exact ⟨trivial, rfl, [], hqueue⟩
        | false =>
          have hnext : job.nextTarget i = if (job.task nodeId).any fun task =>
              task.status ≠ .failed then some nodeId else none := by
            simp only [nextTarget, hworker, hqueue, haborted, Bool.false_eq_true, if_false,
              List.head?_cons, Option.filter_some]
          simp only [Job.advance, hworker, hqueue, haborted, Bool.false_eq_true, if_false, hnext]
          cases htask : job.task nodeId with
          | none => exact .inr ⟨rfl, rfl, List.suffix_cons nodeId rest⟩
          | some task =>
            by_cases hfailed : task.status = .failed
            · refine .inr ?_
              simp only [hfailed, if_true, Option.any_some, ne_eq, not_true_eq_false, decide_false,
                Bool.false_eq_true, if_false]
              exact ⟨trivial, trivial, List.suffix_cons nodeId rest⟩
            · refine .inl ⟨nodeId, rest, ?_, trivial, trivial, rfl, ?_⟩
              · rw [if_pos]
                rw [Option.any_some, decide_eq_true_eq]
                exact hfailed
              · dsimp only
                rw [if_neg hfailed]
    | _ =>
      refine .inr ?_
      rw [nextTarget, Job.advance, hworker]
      exact ⟨rfl, rfl, List.suffix_rfl⟩

/-- No task puts a target back into the queue. -/
theorem queue_act (job : Job) (settings : Settings) (now : ℤ) (action : Action) :
    (job.act settings now action).queue <:+ job.queue := by
  cases action with
  | advance i =>
    rcases advance_cases job settings now i with
      ⟨nodeId, rest, -, -, -, hqueue, hstart⟩ | ⟨-, -, hsuffix⟩
    · rw [Job.act, hstart, Job.startDispatch]
      exact List.tail_suffix job.queue
    · exact hsuffix
  | settle nodeId outcome =>
    rw [Job.act, Job.settle]
    split_ifs <;> exact List.suffix_rfl
  | expire i =>
    rw [Job.act, Job.expire]
    split
    · split
      · split_ifs <;> exact List.suffix_rfl
      · exact List.suffix_rfl
    · exact List.suffix_rfl
  | resume i =>
    rw [Job.act, Job.resume]
    split
    · split
      · exact List.suffix_rfl
      · split_ifs
        · exact List.suffix_rfl
        · split <;> exact List.suffix_rfl
    · exact List.suffix_rfl
  | finish =>
    rw [Job.act, Job.finish]
    split_ifs <;> exact List.suffix_rfl
  | cancel =>
    rw [Job.act, Job.cancel]
    split_ifs <;> exact List.suffix_rfl

/-- The target that the task hands to the transport. -/
def starts (job : Job) : Action → Option String
  | .advance i => job.nextTarget i
  | _ => none

/-- A task that starts no dispatch makes no call. -/
theorem calls_act_of_not_starts (settings : Settings) (now : ℤ) {action : Action}
    (h : job.starts action = none) :
    (job.act settings now action).calls.Sublist job.calls := by
  cases action with
  | advance i =>
    rcases advance_cases job settings now i with ⟨nodeId, rest, hnext, -⟩ | ⟨-, hcalls, -⟩
    · have hnone : job.nextTarget i = none := h
      rw [hnext] at hnone
      cases hnone
    · rw [Job.act, hcalls]
  | settle nodeId outcome =>
    rw [Job.act, Job.settle]
    split_ifs
    · exact List.filter_sublist
    · exact List.Sublist.refl _
  | expire i => rw [Job.act, calls_expire]
  | resume i => rw [Job.act, calls_resume]
  | finish =>
    rw [Job.act, Job.finish]
    split_ifs <;> exact List.Sublist.refl _
  | cancel =>
    rw [Job.act, Job.cancel]
    split_ifs <;> exact List.Sublist.refl _

/-- A dispatch takes the next target from the queue and adds its call. -/
theorem starts_cases (settings : Settings) (now : ℤ) {action : Action} {nodeId : String}
    (h : job.starts action = some nodeId) :
    ∃ i rest call, action = .advance i ∧ job.workers[i]? = some .ready ∧ job.aborted = false ∧
      job.queue = nodeId :: rest ∧ call.nodeId = nodeId ∧
      (job.act settings now action).queue = rest ∧
      (job.act settings now action).calls = job.calls ++ [call] := by
  cases action with
  | advance i =>
    rcases advance_cases job settings now i with
      ⟨other, rest, hnext, hready, haborted, hqueue, hstart⟩ | ⟨hnone, -⟩
    · obtain rfl : other = nodeId := Option.some.inj (hnext.symm.trans h)
      refine ⟨i, rest, _, rfl, hready, haborted, hqueue, rfl, ?_, by rw [Job.act, hstart]; rfl⟩
      rw [Job.act, hstart, Job.startDispatch, hqueue, List.tail_cons]
    · rw [starts, hnone] at h
      cases h
  | _ => cases h

/-! ### New jobs -/

theorem frame_filterTarget (registry : Option NodeTable) (now : ℤ) (job : Job)
    (nodeId : String) :
    Frame job (job.filterTarget registry now nodeId) ∧
      (job.filterTarget registry now nodeId).calls = job.calls := by
  rw [Job.filterTarget]
  split_ifs
  · exact ⟨⟨rfl, rfl, rfl, rfl, rfl⟩, rfl⟩
  · split <;> exact ⟨⟨rfl, rfl, rfl, rfl, rfl⟩, rfl⟩

theorem frame_foldl {registry : Option NodeTable} (rest : List String) (job : Job) :
    Frame job (rest.foldl (Job.filterTarget registry now) job) ∧
      (rest.foldl (Job.filterTarget registry now) job).calls = job.calls := by
  induction rest generalizing job with
  | nil => exact ⟨.refl job, rfl⟩
  | cons nodeId rest ih =>
    obtain ⟨hfirst, hcalls⟩ := frame_filterTarget registry now job nodeId
    obtain ⟨hrest, hcalls'⟩ := ih (job.filterTarget registry now nodeId)
    exact ⟨⟨hrest.identity.trans hfirst.identity, hrest.status.trans hfirst.status,
      hrest.aborted.trans hfirst.aborted, hrest.finished.trans hfirst.finished,
      hrest.finishedAt.trans hfirst.finishedAt⟩, hcalls'.trans hcalls⟩

theorem identity_beginExecution (settings : Settings) (registry : Option NodeTable) (now : ℤ)
    (job : Job) : (job.beginExecution settings registry now).identity = job.identity :=
  (frame_foldl _ _).1.identity

theorem status_beginExecution {registry : Option NodeTable} :
    (job.beginExecution settings registry now).status = .running :=
  (frame_foldl _ _).1.status

theorem calls_beginExecution {registry : Option NodeTable} :
    (job.beginExecution settings registry now).calls = job.calls :=
  (frame_foldl _ _).2

end Job

/-- What an accepted submission adds to the scheduler: a running job, or nothing if it names a
job that exists. -/
theorem submitJob_cases {s s' : Scheduler} {settings : Settings} {registry : Option NodeTable}
    {now : ℤ} {draw jobId : String} {submission : Submission}
    (h : s.submitJob settings registry now draw submission = .ok (s', jobId)) :
    (s' = s ∧ submission.jobId ≠ none) ∨
    ∃ job, s' = { jobs := s.jobs ++ [job] } ∧ job.jobId = jobId ∧
      validatePayload submission.payload = .ok job.payload ∧ job.status = .running ∧
      job.calls = [] := by
  rw [Scheduler.submitJob] at h
  cases hvalid : s.validateSubmission registry now draw submission with
  | error e =>
    rw [hvalid] at h
    cases h
  | ok result =>
    rw [hvalid] at h
    cases result with
    | inl known =>
      refine .inl ⟨(Prod.mk.inj (Except.ok.inj h)).1.symm, ?_⟩
      intro hid
      rw [Scheduler.validateSubmission, hid] at hvalid
      simp only [Scheduler.givenJobId, bind, Except.bind, Option.bind_none, Option.isSome_none,
        Bool.false_eq_true, if_false] at hvalid
      repeat' split at hvalid
      all_goals cases hvalid
    | inr fresh =>
      obtain ⟨jobId', taskType, payload, targets, -, hpayload, rfl⟩ :=
        validateSubmission_eq_job hvalid
      obtain ⟨hs, hjobId⟩ := Prod.mk.inj (Except.ok.inj h)
      have hidentity := Job.identity_beginExecution settings registry now
        (Scheduler.newJob now jobId' taskType payload (submission.targetSpec.getD .null) targets
          submission)
      refine .inr ⟨_, hs.symm, ?_, ?_, Job.status_beginExecution, Job.calls_beginExecution⟩
      · exact (congrArg JobIdentity.jobId hidentity).trans hjobId
      · exact hpayload.trans (congrArg Except.ok (congrArg JobIdentity.payload hidentity).symm)

end DshOrbit.Fleet
