import DshOrbit.Fleet.Scheduler

/-!
# Accounting of fleet jobs

The counters of a job are moved one by one while its results are stored beside them. They
agree as long as the transport reports statuses that it may report: a queued target is
pending, a target that a worker holds is running, and every other target has been counted
once under the status it ended with.

A worker stores whatever status the transport returns and counts what it does not know as
failed.

## Main definitions

- `Job.Reconciled` — the counters of a job agree with its results
- `Job.Consistent` — the invariant of an execution
- `Scheduler.Reported` — the transport reported a status of a finished dispatch

## Main results

- `jobs_reconciled` — terminal jobs are reconciled where every report is such a status
-/

namespace DshOrbit.Fleet

open DshOrbit.Lib DshOrbit.Registry

/-! ### Counters and results -/

/-- The counter of a status. -/
def Summary.counter (summary : Summary) : NodeTaskStatus → ℕ
  | .completed => summary.completed
  | .failed => summary.failed
  | .skipped => summary.skipped
  | .timeout => summary.timeout
  | .unreachable => summary.unreachable
  | .pending | .running | .other _ => 0

/-- A status of a dispatch that is over. -/
def NodeTaskStatus.isReport : NodeTaskStatus → Bool
  | .completed | .failed | .timeout | .unreachable => true
  | .pending | .running | .skipped | .other _ => false

theorem NodeTaskStatus.isTerminal_of_isReport {status : NodeTaskStatus}
    (h : status.isReport = true) : status.isTerminal = true := by
  cases status <;> first | rfl | exact absurd h Bool.false_ne_true

theorem NodeTaskStatus.not_isOpen_of_isTerminal {status : NodeTaskStatus}
    (h : status.isTerminal = true) : status.isOpen = false := by
  cases status <;> first | rfl | exact absurd h Bool.false_ne_true

theorem Summary.counter_count (summary : Summary) {status : NodeTaskStatus}
    (h : status.isReport = true) (other : NodeTaskStatus) :
    (summary.count status).counter other =
      summary.counter other + if status = other then 1 else 0 := by
  cases status <;> first | exact absurd h Bool.false_ne_true | (cases other <;> rfl)

theorem Summary.totalTargets_count (summary : Summary) (status : NodeTaskStatus) :
    (summary.count status).totalTargets = summary.totalTargets := by
  cases status <;> rfl

namespace NodeTask

variable (now : ℤ)

@[simp] theorem conclude_nodeId (status : NodeTaskStatus) (task : NodeTask) :
    (task.conclude now status).nodeId = task.nodeId := rfl

@[simp] theorem start_nodeId (task : NodeTask) : (task.start now).nodeId = task.nodeId := rfl

@[simp] theorem start_status (task : NodeTask) : (task.start now).status = .running := rfl

@[simp] theorem store_nodeId (result : DispatchResult) (task : NodeTask) :
    (task.store now result).nodeId = task.nodeId := rfl

@[simp] theorem store_status (result : DispatchResult) (task : NodeTask) :
    (task.store now result).status = .ofValue result.status := rfl

@[simp] theorem storeError_nodeId (code message : Option Json) (task : NodeTask) :
    (task.storeError now code message).nodeId = task.nodeId := rfl

@[simp] theorem storeError_status (code message : Option Json) (task : NodeTask) :
    (task.storeError now code message).status = .failed := rfl

@[simp] theorem skip_nodeId (reason : String) (task : NodeTask) :
    (task.skip now reason).nodeId = task.nodeId := rfl

@[simp] theorem drop_nodeId (task : NodeTask) : (task.drop now).nodeId = task.nodeId := rfl

@[simp] theorem cancel_nodeId (task : NodeTask) : (task.cancel now).nodeId = task.nodeId := rfl

@[simp] theorem cancel_status (task : NodeTask) : (task.cancel now).status = .failed := rfl

end NodeTask

namespace Job

/-- How many results have a status. -/
def tally (job : Job) (status : NodeTaskStatus) : ℕ :=
  job.results.countP fun task => task.status = status

def statusOf (job : Job) (nodeId : String) : Option NodeTaskStatus :=
  (job.task nodeId).map NodeTask.status

/-- The counters of a job agree with its results: every target has one result, in a terminal
status, each counter is the number of the results with its status, and together they make up
the targets. -/
structure Reconciled (job : Job) : Prop where
  unique : job.targets.Nodup
  terminal : ∀ task ∈ job.results, task.status.isTerminal = true
  completed : job.summary.completed = job.tally .completed
  failed : job.summary.failed = job.tally .failed
  skipped : job.summary.skipped = job.tally .skipped
  timeout : job.summary.timeout = job.tally .timeout
  unreachable : job.summary.unreachable = job.tally .unreachable
  total : job.summary.computedTotal = job.targets.length
  totalTargets : job.summary.totalTargets = job.targets.length

end Job

theorem length_of_terminal {tasks : List NodeTask}
    (h : ∀ task ∈ tasks, task.status.isTerminal = true) :
    tasks.countP (fun task => task.status = .completed) +
      tasks.countP (fun task => task.status = .failed) +
      tasks.countP (fun task => task.status = .skipped) +
      tasks.countP (fun task => task.status = .timeout) +
      tasks.countP (fun task => task.status = .unreachable) = tasks.length := by
  induction tasks with
  | nil => rfl
  | cons task rest ih =>
    have hrest := ih fun other hother => h other (List.mem_cons_of_mem task hother)
    have htask := h task List.mem_cons_self
    simp only [List.countP_cons, List.length_cons]
    cases hstatus : task.status <;> rw [hstatus] at htask <;>
      first | exact absurd htask Bool.false_ne_true | (simp; omega)

/-! ### The invariant -/

namespace Job

/-- A worker has taken a target and not yet reported it. -/
def Holds (job : Job) (i : ℕ) (nodeId : String) : Prop :=
  (job.workers[i]?).bind Worker.nodeId? = some nodeId

/-- The counters of the statuses in which a target ends. -/
def Counted (job : Job) : Prop :=
  ∀ status : NodeTaskStatus, status.isTerminal = true →
    job.summary.counter status = job.tally status

/-- What holds of a job between any two of its tasks. -/
structure Consistent (job : Job) : Prop where
  unique : job.targets.Nodup
  totalTargets : job.summary.totalTargets = job.results.length
  counted : job.Counted
  vocabulary : ∀ task ∈ job.results, task.status.isTerminal = true ∨ task.status.isOpen = true
  queue : job.queue.Nodup
  queued : job.aborted = false →
    ∀ nodeId, nodeId ∈ job.queue ↔ job.statusOf nodeId = some .pending
  held : job.aborted = false →
    ∀ nodeId, (∃ i, job.Holds i nodeId) ↔ job.statusOf nodeId = some .running
  holder : ∀ i j nodeId, job.Holds i nodeId → job.Holds j nodeId → i = j
  closed : job.aborted = true → ∀ task ∈ job.results, task.status.isTerminal = true
  idle : ∀ i : ℕ, job.workers[i]? = some .ended → job.aborted = true ∨ job.queue = []
  staffed : job.workers = [] → job.queue = []
  stopped : job.status.isTerminal = true → job.aborted = true ∨ job.workers.all Worker.isEnded = true

variable {job : Job} {settings : Settings} {now : ℤ}

theorem statusOf_eq_some (hnodup : job.targets.Nodup) {task : NodeTask}
    (h : task ∈ job.results) : job.statusOf task.nodeId = some task.status := by
  rw [statusOf, Job.task, find?_of_nodup hnodup h rfl, Option.map_some]

theorem exists_of_statusOf {nodeId : String} {status : NodeTaskStatus}
    (h : job.statusOf nodeId = some status) :
    ∃ task ∈ job.results, task.nodeId = nodeId ∧ task.status = status ∧
      job.task nodeId = some task := by
  obtain ⟨task, hfind, hstatus⟩ := Option.map_eq_some_iff.mp h
  have hid := List.find?_some hfind
  rw [decide_eq_true_eq] at hid
  exact ⟨task, List.mem_of_find?_eq_some hfind, hid, hstatus, hfind⟩

/-- Nothing is open once every worker has ended. -/
theorem Consistent.terminal_of_ended (h : job.Consistent)
    (hended : job.workers.all Worker.isEnded = true) {task : NodeTask} (htask : task ∈ job.results) :
    task.status.isTerminal = true := by
  by_cases haborted : job.aborted = true
  · exact h.closed haborted task htask
  · rw [Bool.not_eq_true] at haborted
    have hstatus := statusOf_eq_some h.unique htask
    rcases h.vocabulary task htask with hterminal | hopen
    · exact hterminal
    · exfalso
      cases hs : task.status with
      | pending =>
        have hmem := (h.queued haborted _).mpr (hstatus.trans (congrArg some hs))
        have hempty : job.queue = [] := by
          cases hworkers : job.workers with
          | nil => exact h.staffed hworkers
          | cons worker rest =>
            rw [hworkers, List.all_cons, Bool.and_eq_true] at hended
            have hfirst : job.workers[0]? = some .ended := by
              rw [hworkers, List.getElem?_cons_zero]
              cases worker <;> first | rfl | exact absurd hended.1 Bool.false_ne_true
            exact (h.idle 0 hfirst).resolve_left (by rw [haborted]; exact Bool.false_ne_true)
        rw [hempty] at hmem
        exact List.not_mem_nil hmem
      | running =>
        obtain ⟨i, hi⟩ := (h.held haborted _).mpr (hstatus.trans (congrArg some hs))
        obtain ⟨worker, hworker, hnode⟩ := Option.bind_eq_some_iff.mp hi
        have := List.all_eq_true.mp hended worker (List.mem_of_getElem? hworker)
        cases worker <;> first | exact absurd this Bool.false_ne_true | exact absurd hnode (by simp [Worker.nodeId?])
      | _ => rw [hs] at hopen; exact absurd hopen Bool.false_ne_true

/-- A consistent job is reconciled when it is terminal. -/
theorem Consistent.reconciled (h : job.Consistent) (hterminal : job.status.isTerminal = true) :
    job.Reconciled := by
  have hclosed : ∀ task ∈ job.results, task.status.isTerminal = true := by
    intro task htask
    rcases h.stopped hterminal with haborted | hended
    · exact h.closed haborted task htask
    · exact h.terminal_of_ended hended htask
  have hcompleted := h.counted .completed rfl
  have hfailed := h.counted .failed rfl
  have hskipped := h.counted .skipped rfl
  have htimeout := h.counted .timeout rfl
  have hunreachable := h.counted .unreachable rfl
  simp only [Summary.counter] at hcompleted hfailed hskipped htimeout hunreachable
  refine ⟨h.unique, hclosed, hcompleted, hfailed, hskipped, htimeout, hunreachable, ?_, ?_⟩
  · rw [Summary.computedTotal, hcompleted, hfailed, hskipped, htimeout, hunreachable, targets,
      List.length_map]
    exact length_of_terminal hclosed
  · rw [h.totalTargets, targets, List.length_map]

/-! ### Single tasks and workers -/

theorem statusOf_updateTask {f : NodeTask → NodeTask} (hid : ∀ task, (f task).nodeId = task.nodeId)
    (nodeId other : String) :
    (job.updateTask nodeId f).statusOf other =
      if other = nodeId then (job.task nodeId).map fun task => (f task).status
      else job.statusOf other := by
  rw [statusOf, Job.task, updateTask, find?_updateWhere hid, Option.map_map]
  by_cases h : other = nodeId
  · subst h
    rw [if_pos rfl]
    refine congrArg (fun g => Option.map g _) (funext fun task => ?_)
    rw [Function.comp, if_pos rfl]
  · rw [if_neg h]
    refine congrArg (fun g => Option.map g _) (funext fun task => ?_)
    rw [Function.comp, if_neg h]

theorem targets_updateTask (job : Job) {f : NodeTask → NodeTask}
    (hid : ∀ task, (f task).nodeId = task.nodeId) (nodeId : String) :
    (job.updateTask nodeId f).targets = job.targets :=
  map_updateWhere NodeTask.nodeId hid job.results

/-- An open task that ends moves the count of the status it ends in. -/
theorem tally_updateTask (hnodup : job.targets.Nodup) {nodeId : String} {task : NodeTask}
    (htask : job.task nodeId = some task) (hopen : task.status.isTerminal = false)
    (f : NodeTask → NodeTask) {status : NodeTaskStatus} (hstatus : status.isTerminal = true) :
    (job.updateTask nodeId f).tally status =
      job.tally status + if (f task).status = status then 1 else 0 := by
  have hmem := List.mem_of_find?_eq_some htask
  have hid := List.find?_some htask
  rw [decide_eq_true_eq] at hid
  have hcount := countP_updateWhere_key hnodup (fun task => decide (task.status = status)) f hmem
  have hother : task.status ≠ status := by
    intro heq
    rw [heq, hstatus] at hopen
    exact Bool.noConfusion hopen
  simp only [hid, hother, decide_false, Bool.false_eq_true, if_false, Nat.add_zero,
    decide_eq_true_eq] at hcount
  exact hcount

theorem vocabulary_updateTask
    (h : ∀ task ∈ job.results, task.status.isTerminal = true ∨ task.status.isOpen = true)
    {f : NodeTask → NodeTask}
    (hf : ∀ task, (f task).status.isTerminal = true ∨ (f task).status.isOpen = true)
    (nodeId : String) : ∀ task ∈ (job.updateTask nodeId f).results,
      task.status.isTerminal = true ∨ task.status.isOpen = true := by
  intro task htask
  rcases mem_updateWhere.mp htask with ⟨hmem, -⟩ | ⟨old, -, -, rfl⟩
  · exact h task hmem
  · exact hf old

theorem holds_set {i j : ℕ} {old worker : Worker} (hold : job.workers[i]? = some old)
    (nodeId : String) :
    ((job.workers.set i worker)[j]?).bind Worker.nodeId? = some nodeId ↔
      if j = i then worker.nodeId? = some nodeId else job.Holds j nodeId := by
  have hlt : i < job.workers.length := (List.getElem?_eq_some_iff.mp hold).1
  rw [List.getElem?_set]
  by_cases h : j = i
  · subst h
    rw [if_pos rfl, if_pos rfl, if_pos hlt]
    rfl
  · rw [if_neg (Ne.symm h), if_neg h]
    rfl

/-- No worker but one that is ready or ended lets go of its target without a report. -/
theorem Consistent.setWorker (h : job.Consistent) {i : ℕ} {old worker : Worker}
    (hold : job.workers[i]? = some old) (hrest : old.isEnded = false)
    (hnode : worker.nodeId? = old.nodeId? ∨ job.aborted = true ∧ worker.nodeId? = none)
    (hended : worker = .ended → job.aborted = true ∨ job.queue = []) :
    (job.setWorker i worker).Consistent := by
  have hholds : ∀ j nodeId, (job.setWorker i worker).Holds j nodeId → job.Holds j nodeId := by
    intro j nodeId hj
    rw [Holds, Job.setWorker, holds_set hold] at hj
    by_cases hji : j = i
    · subst hji
      rw [if_pos rfl] at hj
      rcases hnode with hsame | ⟨-, hnone⟩
      · rw [Holds, hold]
        exact hsame.symm.trans hj
      · rw [hnone] at hj
        cases hj
    · rwa [if_neg hji] at hj
  refine ⟨h.unique, h.totalTargets, h.counted, h.vocabulary, h.queue, h.queued, ?_, ?_, h.closed,
    ?_, ?_, ?_⟩
  · intro haborted nodeId
    have hsame := hnode.resolve_right fun hcase => Bool.noConfusion (hcase.1.symm.trans haborted)
    refine Iff.trans ?_ (h.held haborted nodeId)
    refine ⟨fun ⟨j, hj⟩ => ⟨j, hholds j nodeId hj⟩, fun ⟨j, hj⟩ => ⟨j, ?_⟩⟩
    rw [Holds, Job.setWorker, holds_set hold]
    by_cases hji : j = i
    · subst hji
      rw [if_pos rfl, hsame]
      rw [Holds, hold] at hj
      exact hj
    · rwa [if_neg hji]
  · intro j k nodeId hj hk
    exact h.holder j k nodeId (hholds j nodeId hj) (hholds k nodeId hk)
  · intro j hj
    rw [Job.setWorker, List.getElem?_set] at hj
    by_cases hji : i = j
    · rw [if_pos hji] at hj
      split_ifs at hj
      exact hended (Option.some.inj hj)
    · rw [if_neg hji] at hj
      exact h.idle j hj
  · intro hempty
    exact h.staffed ((List.set_eq_nil_iff _ _).mp hempty)
  · intro hterminal
    rcases h.stopped hterminal with haborted | hall
    · exact .inl haborted
    · have := List.all_eq_true.mp hall old (List.mem_of_getElem? hold)
      rw [hrest] at this
      exact Bool.noConfusion this

/-! ### Dispatches -/

theorem Consistent.startDispatch (h : job.Consistent) {i : ℕ} {nodeId : String}
    {rest : List String} (haborted : job.aborted = false) (hqueue : job.queue = nodeId :: rest)
    (hworker : job.workers[i]? = some .ready) :
    (job.startDispatch settings now i nodeId).Consistent := by
  have hmem : nodeId ∈ job.queue := hqueue ▸ List.mem_cons_self
  have hpending := (h.queued haborted nodeId).mp hmem
  obtain ⟨task, -, -, hstatus, htask⟩ := exists_of_statusOf hpending
  have hnodup := h.queue
  rw [hqueue, List.nodup_cons] at hnodup
  have hnone : ∀ other, ¬job.Holds i other := by
    intro other hi
    rw [Holds, hworker] at hi
    cases hi
  have hstatusOf : ∀ other, (job.startDispatch settings now i nodeId).statusOf other =
      if other = nodeId then some .running else job.statusOf other := by
    intro other
    refine (statusOf_updateTask (NodeTask.start_nodeId now) nodeId other).trans ?_
    rw [htask]
    rfl
  have hholds : ∀ j other, (job.startDispatch settings now i nodeId).Holds j other ↔
      if j = i then nodeId = other else job.Holds j other := by
    intro j other
    refine (holds_set hworker other).trans ?_
    simp only [Worker.nodeId?, Option.some.injEq]
  refine ⟨?_, ?_, ?_, ?_, ?_, ?_, ?_, ?_, ?_, ?_, ?_, ?_⟩
  · have hsame := targets_updateTask job (NodeTask.start_nodeId now) nodeId
    exact hsame.symm ▸ h.unique
  · refine h.totalTargets.trans ?_
    exact (List.length_map _).symm
  · intro status hterminal
    refine (h.counted status hterminal).trans ?_
    have htally := tally_updateTask h.unique htask (hstatus ▸ rfl)
      (NodeTask.start now) hterminal
    rw [if_neg (by rintro rfl; exact Bool.noConfusion hterminal)] at htally
    exact htally.symm
  · exact vocabulary_updateTask h.vocabulary (f := NodeTask.start now) (fun _ => .inr rfl) nodeId
  · show job.queue.tail.Nodup
    rw [hqueue]
    exact hnodup.2
  · intro _ other
    rw [hstatusOf other]
    show other ∈ job.queue.tail ↔ _
    rw [hqueue, List.tail_cons]
    by_cases hsame : other = nodeId
    · subst hsame
      rw [if_pos rfl]
      exact ⟨fun hin => absurd hin hnodup.1, fun heq => by cases heq⟩
    · rw [if_neg hsame, ← h.queued haborted other, hqueue, List.mem_cons]
      exact ⟨.inr, fun hor => hor.resolve_left hsame⟩
  · intro _ other
    rw [hstatusOf other]
    by_cases hsame : other = nodeId
    · subst hsame
      rw [if_pos rfl]
      exact ⟨fun _ => rfl, fun _ => ⟨i, (hholds i other).mpr (by rw [if_pos rfl])⟩⟩
    · rw [if_neg hsame, ← h.held haborted other]
      constructor
      · rintro ⟨j, hj⟩
        rw [hholds] at hj
        by_cases hji : j = i
        · rw [if_pos hji] at hj
          exact absurd hj.symm hsame
        · rw [if_neg hji] at hj
          exact ⟨j, hj⟩
      · rintro ⟨j, hj⟩
        have hji : j ≠ i := by
          rintro rfl
          exact hnone other hj
        exact ⟨j, (hholds j other).mpr (by rwa [if_neg hji])⟩
  · intro j k other hj hk
    rw [hholds] at hj hk
    have hfree : ∀ l, ¬job.Holds l nodeId := by
      intro l hl
      have hrunning := (h.held haborted nodeId).mp ⟨l, hl⟩
      rw [hpending] at hrunning
      cases hrunning
    by_cases hji : j = i
    · by_cases hki : k = i
      · rw [hji, hki]
      · rw [if_pos hji] at hj
        rw [if_neg hki] at hk
        exact absurd (hj ▸ hk) (hfree k)
    · by_cases hki : k = i
      · rw [if_neg hji] at hj
        rw [if_pos hki] at hk
        exact absurd (hk ▸ hj) (hfree j)
      · rw [if_neg hji] at hj
        rw [if_neg hki] at hk
        exact h.holder j k other hj hk
  · intro hclosed
    exact Bool.noConfusion (haborted.symm.trans hclosed)
  · intro j hj
    exfalso
    have hj' : (job.workers.set i (.dispatching nodeId))[j]? = some .ended := hj
    rw [List.getElem?_set] at hj'
    by_cases hij : i = j
    · rw [if_pos hij] at hj'
      split_ifs at hj'
      cases hj'
    · rw [if_neg hij] at hj'
      rcases h.idle j hj' with hcase | hempty
      · exact Bool.noConfusion (haborted.symm.trans hcase)
      · rw [hqueue] at hempty
        exact List.cons_ne_nil _ _ hempty
  · intro hempty
    have hnil : job.workers = [] := (List.set_eq_nil_iff _ _).mp hempty
    rw [hnil] at hworker
    cases hworker
  · intro hterminal
    rcases h.stopped hterminal with hcase | hall
    · exact .inl hcase
    · exact absurd (List.all_eq_true.mp hall _ (List.mem_of_getElem? hworker)) Bool.false_ne_true

/-- A worker reports the status its target ended with. -/
theorem Consistent.report (h : job.Consistent) {i : ℕ} {nodeId : String} {outcome : Settlement}
    (haborted : job.aborted = false) (hworker : job.workers[i]? = some (.settled nodeId outcome))
    {f : NodeTask → NodeTask} (hid : ∀ task, (f task).nodeId = task.nodeId)
    {status : NodeTaskStatus} (hreport : status.isReport = true)
    (hf : ∀ task, (f task).status = status) :
    (({ job.updateTask nodeId f with summary := job.summary.count status } : Job).setWorker i
      .ready).Consistent := by
  have hholder : job.Holds i nodeId := by
    rw [Holds, hworker]
    rfl
  have hrunning := (h.held haborted nodeId).mp ⟨i, hholder⟩
  obtain ⟨task, -, -, hstatus, htask⟩ := exists_of_statusOf hrunning
  have hterminal := NodeTaskStatus.isTerminal_of_isReport hreport
  generalize hjob : (({ job.updateTask nodeId f with
    summary := job.summary.count status } : Job).setWorker i .ready) = job'
  have hstatusOf : ∀ other, job'.statusOf other =
      if other = nodeId then some status else job.statusOf other := by
    intro other
    subst hjob
    refine (statusOf_updateTask hid nodeId other).trans ?_
    rw [htask, Option.map_some, hf]
  have hholds : ∀ j other, job'.Holds j other ↔ j ≠ i ∧ job.Holds j other := by
    intro j other
    subst hjob
    refine (holds_set hworker other).trans ?_
    by_cases hji : j = i
    · simp [hji, Worker.nodeId?]
    · simp [hji]
  have haborted' : job'.aborted = false := by
    subst hjob
    exact haborted
  have hqueue : job'.queue = job.queue := by
    subst hjob
    rfl
  refine ⟨?_, ?_, ?_, ?_, ?_, ?_, ?_, ?_, ?_, ?_, ?_, ?_⟩
  · subst hjob
    exact (targets_updateTask job hid nodeId).symm ▸ h.unique
  · subst hjob
    refine (Summary.totalTargets_count _ _).trans (h.totalTargets.trans ?_)
    exact (List.length_map _).symm
  · intro other hother
    subst hjob
    refine (Summary.counter_count _ hreport other).trans ?_
    rw [h.counted other hother]
    have htally := tally_updateTask h.unique htask (hstatus ▸ rfl) f hother
    rw [hf] at htally
    exact htally.symm
  · subst hjob
    exact vocabulary_updateTask h.vocabulary (fun task => .inl (by rw [hf]; exact hterminal)) nodeId
  · rw [hqueue]
    exact h.queue
  · intro _ other
    rw [hqueue, hstatusOf, h.queued haborted]
    by_cases hsame : other = nodeId
    · subst hsame
      rw [if_pos rfl, hrunning]
      constructor
      · intro heq
        cases heq
      · intro heq
        cases heq
        exact Bool.noConfusion hreport
    · rw [if_neg hsame]
  · intro _ other
    rw [hstatusOf]
    by_cases hsame : other = nodeId
    · subst hsame
      rw [if_pos rfl]
      constructor
      · rintro ⟨j, hj⟩
        obtain ⟨hji, hj⟩ := (hholds j other).mp hj
        exact absurd (h.holder j i other hj hholder) hji
      · intro heq
        cases heq
        exact Bool.noConfusion hreport
    · rw [if_neg hsame, ← h.held haborted other]
      constructor
      · rintro ⟨j, hj⟩
        exact ⟨j, ((hholds j other).mp hj).2⟩
      · rintro ⟨j, hj⟩
        refine ⟨j, (hholds j other).mpr ⟨?_, hj⟩⟩
        rintro rfl
        rw [Holds, hworker] at hj
        exact hsame (Option.some.inj hj).symm
  · intro j k other hj hk
    exact h.holder j k other ((hholds j other).mp hj).2 ((hholds k other).mp hk).2
  · intro hclosed
    exact Bool.noConfusion (haborted'.symm.trans hclosed)
  · intro j hj
    rw [hqueue]
    have hj' : job.workers[j]? = some .ended := by
      subst hjob
      have hset : (job.workers.set i .ready)[j]? = some .ended := hj
      rw [List.getElem?_set] at hset
      by_cases hij : i = j
      · rw [if_pos hij] at hset
        split_ifs at hset
        cases hset
      · rwa [if_neg hij] at hset
    exact .inr ((h.idle j hj').resolve_left (by rw [haborted]; exact Bool.false_ne_true))
  · intro hempty
    subst hjob
    have hnil : job.workers = [] := (List.set_eq_nil_iff _ _).mp hempty
    rw [hnil] at hworker
    cases hworker
  · intro hover
    have hover' : job.status.isTerminal = true := by
      subst hjob
      exact hover
    rcases h.stopped hover' with hcase | hall
    · exact Bool.noConfusion (haborted.symm.trans hcase)
    · exact absurd (List.all_eq_true.mp hall _ (List.mem_of_getElem? hworker)) Bool.false_ne_true

/-! ### Every task of a job -/

theorem Consistent.advance (h : job.Consistent) (i : ℕ) :
    (job.advance settings now i).Consistent := by
  rw [Job.advance]
  split
  next hworker =>
    split
    next hqueue => exact h.setWorker hworker rfl (.inl rfl) fun _ => .inr hqueue
    next nodeId rest hqueue =>
      by_cases haborted : job.aborted = true
      · rw [if_pos haborted]
        exact h.setWorker hworker rfl (.inl rfl) fun _ => .inl haborted
      · rw [if_neg haborted]
        rw [Bool.not_eq_true] at haborted
        have hpending := (h.queued haborted nodeId).mp (hqueue ▸ List.mem_cons_self)
        obtain ⟨task, -, -, hstatus, htask⟩ := exists_of_statusOf hpending
        rw [htask]
        dsimp only
        rw [if_neg (by rw [hstatus]; exact NodeTaskStatus.noConfusion)]
        exact h.startDispatch haborted hqueue hworker
  next => exact h

/-- The worker that waits for the call of a node, after its settlement. -/
def settledWorker (nodeId : String) (outcome : Settlement) (worker : Worker) : Worker :=
  match worker with
  | .dispatching other => if other = nodeId then .settled nodeId outcome else worker
  | _ => worker

theorem Consistent.settle (h : job.Consistent) (nodeId : String) (outcome : Settlement) :
    (job.settle nodeId outcome).Consistent := by
  rw [Job.settle]
  by_cases hcall : (job.calls.any fun call => call.nodeId = nodeId) = true
  · rw [if_pos hcall]
    let move : Worker → Worker := settledWorker nodeId outcome
    have hnode : ∀ worker, (move worker).nodeId? = worker.nodeId? := by
      intro worker
      cases worker with
      | dispatching other =>
        by_cases hsame : other = nodeId
        · subst hsame
          simp only [move, settledWorker, if_true, Worker.nodeId?]
        · simp only [move, settledWorker, if_neg hsame]
      | _ => rfl
    have hend : ∀ worker, move worker = .ended → worker = .ended := by
      intro worker hmove
      cases worker with
      | dispatching other =>
        by_cases hsame : other = nodeId
        · simp only [move, settledWorker, if_pos hsame, reduceCtorEq] at hmove
        · simp only [move, settledWorker, if_neg hsame, reduceCtorEq] at hmove
      | _ => exact hmove
    have hholds : ∀ i other, ((job.workers.map move)[i]?).bind Worker.nodeId? = some other ↔
        job.Holds i other := by
      intro i other
      rw [List.getElem?_map, Option.bind_map, Holds]
      exact Iff.of_eq (congrArg (fun g => job.workers[i]?.bind g = some other) (funext hnode))
    refine ⟨h.unique, h.totalTargets, h.counted, h.vocabulary, h.queue, h.queued, ?_, ?_, h.closed,
      ?_, ?_, ?_⟩
    · intro haborted other
      exact (exists_congr fun i => hholds i other).trans (h.held haborted other)
    · intro i j other hi hj
      exact h.holder i j other ((hholds i other).mp hi) ((hholds j other).mp hj)
    · intro i hi
      have hi' : (job.workers.map move)[i]? = some .ended := hi
      rw [List.getElem?_map, Option.map_eq_some_iff] at hi'
      obtain ⟨worker, hworker, hmove⟩ := hi'
      exact h.idle i (hend worker hmove ▸ hworker)
    · intro hempty
      exact h.staffed (List.map_eq_nil_iff.mp hempty)
    · intro hterminal
      refine (h.stopped hterminal).imp_right fun hall => ?_
      refine List.all_eq_true.mpr fun worker hworker => ?_
      obtain ⟨old, hold, rfl⟩ := List.mem_map.mp hworker
      have hended := List.all_eq_true.mp hall old hold
      cases old <;> first | exact absurd hended Bool.false_ne_true | rfl
  · rw [if_neg hcall]
    exact h

theorem Consistent.expire (h : job.Consistent) (i : ℕ) : (job.expire now i).Consistent := by
  rw [Job.expire]
  split
  next nodeId hworker =>
    split
    next call =>
      split_ifs
      · exact h.setWorker hworker rfl (.inl rfl) fun heq => Worker.noConfusion heq
      · exact h
    next => exact h
  next => exact h

end Job

/-- A settlement that says how the dispatch ended. -/
def Settlement.isReport : Settlement → Bool
  | .resolved result => (NodeTaskStatus.ofValue result.status).isReport
  | .resolvedNullish _ | .rejected _ _ => true
  | .rejectedNullish _ => false

def Worker.isReport : Worker → Bool
  | .settled _ outcome => outcome.isReport
  | _ => true

namespace Job

variable {job : Job} {settings : Settings} {now : ℤ}

theorem Consistent.resume (h : job.Consistent) (i : ℕ)
    (hreport : job.aborted = false →
      ∀ worker ∈ job.workers[i]?, worker.isReport = true) :
    (job.resume now i).Consistent := by
  rw [Job.resume]
  split
  next nodeId outcome hworker =>
    by_cases haborted : job.aborted = true
    · have hready : (job.setWorker i .ready).Consistent :=
        h.setWorker hworker rfl (.inr ⟨haborted, rfl⟩) fun heq => Worker.noConfusion heq
      split
      next => exact h.setWorker hworker rfl (.inr ⟨haborted, rfl⟩) fun heq => Worker.noConfusion heq
      next =>
        rw [if_pos (.inl haborted)]
        exact hready
    · rw [Bool.not_eq_true] at haborted
      have hrunning := (h.held haborted nodeId).mp ⟨i, by rw [Holds, hworker]; rfl⟩
      obtain ⟨task, -, -, hstatus, htask⟩ := exists_of_statusOf hrunning
      have hgood := hreport haborted _ hworker
      rw [htask]
      dsimp only
      rw [if_neg (by rw [haborted, hstatus]; simp)]
      cases outcome with
      | resolved result =>
        exact h.report haborted hworker (NodeTask.store_nodeId now result) hgood
          (NodeTask.store_status now result)
      | resolvedNullish value =>
        exact h.report haborted hworker (NodeTask.storeError_nodeId now none _) rfl
          (NodeTask.storeError_status now none _)
      | rejected code message =>
        exact h.report haborted hworker (NodeTask.storeError_nodeId now code message) rfl
          (NodeTask.storeError_status now code message)
      | rejectedNullish value => exact absurd hgood Bool.false_ne_true
  next => exact h

theorem Consistent.finish (h : job.Consistent) : (job.finish now).Consistent := by
  rw [Job.finish]
  by_cases hdone : (!job.finished && job.workers.all Worker.isEnded) = true
  · rw [if_pos hdone]
    rw [Bool.and_eq_true] at hdone
    exact ⟨h.unique, h.totalTargets, h.counted, h.vocabulary, h.queue, h.queued, h.held, h.holder,
      h.closed, h.idle, h.staffed, fun _ => .inr hdone.2⟩
  · rw [if_neg hdone]
    exact h

/-- A cancellation counts every open task as failed. -/
theorem Consistent.cancel (h : job.Consistent) : (job.cancel now).Consistent := by
  rw [Job.cancel]
  by_cases hterminal : job.status.isTerminal = true
  · rw [if_pos hterminal]
    exact h
  rw [if_neg hterminal]
  have hclosed : ∀ task ∈ updateWhere (fun task : NodeTask => task.status.isOpen)
      (NodeTask.cancel now) job.results, task.status.isTerminal = true := by
    intro task htask
    rcases mem_updateWhere.mp htask with ⟨hmem, hclosed⟩ | ⟨old, -, -, rfl⟩
    · exact (h.vocabulary task hmem).resolve_right (by rw [hclosed]; exact Bool.false_ne_true)
    · rfl
  refine ⟨?_, ?_, ?_, fun task htask => .inl (hclosed task htask), h.queue, ?_, ?_, h.holder,
    fun _ => hclosed, fun _ _ => .inl rfl, h.staffed, fun _ => .inl rfl⟩
  · have hsame := map_updateWhere (p := fun task : NodeTask => task.status.isOpen)
      NodeTask.nodeId (NodeTask.cancel_nodeId now) job.results
    exact (congrArg List.Nodup hsame).mpr h.unique
  · exact h.totalTargets.trans (List.length_map _).symm
  · intro status hstatus
    have hsplit : job.tally status =
        job.results.countP fun task => !task.status.isOpen && decide (task.status = status) := by
      refine List.countP_congr fun task _ => ?_
      by_cases hsame : task.status = status
      · simp [hsame, NodeTaskStatus.not_isOpen_of_isTerminal hstatus]
      · simp [hsame]
    refine Eq.trans ?_ (countP_updateWhere _ _ _ job.results).symm
    rw [← hsplit, ← h.counted status hstatus]
    by_cases hfailed : status = .failed
    · subst hfailed
      simp only [Summary.counter, NodeTask.cancel_status, decide_true, Bool.and_true]
    · have hzero : (job.results.countP fun task =>
          task.status.isOpen && decide ((task.cancel now).status = status)) = 0 := by
        rw [List.countP_eq_zero]
        intro task _
        simp [Ne.symm hfailed]
      rw [hzero, Nat.add_zero]
      cases status <;> first | rfl | exact absurd rfl hfailed
  · intro haborted
    exact Bool.noConfusion haborted
  · intro haborted
    exact Bool.noConfusion haborted

/-- A worker that goes on in a job that is not cancelled has a settlement that says how the
dispatch ended. -/
def Reports (job : Job) : Action → Prop
  | .resume i => job.aborted = false → ∀ worker ∈ job.workers[i]?, worker.isReport = true
  | _ => True

instance (job : Job) : (action : Action) → Decidable (job.Reports action)
  | .resume i => inferInstanceAs (Decidable (job.aborted = false →
      ∀ worker ∈ job.workers[i]?, worker.isReport = true))
  | .advance _ | .settle .. | .expire _ | .finish | .cancel => inferInstanceAs (Decidable True)

theorem Consistent.act (h : job.Consistent) {action : Action} (hreport : job.Reports action) :
    (job.act settings now action).Consistent := by
  cases action with
  | advance i => exact h.advance i
  | settle nodeId outcome => exact h.settle nodeId outcome
  | expire i => exact h.expire i
  | resume i => exact h.resume i hreport
  | finish => exact h.finish
  | cancel => exact h.cancel

/-! ### The beginning of an execution -/

/-- The state of step A, with the targets that it is through with. -/
structure Filtering (job : Job) (done : List String) : Prop where
  unique : job.targets.Nodup
  totalTargets : job.summary.totalTargets = job.results.length
  counted : job.Counted
  aborted : job.aborted = false
  status : job.status = .running
  statuses : ∀ task ∈ job.results, task.status = .pending ∨ task.status = .skipped
  queue : job.queue.Nodup
  queued : ∀ nodeId, nodeId ∈ job.queue ↔ nodeId ∈ done ∧ job.statusOf nodeId = some .pending
  remaining : ∀ nodeId ∈ job.targets, nodeId ∉ done → job.statusOf nodeId = some .pending

theorem Filtering.filterTarget {done : List String} (h : job.Filtering done)
    (registry : Option NodeTable) (now : ℤ) {nodeId : String} (hmem : nodeId ∈ job.targets)
    (hnew : nodeId ∉ done) : (job.filterTarget registry now nodeId).Filtering (done ++ [nodeId]) := by
  have hpending := h.remaining nodeId hmem hnew
  obtain ⟨task, -, -, hstatus, htask⟩ := exists_of_statusOf hpending
  have hqueue : nodeId ∉ job.queue := fun hin => hnew ((h.queued nodeId).mp hin).1
  rw [Job.filterTarget, if_neg (by rw [h.aborted]; exact Bool.false_ne_true)]
  cases hskip : skipReason registry job.requiredCapabilities nodeId with
  | none =>
    dsimp only
    refine ⟨h.unique, h.totalTargets, h.counted, h.aborted, h.status, h.statuses, ?_, ?_, ?_⟩
    · exact List.nodup_append.mpr ⟨h.queue, List.nodup_singleton nodeId, by
        intro a ha b hb
        rw [List.mem_singleton.mp hb]
        rintro rfl
        exact hqueue ha⟩
    · intro other
      show other ∈ job.queue ++ [nodeId] ↔ other ∈ done ++ [nodeId] ∧ job.statusOf other = _
      rw [List.mem_append, List.mem_append, List.mem_singleton, h.queued]
      constructor
      · rintro (⟨hdone, hother⟩ | rfl)
        · exact ⟨.inl hdone, hother⟩
        · exact ⟨.inr rfl, hpending⟩
      · rintro ⟨hdone | rfl, hother⟩
        · exact .inl ⟨hdone, hother⟩
        · exact .inr rfl
    · intro other hother hdone
      exact h.remaining other hother fun hin => hdone (List.mem_append_left _ hin)
  | some reason =>
    dsimp only
    have hstatusOf : ∀ other, (job.updateTask nodeId (NodeTask.skip now reason)).statusOf other =
        if other = nodeId then some .skipped else job.statusOf other := by
      intro other
      rw [statusOf_updateTask (NodeTask.skip_nodeId now reason), htask]
      rfl
    refine ⟨?_, ?_, ?_, h.aborted, h.status, ?_, h.queue, ?_, ?_⟩
    · have hsame := targets_updateTask job (NodeTask.skip_nodeId now reason) nodeId
      exact (congrArg List.Nodup hsame).mpr h.unique
    · exact h.totalTargets.trans (List.length_map _).symm
    · intro status hterminal
      have htally := tally_updateTask h.unique htask (hstatus ▸ rfl) (NodeTask.skip now reason)
        hterminal
      refine Eq.trans ?_ htally.symm
      rw [← h.counted status hterminal]
      cases status <;> rfl
    · intro other hother
      rcases mem_updateWhere.mp hother with ⟨hin, -⟩ | ⟨old, -, -, rfl⟩
      · exact h.statuses other hin
      · exact .inr rfl
    · intro other
      refine Iff.trans ?_ (and_congr Iff.rfl (Iff.of_eq (congrArg (· = _) (hstatusOf other).symm)))
      show other ∈ job.queue ↔ _
      rw [List.mem_append, List.mem_singleton, h.queued]
      by_cases hsame : other = nodeId
      · subst hsame
        rw [if_pos rfl]
        exact ⟨fun hin => absurd hin.1 hnew, fun hin => by cases hin.2⟩
      · rw [if_neg hsame]
        exact ⟨fun hin => ⟨.inl hin.1, hin.2⟩, fun hin => ⟨hin.1.resolve_right hsame, hin.2⟩⟩
    · intro other hother hdone
      have htargets := targets_updateTask job (NodeTask.skip_nodeId now reason) nodeId
      have hsame : other ≠ nodeId := fun heq =>
        hdone (List.mem_append_right _ (List.mem_singleton.mpr heq))
      refine (hstatusOf other).trans ?_
      rw [if_neg hsame]
      refine h.remaining other ?_ fun hin => hdone (List.mem_append_left _ hin)
      rw [← htargets]
      exact hother

theorem targets_filterTarget {registry : Option NodeTable} {nodeId : String} :
    (job.filterTarget registry now nodeId).targets = job.targets := by
  rw [Job.filterTarget]
  split_ifs
  · exact map_updateWhere NodeTask.nodeId (NodeTask.drop_nodeId now) job.results
  · split
    · exact map_updateWhere NodeTask.nodeId (NodeTask.skip_nodeId now _) job.results
    · rfl

theorem targets_foldl {registry : Option NodeTable} (rest : List String) (job : Job) :
    (rest.foldl (Job.filterTarget registry now) job).targets = job.targets := by
  induction rest generalizing job with
  | nil => rfl
  | cons nodeId rest ih => exact (ih _).trans targets_filterTarget

theorem targets_beginExecution {registry : Option NodeTable} :
    (job.beginExecution settings registry now).targets = job.targets :=
  targets_foldl _ ({ job with status := .running, startedAt := some now } : Job)

theorem Filtering.foldl (registry : Option NodeTable) (now : ℤ) {done : List String}
    (rest : List String) (h : job.Filtering done) (hrest : (done ++ rest).Nodup) (hmem : ∀ nodeId ∈ rest, nodeId ∈ job.targets) :
    (rest.foldl (Job.filterTarget registry now) job).Filtering (done ++ rest) := by
  induction rest generalizing job done with
  | nil => rwa [List.append_nil]
  | cons nodeId rest ih =>
    have hnew : nodeId ∉ done := by
      intro hin
      exact (List.nodup_append.mp hrest).2.2 nodeId hin nodeId List.mem_cons_self rfl
    have hstep := h.filterTarget registry now (hmem nodeId List.mem_cons_self) hnew
    rw [List.append_cons] at hrest ⊢
    refine ih hstep hrest fun other hother => ?_
    rw [targets_filterTarget]
    exact hmem other (List.mem_cons_of_mem nodeId hother)

theorem Filtering.filterTargets {registry : Option NodeTable} (h : job.Filtering []) :
    (job.filterTargets registry now).Filtering (job.filterTargets registry now).targets := by
  have hdone := h.foldl registry now job.targets (by rw [List.nil_append]; exact h.unique) fun nodeId hin => hin
  rw [List.nil_append] at hdone
  rw [Job.filterTargets, targets_foldl]
  exact hdone

theorem Filtering.staff (h : job.Filtering job.targets) : (job.staff settings).Consistent := by
  have hready : ∀ (i : ℕ) (worker : Worker),
      (job.staff settings).workers[i]? = some worker → worker = .ready := by
    intro i worker hworker
    exact List.eq_of_mem_replicate (List.mem_of_getElem? hworker)
  have hnone : ∀ (i : ℕ) (nodeId : String), ¬(job.staff settings).Holds i nodeId := by
    intro i nodeId hi
    obtain ⟨worker, hworker, hnode⟩ := Option.bind_eq_some_iff.mp hi
    rw [hready i worker hworker] at hnode
    cases hnode
  refine ⟨h.unique, h.totalTargets, h.counted, ?_, h.queue, ?_, ?_, ?_, ?_, ?_, ?_, ?_⟩
  · intro task htask
    rcases h.statuses task htask with hcase | hcase
    · exact .inr (by rw [hcase]; rfl)
    · exact .inl (by rw [hcase]; rfl)
  · intro _ nodeId
    refine (h.queued nodeId).trans ⟨And.right, fun hstatus => ⟨?_, hstatus⟩⟩
    obtain ⟨task, htask, rfl, -, -⟩ := exists_of_statusOf hstatus
    exact List.mem_map_of_mem htask
  · intro _ nodeId
    refine ⟨fun ⟨i, hi⟩ => absurd hi (hnone i nodeId), fun hstatus => ?_⟩
    obtain ⟨task, htask, -, hrunning, -⟩ := exists_of_statusOf hstatus
    rcases h.statuses task htask with hcase | hcase <;> rw [hcase] at hrunning <;>
      exact NodeTaskStatus.noConfusion hrunning
  · intro i j nodeId hi
    exact absurd hi (hnone i nodeId)
  · intro hclosed
    exact Bool.noConfusion (h.aborted.symm.trans hclosed)
  · intro i hi
    cases hready i _ hi
  · intro hempty
    have hlength := congrArg List.length hempty
    rw [Job.staff, List.length_replicate, List.length_nil] at hlength
    have hpool : 1 ≤ settings.poolLimit := Nat.le_max_left _ _
    show job.queue = []
    exact List.length_eq_zero_iff.mp (by omega)
  · intro hterminal
    have hrunning : job.status.isTerminal = true := hterminal
    rw [h.status] at hrunning
    cases hrunning

/-- The execution of a new job begins consistent. -/
theorem consistent_beginExecution {registry : Option NodeTable} (hnodup : job.targets.Nodup)
    (htotal : job.summary = { totalTargets := job.results.length }) (haborted : job.aborted = false)
    (hqueue : job.queue = []) (hpending : ∀ task ∈ job.results, task.status = .pending) :
    (job.beginExecution settings registry now).Consistent := by
  have hfirst : ({ job with status := .running, startedAt := some now } : Job).Filtering [] := by
    refine ⟨hnodup, by rw [htotal], ?_, haborted, rfl,
      fun task htask => .inl (hpending task htask), ?_, ?_, ?_⟩
    · intro status hterminal
      have hzero : job.tally status = 0 := by
        rw [Job.tally, List.countP_eq_zero]
        intro task htask
        rw [hpending task htask, decide_eq_true_eq]
        rintro rfl
        exact Bool.noConfusion hterminal
      refine Eq.trans ?_ hzero.symm
      show job.summary.counter status = 0
      rw [htotal]
      cases status <;> rfl
    · show job.queue.Nodup
      rw [hqueue]
      exact List.nodup_nil
    · intro nodeId
      show nodeId ∈ job.queue ↔ _
      rw [hqueue]
      exact ⟨fun hin => absurd hin List.not_mem_nil, fun hin => absurd hin.1 List.not_mem_nil⟩
    · intro nodeId hin _
      obtain ⟨task, htask, rfl⟩ := List.mem_map.mp hin
      exact (statusOf_eq_some hnodup htask).trans (congrArg some (hpending task htask))
  exact hfirst.filterTargets.staff

end Job

/-! ### Runs -/

theorem explicitTargets_nodup {registry : Option NodeTable} {raws : List Json}
    {seen targets : List String} (h : explicitTargets registry raws seen = .ok targets)
    (hseen : seen.Nodup) : targets.Nodup := by
  induction raws generalizing seen with
  | nil =>
    rw [explicitTargets] at h
    exact Except.ok.inj h ▸ hseen
  | cons raw rest ih =>
    rw [explicitTargets] at h
    split at h
    · cases h
    next nodeId _ =>
      dsimp only at h
      split_ifs at h with hknown hmem
      · exact ih h hseen
      · refine ih h (List.nodup_append.mpr ⟨hseen, List.nodup_singleton nodeId, ?_⟩)
        intro a ha b hb
        rw [List.mem_singleton.mp hb]
        rintro rfl
        exact hmem ha

theorem capableTargets_nodup (registry : Option NodeTable) (capName : String) :
    (capableTargets registry capName).Nodup := by
  cases registry with
  | none => exact List.nodup_nil
  | some table =>
    have hids : (table.db.listNodes.map NodeSummary.nodeId).Nodup := by
      rw [Db.listNodes, List.map_map]
      exact ((perm_orderBy NodeRow.mintedAt table.db.nodes).map NodeRow.nodeId).nodup_iff.mpr
        table.unique
    exact hids.sublist (List.filter_sublist.map NodeSummary.nodeId)

theorem validateFleetTargetSpec_nodup {registry : Option NodeTable} {targetSpec : Option Json}
    {targets : List String} (h : validateFleetTargetSpec registry targetSpec = .ok targets) :
    targets.Nodup := by
  unfold validateFleetTargetSpec at h
  by_cases hwild : targetSpec.any isWildcard = true
  · rw [if_pos hwild] at h
    cases h
  rw [if_neg hwild] at h
  split at h
  next fields _ =>
    dsimp only at h
    split_ifs at h
    · split at h
      · exact explicitTargets_nodup h List.nodup_nil
      · cases h
    · split at h
      · split_ifs at h
        exact Except.ok.inj h ▸ capableTargets_nodup registry _
      · cases h
  next => cases h

theorem validateSubmission_eq_job {s : Scheduler} {registry : Option NodeTable} {now : ℤ}
    {draw : String} {submission : Submission} {job : Job}
    (h : s.validateSubmission registry now draw submission = .ok (.inr job)) :
    ∃ jobId taskType payload targets,
      validateFleetTargetSpec registry submission.targetSpec = .ok targets ∧
        validatePayload submission.payload = .ok payload ∧
        job = Scheduler.newJob now jobId taskType payload (submission.targetSpec.getD .null)
          targets submission := by
  rw [Scheduler.validateSubmission] at h
  cases hjobId : Scheduler.givenJobId submission.jobId with
  | error e =>
    rw [hjobId] at h
    cases h
  | ok jobId =>
    rw [hjobId] at h
    dsimp only [bind, Except.bind] at h
    split_ifs at h
    · cases h
    · cases htaskType : Scheduler.givenTaskType submission.taskType with
      | error e =>
        rw [htaskType] at h
        cases h
      | ok taskType =>
        rw [htaskType] at h
        cases htargets : validateFleetTargetSpec registry submission.targetSpec with
        | error e =>
          rw [htargets] at h
          cases h
        | ok targets =>
          rw [htargets] at h
          cases hpayload : validatePayload submission.payload with
          | error e =>
            rw [hpayload] at h
            cases h
          | ok payload =>
            rw [hpayload] at h
            exact ⟨_, taskType, payload, targets, rfl, rfl, (Sum.inr.inj (Except.ok.inj h)).symm⟩

theorem targets_newJob {now : ℤ} {jobId taskType : String} {payload targetSpec : Json}
    {targets : List String} {submission : Submission} :
    (Scheduler.newJob now jobId taskType payload targetSpec targets submission).targets = targets := by
  rw [Job.targets, Scheduler.newJob, List.map_map]
  exact List.map_id targets

theorem Job.targets_advance {job : Job} {settings : Settings} {now : ℤ} (i : ℕ) :
    (job.advance settings now i).targets = job.targets := by
  rw [Job.advance]
  split
  · split
    · rfl
    · split_ifs
      · rfl
      · split
        · rfl
        · split_ifs
          · rfl
          · exact targets_updateTask job (NodeTask.start_nodeId now) _
  · rfl

theorem Job.targets_resume {job : Job} {now : ℤ} (i : ℕ) :
    (job.resume now i).targets = job.targets := by
  rw [Job.resume]
  split
  · split
    · rfl
    · split_ifs
      · rfl
      · split
        · exact targets_updateTask job (NodeTask.store_nodeId now _) _
        · exact targets_updateTask job (NodeTask.storeError_nodeId now _ _) _
        · exact targets_updateTask job (NodeTask.storeError_nodeId now _ _) _
        · exact targets_updateTask job (NodeTask.conclude_nodeId now .failed) _
  · rfl

/-- No task of a job adds or removes a target. -/
theorem Job.targets_act {job : Job} {settings : Settings} {now : ℤ} (action : Job.Action) :
    (job.act settings now action).targets = job.targets := by
  cases action with
  | advance i => exact targets_advance i
  | settle nodeId outcome =>
    rw [Job.act, Job.settle]
    split_ifs <;> rfl
  | expire i =>
    rw [Job.act, Job.expire]
    split
    · split
      · split_ifs <;> rfl
      · rfl
    · rfl
  | resume i => exact targets_resume i
  | finish =>
    rw [Job.act, Job.finish]
    split_ifs <;> rfl
  | cancel =>
    rw [Job.act, Job.cancel]
    split_ifs
    · rfl
    · exact map_updateWhere NodeTask.nodeId (NodeTask.cancel_nodeId now) job.results

namespace Scheduler

variable {settings : Settings}

def Reports (s : Scheduler) : ℤ × Event → Prop
  | (_, .act jobId action) => ∀ job ∈ s.jobs, job.jobId = jobId → job.Reports action
  | (_, .submit ..) => True

instance (s : Scheduler) : (event : ℤ × Event) → Decidable (s.Reports event)
  | (_, .act jobId action) => inferInstanceAs (Decidable (∀ job ∈ s.jobs, job.jobId = jobId →
      job.Reports action))
  | (_, .submit ..) => inferInstanceAs (Decidable True)

/-- The results of a job are of the targets that one of the submissions resolved to. -/
def SubmittedIn (events : List (ℤ × Event)) (job : Job) : Prop :=
  ∃ now registry draw submission, (now, Event.submit registry draw submission) ∈ events ∧
    validateFleetTargetSpec registry submission.targetSpec = .ok job.targets

/-- What a step leaves in the scheduler: the jobs it acted on, and perhaps a new one. -/
theorem mem_step {s : Scheduler} {event : ℤ × Event} {job : Job}
    (h : job ∈ (s.step settings event).jobs) :
    (∃ jobId action, event.2 = .act jobId action ∧ ∃ old ∈ s.jobs, old.jobId = jobId ∧
      job = old.act settings event.1 action) ∨
    job ∈ s.jobs ∨
    ∃ registry draw submission fresh, event.2 = .submit registry draw submission ∧
      s.validateSubmission registry event.1 draw submission = .ok (.inr fresh) ∧
      job = fresh.beginExecution settings registry event.1 := by
  obtain ⟨now, event⟩ := event
  cases event with
  | submit registry draw submission =>
    refine .inr ?_
    rw [step] at h
    split_ifs at h
    · exact .inl h
    · rw [submitJob] at h
      cases hvalid : s.validateSubmission registry now draw submission with
      | error e =>
        rw [hvalid] at h
        exact .inl h
      | ok result =>
        rw [hvalid] at h
        cases result with
        | inl jobId => exact .inl h
        | inr fresh =>
          rcases List.mem_append.mp h with hold | hnew
          · exact .inl hold
          · exact .inr ⟨registry, draw, submission, fresh, rfl, hvalid, List.mem_singleton.mp hnew⟩
  | act jobId action =>
    rcases mem_updateWhere.mp h with ⟨hold, -⟩ | ⟨old, hold, hid, rfl⟩
    · exact .inr (.inl hold)
    · exact .inl ⟨jobId, action, rfl, old, hold, of_decide_eq_true hid, rfl⟩

/-- The execution of a job that passed the checks begins consistent. -/
theorem consistent_of_validateSubmission (settings : Settings) {s : Scheduler}
    {registry : Option NodeTable} {now : ℤ} {draw : String} {submission : Submission} {fresh : Job}
    (h : s.validateSubmission registry now draw submission = .ok (.inr fresh)) :
    (fresh.beginExecution settings registry now).Consistent := by
  obtain ⟨jobId, taskType, payload, targets, htargets, -, rfl⟩ := validateSubmission_eq_job h
  refine Job.consistent_beginExecution ?_ ?_ rfl rfl ?_
  · rw [targets_newJob]
    exact validateFleetTargetSpec_nodup htargets
  · exact congrArg (fun n => ({ totalTargets := n } : Summary)) (List.length_map _).symm
  · intro task htask
    obtain ⟨nodeId, -, rfl⟩ := List.mem_map.mp htask
    rfl

theorem step_consistent {s : Scheduler} {event : ℤ × Event} (h : ∀ job ∈ s.jobs, job.Consistent)
    (hreports : s.Reports event) : ∀ job ∈ (s.step settings event).jobs, job.Consistent := by
  intro job hjob
  rcases mem_step hjob with ⟨jobId, action, hevent, old, hold, hid, rfl⟩ | hold |
    ⟨registry, draw, submission, fresh, -, hvalid, rfl⟩
  · obtain ⟨now, event⟩ := event
    subst hevent
    exact (h old hold).act (hreports old hold hid)
  · exact h job hold
  · exact consistent_of_validateSubmission settings hvalid

theorem run_consistent {events : List (ℤ × Event)}
    (h : EachStep (step settings) Reports {} events) :
    ∀ job ∈ (run settings events).jobs, job.Consistent :=
  runFrom_invariant (I := fun s : Scheduler => ∀ job ∈ s.jobs, job.Consistent)
    (fun _ _ hs hreports => step_consistent hs hreports)
    (fun _ hjob => absurd hjob List.not_mem_nil) h

theorem run_submitted (settings : Settings) (events : List (ℤ × Event)) :
    ∀ job ∈ (run settings events).jobs, SubmittedIn events job := by
  induction events using List.reverseRecOn with
  | nil => exact fun _ hjob => absurd hjob List.not_mem_nil
  | append_singleton events event ih =>
    intro job hjob
    rw [run, runFrom_append, runFrom_cons, runFrom_nil] at hjob
    have hkeep : ∀ old, SubmittedIn events old → old.targets = job.targets →
        SubmittedIn (events ++ [event]) job := by
      rintro old ⟨now, registry, draw, submission, hmem, htargets⟩ hsame
      exact ⟨now, registry, draw, submission, List.mem_append_left _ hmem, hsame ▸ htargets⟩
    rcases mem_step hjob with ⟨jobId, action, -, old, hold, -, rfl⟩ | hold |
      ⟨registry, draw, submission, fresh, hevent, hvalid, rfl⟩
    · exact hkeep old (ih old hold) (Job.targets_act action).symm
    · exact hkeep job (ih job hold) rfl
    · obtain ⟨jobId, taskType, payload, targets, htargets, -, rfl⟩ := validateSubmission_eq_job hvalid
      refine ⟨event.1, registry, draw, submission, List.mem_append_right _ ?_, ?_⟩
      · rw [← hevent]
        exact List.mem_singleton_self event
      · rw [Job.targets_beginExecution, targets_newJob]
        exact htargets

/-- A terminal job is reconciled, as long as every settlement that a worker goes on with says
how its dispatch ended. -/
theorem jobs_reconciled (settings : Settings) (events : List (ℤ × Event))
    (h : EachStep (step settings) Reports {} events) :
    ∀ job ∈ (run settings events).jobs, job.status.isTerminal = true →
      job.Reconciled ∧ SubmittedIn events job := by
  intro job hjob hterminal
  exact ⟨(run_consistent h job hjob).reconciled hterminal, run_submitted settings events job hjob⟩

/-! ### Samples -/

def sampleNode : String := "node_00000000000000000000000000000000"

/-- A job for one node, submitted without a registry. -/
def sampleSubmission : Submission where
  taskType := some (.str "command")
  payload := some (.obj [])
  targetSpec := some (.obj [("mode", .str "explicit"), ("nodeIds", .arr [.str sampleNode])])
  requiredCapabilities := none
  timeoutMs := none
  operatorPrincipal := "operator"

def sampleDraw : String := "00000000000000000000000000000000"

def sampleJobId : String := "job_00000000000000000000000000000000"

/-- The job from its submission to its end, with what the transport returns for the node. -/
def sampleRun (result : DispatchResult) : List (ℤ × Event) :=
  [(0, .submit none sampleDraw sampleSubmission), (0, .act sampleJobId (.advance 0)),
    (1, .act sampleJobId (.settle sampleNode (.resolved result))),
    (1, .act sampleJobId (.resume 0)), (1, .act sampleJobId (.advance 0)),
    (1, .act sampleJobId .finish)]

theorem jobs_reconciled_sample :
    (∃ job ∈ (run {} (sampleRun { status := some (.str "completed") })).jobs,
      job.status.isTerminal = true) ∧
    ∀ job ∈ (run {} (sampleRun { status := some (.str "completed") })).jobs,
      job.status.isTerminal = true →
        job.Reconciled ∧ SubmittedIn (sampleRun { status := some (.str "completed") }) job :=
  ⟨by decide +kernel, jobs_reconciled {} (sampleRun { status := some (.str "completed") })
    (by decide +kernel)⟩

/-- A result without a status is counted as failed, but stored as it is: the job ends with
one failure counted and no failed result, and its one result has no terminal status. -/
theorem missing_status_not_reconciled : ∃ job ∈ (run {} (sampleRun {})).jobs,
    job.status.isTerminal = true ∧ ¬job.Reconciled := by
  have hjob : ∃ job ∈ (run {} (sampleRun {})).jobs, job.status = .failed ∧
      job.summary.failed = 1 ∧ job.tally .failed = 0 := by decide +kernel
  obtain ⟨job, hmem, hstatus, hsummary, htally⟩ := hjob
  refine ⟨job, hmem, by rw [hstatus]; rfl, ?_⟩
  intro hreconciled
  have heq := hreconciled.failed
  omega

end Scheduler

end DshOrbit.Fleet
