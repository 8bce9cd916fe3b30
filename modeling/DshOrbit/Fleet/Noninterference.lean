import DshOrbit.Fleet.Concurrency
import DshOrbit.Fleet.Mask

/-!
# Two runs that differ in credentials

Two runs of the scheduler side by side (`registry/fleet-scheduler.mjs`), on events that differ
only below sensitive names. A snapshot shows the targets of a job as they were submitted, and a
payload is measured with everything that is in it: these two ways apart, no snapshot tells the
runs from each other.

## Main definitions

- `Event.masked` — what is left of an event without its credentials
- `Scheduler.shown` — the snapshot that an event hands out
- `SnapshotsAgree` — after the next pair of events every snapshot is equal in both runs
- `Discreet` — a pair of submissions that the two ways do not tell apart

## Main results

- `snapshots_agree_iff` — two runs show the same exactly where every pair is discreet
-/

namespace DshOrbit.Fleet

open DshOrbit.Lib

/-! ### Submissions -/

def Submission.masked (submission : Submission) : Submission :=
  { submission with
    payload := submission.payload.map mask
    targetSpec := submission.targetSpec.map mask }

/-- The payload is nested deeper than `submitJob` accepts. -/
def Submission.TooDeep (submission : Submission) : Prop :=
  64 < nesting (submission.payload.getD (.obj []))

instance (submission : Submission) : Decidable submission.TooDeep :=
  inferInstanceAs (Decidable (64 < nesting (submission.payload.getD (.obj []))))

theorem plain_mode : isSensitiveKey "mode" = false := by decide +kernel

theorem plain_nodeIds : isSensitiveKey "nodeIds" = false := by decide +kernel

theorem isWildcard_mask (targetSpec : Json) :
    isWildcard (mask targetSpec) = isWildcard targetSpec := by
  rw [isWildcard, isWildcard, str?_mask, field_mask plain_mode, field_mask plain_nodeIds,
    bind_str?_mask, bind_str?_mask]

theorem validateTargetScope_mask (target : Json) :
    validateTargetScope (mask target) = validateTargetScope target := by
  cases target <;> rfl

theorem explicitTargets_mask (registry : Option NodeTable) (raws : List Json) (seen : List String) :
    explicitTargets registry (raws.map mask) seen = explicitTargets registry raws seen := by
  induction raws generalizing seen with
  | nil => rfl
  | cons raw rest ih =>
    rw [List.map_cons, explicitTargets, explicitTargets, validateTargetScope_mask, toText_mask]
    simp only [ih]

theorem templateText_mask (value : Option Json) :
    templateText (value.map mask) = templateText value := by
  cases value with
  | none => rfl
  | some value => exact toText_mask value

/-- The check of the targets reads no field with a sensitive name. -/
theorem validateFleetTargetSpec_mask (registry : Option NodeTable) (targetSpec : Option Json) :
    validateFleetTargetSpec registry (targetSpec.map mask) =
      validateFleetTargetSpec registry targetSpec := by
  cases targetSpec with
  | none => rfl
  | some value =>
    cases value with
    | obj fields =>
      have hwildcard := isWildcard_mask (.obj fields)
      have hfield := fun name hplain => @field_mask name hplain (.obj fields)
      rw [mask] at hwildcard hfield
      rw [Option.map_some, mask, validateFleetTargetSpec, validateFleetTargetSpec, Option.any_some,
        Option.any_some, hwildcard]
      dsimp only
      rw [hfield "mode" plain_mode, hfield "nodeIds" plain_nodeIds,
        hfield "capability" (by decide +kernel), bind_str?_mask, bind_str?_mask, templateText_mask]
      congr 2
      cases (Json.obj fields).field "nodeIds" with
      | none => rfl
      | some nodeIds =>
        cases nodeIds with
        | arr raws =>
          cases raws with
          | nil => rfl
          | cons raw rest =>
            show explicitTargets registry (maskItems (raw :: rest)) [] = _
            rw [maskItems_eq_map, explicitTargets_mask]
        | _ => rfl
    | _ => rfl

theorem parsedTimeout_mask (timeoutMs : Option Json) (payload : Json) :
    parsedTimeout timeoutMs (mask payload) = parsedTimeout timeoutMs payload := by
  unfold parsedTimeout
  rw [Job.payloadTimeoutMs_mask]

/-! ### Events -/

/-- Step C comes to its end without a failed check. -/
def Job.reports (job : Job) : Bool :=
  !job.finished && job.workers.all Worker.isEnded &&
    job.summary.computedTotal = job.summary.totalTargets &&
    job.results.length = job.summary.totalTargets

def Scheduler.Event.masked : Scheduler.Event → Scheduler.Event
  | .submit registry draw submission => .submit registry draw submission.masked
  | .act jobId action => .act jobId action.masked

/-- Two events at one reading of the clock that differ only below sensitive names. -/
def Alike (e e' : ℤ × Scheduler.Event) : Prop := e.1 = e'.1 ∧ e.2.masked = e'.2.masked

namespace Scheduler

variable (settings : Settings)

/-- `listJobs`. -/
def listJobs (s : Scheduler) : List JobSnapshot :=
  (s.jobs.filterMap fun job => s.getSnapshot true job.jobId).mergeSort
    fun a b => b.createdAt ≤ a.createdAt

/-- The snapshot that `submitJob` returns, or that is passed to `onJobCompleted`. -/
def shown (s : Scheduler) : ℤ × Event → Option JobSnapshot
  | (now, .submit registry draw submission) =>
    if s.jobs.any fun job => job.jobId = "job_" ++ draw then none
    else
      match s.submitJob settings registry now draw submission with
      | .ok (s', jobId) => s'.getSnapshot true jobId
      | .error _ => none
  | (now, .act jobId .finish) =>
    if (s.getJob jobId).any Job.reports then
      (s.step settings (now, .act jobId .finish)).getSnapshot true jobId
    else none
  | (_, .act ..) => none

/-- What the checks of a submission come to, but for the nesting of its payload: the id of a job
that exists, or the id, the task type and the targets of a new one. -/
def checked (s : Scheduler) (registry : Option NodeTable) (draw : String)
    (submission : Submission) : Option (String ⊕ String × String × List String) :=
  match givenJobId submission.jobId with
  | .error _ => none
  | .ok jobId =>
    if (jobId.bind s.getJob).isSome then some (.inl (jobId.getD ""))
    else
      match givenTaskType submission.taskType,
        validateFleetTargetSpec registry submission.targetSpec,
        submission.payload.getD (.obj []) with
      | .ok taskType, .ok targets, .obj _ =>
        some (.inr (jobId.getD ("job_" ++ draw), taskType, targets))
      | _, _, _ => none

/-- A submission under an id that was not drawn before passes every check but that of the
nesting. -/
def Admits (s : Scheduler) (registry : Option NodeTable) (draw : String)
    (submission : Submission) : Prop :=
  (∀ job ∈ s.jobs, job.jobId ≠ "job_" ++ draw) ∧
    (s.checked registry draw submission).any Sum.isRight = true

/-! ### Two runs -/

def bothStep (s : Scheduler × Scheduler) (events : (ℤ × Event) × (ℤ × Event)) :
    Scheduler × Scheduler :=
  (s.1.step settings events.1, s.2.step settings events.2)

/-- What the next pair of events shows, and what can be asked for after it, is equal in both
runs. -/
structure SnapshotsAgree (s : Scheduler × Scheduler) (events : (ℤ × Event) × (ℤ × Event)) :
    Prop where
  shown : s.1.shown settings events.1 = s.2.shown settings events.2
  found : ∀ jobId, (bothStep settings s events).1.getSnapshot true jobId =
    (bothStep settings s events).2.getSnapshot true jobId
  listed : (bothStep settings s events).1.listJobs = (bothStep settings s events).2.listJobs

/-- Of two submissions that pass the other checks both payloads are nested too deep, or none is
and the targets are given in the same words. -/
def Discreet (s : Scheduler × Scheduler) : (ℤ × Event) × (ℤ × Event) → Prop
  | ((_, .submit registry draw submission), (_, .submit _ _ other)) =>
    s.1.Admits registry draw submission →
      (submission.TooDeep ↔ other.TooDeep) ∧
        (¬submission.TooDeep → submission.targetSpec = other.targetSpec)
  | _ => True

/-! ### Masked schedulers -/

def masked (s : Scheduler) : Scheduler where
  jobs := s.jobs.map Job.masked

variable {settings} {s s' : Scheduler} {registry : Option NodeTable} {now : ℤ} {draw : String}
  {submission other : Submission}

theorem getJob_masked (s : Scheduler) (jobId : String) :
    s.masked.getJob jobId = (s.getJob jobId).map Job.masked := by
  rw [getJob, getJob, masked, List.find?_map]
  rfl

/-- Scrubbed snapshots are taken from what is left of the jobs. -/
theorem getSnapshot_masked (s : Scheduler) (jobId : String) :
    s.masked.getSnapshot true jobId = s.getSnapshot true jobId := by
  rw [getSnapshot, getSnapshot, getJob_masked, Option.map_map]
  exact congrArg (fun f => (s.getJob jobId).map f) (funext snapshot_masked)

theorem listJobs_masked (s : Scheduler) : s.masked.listJobs = s.listJobs := by
  rw [listJobs, listJobs]
  simp only [getSnapshot_masked]
  rw [masked, List.filterMap_map]
  rfl

theorem getSnapshot_congr (h : s.masked = s'.masked) (jobId : String) :
    s.getSnapshot true jobId = s'.getSnapshot true jobId := by
  rw [← getSnapshot_masked, h, getSnapshot_masked]

theorem listJobs_congr (h : s.masked = s'.masked) : s.listJobs = s'.listJobs := by
  rw [← listJobs_masked, h, listJobs_masked]

theorem step_act_masked (jobId : String) (action : Job.Action) :
    (s.step settings (now, .act jobId action)).masked =
      s.masked.step settings (now, .act jobId action.masked) := by
  have hid : ∀ job : Job, decide (job.masked.jobId = jobId) = decide (job.jobId = jobId) :=
    fun _ => rfl
  exact congrArg Scheduler.mk (map_updateWhere_comm hid (fun _ => Job.masked_act action) s.jobs)

theorem reports_masked (job : Job) : job.masked.reports = job.reports := by
  rw [Job.reports, Job.reports, Job.allEnded_masked, Job.length_results_masked]
  rfl

theorem shown_act_masked (jobId : String) (action : Job.Action) :
    s.masked.shown settings (now, .act jobId action.masked) =
      s.shown settings (now, .act jobId action) := by
  cases action with
  | finish =>
    have hreports : (s.masked.getJob jobId).any Job.reports = (s.getJob jobId).any Job.reports := by
      rw [getJob_masked, Option.any_map]
      exact congrArg ((s.getJob jobId).any ·) (funext reports_masked)
    have hfound := getSnapshot_masked (s.step settings (now, .act jobId .finish)) jobId
    rw [step_act_masked] at hfound
    show (if (s.masked.getJob jobId).any Job.reports then _ else _) = _
    rw [hreports]
    exact congrArg (fun found => if (s.getJob jobId).any Job.reports then found else none) hfound
  | _ => rfl

/-- The checks apart from the nesting read nothing that masking takes out. -/
theorem checked_masked (s : Scheduler) (registry : Option NodeTable) (draw : String)
    (submission : Submission) :
    s.masked.checked registry draw submission.masked = s.checked registry draw submission := by
  rw [checked, checked]
  show (match givenJobId submission.jobId with | .error _ => _ | .ok jobId => _) = _
  cases givenJobId submission.jobId with
  | error e => rfl
  | ok jobId =>
    have hknown : (jobId.bind s.masked.getJob).isSome = (jobId.bind s.getJob).isSome := by
      cases jobId with
      | none => rfl
      | some jobId =>
        rw [Option.bind_some, Option.bind_some, getJob_masked, Option.isSome_map]
    dsimp only
    rw [hknown, Submission.masked, validateFleetTargetSpec_mask]
    congr 1
    dsimp only
    cases givenTaskType submission.taskType with
    | error e => rfl
    | ok taskType =>
      cases validateFleetTargetSpec registry submission.targetSpec with
      | error e => rfl
      | ok targets =>
        cases submission.payload with
        | none => rfl
        | some payload => cases payload <;> rfl

/-! ### New jobs -/

/-- The scheduler with a job that passed the checks, given its id, task type and targets. -/
def added (settings : Settings) (s : Scheduler) (registry : Option NodeTable) (now : ℤ)
    (submission : Submission) (fresh : String × String × List String) : Scheduler where
  jobs := s.jobs ++ [(newJob now fresh.1 fresh.2.1 (submission.payload.getD (.obj []))
    (submission.targetSpec.getD .null) fresh.2.2 submission).beginExecution settings registry now]

/-- What a submission comes to, from the checks and the nesting. -/
theorem submitJob_toOption (settings : Settings) (s : Scheduler) (registry : Option NodeTable)
    (now : ℤ) (draw : String) (submission : Submission) :
    (s.submitJob settings registry now draw submission).toOption =
      match s.checked registry draw submission with
      | none => none
      | some (.inl jobId) => some (s, jobId)
      | some (.inr fresh) =>
        if submission.TooDeep then none
        else some (s.added settings registry now submission fresh, fresh.1) := by
  rw [submitJob, validateSubmission, checked]
  cases givenJobId submission.jobId with
  | error e => rfl
  | ok jobId =>
    dsimp only [bind, Except.bind]
    by_cases hknown : (jobId.bind s.getJob).isSome = true
    · rw [if_pos hknown, if_pos hknown]
      rfl
    · rw [if_neg hknown, if_neg hknown]
      cases givenTaskType submission.taskType with
      | error e => rfl
      | ok taskType =>
        cases validateFleetTargetSpec registry submission.targetSpec with
        | error e => rfl
        | ok targets =>
          dsimp only
          unfold validatePayload
          by_cases hdeep : submission.TooDeep
          · simp only [if_pos hdeep]
            cases hpayload : submission.payload.getD (.obj []) with
            | obj fields =>
              have hover : 64 < nesting (.obj fields) := hpayload ▸ hdeep
              dsimp only
              rw [if_pos hover]
              rfl
            | _ => rfl
          · simp only [if_neg hdeep, added]
            cases hpayload : submission.payload.getD (.obj []) with
            | obj fields =>
              have hwithin : ¬64 < nesting (.obj fields) := hpayload ▸ hdeep
              dsimp only
              rw [if_neg hwithin]
              rfl
            | _ => rfl

theorem step_submit (hdraw : ∀ job ∈ s.jobs, job.jobId ≠ "job_" ++ draw) :
    s.step settings (now, .submit registry draw submission) =
      ((s.submitJob settings registry now draw submission).toOption.map Prod.fst).getD s := by
  rw [step, if_neg]
  · cases s.submitJob settings registry now draw submission <;> rfl
  · rw [List.any_eq_true]
    rintro ⟨job, hjob, hsame⟩
    exact hdraw job hjob (of_decide_eq_true hsame)

theorem shown_submit (hdraw : ∀ job ∈ s.jobs, job.jobId ≠ "job_" ++ draw) :
    s.shown settings (now, .submit registry draw submission) =
      (s.submitJob settings registry now draw submission).toOption.bind fun answer =>
        answer.1.getSnapshot true answer.2 := by
  rw [shown, if_neg]
  · cases s.submitJob settings registry now draw submission <;> rfl
  · rw [List.any_eq_true]
    rintro ⟨job, hjob, hsame⟩
    exact hdraw job hjob (of_decide_eq_true hsame)

/-- A drawn id that is in use already stands for no submission. -/
theorem submit_of_drawn (hdrawn : ¬∀ job ∈ s.jobs, job.jobId ≠ "job_" ++ draw) :
    s.step settings (now, .submit registry draw submission) = s ∧
      s.shown settings (now, .submit registry draw submission) = none := by
  have hany : (s.jobs.any fun job => job.jobId = "job_" ++ draw) = true := by
    push Not at hdrawn
    obtain ⟨job, hjob, hsame⟩ := hdrawn
    exact List.any_eq_true.mpr ⟨job, hjob, decide_eq_true hsame⟩
  rw [step, shown, if_pos hany, if_pos hany]
  exact ⟨rfl, rfl⟩

theorem fresh_of_checked {fresh : String × String × List String}
    (h : s.checked registry draw submission = some (.inr fresh))
    (hdraw : ∀ job ∈ s.jobs, job.jobId ≠ "job_" ++ draw) :
    ∀ job ∈ s.jobs, job.jobId ≠ fresh.1 := by
  rw [checked] at h
  cases hjobId : givenJobId submission.jobId with
  | error e =>
    rw [hjobId] at h
    cases h
  | ok jobId =>
    rw [hjobId] at h
    dsimp only at h
    split_ifs at h with hknown
    · cases h
    · split at h
      · cases h
        cases jobId with
        | none => exact hdraw
        | some given =>
          intro job hjob hsame
          rw [Option.bind_some, getJob, List.find?_isSome] at hknown
          exact hknown ⟨job, hjob, decide_eq_true hsame⟩
      · cases h

theorem targetSpec_of_checked {fresh : String × String × List String}
    (h : s.checked registry draw submission = some (.inr fresh)) :
    ∃ value, submission.targetSpec = some value := by
  cases htargets : submission.targetSpec with
  | some value => exact ⟨value, rfl⟩
  | none =>
    exfalso
    have hrefused : ∃ e, validateFleetTargetSpec registry none = .error e := ⟨_, rfl⟩
    obtain ⟨e, hrefused⟩ := hrefused
    rw [checked, htargets, hrefused] at h
    cases hjobId : givenJobId submission.jobId with
    | error e =>
      rw [hjobId] at h
      cases h
    | ok jobId =>
      rw [hjobId] at h
      dsimp only at h
      split_ifs at h
      · cases h
      · cases htype : givenTaskType submission.taskType <;> rw [htype] at h <;> cases h

theorem getSnapshot_added {fresh : String × String × List String}
    (hfresh : ∀ job ∈ s.jobs, job.jobId ≠ fresh.1) :
    ∃ snapshot, (s.added settings registry now submission fresh).getSnapshot true fresh.1 =
        some snapshot ∧ snapshot.targetSpec = submission.targetSpec.getD .null := by
  have hidentity := Job.identity_beginExecution settings registry now (newJob now fresh.1 fresh.2.1
    (submission.payload.getD (.obj [])) (submission.targetSpec.getD .null) fresh.2.2 submission)
  have hid : ((newJob now fresh.1 fresh.2.1 (submission.payload.getD (.obj []))
      (submission.targetSpec.getD .null) fresh.2.2 submission).beginExecution settings registry
      now).jobId = fresh.1 := congrArg JobIdentity.jobId hidentity
  have hnone : s.jobs.find? (fun job => job.jobId = fresh.1) = none :=
    List.find?_eq_none.mpr fun job hjob => by simpa using hfresh job hjob
  refine ⟨Job.snapshot true _, ?_, congrArg JobIdentity.targetSpec hidentity⟩
  rw [getSnapshot, getJob, added, List.find?_append, hnone, Option.none_or,
    List.find?_singleton, if_pos (decide_eq_true hid), Option.map_some]

theorem getSnapshot_of_unknown {jobId : String} (h : ∀ job ∈ s.jobs, job.jobId ≠ jobId) :
    s.getSnapshot true jobId = none := by
  rw [getSnapshot, getJob, List.find?_eq_none.mpr fun job hjob => by simpa using h job hjob,
    Option.map_none]

/-- A new job without its credentials, where the targets are given in the same words. -/
theorem added_masked (fresh : String × String × List String)
    (h : s.masked = s'.masked) (hsame : submission.masked = other.masked)
    (htargets : submission.targetSpec = other.targetSpec) :
    (s.added settings registry now submission fresh).masked =
      (s'.added settings registry now other fresh).masked := by
  have hnew : ∀ submission : Submission,
      (newJob now fresh.1 fresh.2.1 (submission.payload.getD (.obj []))
        (submission.targetSpec.getD .null) fresh.2.2 submission).masked =
      newJob now fresh.1 fresh.2.1 (submission.masked.payload.getD (.obj []))
        (submission.targetSpec.getD .null) fresh.2.2 submission.masked := by
    intro submission
    have hpayload : submission.masked.payload.getD (.obj []) =
        mask (submission.payload.getD (.obj [])) := by
      rw [Submission.masked]
      cases submission.payload <;> rfl
    rw [hpayload]
    simp only [newJob, Job.masked, parsedTimeout_mask, List.map_map]
    rfl
  have hjobs : s.jobs.map Job.masked = s'.jobs.map Job.masked := congrArg Scheduler.jobs h
  rw [masked, masked, added, added]
  dsimp only
  rw [List.map_append, List.map_append, List.map_singleton, List.map_singleton, hjobs,
    Job.masked_beginExecution, Job.masked_beginExecution, hnew, hnew, hsame, htargets]

/-! ### Steps side by side -/

/-- The events of a pair are of one kind, and what masking leaves of them is the same. -/
theorem alike_cases {events : (ℤ × Event) × (ℤ × Event)} (h : Alike events.1 events.2) :
    (∃ now registry draw submission other, submission.masked = other.masked ∧
      events = ((now, .submit registry draw submission), (now, .submit registry draw other))) ∨
    ∃ now jobId action action', action.masked = action'.masked ∧
      events = ((now, .act jobId action), (now, .act jobId action')) := by
  obtain ⟨⟨now, event⟩, ⟨now', event'⟩⟩ := events
  obtain ⟨(rfl : now = now'), hmasked⟩ := h
  cases event with
  | submit registry draw submission =>
    cases event' with
    | submit registry' draw' submission' =>
      injection hmasked with hregistry hdraw hsubmission
      subst hregistry hdraw
      exact .inl ⟨_, _, _, _, _, hsubmission, rfl⟩
    | act => cases hmasked
  | act jobId action =>
    cases event' with
    | submit => cases hmasked
    | act jobId' action' =>
      injection hmasked with hid haction
      subst hid
      exact .inr ⟨_, _, _, _, haction, rfl⟩

/-- What a pair of events does: the snapshots agree exactly where it is discreet, and then what
masking leaves of the states agrees again. -/
structure PairSound (settings : Settings) (s : Scheduler × Scheduler)
    (events : (ℤ × Event) × (ℤ × Event)) : Prop where
  agree_iff : SnapshotsAgree settings s events ↔ Discreet s events
  masked : Discreet s events →
    (bothStep settings s events).1.masked = (bothStep settings s events).2.masked

theorem PairSound.of_discreet {s : Scheduler × Scheduler} {events : (ℤ × Event) × (ℤ × Event)}
    (hdiscreet : Discreet s events)
    (hshown : s.1.shown settings events.1 = s.2.shown settings events.2)
    (hmasked : (bothStep settings s events).1.masked = (bothStep settings s events).2.masked) :
    PairSound settings s events where
  agree_iff := iff_of_true ⟨hshown, getSnapshot_congr hmasked, listJobs_congr hmasked⟩ hdiscreet
  masked := fun _ => hmasked

theorem PairSound.of_found {s : Scheduler × Scheduler} {events : (ℤ × Event) × (ℤ × Event)}
    (hdiscreet : ¬Discreet s events) {jobId : String}
    (hfound : (bothStep settings s events).1.getSnapshot true jobId ≠
      (bothStep settings s events).2.getSnapshot true jobId) : PairSound settings s events where
  agree_iff := iff_of_false (fun h => hfound (h.found jobId)) hdiscreet
  masked := fun h => absurd h hdiscreet

theorem pairSound_act {s : Scheduler × Scheduler} (h : s.1.masked = s.2.masked) (jobId : String)
    {action action' : Job.Action} (haction : action.masked = action'.masked) :
    PairSound settings s ((now, .act jobId action), (now, .act jobId action')) := by
  refine .of_discreet trivial ?_ ?_
  · show s.1.shown settings (now, .act jobId action) = s.2.shown settings (now, .act jobId action')
    rw [← shown_act_masked jobId action, h, haction, shown_act_masked]
  · show (s.1.step settings (now, .act jobId action)).masked =
      (s.2.step settings (now, .act jobId action')).masked
    rw [step_act_masked, step_act_masked, h, haction]

/-- Submissions that leave both states as they are and show the same. -/
theorem PairSound.of_stay {s : Scheduler × Scheduler} (h : s.1.masked = s.2.masked)
    (hdiscreet : Discreet s ((now, .submit registry draw submission),
      (now, .submit registry draw other)))
    {seen : Option JobSnapshot}
    (hfirst : s.1.step settings (now, .submit registry draw submission) = s.1 ∧
      s.1.shown settings (now, .submit registry draw submission) = seen)
    (hsecond : s.2.step settings (now, .submit registry draw other) = s.2 ∧
      s.2.shown settings (now, .submit registry draw other) = seen) :
    PairSound settings s ((now, .submit registry draw submission),
      (now, .submit registry draw other)) := by
  refine .of_discreet hdiscreet (hfirst.2.trans hsecond.2.symm) ?_
  show (s.1.step settings (now, .submit registry draw submission)).masked =
    (s.2.step settings (now, .submit registry draw other)).masked
  rw [hfirst.1, hsecond.1, h]

theorem unused_congr (h : s.masked = s'.masked) (draw : String) :
    (∀ job ∈ s.jobs, job.jobId ≠ "job_" ++ draw) ↔ ∀ job ∈ s'.jobs, job.jobId ≠ "job_" ++ draw := by
  have hids : (s.jobs.map Job.masked).map Job.jobId = (s'.jobs.map Job.masked).map Job.jobId :=
    congrArg (fun s : Scheduler => s.jobs.map Job.jobId) h
  rw [List.map_map, List.map_map] at hids
  have hmem : ∀ id, id ∈ s.jobs.map Job.jobId ↔ id ∈ s'.jobs.map Job.jobId := by
    intro id
    exact iff_of_eq (congrArg (id ∈ ·) hids)
  constructor
  · intro hunused job hjob hsame
    obtain ⟨old, hold, hid⟩ := List.mem_map.mp ((hmem _).mpr (List.mem_map_of_mem hjob))
    exact hunused old hold (hid.trans hsame)
  · intro hunused job hjob hsame
    obtain ⟨old, hold, hid⟩ := List.mem_map.mp ((hmem _).mp (List.mem_map_of_mem hjob))
    exact hunused old hold (hid.trans hsame)

/-- A job that one run adds and the other refuses is found in one of them only. -/
theorem getSnapshot_of_deep {s : Scheduler × Scheduler} {fresh : String × String × List String}
    (hnew : ∀ job ∈ s.1.jobs, job.jobId ≠ fresh.1) (hnew' : ∀ job ∈ s.2.jobs, job.jobId ≠ fresh.1)
    (hdeep : ¬(submission.TooDeep ↔ other.TooDeep)) :
    (if submission.TooDeep then s.1
      else s.1.added settings registry now submission fresh).getSnapshot true fresh.1 ≠
    (if other.TooDeep then s.2
      else s.2.added settings registry now other fresh).getSnapshot true fresh.1 := by
  by_cases hfirst : submission.TooDeep
  · have hsecond : ¬other.TooDeep := fun hother => hdeep (iff_of_true hfirst hother)
    obtain ⟨snapshot, hsnapshot, -⟩ :=
      @getSnapshot_added settings s.2 registry now other fresh hnew'
    rw [if_pos hfirst, if_neg hsecond, getSnapshot_of_unknown hnew, hsnapshot]
    exact nofun
  · have hsecond : other.TooDeep := by
      by_contra hother
      exact hdeep (iff_of_false hfirst hother)
    obtain ⟨snapshot, hsnapshot, -⟩ :=
      @getSnapshot_added settings s.1 registry now submission fresh hnew
    rw [if_neg hfirst, if_pos hsecond, getSnapshot_of_unknown hnew', hsnapshot]
    exact nofun

/-- An admitted submission adds its job, or is refused for its nesting. -/
theorem submit_of_fresh (hdraw : ∀ job ∈ s.jobs, job.jobId ≠ "job_" ++ draw)
    {fresh : String × String × List String}
    (h : s.checked registry draw submission = some (.inr fresh)) :
    s.step settings (now, .submit registry draw submission) =
        (if submission.TooDeep then s else s.added settings registry now submission fresh) ∧
      s.shown settings (now, .submit registry draw submission) =
        if submission.TooDeep then none
        else (s.added settings registry now submission fresh).getSnapshot true fresh.1 := by
  rw [step_submit hdraw, shown_submit hdraw, submitJob_toOption, h]
  dsimp only
  split_ifs <;> exact ⟨rfl, rfl⟩

theorem submit_of_other (hdraw : ∀ job ∈ s.jobs, job.jobId ≠ "job_" ++ draw)
    {known : Option String}
    (h : s.checked registry draw submission = known.map Sum.inl) :
    s.step settings (now, .submit registry draw submission) = s ∧
      s.shown settings (now, .submit registry draw submission) =
        known.bind (s.getSnapshot true) := by
  rw [step_submit hdraw, shown_submit hdraw, submitJob_toOption, h]
  cases known <;> exact ⟨rfl, rfl⟩

/-- One pair of submissions in states that masking makes equal. -/
theorem pairSound_submit {s : Scheduler × Scheduler} (h : s.1.masked = s.2.masked)
    (hsame : submission.masked = other.masked) :
    PairSound settings s ((now, .submit registry draw submission),
      (now, .submit registry draw other)) := by
  by_cases hdraw : ∀ job ∈ s.1.jobs, job.jobId ≠ "job_" ++ draw
  · have hdraw' := (unused_congr h draw).mp hdraw
    have hchecked : s.2.checked registry draw other = s.1.checked registry draw submission := by
      rw [← checked_masked s.2, ← checked_masked s.1, h, hsame]
    have hother : ∀ known : Option String,
        s.1.checked registry draw submission = known.map Sum.inl →
        PairSound settings s ((now, .submit registry draw submission),
          (now, .submit registry draw other)) := by
      intro known hknown
      refine .of_stay h ?_ (submit_of_other hdraw hknown) ?_
      · intro hadmits
        have hright := hadmits.2
        rw [hknown] at hright
        cases known <;> cases hright
      · rw [funext (getSnapshot_congr h)]
        exact submit_of_other hdraw' (hchecked.trans hknown)
    cases hcase : s.1.checked registry draw submission with
    | none => exact hother none hcase
    | some answer =>
      cases answer with
      | inl jobId => exact hother (some jobId) hcase
      | inr fresh =>
        have hnew := fresh_of_checked hcase hdraw
        have hnew' := fresh_of_checked (hchecked.trans hcase) hdraw'
        have hadmits : s.1.Admits registry draw submission := ⟨hdraw, by rw [hcase]; rfl⟩
        obtain ⟨hstep, hshown⟩ := @submit_of_fresh settings _ _ now _ _ hdraw _ hcase
        obtain ⟨hstep', hshown'⟩ :=
          @submit_of_fresh settings _ _ now _ _ hdraw' _ (hchecked.trans hcase)
        by_cases hdeep : submission.TooDeep ↔ other.TooDeep
        · by_cases hfirst : submission.TooDeep
          · have hsecond := hdeep.mp hfirst
            rw [if_pos hfirst] at hstep hshown
            rw [if_pos hsecond] at hstep' hshown'
            exact .of_stay h (fun _ => ⟨hdeep, fun hnot => absurd hfirst hnot⟩) ⟨hstep, hshown⟩
              ⟨hstep', hshown'⟩
          · have hsecond : ¬other.TooDeep := fun hother => hfirst (hdeep.mpr hother)
            rw [if_neg hfirst] at hstep hshown
            rw [if_neg hsecond] at hstep' hshown'
            by_cases htargets : submission.targetSpec = other.targetSpec
            · have hmasked := @added_masked settings _ _ registry now _ _ fresh h hsame htargets
              refine .of_discreet (fun _ => ⟨hdeep, fun _ => htargets⟩) ?_ ?_
              · rw [hshown, hshown', getSnapshot_congr hmasked]
              · rw [bothStep, hstep, hstep', hmasked]
            · refine @PairSound.of_found settings _ _
                (fun hdiscreet => htargets ((hdiscreet hadmits).2 hfirst)) fresh.1 ?_
              obtain ⟨snapshot, hsnapshot, hspec⟩ :=
                @getSnapshot_added settings s.1 registry now submission fresh hnew
              obtain ⟨snapshot', hsnapshot', hspec'⟩ :=
                @getSnapshot_added settings s.2 registry now other fresh hnew'
              rw [bothStep, hstep, hstep', hsnapshot, hsnapshot']
              intro hequal
              have hspecs := congrArg JobSnapshot.targetSpec (Option.some.inj hequal)
              rw [hspec, hspec'] at hspecs
              obtain ⟨value, hvalue⟩ := targetSpec_of_checked hcase
              obtain ⟨value', hvalue'⟩ := targetSpec_of_checked (hchecked.trans hcase)
              rw [hvalue, hvalue'] at hspecs
              exact htargets (by rw [hvalue, hvalue']; exact congrArg some hspecs)
        · refine @PairSound.of_found settings _ _ (fun hdiscreet => hdeep (hdiscreet hadmits).1)
            fresh.1 ?_
          rw [bothStep, hstep, hstep']
          exact getSnapshot_of_deep hnew hnew' hdeep
  · have hdraw' : ¬∀ job ∈ s.2.jobs, job.jobId ≠ "job_" ++ draw :=
      fun hall => hdraw ((unused_congr h draw).mpr hall)
    exact .of_stay h (fun hadmits => absurd hadmits.1 hdraw) (submit_of_drawn hdraw)
      (submit_of_drawn hdraw')

theorem pairSound_step {s : Scheduler × Scheduler} (h : s.1.masked = s.2.masked)
    {events : (ℤ × Event) × (ℤ × Event)} (halike : Alike events.1 events.2) :
    PairSound settings s events := by
  rcases alike_cases halike with ⟨now, registry, draw, submission, other, hsame, rfl⟩ |
    ⟨now, jobId, action, action', hsame, rfl⟩
  · exact pairSound_submit h hsame
  · exact pairSound_act h jobId hsame

/-! ### Runs side by side -/

theorem agree_iff_from {s : Scheduler × Scheduler} (h : s.1.masked = s.2.masked)
    {runs : List ((ℤ × Event) × (ℤ × Event))} (halike : ∀ events ∈ runs, Alike events.1 events.2) :
    EachStep (bothStep settings) (SnapshotsAgree settings) s runs ↔
      EachStep (bothStep settings) Discreet s runs := by
  induction runs generalizing s with
  | nil => exact Iff.rfl
  | cons events rest ih =>
    have hsound := @pairSound_step settings s h events (halike events List.mem_cons_self)
    have hrest : ∀ events ∈ rest, Alike events.1 events.2 :=
      fun events hmem => halike events (List.mem_cons_of_mem _ hmem)
    constructor
    · rintro ⟨hagree, hagrees⟩
      have hdiscreet := hsound.agree_iff.mp hagree
      exact ⟨hdiscreet, (ih (hsound.masked hdiscreet) hrest).mp hagrees⟩
    · rintro ⟨hdiscreet, hdiscreets⟩
      exact ⟨hsound.agree_iff.mpr hdiscreet, (ih (hsound.masked hdiscreet) hrest).mpr hdiscreets⟩

/-- Two runs on events that differ only below sensitive names show the same snapshots throughout
exactly where every pair of submissions that pass the other checks has its targets in the same
words, and its payloads nested too deep in both runs or in none. -/
theorem snapshots_agree_iff (settings : Settings) (runs : List ((ℤ × Event) × (ℤ × Event)))
    (h : ∀ events ∈ runs, Alike events.1 events.2) :
    EachStep (bothStep settings) (SnapshotsAgree settings) ({}, {}) runs ↔
      EachStep (bothStep settings) Discreet ({}, {}) runs :=
  agree_iff_from rfl h

/-! ### Samples -/

/-- A submission with a credential in its payload and one in its targets. -/
def secretSubmission (inPayload inTargets : String) : Submission :=
  { sampleSubmission with
    payload := some (.obj [("token", .str inPayload)])
    targetSpec := some (.obj [("mode", .str "explicit"), ("nodeIds", .arr [.str sampleNode]),
      ("token", .str inTargets)]) }

/-- Two runs, each of one submission with its own credentials. -/
def secretRuns (inPayload inTargets : String × String) :
    List ((ℤ × Event) × (ℤ × Event)) :=
  [((0, .submit none sampleDraw (secretSubmission inPayload.1 inTargets.1)),
    (0, .submit none sampleDraw (secretSubmission inPayload.2 inTargets.2)))]

theorem alike_secretRuns (inPayload inTargets : String × String) :
    ∀ events ∈ secretRuns inPayload inTargets, Alike events.1 events.2 := by
  have htoken : isSensitiveKey "token" = true := by decide +kernel
  intro events hevents
  rw [List.mem_singleton.mp hevents]
  refine ⟨rfl, ?_⟩
  simp only [Event.masked, Submission.masked, secretSubmission, Option.map_some, mask, maskFields,
    htoken, if_true]

theorem snapshots_agree_iff_sample :
    EachStep (bothStep {}) (SnapshotsAgree {}) ({}, {}) (secretRuns ("a", "b") ("c", "c")) ↔
      EachStep (bothStep {}) Discreet ({}, {}) (secretRuns ("a", "b") ("c", "c")) :=
  snapshots_agree_iff {} (secretRuns ("a", "b") ("c", "c")) (alike_secretRuns _ _)

/-- The credential a target specification carries below `token`. -/
def targetToken (snapshot : Option JobSnapshot) : Option String :=
  snapshot.bind fun snapshot => (snapshot.targetSpec.field "token").bind Json.str?

/-- A credential in the targets of a job is shown in its snapshots. -/
theorem targets_shown_unscrubbed :
    ¬∀ (settings : Settings) (runs : List ((ℤ × Event) × (ℤ × Event))),
      (∀ events ∈ runs, Alike events.1 events.2) →
      EachStep (bothStep settings) (SnapshotsAgree settings) ({}, {}) runs := by
  intro hall
  obtain ⟨hagree, -⟩ := hall {} (secretRuns ("a", "a") ("b", "c")) (alike_secretRuns _ _)
  have hfound := congrArg targetToken (hagree.found sampleJobId)
  revert hfound
  decide +kernel

end Scheduler

end DshOrbit.Fleet
