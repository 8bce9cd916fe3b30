import DshOrbit.Schedules.Rows

/-!
# Overlapping runs

A schedule whose policy is `forbid` dispatches only while no job of it is pending or running.
The status of a job says this as long as a job is not ended over an outstanding call: a
cancellation, or the end of a job of which a timer gave up a call, makes a job terminal whose
dispatch is still in flight.

## Main definitions

- `Job.inFlight` — a call of the transport is outstanding
- `Engine.Exclusive` — the invariant: one job of such a schedule is not terminal, and the
  terminal ones have no calls
- `Engine.EndsQuietly` — the condition on a step

## Main results

- `forbid_exclusive` — at most one job of such a schedule is in flight
-/

namespace DshOrbit.Fleet

open DshOrbit.Lib

/-- The schedule that a job is marked with. -/
def markedSchedule (payload : Json) : Option String :=
  (payload.field "_fleetScheduleId").bind Json.str?

namespace Job

def scheduleId? (job : Job) : Option String := markedSchedule job.payload

/-- A call of the transport has not settled. -/
def inFlight (job : Job) : Bool := !job.calls.isEmpty

theorem scheduleId_act {job : Job} {settings : Settings} {now : ℤ} (action : Action) :
    (job.act settings now action).scheduleId? = job.scheduleId? :=
  congrArg (fun identity : JobIdentity => markedSchedule identity.payload) (identity_act action)

end Job

theorem isTerminal_of_not_active {s : Scheduler} {scheduleId : String}
    (h : s.hasActiveJobForSchedule scheduleId = false) {job : Job} (hjob : job ∈ s.jobs)
    (hid : job.scheduleId? = some scheduleId) : job.status.isTerminal = true := by
  have hnone := List.any_eq_false.mp h job hjob
  rw [Bool.and_eq_true, decide_eq_true_eq] at hnone
  by_contra hopen
  refine hnone ⟨hid, ?_⟩
  cases hstatus : job.status <;> rw [hstatus] at hopen <;>
    first | rfl | exact absurd rfl hopen

end DshOrbit.Fleet

namespace DshOrbit.Schedules

open DshOrbit.Lib DshOrbit.Fleet

/-! ### The marks of jobs -/

theorem field_setField (name : String) (value : Json) (fields : List (String × Json)) :
    (Json.obj (setField name value fields)).field name = some value := by
  rw [setField, Json.field]
  split_ifs with hany
  · obtain ⟨entry, hentry, hname⟩ := List.any_eq_true.mp hany
    have hmem : (name, value) ∈ (fields.map fun entry =>
        if (entry.1 == name) = true then (name, value) else entry).reverse := by
      rw [List.mem_reverse]
      exact List.mem_map.mpr ⟨entry, hentry, by rw [if_pos hname]⟩
    cases hfind : (fields.map fun entry =>
        if (entry.1 == name) = true then (name, value) else entry).reverse.find?
        fun entry => entry.1 == name with
    | none => exact absurd (List.find?_eq_none.mp hfind _ hmem) (by simp)
    | some found =>
      have hfound := List.mem_of_find?_eq_some hfind
      have hkey := List.find?_some hfind
      rw [List.mem_reverse] at hfound
      obtain ⟨old, -, rfl⟩ := List.mem_map.mp hfound
      by_cases hold : (old.1 == name) = true
      · rw [if_pos hold]
        rfl
      · rw [if_neg hold] at hkey
        exact absurd hkey hold
  · rw [List.reverse_append, List.reverse_singleton, List.singleton_append, List.find?_cons]
    simp

theorem field_setField_ne {name other : String} (hne : other ≠ name) (value : Json)
    (fields : List (String × Json)) :
    (Json.obj (setField name value fields)).field other = (Json.obj fields).field other := by
  rw [setField, Json.field, Json.field]
  split_ifs
  · rw [← List.map_reverse, List.find?_map]
    have hsame : ((fun entry : String × Json => entry.1 == other) ∘ fun entry =>
        if (entry.1 == name) = true then (name, value) else entry) =
        fun entry => entry.1 == other := by
      funext entry
      rw [Function.comp]
      by_cases h : (entry.1 == name) = true
      · rw [if_pos h, beq_iff_eq.mp h]
      · rw [if_neg h]
    rw [hsame, Option.map_map]
    cases hfind : fields.reverse.find? fun entry => entry.1 == other with
    | none => rfl
    | some entry =>
      have hkey := List.find?_some hfind
      rw [beq_iff_eq] at hkey
      have hother : ¬(entry.1 == name) = true := by
        rw [hkey, beq_iff_eq]
        exact hne
      rw [Option.map_some, Option.map_some, Function.comp, if_neg hother]
  · rw [List.reverse_append, List.reverse_singleton, List.singleton_append, List.find?_cons]
    have hother : ((name, value).1 == other) = false := by
      simp [Ne.symm hne]
    rw [hother]

theorem markedSchedule_jobPayload (schedule : ScheduleRow) (runId : String) :
    markedSchedule (jobPayload schedule runId) = some schedule.scheduleId := by
  rw [markedSchedule, jobPayload, field_setField_ne (by decide), field_setField]
  rfl

namespace Engine

variable {settings : Settings} {registry : Option NodeTable} {now : ℤ} {s : Engine}

/-- The ids of the schedules with their policies. -/
def policies (s : Engine) : List (String × ConcurrencyPolicy) :=
  s.schedules.map fun row => (row.scheduleId, row.concurrencyPolicy)

/-! ### What the operations leave -/

theorem policies_updateSchedule {scheduleId : String} {f : ScheduleRow → ScheduleRow}
    (hf : ∀ row, (f row).scheduleId = row.scheduleId ∧
      (f row).concurrencyPolicy = row.concurrencyPolicy) :
    (s.updateSchedule scheduleId f).policies = s.policies :=
  map_updateWhere _ (fun row => Prod.ext (hf row).1 (hf row).2) s.schedules

/-- An operation that writes neither policies nor jobs, and selects no rows. -/
structure Quiet (s s' : Engine) : Prop where
  policies : s'.policies = s.policies
  fleet : s'.fleet = s.fleet
  missed : s'.missed = s.missed
  due : s'.due = s.due ∨ s'.due = none

theorem Quiet.refl (s : Engine) : Quiet s s := ⟨rfl, rfl, rfl, .inl rfl⟩

theorem quiet_abandon (triggerType : TriggerType) : Quiet s (s.abandon triggerType) := by
  rw [abandon]
  split_ifs
  · exact ⟨rfl, rfl, rfl, .inr rfl⟩
  · exact .refl s

theorem quiet_update {scheduleId : String} {f : ScheduleRow → ScheduleRow} {runs : List RunRow}
    (hf : ∀ row, (f row).scheduleId = row.scheduleId ∧
      (f row).concurrencyPolicy = row.concurrencyPolicy) :
    Quiet s (({ s with runs := runs } : Engine).updateSchedule scheduleId f) :=
  ⟨policies_updateSchedule (s := { s with runs := runs }) hf, rfl, rfl, .inl rfl⟩

theorem quiet_recordSkip {schedule : ScheduleRow} {triggerType : TriggerType} {runId : String} :
    Quiet s (s.recordSkip now schedule triggerType runId) := by
  rw [recordSkip]
  split
  next => exact quiet_abandon triggerType
  next hinsert =>
    obtain ⟨-, rfl⟩ := insertRun_eq_some.mp hinsert
    exact quiet_update fun row => ⟨rfl, rfl⟩

/-- What a dispatch does to the jobs: one more job of its schedule, and for a schedule whose
policy is `forbid` only where no other is active. -/
theorem beginDispatch_spec (settings : Settings) (registry : Option NodeTable) (now : ℤ)
    (s : Engine) (schedule : ScheduleRow) (triggerType : TriggerType) (draws : Draws) :
    let s' := s.beginDispatch settings registry now schedule triggerType draws
    s'.policies = s.policies ∧ s'.missed = s.missed ∧ (s'.due = s.due ∨ s'.due = none) ∧
      (s'.fleet = s.fleet ∨ ∃ job, s'.fleet = { jobs := s.fleet.jobs ++ [job] } ∧
        job.scheduleId? = some schedule.scheduleId ∧ job.status = .running ∧ job.calls = [] ∧
        (schedule.concurrencyPolicy = .forbid →
          s.fleet.hasActiveJobForSchedule schedule.scheduleId = false)) := by
  intro s'
  have hs' : s' = s.beginDispatch settings registry now schedule triggerType draws := rfl
  rw [beginDispatch] at hs'
  split_ifs at hs' with hforbid
  · have hquiet : Quiet s s' := hs' ▸ quiet_recordSkip
    exact ⟨hquiet.policies, hquiet.missed, hquiet.due, .inl hquiet.fleet⟩
  · split at hs'
    next fleet jobId hsubmit =>
      obtain ⟨job, hfleet, -, hpayload, hstatus, hcalls⟩ :=
        (submitJob_cases hsubmit).resolve_left fun hknown => hknown.2 rfl
      rw [hs']
      refine ⟨rfl, rfl, .inl rfl, .inr ⟨job, hfleet, ?_, hstatus, hcalls, ?_⟩⟩
      · have hsame := validatePayload_eq_ok hpayload
        rw [Job.scheduleId?, hsame]
        exact markedSchedule_jobPayload schedule _
      · intro hpolicy
        exact Bool.of_not_eq_true fun hactive => hforbid ⟨hpolicy, hactive⟩
    next =>
      rw [hs']
      exact ⟨rfl, rfl, .inl rfl, .inl rfl⟩

/-! ### The invariant -/

/-- Of a schedule whose policy is `forbid` one job at most is not terminal, and the others have
no calls. -/
structure Exclusive (s : Engine) : Prop where
  unique : (s.policies.map Prod.fst).Nodup
  stopped : ∀ job ∈ s.fleet.jobs, job.Stopped
  selected : ∀ row ∈ s.selected, ∀ policy, (row.scheduleId, policy) ∈ s.policies →
    row.concurrencyPolicy = policy
  quiet : ∀ scheduleId, (scheduleId, ConcurrencyPolicy.forbid) ∈ s.policies →
    ∀ job ∈ s.fleet.jobs, job.scheduleId? = some scheduleId → job.status.isTerminal = true →
      job.calls = []
  single : ∀ scheduleId, (scheduleId, ConcurrencyPolicy.forbid) ∈ s.policies →
    s.fleet.jobs.countP (fun job =>
      job.scheduleId? = some scheduleId && !job.status.isTerminal) ≤ 1

/-- A job of a schedule whose policy is `forbid`. -/
def Forbids (s : Engine) (job : Job) : Prop :=
  ∃ row ∈ s.schedules, row.concurrencyPolicy = .forbid ∧ job.scheduleId? = some row.scheduleId

instance (s : Engine) (job : Job) : Decidable (s.Forbids job) :=
  inferInstanceAs (Decidable (∃ row ∈ s.schedules, row.concurrencyPolicy = .forbid ∧
    job.scheduleId? = some row.scheduleId))

/-- A job of a schedule whose policy is `forbid` becomes terminal only when none of its calls
is outstanding; no other job is submitted with the mark of such a schedule; and a schedule is
created only under an id that no job and no selected row carries. -/
def EndsQuietly (s : Engine) : ℤ × Event → Prop
  | (_, .fleet (.act jobId action)) => ∀ job ∈ s.fleet.jobs, job.jobId = jobId →
      job.EndsBy action → s.Forbids job → job.inFlight = false
  | (_, .fleet (.submit _ _ submission)) => ∀ row ∈ s.schedules,
      row.concurrencyPolicy = .forbid →
        markedSchedule (submission.payload.getD (.obj [])) ≠ some row.scheduleId
  | (now, .create spec draw) =>
      match spec.toRow now draw with
      | .ok row => (∀ job ∈ s.fleet.jobs, job.scheduleId? ≠ some row.scheduleId) ∧
          ∀ held ∈ s.selected, held.scheduleId ≠ row.scheduleId
      | .error _ => True
  | _ => True

instance (s : Engine) : (event : ℤ × Event) → Decidable (s.EndsQuietly event)
  | (_, .fleet (.act jobId action)) => inferInstanceAs (Decidable (∀ job ∈ s.fleet.jobs,
      job.jobId = jobId → job.EndsBy action → s.Forbids job → job.inFlight = false))
  | (_, .fleet (.submit _ _ submission)) => inferInstanceAs (Decidable (∀ row ∈ s.schedules,
      row.concurrencyPolicy = .forbid →
        markedSchedule (submission.payload.getD (.obj [])) ≠ some row.scheduleId))
  | (now, .create spec draw) =>
      match h : spec.toRow now draw with
      | .ok row => decidable_of_iff ((∀ job ∈ s.fleet.jobs, job.scheduleId? ≠ some row.scheduleId) ∧
          ∀ held ∈ s.selected, held.scheduleId ≠ row.scheduleId) (by rw [EndsQuietly, h])
      | .error _ => isTrue (by rw [EndsQuietly, h]; trivial)
  | (_, .pause _) | (_, .resume _) | (_, .delete _) | (_, .trigger ..) | (_, .start) | (_, .stop)
  | (_, .reconcileNext ..) | (_, .evaluate) | (_, .evaluateNext ..) | (_, .record)
  | (_, .report _) | (_, .restart) => isTrue trivial

theorem mem_policies {scheduleId : String} {policy : ConcurrencyPolicy} :
    (scheduleId, policy) ∈ s.policies ↔
      ∃ row ∈ s.schedules, row.scheduleId = scheduleId ∧ row.concurrencyPolicy = policy := by
  rw [policies, List.mem_map]
  refine exists_congr fun row => and_congr_right fun _ => ?_
  rw [Prod.mk.injEq]

theorem policy_unique (h : (s.policies.map Prod.fst).Nodup) {row : ScheduleRow}
    (hrow : row ∈ s.schedules) {policy : ConcurrencyPolicy}
    (hpolicy : (row.scheduleId, policy) ∈ s.policies) : row.concurrencyPolicy = policy := by
  have hown : (row.scheduleId, row.concurrencyPolicy) ∈ s.policies :=
    mem_policies.mpr ⟨row, hrow, rfl, rfl⟩
  exact (Prod.mk.inj (List.inj_on_of_nodup_map h hown hpolicy rfl)).2

theorem Exclusive.of_quiet {s' : Engine} (h : s.Exclusive) (hq : Quiet s s') : s'.Exclusive := by
  have hselected : ∀ row ∈ s'.selected, row ∈ s.selected := by
    intro row hrow
    rw [Engine.selected, hq.missed] at hrow
    rw [Engine.selected]
    rcases hq.due with hdue | hdue
    · rwa [hdue] at hrow
    · rw [hdue] at hrow
      exact List.mem_append_right _ hrow
  refine ⟨?_, ?_, ?_, ?_, ?_⟩
  · rw [hq.policies]
    exact h.unique
  · rw [hq.fleet]
    exact h.stopped
  · rw [hq.policies]
    exact fun row hrow => h.selected row (hselected row hrow)
  · rw [hq.policies, hq.fleet]
    exact h.quiet
  · rw [hq.policies, hq.fleet]
    exact h.single

/-- A change of the selected rows alone. -/
theorem Exclusive.of_selected {s' : Engine} (h : s.Exclusive) (hschedules : s'.schedules = s.schedules)
    (hfleet : s'.fleet = s.fleet)
    (hselected : ∀ row ∈ s'.selected, row ∈ s.selected ∨ row ∈ s.schedules) : s'.Exclusive := by
  have hpolicies : s'.policies = s.policies := by
    rw [policies, policies, hschedules]
  refine ⟨?_, ?_, ?_, ?_, ?_⟩
  · rw [hpolicies]
    exact h.unique
  · rw [hfleet]
    exact h.stopped
  · rw [hpolicies]
    intro row hrow policy hpolicy
    rcases hselected row hrow with hold | hnew
    · exact h.selected row hold policy hpolicy
    · exact policy_unique h.unique hnew hpolicy
  · rw [hpolicies, hfleet]
    exact h.quiet
  · rw [hpolicies, hfleet]
    exact h.single

/-- A new job of a schedule that has no active one, or of none whose policy is `forbid`. -/
theorem Exclusive.append {s' : Engine} (h : s.Exclusive) {job : Job}
    (hpolicies : s'.policies = s.policies) (hselected : ∀ row ∈ s'.selected, row ∈ s.selected)
    (hfleet : s'.fleet = { jobs := s.fleet.jobs ++ [job] }) (hstatus : job.status = .running)
    (hfree : ∀ scheduleId, (scheduleId, ConcurrencyPolicy.forbid) ∈ s.policies →
      job.scheduleId? = some scheduleId →
        s.fleet.hasActiveJobForSchedule scheduleId = false) : s'.Exclusive := by
  have hopen : job.status.isTerminal = false := by rw [hstatus]; rfl
  refine ⟨?_, ?_, ?_, ?_, ?_⟩
  · rw [hpolicies]
    exact h.unique
  · rw [hfleet]
    intro other hother
    rcases List.mem_append.mp hother with hold | hnew
    · exact h.stopped other hold
    · rw [List.mem_singleton.mp hnew]
      intro hterminal
      rw [hopen] at hterminal
      exact Bool.noConfusion hterminal
  · rw [hpolicies]
    exact fun row hrow => h.selected row (hselected row hrow)
  · rw [hpolicies, hfleet]
    intro scheduleId hforbid other hother hid hterminal
    rcases List.mem_append.mp hother with hold | hnew
    · exact h.quiet scheduleId hforbid other hold hid hterminal
    · rw [List.mem_singleton.mp hnew, hopen] at hterminal
      exact Bool.noConfusion hterminal
  · rw [hpolicies, hfleet]
    intro scheduleId hforbid
    rw [List.countP_append, List.countP_singleton]
    by_cases hid : job.scheduleId? = some scheduleId
    · have hzero : s.fleet.jobs.countP (fun job =>
          job.scheduleId? = some scheduleId && !job.status.isTerminal) = 0 := by
        rw [List.countP_eq_zero]
        intro other hother hcounted
        rw [Bool.and_eq_true, decide_eq_true_eq] at hcounted
        rw [isTerminal_of_not_active (hfree scheduleId hforbid hid) hother hcounted.1] at hcounted
        exact Bool.noConfusion hcounted.2
      rw [hzero]
      split_ifs <;> omega
    · rw [if_neg (by simp [hid])]
      exact h.single scheduleId hforbid

theorem Exclusive.beginDispatch (h : s.Exclusive) {schedule : ScheduleRow}
    (hschedule : ∀ policy, (schedule.scheduleId, policy) ∈ s.policies →
      schedule.concurrencyPolicy = policy) (triggerType : TriggerType) (draws : Draws) :
    (s.beginDispatch settings registry now schedule triggerType draws).Exclusive := by
  obtain ⟨hpolicies, hmissed, hdue, hfleet⟩ := beginDispatch_spec settings registry now s
    schedule triggerType draws
  rcases hfleet with hsame | ⟨job, hjobs, hid, hstatus, -, hfree⟩
  · exact h.of_quiet ⟨hpolicies, hsame, hmissed, hdue⟩
  · refine h.append hpolicies ?_ hjobs hstatus ?_
    · intro row hrow
      rw [Engine.selected, hmissed] at hrow
      rw [Engine.selected]
      rcases hdue with hdue | hdue
      · rwa [hdue] at hrow
      · rw [hdue] at hrow
        exact List.mem_append_right _ hrow
    · intro scheduleId hforbid hmark
      rw [hid] at hmark
      obtain rfl := Option.some.inj hmark
      exact hfree (hschedule _ hforbid)

/-- The tasks of a job keep the invariant where they end it without calls. -/
theorem Exclusive.act (h : s.Exclusive) {jobId : String} {action : Job.Action}
    (hends : s.EndsQuietly (now, .fleet (.act jobId action))) :
    ({ s with fleet := s.fleet.step settings (now, .act jobId action) } : Engine).Exclusive := by
  refine ⟨h.unique, ?_, h.selected, ?_, ?_⟩
  · intro job hjob
    rcases mem_updateWhere.mp hjob with ⟨hold, -⟩ | ⟨old, hold, -, rfl⟩
    · exact h.stopped job hold
    · exact (h.stopped old hold).act action
  · intro scheduleId hforbid job hjob hid hterminal
    rcases mem_updateWhere.mp hjob with ⟨hold, -⟩ | ⟨old, hold, hacts, rfl⟩
    · exact h.quiet scheduleId hforbid job hold hid hterminal
    · rw [Job.scheduleId_act] at hid
      by_cases hold' : old.status.isTerminal = true
      · exact Job.calls_act (h.stopped old hold) hold'
          (h.quiet scheduleId hforbid old hold hid hold') action
      · have hend : old.EndsBy action := by
          by_contra hnot
          rw [Job.status_act hnot] at hterminal
          exact hold' hterminal
        obtain ⟨row, hrow, hrowId, hpolicy⟩ := mem_policies.mp hforbid
        have hquiet := hends old hold (of_decide_eq_true hacts) hend
          ⟨row, hrow, hpolicy, hrowId ▸ hid⟩
        rw [Job.inFlight, Bool.not_eq_false', List.isEmpty_iff] at hquiet
        rw [Job.calls_of_endsBy hend]
        exact hquiet
  · intro scheduleId hforbid
    refine le_trans ?_ (h.single scheduleId hforbid)
    show (updateWhere _ _ s.fleet.jobs).countP _ ≤ _
    rw [updateWhere, List.countP_map]
    refine List.countP_mono_left fun job _ hcounted => ?_
    rw [Function.comp] at hcounted
    by_cases hacts : decide (job.jobId = jobId) = true
    · rw [if_pos hacts, Job.scheduleId_act] at hcounted
      rw [Bool.and_eq_true, Bool.not_eq_true'] at hcounted ⊢
      refine ⟨hcounted.1, Bool.of_not_eq_true fun hterminal => ?_⟩
      have hstill := Job.terminal_act settings now hterminal action
      rw [hstill] at hcounted
      exact Bool.noConfusion hcounted.2
    · rwa [if_neg hacts] at hcounted

theorem Exclusive.submit (h : s.Exclusive) {draw : String} {submission : Submission}
    (hends : s.EndsQuietly (now, .fleet (.submit registry draw submission))) :
    ({ s with fleet := s.fleet.step settings (now, .submit registry draw submission) } :
      Engine).Exclusive := by
  have hsame : s.fleet.step settings (now, .submit registry draw submission) = s.fleet →
      ({ s with fleet := s.fleet.step settings (now, .submit registry draw submission) } :
        Engine).Exclusive := by
    intro heq
    rw [heq]
    exact h
  rw [Scheduler.step] at hsame ⊢
  split_ifs at hsame ⊢
  · exact h
  · cases hsubmit : s.fleet.submitJob settings registry now draw submission with
    | error e => exact h
    | ok result =>
      rcases submitJob_cases hsubmit with ⟨hfleet, -⟩ | ⟨job, hfleet, -, hpayload, hstatus, -⟩
      · show ({ s with fleet := result.1 } : Engine).Exclusive
        rw [hfleet]
        exact h
      · refine h.append rfl (fun row hrow => hrow) hfleet hstatus ?_
        intro scheduleId hforbid hid
        obtain ⟨row, hrow, rfl, hpolicy⟩ := mem_policies.mp hforbid
        rw [Job.scheduleId?, validatePayload_eq_ok hpayload] at hid
        exact absurd hid (hends row hrow hpolicy)

theorem Exclusive.create (h : s.Exclusive) {spec : ScheduleSpec} {draw : String} {s' : Engine}
    (hends : s.EndsQuietly (now, .create spec draw)) (hcreate : s.createSchedule now spec draw = .ok s') :
    s'.Exclusive := by
  rw [createSchedule] at hcreate
  rw [EndsQuietly] at hends
  cases hrow : spec.toRow now draw with
  | error e =>
    rw [hrow] at hcreate
    cases hcreate
  | ok row =>
    rw [hrow] at hcreate hends
    dsimp only at hcreate hends
    split at hcreate
    next schedules hinsert =>
      obtain rfl := Except.ok.inj hcreate
      obtain ⟨hnew, rfl⟩ := insertUnique_eq_some.mp hinsert
      have hpolicies : ({ s with schedules := s.schedules ++ [row] } : Engine).policies =
          s.policies ++ [(row.scheduleId, row.concurrencyPolicy)] := List.map_append
      have hunique := h.unique
      refine ⟨?_, h.stopped, ?_, ?_, ?_⟩
      · rw [hpolicies, List.map_append, List.nodup_append]
        refine ⟨hunique, List.nodup_singleton _, ?_⟩
        intro a ha b hb
        rw [List.mem_singleton.mp hb]
        obtain ⟨entry, hentry, rfl⟩ := List.mem_map.mp ha
        obtain ⟨other, hother, hid, -⟩ := mem_policies.mp hentry
        rw [← hid]
        exact hnew other hother
      · rw [hpolicies]
        intro held hheld policy hpolicy
        rcases List.mem_append.mp hpolicy with hold | hlast
        · exact h.selected held hheld policy hold
        · exact absurd (Prod.mk.inj (List.mem_singleton.mp hlast)).1 (hends.2 held hheld)
      · rw [hpolicies]
        intro scheduleId hforbid job hjob hid hterminal
        rcases List.mem_append.mp hforbid with hold | hlast
        · exact h.quiet scheduleId hold job hjob hid hterminal
        · rw [(Prod.mk.inj (List.mem_singleton.mp hlast)).1] at hid
          exact absurd hid (hends.1 job hjob)
      · rw [hpolicies]
        intro scheduleId hforbid
        rcases List.mem_append.mp hforbid with hold | hlast
        · exact h.single scheduleId hold
        · have hzero : s.fleet.jobs.countP (fun job =>
              job.scheduleId? = some scheduleId && !job.status.isTerminal) = 0 := by
            rw [List.countP_eq_zero]
            intro job hjob hcounted
            rw [Bool.and_eq_true, decide_eq_true_eq,
              (Prod.mk.inj (List.mem_singleton.mp hlast)).1] at hcounted
            exact hends.1 job hjob hcounted.1
          exact hzero.le.trans (Nat.zero_le 1)
    next => cases hcreate

/-- A change that only removes schedules. -/
theorem Exclusive.delete (h : s.Exclusive) (scheduleId : String) :
    (s.deleteSchedule scheduleId).Exclusive := by
  have hsub : (s.deleteSchedule scheduleId).policies.Sublist s.policies :=
    List.filter_sublist.map _
  refine ⟨h.unique.sublist (hsub.map Prod.fst), h.stopped, ?_, ?_, ?_⟩
  · intro row hrow policy hpolicy
    exact h.selected row hrow policy (hsub.subset hpolicy)
  · intro id hforbid
    exact h.quiet id (hsub.subset hforbid)
  · intro id hforbid
    exact h.single id (hsub.subset hforbid)

theorem Exclusive.trigger (h : s.Exclusive) (scheduleId : String) (draws : Draws) :
    (s.trigger settings registry now scheduleId draws).Exclusive := by
  rw [Engine.trigger]
  cases hget : s.getSchedule scheduleId with
  | none => exact h
  | some schedule =>
    obtain ⟨row, hrow, rfl⟩ := Option.map_eq_some_iff.mp hget
    refine h.beginDispatch (fun policy hpolicy => ?_) .manual draws
    exact policy_unique h.unique (List.mem_of_find?_eq_some hrow) hpolicy

theorem Exclusive.evaluateNext (h : s.Exclusive) (draws : Draws) :
    (s.evaluateNext settings registry now draws).Exclusive := by
  rw [Engine.evaluateNext]
  split
  · exact h
  · split
    · exact h
    · exact h.of_quiet ⟨rfl, rfl, rfl, .inr rfl⟩
    next row rest hdue =>
      split
      · have hrow : row ∈ s.selected := by
          rw [Engine.selected, hdue]
          exact List.mem_append_left _ List.mem_cons_self
        have hrest : ({ s with due := some rest } : Engine).Exclusive := by
          refine h.of_selected rfl rfl fun other hother => .inl ?_
          rw [Engine.selected, hdue]
          rcases List.mem_append.mp hother with hin | hin
          · exact List.mem_append_left _ (List.mem_cons_of_mem row hin)
          · exact List.mem_append_right _ hin
        have hpolicy : ∀ policy, ((hydrateScheduleRow row).scheduleId, policy) ∈ s.policies →
            (hydrateScheduleRow row).concurrencyPolicy = policy := h.selected row hrow
        exact hrest.beginDispatch hpolicy .scheduled draws
      · exact h.of_quiet ⟨rfl, rfl, rfl, .inr rfl⟩

theorem quiet_updateSchedule {scheduleId : String} {f : ScheduleRow → ScheduleRow}
    (hf : ∀ row, (f row).scheduleId = row.scheduleId ∧
      (f row).concurrencyPolicy = row.concurrencyPolicy) :
    Quiet s (s.updateSchedule scheduleId f) :=
  ⟨policies_updateSchedule hf, rfl, rfl, .inl rfl⟩

theorem Exclusive.reconcileNext (h : s.Exclusive) (draws : Draws) :
    (s.reconcileNext settings registry now draws).Exclusive := by
  rw [Engine.reconcileNext]
  split
  · exact h
  next row rest hmissed =>
    have hrow : row ∈ s.selected := by
      rw [Engine.selected, hmissed]
      exact List.mem_append_right _ List.mem_cons_self
    have hrest : ({ s with missed := rest } : Engine).Exclusive := by
      refine h.of_selected rfl rfl fun other hother => .inl ?_
      rw [Engine.selected, hmissed]
      rcases List.mem_append.mp hother with hin | hin
      · exact List.mem_append_left _ hin
      · exact List.mem_append_right _ (List.mem_cons_of_mem row hin)
    dsimp only
    split
    · have hpolicy : ∀ policy, ((hydrateScheduleRow row).scheduleId, policy) ∈ s.policies →
          (hydrateScheduleRow row).concurrencyPolicy = policy := h.selected row hrow
      exact hrest.beginDispatch hpolicy .catchUp draws
    · split
      · exact hrest.of_quiet (quiet_updateSchedule fun row => ⟨rfl, rfl⟩)
      · exact hrest.of_quiet (quiet_updateSchedule fun row => ⟨rfl, rfl⟩)

/-- A schedule that runs a command on one node every minute. -/
def sampleSpec : ScheduleSpec where
  scheduleId := some (.str "sched_0000000000000000")
  name := some (.str "audit")
  scheduleType := some (.str "interval")
  intervalMs := some (.num 60000)
  taskType := some (.str "command")
  targetSpec := some (.obj [("mode", .str "explicit"),
    ("nodeIds", .arr [.str Scheduler.sampleNode])])
  createdBy := "operator"

def sampleScheduleId : String := "sched_0000000000000000"

def firstDraws : Draws :=
  ⟨"00000000000000000000000000000000", "00000000000000000000000000000000"⟩

def secondDraws : Draws :=
  ⟨"11111111111111111111111111111111", "11111111111111111111111111111111"⟩

end Engine

end DshOrbit.Schedules
