import DshOrbit.Fleet.Lifecycle
import DshOrbit.Schedules.Engine

/-!
# What a step does

Three events dispatch a schedule: the trigger route, a round of the evaluator and a round of
the startup reconciliation. Every other event rewrites the rows of one schedule, adds one or
deletes one, or leaves the tables. What is stored of a schedule besides its bookkeeping never
changes.

## Main definitions

- `ScheduleRow.definition` — the columns that no operation writes
- `Engine.starts` — the dispatch that an event starts
- `Engine.Begun`, `Engine.Outcome` — the outcomes of a dispatch and of a step

## Main results

- `step_outcome` — every step has one of these outcomes
- `run_created` — every row was created in the run, with its definition
-/

namespace DshOrbit.Fleet

open DshOrbit.Lib

theorem validatePayload_eq_ok {payload : Option Json} {value : Json}
    (h : validatePayload payload = .ok value) : value = payload.getD (.obj []) := by
  rw [validatePayload] at h
  split at h
  next fields hfields =>
    split_ifs at h
    rw [hfields, Except.ok.inj h]
  next => cases h

end DshOrbit.Fleet

namespace DshOrbit.Schedules

open DshOrbit.Lib DshOrbit.Fleet

/-! ### Definitions of schedules -/

/-- The columns of a schedule that no operation writes. -/
structure ScheduleDefinition where
  scheduleId : String
  name : String
  description : Option String
  scheduleType : ScheduleType
  cronExpression : Option String
  intervalMs : Json
  taskType : String
  payload : Json
  targetSpec : Json
  requiredCapabilities : Json
  timeoutMs : Json
  concurrencyPolicy : ConcurrencyPolicy
  missedRunPolicy : MissedRunPolicy
  createdAt : String
  createdBy : String
  maxRuns : Json

def ScheduleRow.definition (row : ScheduleRow) : ScheduleDefinition where
  scheduleId := row.scheduleId
  name := row.name
  description := row.description
  scheduleType := row.scheduleType
  cronExpression := row.cronExpression
  intervalMs := row.intervalMs
  taskType := row.taskType
  payload := row.payload
  targetSpec := row.targetSpec
  requiredCapabilities := row.requiredCapabilities
  timeoutMs := row.timeoutMs
  concurrencyPolicy := row.concurrencyPolicy
  missedRunPolicy := row.missedRunPolicy
  createdAt := row.createdAt
  createdBy := row.createdBy
  maxRuns := row.maxRuns

@[simp] theorem definition_arm (now : ℤ) (status : ScheduleStatus) (nextRunAt : Option String)
    (row : ScheduleRow) : (row.arm now status nextRunAt).definition = row.definition := rfl

@[simp] theorem definition_accountFor (now : ℤ) (schedule row : ScheduleRow) :
    (Engine.accountFor now schedule row).definition = row.definition := rfl

@[simp] theorem scheduleId_accountFor (now : ℤ) (schedule row : ScheduleRow) :
    (Engine.accountFor now schedule row).scheduleId = row.scheduleId := rfl

@[simp] theorem totalRuns_accountFor (now : ℤ) (schedule row : ScheduleRow) :
    (Engine.accountFor now schedule row).totalRuns = schedule.totalRuns + 1 := rfl

@[simp] theorem status_accountFor (now : ℤ) (schedule row : ScheduleRow) :
    (Engine.accountFor now schedule row).status = (Engine.afterDispatch now schedule).1 := rfl

/-! ### Created rows -/

/-- The payload that `createSchedule` accepts. -/
def ScheduleSpec.givenPayload (spec : ScheduleSpec) : Json :=
  let payload := spec.payload.getD (.obj [])
  if isTruthy payload then payload else .obj []

/-- A row as `createSchedule` inserts it. -/
structure ScheduleSpec.Makes (spec : ScheduleSpec) (now : ℤ) (row : ScheduleRow) : Prop where
  checked : spec.checkTrigger row.scheduleType = .ok ()
  armed : calculateNextRunAt row.scheduleType (spec.cronExpression.bind Json.str?)
    (spec.intervalMs.getD .null) now = .ok row.nextRunAt
  cronExpression : trimmedText (spec.cronExpression.getD .null) = .ok row.cronExpression
  intervalMs : bindInteger (spec.intervalMs.getD .null) = .ok row.intervalMs
  maxRuns : bindInteger (spec.maxRuns.getD .null) = .ok row.maxRuns
  payload : row.payload = spec.givenPayload
  status : row.status = .active
  totalRuns : row.totalRuns = 0
  updatedAt : row.updatedAt = toIsoString now
  lastRunAt : row.lastRunAt = none

theorem ScheduleSpec.makes_toRow {spec : ScheduleSpec} {now : ℤ} {draw : String}
    {row : ScheduleRow} (h : spec.toRow now draw = .ok row) : spec.Makes now row := by
  rw [ScheduleSpec.toRow] at h
  obtain ⟨givenId, -, h⟩ := bind_eq_ok.mp h
  obtain ⟨name, -, h⟩ := bind_eq_ok.mp h
  obtain ⟨scheduleType, -, h⟩ := bind_eq_ok.mp h
  obtain ⟨concurrencyPolicy, -, h⟩ := bind_eq_ok.mp h
  obtain ⟨missedRunPolicy, -, h⟩ := bind_eq_ok.mp h
  obtain ⟨_, hchecked, h⟩ := bind_eq_ok.mp h
  obtain ⟨targetSpec, -, h⟩ := bind_eq_ok.mp h
  obtain ⟨nextRunAt, harmed, h⟩ := bind_eq_ok.mp h
  obtain ⟨description, -, h⟩ := bind_eq_ok.mp h
  obtain ⟨cronExpression, hcron, h⟩ := bind_eq_ok.mp h
  obtain ⟨intervalMs, hinterval, h⟩ := bind_eq_ok.mp h
  obtain ⟨taskType, -, h⟩ := bind_eq_ok.mp h
  obtain ⟨timeoutMs, -, h⟩ := bind_eq_ok.mp h
  obtain ⟨maxRuns, hlimit, h⟩ := bind_eq_ok.mp h
  obtain rfl := Except.ok.inj h
  exact ⟨hchecked, harmed, hcron, hinterval, hlimit, rfl, rfl, rfl, rfl, rfl⟩

namespace Engine

variable {settings : Settings} {now : ℤ} {s : Engine}

/-! ### Dispatches -/

/-- A dispatch that an event starts: the schedule, and the engine without the selected row. -/
structure Start where
  registry : Option NodeTable
  draws : Draws
  schedule : ScheduleRow
  triggerType : TriggerType
  rest : Engine

/-- The dispatch that an event starts. -/
def starts (s : Engine) : Event → Option Start
  | .trigger registry scheduleId draws =>
    if s.fresh draws then
      (s.getSchedule scheduleId).map fun schedule => ⟨registry, draws, schedule, .manual, s⟩
    else none
  | .evaluateNext registry draws =>
    if s.fresh draws && s.running &&
        !(s.dispatches.any fun dispatch => dispatch.triggerType = .scheduled) then
      match s.due with
      | some (row :: rest) =>
        some ⟨registry, draws, hydrateScheduleRow row, .scheduled, { s with due := some rest }⟩
      | _ => none
    else none
  | .reconcileNext registry draws =>
    if s.fresh draws then
      match s.missed with
      | row :: rest =>
        if row.missedRunPolicy = .runOnce then
          some ⟨registry, draws, hydrateScheduleRow row, .catchUp, { s with missed := rest }⟩
        else none
      | [] => none
    else none
  | _ => none

/-- The outcomes of `dispatchScheduleRun` before its bookkeeping. -/
inductive Begun (s : Engine) (now : ℤ) (schedule : ScheduleRow) (triggerType : TriggerType)
    (runId : String) : Engine → Prop
  | orphaned (hforbid : schedule.concurrencyPolicy = .forbid)
      (hnone : ∀ row ∈ s.schedules, row.scheduleId ≠ schedule.scheduleId) :
      Begun s now schedule triggerType runId (s.abandon triggerType)
  | skipped (hforbid : schedule.concurrencyPolicy = .forbid)
      (hactive : s.fleet.hasActiveJobForSchedule schedule.scheduleId = true)
      (hrow : ∃ row ∈ s.schedules, row.scheduleId = schedule.scheduleId) :
      Begun s now schedule triggerType runId
        (({ s with runs := s.runs ++ [skippedRun now schedule triggerType runId] } :
          Engine).updateSchedule schedule.scheduleId
          (ScheduleRow.arm now (afterSkip now schedule).1 (afterSkip now schedule).2))
  | submitted (job : Job) (hpayload : job.payload = jobPayload schedule runId)
      (hstatus : job.status = .running) (hcalls : job.calls = [])
      (hfree : schedule.concurrencyPolicy = .forbid →
        s.fleet.hasActiveJobForSchedule schedule.scheduleId = false) :
      Begun s now schedule triggerType runId
        { s with
          fleet := { jobs := s.fleet.jobs ++ [job] }
          dispatches := s.dispatches ++ [⟨schedule, triggerType, runId, some job.jobId, none⟩]
          links := s.links ++ [(job.jobId, runId)] }
  | refused (e : SubmitError) :
      Begun s now schedule triggerType runId
        { s with dispatches := s.dispatches ++ [⟨schedule, triggerType, runId, none, some e⟩] }

theorem beginDispatch_begun (settings : Settings) (registry : Option NodeTable) (now : ℤ)
    (s : Engine) (schedule : ScheduleRow) (triggerType : TriggerType) (draws : Draws) :
    Begun s now schedule triggerType ("srun_" ++ draws.run)
      (s.beginDispatch settings registry now schedule triggerType draws) := by
  rw [beginDispatch]
  split
  next hforbid =>
    rw [recordSkip]
    split
    next hinsert =>
      refine .orphaned hforbid.1 fun row hrow hid => ?_
      rw [insertRun, if_pos] at hinsert
      · cases hinsert
      · exact List.any_eq_true.mpr ⟨row, hrow, decide_eq_true hid⟩
    next hinsert =>
      obtain ⟨hrow, rfl⟩ := insertRun_eq_some.mp hinsert
      exact .skipped hforbid.1 hforbid.2 hrow
  next hfree =>
    split
    next fleet jobId hsubmit =>
      obtain ⟨job, rfl, rfl, hpayload, hstatus, hcalls⟩ :=
        (submitJob_cases hsubmit).resolve_left fun hknown => hknown.2 rfl
      refine .submitted job (validatePayload_eq_ok hpayload) hstatus hcalls fun hforbid => ?_
      exact Bool.of_not_eq_true fun hactive => hfree ⟨hforbid, hactive⟩
    next e _ => exact .refused e

/-! ### Outcomes -/

/-- What a step does to the engine. -/
inductive Outcome (s : Engine) (settings : Settings) (now : ℤ) : Event → Engine → Prop
  | created {spec : ScheduleSpec} {draw : String} {row : ScheduleRow}
      (hrow : spec.toRow now draw = .ok row)
      (hnew : ∀ other ∈ s.schedules, other.scheduleId ≠ row.scheduleId) :
      Outcome s settings now (.create spec draw) { s with schedules := s.schedules ++ [row] }
  | paused {row : ScheduleRow} (hrow : row ∈ s.schedules) (hactive : row.status = .active) :
      Outcome s settings now (.pause row.scheduleId) (s.updateSchedule row.scheduleId fun other =>
        other.arm now .paused other.nextRunAt)
  | resumed {row : ScheduleRow} {nextRunAt : Option String} (hrow : row ∈ s.schedules)
      (hpaused : row.status = .paused) (hnext : row.next now = .ok nextRunAt) :
      Outcome s settings now (.resume row.scheduleId)
        (s.updateSchedule row.scheduleId (ScheduleRow.arm now .active nextRunAt))
  | deleted (scheduleId : String) :
      Outcome s settings now (.delete scheduleId) (s.deleteSchedule scheduleId)
  | begun {event : Event} {start : Start} {s' : Engine} (hstart : s.starts event = some start)
      (hbegun : Begun start.rest now start.schedule start.triggerType
        ("srun_" ++ start.draws.run) s') : Outcome s settings now event s'
  | postponed {registry : Option NodeTable} {draws : Draws} {row : ScheduleRow}
      {rest : List ScheduleRow} {nextRunAt : Option String} (hmissed : s.missed = row :: rest)
      (hnext : row.next now = .ok nextRunAt) :
      Outcome s settings now (.reconcileNext registry draws)
        (({ s with missed := rest } : Engine).updateSchedule row.scheduleId fun other =>
          other.arm now other.status nextRunAt)
  | failed {registry : Option NodeTable} {draws : Draws} {row : ScheduleRow}
      {rest : List ScheduleRow} (hmissed : s.missed = row :: rest) :
      Outcome s settings now (.reconcileNext registry draws)
        (({ s with missed := rest } : Engine).updateSchedule row.scheduleId
          (ScheduleRow.arm now .error none))
  | recorded {dispatch : Dispatch} (hlast : s.dispatches.getLast? = some dispatch)
      (hrow : ∃ row ∈ s.schedules, row.scheduleId = dispatch.schedule.scheduleId) :
      Outcome s settings now .record
        (({ s with
          dispatches := s.dispatches.dropLast
          runs := s.runs ++ [dispatchedRun now dispatch] } : Engine).updateSchedule
          dispatch.schedule.scheduleId (accountFor now dispatch.schedule))
  | orphaned {dispatch : Dispatch} (hlast : s.dispatches.getLast? = some dispatch)
      (hnone : ∀ row ∈ s.schedules, row.scheduleId ≠ dispatch.schedule.scheduleId) :
      Outcome s settings now .record
        (({ s with dispatches := s.dispatches.dropLast } : Engine).abandon dispatch.triggerType)
  | evaluated (hdue : s.due = none) : Outcome s settings now .evaluate (s.evaluate now)
  | started (hstopped : s.running = false) : Outcome s settings now .start
      { s with running := true, missed := s.missed ++ s.dueRows now }
  | fleet (event : Scheduler.Event) :
      Outcome s settings now (.fleet event) { s with fleet := s.fleet.step settings (now, event) }
  | reported (jobId : String) : Outcome s settings now (.report jobId) (s.report jobId)
  | restarted (hnone : s.dispatches = []) :
      Outcome s settings now .restart { schedules := s.schedules, runs := s.runs }
  | idle {event : Event} {running : Bool} {due : Option (List ScheduleRow)}
      (hdue : due = s.due ∨ due = none) :
      Outcome s settings now event { s with running := running, due := due }

theorem unique_row (hunique : (s.schedules.map ScheduleRow.scheduleId).Nodup) {row other : ScheduleRow}
    (hrow : row ∈ s.schedules) (hother : other ∈ s.schedules)
    (hid : row.scheduleId = other.scheduleId) : row = other :=
  eq_of_nodup_key hunique hrow hother hid

theorem getSchedule_eq_some {scheduleId : String} {schedule : ScheduleRow}
    (h : s.getSchedule scheduleId = some schedule) :
    ∃ row ∈ s.schedules, row.scheduleId = scheduleId ∧ schedule = hydrateScheduleRow row := by
  obtain ⟨row, hrow, rfl⟩ := Option.map_eq_some_iff.mp h
  rw [getRow] at hrow
  have hid := List.find?_some hrow
  exact ⟨row, List.mem_of_find?_eq_some hrow, of_decide_eq_true hid, rfl⟩

theorem outcome_self (s : Engine) (settings : Settings) (now : ℤ) (event : Event) :
    Outcome s settings now event s :=
  .idle (.inl rfl)

theorem outcome_evaluateNext (s : Engine) (settings : Settings) (now : ℤ)
    (registry : Option NodeTable) (draws : Draws) :
    Outcome s settings now (.evaluateNext registry draws)
      (s.step settings (now, .evaluateNext registry draws)) := by
  rw [step]
  split
  next hfresh =>
    rw [evaluateNext]
    split
    next => exact outcome_self s settings now _
    next hfree =>
      split
      next => exact outcome_self s settings now _
      next => exact .idle (.inr rfl)
      next row rest hdue =>
        split
        next hrunning =>
          have hstart : s.starts (.evaluateNext registry draws) = some ⟨registry, draws,
              hydrateScheduleRow row, .scheduled, { s with due := some rest }⟩ := by
            rw [starts, hfresh, hrunning, Bool.of_not_eq_true hfree, hdue]
            rfl
          exact .begun hstart (beginDispatch_begun settings registry now _ _ _ draws)
        next => exact .idle (.inr rfl)
  next => exact outcome_self s settings now _

theorem outcome_reconcileNext (s : Engine) (settings : Settings) (now : ℤ)
    (registry : Option NodeTable) (draws : Draws) :
    Outcome s settings now (.reconcileNext registry draws)
      (s.step settings (now, .reconcileNext registry draws)) := by
  rw [step]
  split
  next hfresh =>
    rw [reconcileNext]
    split
    next => exact outcome_self s settings now _
    next row rest hmissed =>
      dsimp only
      split
      next hpolicy =>
        have hstart : s.starts (.reconcileNext registry draws) = some ⟨registry, draws,
            hydrateScheduleRow row, .catchUp, { s with missed := rest }⟩ := by
          rw [starts, hfresh, hmissed, if_pos rfl]
          dsimp only
          rw [if_pos hpolicy]
        exact .begun hstart (beginDispatch_begun settings registry now _ _ _ draws)
      next =>
        split
        next hnext => exact .postponed hmissed hnext
        next => exact .failed hmissed
  next => exact outcome_self s settings now _

/-- Every step has one of the outcomes. -/
theorem step_outcome (settings : Settings) (s : Engine) (event : ℤ × Event) :
    Outcome s settings event.1 event.2 (s.step settings event) := by
  obtain ⟨now, event⟩ := event
  cases event with
  | create spec draw =>
    rw [step, createSchedule]
    cases hrow : spec.toRow now draw with
    | error e => exact outcome_self s settings now _
    | ok row =>
      dsimp only
      cases hinsert : insertUnique ScheduleRow.scheduleId row s.schedules with
      | none => exact outcome_self s settings now _
      | some schedules =>
        obtain ⟨hnew, rfl⟩ := insertUnique_eq_some.mp hinsert
        exact .created hrow hnew
  | pause scheduleId =>
    rw [step, pauseSchedule]
    split
    next => exact outcome_self s settings now _
    next hget =>
      split
      next hactive =>
        obtain ⟨row, hrow, rfl, rfl⟩ := getSchedule_eq_some hget
        exact .paused hrow hactive
      next => exact outcome_self s settings now _
  | resume scheduleId =>
    rw [step, resumeSchedule]
    split
    next => exact outcome_self s settings now _
    next hget =>
      split
      next hpaused =>
        obtain ⟨row, hrow, rfl, rfl⟩ := getSchedule_eq_some hget
        split
        next hnext => exact .resumed hrow hpaused hnext
        next => exact outcome_self s settings now _
      next => exact outcome_self s settings now _
  | delete scheduleId => exact .deleted scheduleId
  | trigger registry scheduleId draws =>
    rw [step]
    split
    next hfresh =>
      rw [trigger]
      split
      next => exact outcome_self s settings now _
      next schedule hget =>
        have hstart : s.starts (.trigger registry scheduleId draws) =
            some ⟨registry, draws, schedule, .manual, s⟩ := by
          rw [starts, if_pos hfresh, hget]
          rfl
        exact .begun hstart (beginDispatch_begun settings registry now s _ _ draws)
    next => exact outcome_self s settings now _
  | start =>
    rw [step, start]
    split
    next => exact outcome_self s settings now _
    next hstopped => exact .started (Bool.of_not_eq_true hstopped)
  | stop => exact .idle (.inl rfl)
  | reconcileNext registry draws => exact outcome_reconcileNext s settings now registry draws
  | evaluate =>
    rw [step]
    cases hdue : s.due with
    | none => exact .evaluated hdue
    | some rows =>
      rw [evaluate, if_pos (.inl (by rw [hdue]; rfl))]
      exact outcome_self s settings now _
  | evaluateNext registry draws => exact outcome_evaluateNext s settings now registry draws
  | record =>
    rw [step, record]
    split
    next => exact outcome_self s settings now _
    next dispatch hlast =>
      rw [recordDispatch]
      split
      next hinsert =>
        refine .orphaned hlast fun row hrow hid => ?_
        rw [insertRun, if_pos] at hinsert
        · cases hinsert
        · exact List.any_eq_true.mpr ⟨row, hrow, decide_eq_true hid⟩
      next hinsert =>
        obtain ⟨hrow, rfl⟩ := insertRun_eq_some.mp hinsert
        exact .recorded hlast hrow
  | fleet event => exact .fleet event
  | report jobId => exact .reported jobId
  | restart =>
    rw [step]
    split
    next hempty => exact .restarted (List.isEmpty_iff.mp hempty)
    next => exact outcome_self s settings now _

/-! ### Selected rows -/

/-- The rows that the evaluator and the reconciliation have selected and not yet come to. -/
def selected (s : Engine) : List ScheduleRow := s.due.getD [] ++ s.missed

theorem mem_dueRows {row : ScheduleRow} (h : row ∈ s.dueRows now) : row ∈ s.schedules :=
  (List.mem_filter.mp h).1

theorem status_of_mem_dueRows {row : ScheduleRow} (h : row ∈ s.dueRows now) :
    row.status = .active := by
  have hdue := (List.mem_filter.mp h).2
  rw [Bool.and_eq_true, decide_eq_true_eq] at hdue
  exact hdue.1

theorem selected_of_due {s' : Engine} (hdue : s'.due = s.due ∨ s'.due = none)
    (hmissed : s'.missed = s.missed) {row : ScheduleRow} (h : row ∈ s'.selected) :
    row ∈ s.selected := by
  rw [selected, hmissed] at h
  rw [selected]
  rcases hdue with hdue | hdue
  · rwa [hdue] at h
  · rw [hdue] at h
    exact List.mem_append_right _ h

theorem abandon_spec (s : Engine) (triggerType : TriggerType) :
    ∃ due, s.abandon triggerType = { s with due := due } ∧ (due = s.due ∨ due = none) := by
  rw [abandon]
  split_ifs
  · exact ⟨none, rfl, .inr rfl⟩
  · exact ⟨s.due, rfl, .inl rfl⟩

/-- Where a dispatched schedule comes from. -/
theorem starts_spec {event : Event} {start : Start} (h : s.starts event = some start) :
    ∃ row, start.schedule = hydrateScheduleRow row ∧ s.fresh start.draws = true ∧
      (((∃ registry, event = .trigger registry row.scheduleId start.draws) ∧ row ∈ s.schedules ∧
          start.rest = s) ∨
        (∃ rest, start.triggerType = .scheduled ∧ s.due = some (row :: rest) ∧
          start.rest = { s with due := some rest }) ∨
        ∃ rest, start.triggerType = .catchUp ∧ s.missed = row :: rest ∧
          start.rest = { s with missed := rest }) := by
  cases event with
  | trigger registry scheduleId draws =>
    rw [starts] at h
    split_ifs at h with hfresh
    obtain ⟨schedule, hget, rfl⟩ := Option.map_eq_some_iff.mp h
    obtain ⟨row, hrow, rfl, rfl⟩ := getSchedule_eq_some hget
    exact ⟨row, rfl, hfresh, .inl ⟨⟨registry, rfl⟩, hrow, rfl⟩⟩
  | evaluateNext registry draws =>
    rw [starts] at h
    split at h
    next hready =>
      rw [Bool.and_eq_true, Bool.and_eq_true] at hready
      split at h
      next row rest hdue =>
        obtain rfl := Option.some.inj h
        exact ⟨row, rfl, hready.1.1, .inr (.inl ⟨rest, rfl, hdue, rfl⟩)⟩
      next => cases h
    next => cases h
  | reconcileNext registry draws =>
    rw [starts] at h
    split at h
    next hfresh =>
      split at h
      next row rest hmissed =>
        split at h
        next =>
          obtain rfl := Option.some.inj h
          exact ⟨row, rfl, hfresh, .inr (.inr ⟨rest, rfl, hmissed, rfl⟩)⟩
        next => cases h
      next => cases h
    next => cases h
  | _ => cases h

/-- The engine without the selected row, as its other parts see it. -/
structure SameTables (s s' : Engine) : Prop where
  schedules : s'.schedules = s.schedules
  runs : s'.runs = s.runs
  fleet : s'.fleet = s.fleet
  dispatches : s'.dispatches = s.dispatches
  links : s'.links = s.links

theorem starts_sameTables {event : Event} {start : Start} (h : s.starts event = some start) :
    SameTables s start.rest := by
  obtain ⟨row, -, -, ⟨-, -, hrest⟩ | ⟨rest, -, -, hrest⟩ | ⟨rest, -, -, hrest⟩⟩ := starts_spec h <;>
    rw [hrest] <;> exact ⟨rfl, rfl, rfl, rfl, rfl⟩

theorem starts_selected {event : Event} {start : Start} (h : s.starts event = some start)
    {row : ScheduleRow} (hrow : row ∈ start.rest.selected) : row ∈ s.selected := by
  obtain ⟨first, -, -, ⟨-, -, hrest⟩ | ⟨rest, -, hdue, hrest⟩ | ⟨rest, -, hmissed, hrest⟩⟩ :=
    starts_spec h
  · rwa [hrest] at hrow
  · rw [hrest] at hrow
    rw [selected, hdue]
    rcases List.mem_append.mp hrow with hin | hin
    · exact List.mem_append_left _ (List.mem_cons_of_mem first hin)
    · exact List.mem_append_right _ hin
  · rw [hrest] at hrow
    rw [selected, hmissed]
    rcases List.mem_append.mp hrow with hin | hin
    · exact List.mem_append_left _ hin
    · exact List.mem_append_right _ (List.mem_cons_of_mem first hin)

/-- Stored rows keep their definitions, and the selected rows were selected or are active
ones. -/
structure Keeps (s s' : Engine) : Prop where
  stored : ∀ row ∈ s'.schedules, ∃ old ∈ s.schedules, old.definition = row.definition
  selected : ∀ row ∈ s'.selected, (row ∈ s.schedules ∧ row.status = .active) ∨ row ∈ s.selected

namespace Keeps

variable {s' s'' : Engine}

theorem refl (s : Engine) : Keeps s s :=
  ⟨fun row hrow => ⟨row, hrow, rfl⟩, fun _ => .inr⟩

/-- No row is written, and the evaluation may be given up. -/
theorem leave (h : Keeps s s') (hschedules : s''.schedules = s'.schedules)
    (hmissed : s''.missed = s'.missed) (hdue : s''.due = s'.due ∨ s''.due = none) :
    Keeps s s'' := by
  constructor
  · rw [hschedules]
    exact h.stored
  · intro row hrow
    exact h.selected row (selected_of_due hdue hmissed hrow)

/-- Some stored rows are selected. -/
theorem select (hschedules : s'.schedules = s.schedules)
    (hselected : ∀ row ∈ s'.selected, (row ∈ s.schedules ∧ row.status = .active) ∨
      row ∈ s.selected) : Keeps s s' := by
  refine ⟨fun row hrow => ⟨row, ?_, rfl⟩, hselected⟩
  rwa [← hschedules]

theorem update (h : Keeps s s') {scheduleId : String} {f : ScheduleRow → ScheduleRow}
    (hf : ∀ row, (f row).definition = row.definition) :
    Keeps s (s'.updateSchedule scheduleId f) := by
  refine ⟨fun row hrow => ?_, h.selected⟩
  rcases mem_updateWhere.mp hrow with ⟨hold, -⟩ | ⟨old, hold, -, rfl⟩
  · exact h.stored row hold
  · rw [hf old]
    exact h.stored old hold

theorem begun (h : Keeps s s') {schedule : ScheduleRow} {triggerType : TriggerType}
    {runId : String} (hbegun : Begun s' now schedule triggerType runId s'') : Keeps s s'' := by
  cases hbegun with
  | orphaned =>
    obtain ⟨due, habandon, hdue⟩ := abandon_spec s' triggerType
    rw [habandon]
    exact h.leave rfl rfl hdue
  | skipped =>
    have hrun : Keeps s { s' with runs := s'.runs ++ [skippedRun now schedule triggerType runId] } :=
      h.leave rfl rfl (.inl rfl)
    exact hrun.update (definition_arm now _ _)
  | submitted => exact h.leave rfl rfl (.inl rfl)
  | refused => exact h.leave rfl rfl (.inl rfl)

end Keeps

theorem starts_keeps {event : Event} {start : Start} (h : s.starts event = some start) :
    Keeps s start.rest :=
  .select (starts_sameTables h).schedules fun _ hrow => .inr (starts_selected h hrow)

/-- Leaving a missed row. -/
theorem keeps_missed {row : ScheduleRow} {rest : List ScheduleRow} (h : s.missed = row :: rest) :
    Keeps s { s with missed := rest } := by
  refine .select rfl fun other hother => .inr ?_
  rw [selected, h]
  rcases List.mem_append.mp hother with hdue | hlater
  · exact List.mem_append_left _ hdue
  · exact List.mem_append_right _ (List.mem_cons_of_mem row hlater)

theorem keeps_evaluate (s : Engine) (now : ℤ) : Keeps s (s.evaluate now) := by
  rw [evaluate]
  split_ifs
  · exact .refl s
  · refine .select rfl fun row hrow => ?_
    rcases List.mem_append.mp hrow with htaken | hmissed
    · have hdue := (List.mem_insertionSort _).mp (List.mem_of_mem_take htaken)
      exact .inl ⟨mem_dueRows hdue, status_of_mem_dueRows hdue⟩
    · exact .inr (List.mem_append_right _ hmissed)

theorem keeps_report (s : Engine) (jobId : String) : Keeps s (s.report jobId) := by
  rw [report]
  split
  · exact .refl s
  · split_ifs
    · exact (Keeps.refl s).leave rfl rfl (.inl rfl)
    · exact .refl s

/-- A step keeps the rows or creates one. -/
theorem step_rows (settings : Settings) (s : Engine) (event : ℤ × Event) :
    Keeps s (s.step settings event) ∨ ∃ spec draw row, event.2 = .create spec draw ∧
      spec.toRow event.1 draw = .ok row ∧
        (∀ other ∈ s.schedules, other.scheduleId ≠ row.scheduleId) ∧
          s.step settings event = { s with schedules := s.schedules ++ [row] } := by
  have houtcome := step_outcome settings s event
  generalize s.step settings event = s' at houtcome ⊢
  obtain ⟨now, event⟩ := event
  cases houtcome with
  | created hrow hnew => exact .inr ⟨_, _, _, rfl, hrow, hnew, rfl⟩
  | paused =>
    have hsame : ∀ row : ScheduleRow,
        (row.arm now .paused row.nextRunAt).definition = row.definition := fun _ => rfl
    exact .inl ((Keeps.refl s).update hsame)
  | resumed => exact .inl ((Keeps.refl s).update (definition_arm now _ _))
  | deleted =>
    refine .inl ⟨fun row hrow => ⟨row, (mem_deleteWhere.mp hrow).1, rfl⟩, fun _ => .inr⟩
  | begun hstart hbegun => exact .inl ((starts_keeps hstart).begun hbegun)
  | @postponed _ _ _ _ nextRunAt hmissed =>
    have hsame : ∀ row : ScheduleRow,
        (row.arm now row.status nextRunAt).definition = row.definition := fun _ => rfl
    exact .inl ((keeps_missed hmissed).update hsame)
  | failed hmissed => exact .inl ((keeps_missed hmissed).update (definition_arm now _ _))
  | @recorded dispatch =>
    have hpopped : Keeps s { s with
        dispatches := s.dispatches.dropLast
        runs := s.runs ++ [dispatchedRun now dispatch] } :=
      (Keeps.refl s).leave rfl rfl (.inl rfl)
    exact .inl (hpopped.update (definition_accountFor now _))
  | orphaned =>
    obtain ⟨due, habandon, hdue⟩ := abandon_spec { s with dispatches := s.dispatches.dropLast } _
    rw [habandon]
    exact .inl ((Keeps.refl s).leave rfl rfl hdue)
  | evaluated => exact .inl (keeps_evaluate s now)
  | started =>
    refine .inl (.select rfl fun row hrow => ?_)
    rcases List.mem_append.mp hrow with hdue | hmissed
    · exact .inr (List.mem_append_left _ hdue)
    · rcases List.mem_append.mp hmissed with hold | hnew
      · exact .inr (List.mem_append_right _ hold)
      · exact .inl ⟨mem_dueRows hnew, status_of_mem_dueRows hnew⟩
  | fleet => exact .inl ((Keeps.refl s).leave rfl rfl (.inl rfl))
  | reported jobId => exact .inl (keeps_report s jobId)
  | restarted => exact .inl (.select rfl fun row hrow => absurd hrow List.not_mem_nil)
  | idle hdue => exact .inl ((Keeps.refl s).leave rfl rfl hdue)

/-- What a step does to the table of schedules. -/
inductive Rewrites (s : Engine) (now : ℤ) : Event → List ScheduleRow → Prop
  | same (event : Event) : Rewrites s now event s.schedules
  | updated (event : Event) (scheduleId : String) (f : ScheduleRow → ScheduleRow)
      (hf : ∀ row, (f row).definition = row.definition) :
      Rewrites s now event (updateWhere (fun row => row.scheduleId = scheduleId) f s.schedules)
  | created {spec : ScheduleSpec} {draw : String} {row : ScheduleRow}
      (hrow : spec.toRow now draw = .ok row)
      (hnew : ∀ other ∈ s.schedules, other.scheduleId ≠ row.scheduleId) :
      Rewrites s now (.create spec draw) (s.schedules ++ [row])
  | deleted (scheduleId : String) : Rewrites s now (.delete scheduleId)
      (deleteWhere (fun row => row.scheduleId = scheduleId) s.schedules)

theorem rewrites_begun {event : Event} {start : Start} {s' : Engine}
    (hstart : s.starts event = some start) {runId : String}
    (hbegun : Begun start.rest now start.schedule start.triggerType runId s') :
    Rewrites s now event s'.schedules := by
  have hsame := (starts_sameTables hstart).schedules
  cases hbegun with
  | orphaned =>
    obtain ⟨due, habandon, -⟩ := abandon_spec start.rest start.triggerType
    rw [habandon]
    exact hsame ▸ .same event
  | skipped =>
    have hupdated : Rewrites s now event (updateWhere
        (fun row => row.scheduleId = start.schedule.scheduleId)
        (ScheduleRow.arm now (afterSkip now start.schedule).1 (afterSkip now start.schedule).2)
        s.schedules) := .updated event _ _ (definition_arm now _ _)
    rw [← hsame] at hupdated
    exact hupdated
  | submitted => exact hsame ▸ .same event
  | refused => exact hsame ▸ .same event

theorem step_schedules (settings : Settings) (s : Engine) (event : ℤ × Event) :
    Rewrites s event.1 event.2 (s.step settings event).schedules := by
  have houtcome := step_outcome settings s event
  generalize s.step settings event = s' at houtcome ⊢
  obtain ⟨now, event⟩ := event
  cases houtcome with
  | created hrow hnew => exact .created hrow hnew
  | @paused row =>
    have hsame : ∀ row : ScheduleRow,
        (row.arm now .paused row.nextRunAt).definition = row.definition := fun _ => rfl
    exact .updated _ row.scheduleId _ hsame
  | @resumed row => exact .updated _ row.scheduleId _ (definition_arm now _ _)
  | deleted scheduleId => exact .deleted scheduleId
  | begun hstart hbegun => exact rewrites_begun hstart hbegun
  | @postponed _ _ row _ nextRunAt =>
    have hsame : ∀ row : ScheduleRow,
        (row.arm now row.status nextRunAt).definition = row.definition := fun _ => rfl
    exact .updated _ row.scheduleId _ hsame
  | @failed _ _ row => exact .updated _ row.scheduleId _ (definition_arm now _ _)
  | @recorded dispatch =>
    exact .updated _ dispatch.schedule.scheduleId _ (definition_accountFor now _)
  | @orphaned dispatch =>
    obtain ⟨due, habandon, -⟩ :=
      abandon_spec { s with dispatches := s.dispatches.dropLast } dispatch.triggerType
    rw [habandon]
    exact .same _
  | evaluated =>
    rw [evaluate]
    split_ifs <;> exact .same _
  | reported jobId =>
    rw [report]
    split
    · exact .same _
    · split_ifs <;> exact .same _
  | started => exact .same _
  | fleet => exact .same _
  | restarted => exact .same _
  | idle => exact .same _

theorem scheduleId_of_definition {row other : ScheduleRow} (h : row.definition = other.definition) :
    row.scheduleId = other.scheduleId :=
  congrArg ScheduleDefinition.scheduleId h

/-- Schedules keep their ids unique. -/
theorem step_ids_nodup (settings : Settings) (event : ℤ × Event)
    (h : (s.schedules.map ScheduleRow.scheduleId).Nodup) :
    ((s.step settings event).schedules.map ScheduleRow.scheduleId).Nodup := by
  have hrewrites := step_schedules settings s event
  generalize (s.step settings event).schedules = schedules at hrewrites ⊢
  obtain ⟨now, event⟩ := event
  cases hrewrites with
  | same => exact h
  | updated _ _ f hf =>
    rw [map_updateWhere _ (fun row => scheduleId_of_definition (hf row))]
    exact h
  | created hrow hnew =>
    exact nodup_insertUnique (insertUnique_eq_some.mpr ⟨hnew, rfl⟩) h
  | deleted => exact nodup_deleteWhere _ h

/-! ### What a step makes of a row -/

/-- The ways in which a step writes the row of a schedule. -/
inductive Moves (s : Engine) (now : ℤ) : Event → ScheduleRow → ScheduleRow → Prop
  | left (event : Event) (row : ScheduleRow) : Moves s now event row row
  | paused {row : ScheduleRow} (hactive : row.status = .active) :
      Moves s now (.pause row.scheduleId) row (row.arm now .paused row.nextRunAt)
  | resumed {row : ScheduleRow} {nextRunAt : Option String} (hpaused : row.status = .paused)
      (hnext : row.next now = .ok nextRunAt) :
      Moves s now (.resume row.scheduleId) row (row.arm now .active nextRunAt)
  | skipped {event : Event} {start : Start} {row : ScheduleRow}
      (hstart : s.starts event = some start) (hid : row.scheduleId = start.schedule.scheduleId) :
      Moves s now event row
        (row.arm now (afterSkip now start.schedule).1 (afterSkip now start.schedule).2)
  | postponed {event : Event} {read row : ScheduleRow} {nextRunAt : Option String}
      (hread : read ∈ s.selected) (hid : row.scheduleId = read.scheduleId)
      (hnext : read.next now = .ok nextRunAt) :
      Moves s now event row (row.arm now row.status nextRunAt)
  | failed {event : Event} {read row : ScheduleRow} (hread : read ∈ s.selected)
      (hid : row.scheduleId = read.scheduleId) :
      Moves s now event row (row.arm now .error none)
  | recorded {dispatch : Dispatch} {row : ScheduleRow} (hdispatch : dispatch ∈ s.dispatches)
      (hid : row.scheduleId = dispatch.schedule.scheduleId) :
      Moves s now .record row (accountFor now dispatch.schedule row)

theorem mem_selected_of_missed {row : ScheduleRow} {rest : List ScheduleRow}
    (h : s.missed = row :: rest) : row ∈ s.selected := by
  rw [selected, h]
  exact List.mem_append_right _ List.mem_cons_self

/-- Every row after a step is one from before it, so written, or was created by it. -/
theorem step_moves {event : ℤ × Event} (hunique : (s.schedules.map ScheduleRow.scheduleId).Nodup)
    {row' : ScheduleRow} (h : row' ∈ (s.step settings event).schedules) :
    (∃ row ∈ s.schedules, Moves s event.1 event.2 row row') ∨
      ∃ spec draw, event.2 = .create spec draw ∧ spec.toRow event.1 draw = .ok row' := by
  have houtcome := step_outcome settings s event
  generalize s.step settings event = s' at houtcome h
  obtain ⟨now, event⟩ := event
  have hleft : row' ∈ s.schedules → (∃ row ∈ s.schedules, Moves s now event row row') ∨
      ∃ spec draw, event = .create spec draw ∧ spec.toRow now draw = .ok row' :=
    fun hrow => .inl ⟨row', hrow, .left event row'⟩
  cases houtcome with
  | created hrow =>
    rcases List.mem_append.mp h with hold | hlast
    · exact hleft hold
    · rw [List.mem_singleton.mp hlast]
      exact .inr ⟨_, _, rfl, hrow⟩
  | paused hrow hactive =>
    rcases mem_updateWhere.mp h with ⟨hold, -⟩ | ⟨old, hold, hid, rfl⟩
    · exact hleft hold
    · obtain rfl := unique_row hunique hold hrow (of_decide_eq_true hid)
      exact .inl ⟨old, hold, .paused hactive⟩
  | resumed hrow hpaused hnext =>
    rcases mem_updateWhere.mp h with ⟨hold, -⟩ | ⟨old, hold, hid, rfl⟩
    · exact hleft hold
    · obtain rfl := unique_row hunique hold hrow (of_decide_eq_true hid)
      exact .inl ⟨old, hold, .resumed hpaused hnext⟩
  | deleted => exact hleft (mem_deleteWhere.mp h).1
  | @begun _ start _ hstart hbegun =>
    have hrest : ∀ row ∈ start.rest.schedules, row ∈ s.schedules := by
      intro row hrow
      rwa [(starts_sameTables hstart).schedules] at hrow
    cases hbegun with
    | orphaned =>
      obtain ⟨due, habandon, -⟩ := abandon_spec start.rest start.triggerType
      rw [habandon] at h
      exact hleft (hrest row' h)
    | skipped =>
      rcases mem_updateWhere.mp h with ⟨hold, -⟩ | ⟨old, hold, hid, rfl⟩
      · exact hleft (hrest row' hold)
      · exact .inl ⟨old, hrest old hold, .skipped hstart (of_decide_eq_true hid)⟩
    | submitted => exact hleft (hrest row' h)
    | refused => exact hleft (hrest row' h)
  | postponed hmissed hnext =>
    rcases mem_updateWhere.mp h with ⟨hold, -⟩ | ⟨old, hold, hid, rfl⟩
    · exact hleft hold
    · exact .inl ⟨old, hold,
        .postponed (mem_selected_of_missed hmissed) (of_decide_eq_true hid) hnext⟩
  | failed hmissed =>
    rcases mem_updateWhere.mp h with ⟨hold, -⟩ | ⟨old, hold, hid, rfl⟩
    · exact hleft hold
    · exact .inl ⟨old, hold, .failed (mem_selected_of_missed hmissed) (of_decide_eq_true hid)⟩
  | recorded hlast =>
    rcases mem_updateWhere.mp h with ⟨hold, -⟩ | ⟨old, hold, hid, rfl⟩
    · exact hleft hold
    · exact .inl ⟨old, hold, .recorded (List.mem_of_getLast? hlast) (of_decide_eq_true hid)⟩
  | @orphaned dispatch =>
    obtain ⟨due, habandon, -⟩ :=
      abandon_spec { s with dispatches := s.dispatches.dropLast } dispatch.triggerType
    rw [habandon] at h
    exact hleft h
  | evaluated =>
    rw [evaluate] at h
    split_ifs at h <;> exact hleft h
  | reported jobId =>
    rw [report] at h
    split at h
    · exact hleft h
    · split_ifs at h <;> exact hleft h
  | started => exact hleft h
  | fleet => exact hleft h
  | restarted => exact hleft h
  | idle => exact hleft h

end Engine

end DshOrbit.Schedules
