import DshOrbit.Schedules.Counting
import DshOrbit.Schedules.Overlap

/-!
# Updates of schedules

The evaluator dispatches rows of a snapshot, and every dispatch is recorded from the row it
started with. A pause, a deletion or another dispatch in between is not seen, and a pause is
overwritten. As long as none of them meets a held row of its schedule, no paused or deleted
schedule is dispatched, and nothing that was written is undone.

## Main definitions

- `Engine.Undisturbed` — the condition on a step
- `Engine.Current` — the invariant: what is held of a schedule is what is stored of it
- `Engine.UpdatesKept` — no update is lost in a step

## Main results

- `updates_kept` — no update is lost in a run under the condition
-/

namespace DshOrbit.Schedules

open DshOrbit.Lib DshOrbit.Fleet

namespace Engine

variable {settings : Settings} {now : ℤ} {s s' : Engine}

/-- A schedule is paused or deleted only while no row of it is held that such an update would
outdate, and no paused schedule is triggered. -/
def OutdatesNone (s : Engine) : Event → Prop
  | .pause scheduleId => ¬s.Holds scheduleId
  | .delete scheduleId => ∀ row ∈ s.selected, row.scheduleId ≠ scheduleId
  | .trigger _ scheduleId _ => ∀ row ∈ s.schedules, row.scheduleId = scheduleId →
      row.status ≠ .paused
  | _ => True

instance (s : Engine) : (event : Event) → Decidable (s.OutdatesNone event)
  | .pause scheduleId => inferInstanceAs (Decidable (¬s.Holds scheduleId))
  | .delete scheduleId =>
      inferInstanceAs (Decidable (∀ row ∈ s.selected, row.scheduleId ≠ scheduleId))
  | .trigger _ scheduleId _ => inferInstanceAs (Decidable (∀ row ∈ s.schedules,
      row.scheduleId = scheduleId → row.status ≠ .paused))
  | .create .. | .resume _ | .start | .stop | .reconcileNext .. | .evaluate | .evaluateNext ..
  | .record | .fleet _ | .report _ | .restart => isTrue trivial

/-- No schedule is read, paused or deleted over a held row of it, and no paused one is
triggered. -/
def Undisturbed (s : Engine) (event : ℤ × Event) : Prop := s.Alone event ∧ s.OutdatesNone event.2

instance (s : Engine) (event : ℤ × Event) : Decidable (s.Undisturbed event) :=
  inferInstanceAs (Decidable (s.Alone event ∧ s.OutdatesNone event.2))

/-- The row that a step works with. -/
def worksOn (s : Engine) : Event → Option ScheduleRow
  | .record => s.dispatches.getLast?.map Dispatch.schedule
  | event => (s.starts event).map Start.schedule

/-- No update is lost in a step: no schedule is dispatched that is paused or deleted; a paused or
completed one stays as it is, unless it is resumed or deleted, or the step works with a row that
was read in this status; no schedule appears but by its creation; and the counters are right. -/
structure UpdatesKept (settings : Settings) (s : Engine) (event : ℤ × Event) : Prop where
  dispatched : ∀ schedule, (s.starts event.2).map Start.schedule = some schedule →
    ∃ row ∈ s.schedules, row.scheduleId = schedule.scheduleId ∧ row.status ≠ .paused
  kept : ∀ row ∈ s.schedules, row.status = .paused ∨ row.status = .completed →
    event.2 ≠ .resume row.scheduleId → event.2 ≠ .delete row.scheduleId →
    (∀ read, s.worksOn event.2 = some read → read.scheduleId = row.scheduleId →
      read.status ≠ row.status) → row ∈ (s.step settings event).schedules
  deleted : ∀ row ∈ (s.step settings event).schedules,
    (∃ old ∈ s.schedules, old.scheduleId = row.scheduleId) ∨
      ∃ spec draw, event.2 = .create spec draw
  counted : ∀ row ∈ (s.step settings event).schedules,
    row.totalRuns = (s.step settings event).recordedRuns row.scheduleId

/-! ### The invariant -/

def sameStatus (held row : ScheduleRow) : Prop := held.status = row.status

/-- The held rows have the stored statuses, and the selected ones are active. -/
structure Current (s : Engine) : Prop where
  tallied : s.Tallied
  status : s.HeldRel sameStatus
  notPaused : ∀ held ∈ s.heldRows, held.status ≠ .paused
  active : ∀ row ∈ s.selected, row.status = .active
  stored : ∀ row ∈ s.selected, ∃ other ∈ s.schedules, other.scheduleId = row.scheduleId

theorem current_empty : ({} : Engine).Current :=
  ⟨tallied_empty, heldRel_empty _, fun _ h => absurd h List.not_mem_nil,
    fun _ h => absurd h List.not_mem_nil, fun _ h => absurd h List.not_mem_nil⟩

theorem step_sameStatus {event : ℤ × Event} (h : s.Current) (hcalm : s.Undisturbed event) :
    (s.step settings event).HeldRel sameStatus := by
  obtain ⟨now, event⟩ := event
  refine step_heldRel h.tallied.distinct hcalm.1 h.status (fun _ _ _ => rfl) (fun _ _ => id) ?_
  intro held hheld row _ hid row' hwrites hsame
  cases hwrites with
  | left => exact hsame
  | paused => exact absurd ⟨held, hheld, hid.symm⟩ hcalm.2
  | resumed hpaused => exact absurd (hsame.trans hpaused) (h.notPaused held hheld)

theorem step_notPaused {event : ℤ × Event} (h : s.Current) (hcalm : s.Undisturbed event) :
    ∀ held ∈ (s.step settings event).heldRows, held.status ≠ .paused := by
  have hread : ∀ row ∈ s.schedules, Reads event.2 row → row.status ≠ .paused := by
    obtain ⟨now, event⟩ := event
    intro row hrow hreads hpaused
    cases event with
    | evaluate => exact absurd (hreads.symm.trans hpaused) (by decide)
    | start => exact absurd (hreads.symm.trans hpaused) (by decide)
    | trigger => exact hcalm.2 row hrow hreads hpaused
    | _ => exact hreads
  intro held hheld
  rcases (step_heldRows settings h.tallied.distinct hcalm.1).origin held hheld with
    ⟨old, hold, rfl | rfl⟩ | ⟨row, hrow, hreads, rfl | rfl⟩
  · exact h.notPaused held hold
  · exact h.notPaused old hold
  · exact hread held hrow hreads
  · exact hread row hrow hreads

theorem step_active {event : ℤ × Event} (h : s.Current) :
    ∀ row ∈ (s.step settings event).selected, row.status = .active := by
  intro row hrow
  rcases step_rows settings s event with hkeeps | ⟨spec, draw, made, -, -, -, hstep⟩
  · rcases hkeeps.selected row hrow with ⟨-, hactive⟩ | hold
    · exact hactive
    · exact h.active row hold
  · rw [hstep] at hrow
    exact h.active row hrow

/-- A stored schedule stays in the table until it is deleted. -/
theorem stored_of_ne_delete {event : ℤ × Event} {scheduleId : String}
    (h : ∃ row ∈ s.schedules, row.scheduleId = scheduleId) (hdelete : event.2 ≠ .delete scheduleId) :
    ∃ row ∈ (s.step settings event).schedules, row.scheduleId = scheduleId := by
  have hrewrites := step_schedules settings s event
  generalize (s.step settings event).schedules = schedules at hrewrites ⊢
  obtain ⟨now, event⟩ := event
  obtain ⟨row, hrow, hid⟩ := h
  cases hrewrites with
  | same => exact ⟨row, hrow, hid⟩
  | updated _ _ f hf =>
    refine ⟨_, mem_updateWhere_of_mem hrow, ?_⟩
    rw [← hid]
    split_ifs
    · exact scheduleId_of_definition (hf row)
    · rfl
  | created => exact ⟨row, List.mem_append_left _ hrow, hid⟩
  | deleted other =>
    refine ⟨row, mem_deleteWhere.mpr ⟨hrow, ?_⟩, hid⟩
    rw [decide_eq_false_iff_not, hid]
    rintro rfl
    exact hdelete rfl

theorem step_selected_stored {event : ℤ × Event} (h : s.Current) (hcalm : s.Undisturbed event) :
    ∀ row ∈ (s.step settings event).selected,
      ∃ other ∈ (s.step settings event).schedules, other.scheduleId = row.scheduleId := by
  intro row hrow
  have hdelete : event.2 ≠ .delete row.scheduleId := by
    obtain ⟨now, event⟩ := event
    rintro rfl
    exact hcalm.2 row hrow rfl
  refine stored_of_ne_delete ?_ hdelete
  rcases step_rows settings s event with hkeeps | ⟨spec, draw, made, -, -, -, hstep⟩
  · rcases hkeeps.selected row hrow with ⟨hstored, -⟩ | hold
    · exact ⟨row, hstored, rfl⟩
    · exact h.stored row hold
  · rw [hstep] at hrow
    exact h.stored row hrow

theorem step_current {event : ℤ × Event} (h : s.Current) (hcalm : s.Undisturbed event) :
    (s.step settings event).Current :=
  ⟨step_tallied h.tallied hcalm.1, step_sameStatus h hcalm, step_notPaused h hcalm, step_active h,
    step_selected_stored h hcalm⟩

/-! ### No update is lost -/

/-- The stored row of a selected one. -/
theorem stored_of_selected (h : s.Current) {row : ScheduleRow} (hrow : row ∈ s.selected) :
    ∃ other ∈ s.schedules, other.scheduleId = row.scheduleId ∧ other.status = .active := by
  obtain ⟨other, hother, hid⟩ := h.stored row hrow
  refine ⟨other, hother, hid, ?_⟩
  rw [← h.status row (List.mem_append_left _ hrow) other hother hid]
  exact h.active row hrow

/-- A selected row is not that of a paused or completed schedule. -/
theorem ne_of_selected (h : s.Current) {read row : ScheduleRow} (hread : read ∈ s.selected)
    (hrow : row ∈ s.schedules) (hstatus : row.status = .paused ∨ row.status = .completed) :
    row.scheduleId ≠ read.scheduleId := by
  intro hid
  obtain ⟨other, hother, hsame, hactive⟩ := stored_of_selected h hread
  obtain rfl := unique_row h.tallied.distinct.stored hother hrow (hsame.trans hid.symm)
  rw [hactive] at hstatus
  rcases hstatus with hpaused | hcompleted
  · cases hpaused
  · cases hcompleted

theorem dispatched_stored {event : ℤ × Event} (h : s.Current) (hcalm : s.Undisturbed event)
    {schedule : ScheduleRow} (hstart : (s.starts event.2).map Start.schedule = some schedule) :
    ∃ row ∈ s.schedules, row.scheduleId = schedule.scheduleId ∧ row.status ≠ .paused := by
  obtain ⟨start, hstarts, rfl⟩ := Option.map_eq_some_iff.mp hstart
  obtain ⟨now, event⟩ := event
  obtain ⟨row, hschedule, -, ⟨⟨registry, rfl⟩, hrow, -⟩ | ⟨rest, -, hdue, -⟩ |
    ⟨rest, -, hmissed, -⟩⟩ := starts_spec hstarts
  · rw [hschedule]
    exact ⟨row, hrow, rfl, hcalm.2 row hrow rfl⟩
  · have hselected : row ∈ s.selected := by
      rw [selected, hdue]
      exact List.mem_append_left _ List.mem_cons_self
    obtain ⟨other, hother, hid, hactive⟩ := stored_of_selected h hselected
    rw [hschedule]
    exact ⟨other, hother, hid, by rw [hactive]; decide⟩
  · have hselected : row ∈ s.selected := by
      rw [selected, hmissed]
      exact List.mem_append_right _ List.mem_cons_self
    obtain ⟨other, hother, hid, hactive⟩ := stored_of_selected h hselected
    rw [hschedule]
    exact ⟨other, hother, hid, by rw [hactive]; decide⟩

theorem worksOn_of_starts {event : Event} {start : Start} (h : s.starts event = some start) :
    s.worksOn event = some start.schedule := by
  cases event with
  | record => cases h
  | _ => exact congrArg (Option.map Start.schedule) h

/-- A step works with rows that have the stored status. -/
theorem status_worksOn (h : s.Current) {event : Event} {read row : ScheduleRow}
    (hread : s.worksOn event = some read) (hrow : row ∈ s.schedules)
    (hid : row.scheduleId = read.scheduleId) : read.status = row.status := by
  have hheld : read ∈ s.heldRows → read.status = row.status :=
    fun hheld => h.status read hheld row hrow hid
  have hstarts : (s.starts event).map Start.schedule = some read → read.status = row.status := by
    intro hstarts
    obtain ⟨start, hstart, rfl⟩ := Option.map_eq_some_iff.mp hstarts
    obtain ⟨source, hschedule, ⟨-, hstored, -⟩ | hperm⟩ := starts_held hstart
    · rw [hschedule] at hid ⊢
      rw [unique_row h.tallied.distinct.stored hrow hstored hid]
      rfl
    · rw [hschedule] at hid ⊢
      exact h.status source (hperm.symm.subset List.mem_cons_self) row hrow hid
  cases event with
  | record =>
    obtain ⟨dispatch, hlast, rfl⟩ := Option.map_eq_some_iff.mp hread
    exact hheld (List.mem_append_right _ (List.mem_map_of_mem (List.mem_of_getLast? hlast)))
  | _ => exact hstarts hread

/-- A paused or completed schedule stays as it is. -/
theorem step_kept {event : ℤ × Event} (h : s.Current) {row : ScheduleRow}
    (hrow : row ∈ s.schedules) (hstatus : row.status = .paused ∨ row.status = .completed)
    (hresume : event.2 ≠ .resume row.scheduleId) (hdelete : event.2 ≠ .delete row.scheduleId)
    (hread : ∀ read, s.worksOn event.2 = some read → read.scheduleId = row.scheduleId →
      read.status ≠ row.status) : row ∈ (s.step settings event).schedules := by
  have hother : ∀ read, s.worksOn event.2 = some read → row.scheduleId ≠ read.scheduleId :=
    fun read hworks hid => hread read hworks hid.symm (status_worksOn h hworks hrow hid)
  have houtcome := step_outcome settings s event
  generalize s.step settings event = s' at houtcome ⊢
  obtain ⟨now, event⟩ := event
  cases houtcome with
  | created => exact List.mem_append_left _ hrow
  | @paused other hstored hactive =>
    refine mem_updateWhere.mpr (.inl ⟨hrow, decide_eq_false fun hid => ?_⟩)
    rw [unique_row h.tallied.distinct.stored hrow hstored hid, hactive] at hstatus
    rcases hstatus with hpaused | hcompleted
    · cases hpaused
    · cases hcompleted
  | @resumed other =>
    exact mem_updateWhere.mpr (.inl ⟨hrow, decide_eq_false fun hid => hresume (hid ▸ rfl)⟩)
  | deleted scheduleId =>
    refine mem_deleteWhere.mpr ⟨hrow, decide_eq_false fun hid => hdelete (hid ▸ rfl)⟩
  | @begun _ start _ hstart hbegun =>
    have hne := hother start.schedule (worksOn_of_starts hstart)
    rw [← (starts_sameTables hstart).schedules] at hrow
    cases hbegun with
    | orphaned =>
      obtain ⟨due, habandon, -⟩ := abandon_spec start.rest start.triggerType
      rw [habandon]
      exact hrow
    | skipped => exact mem_updateWhere.mpr (.inl ⟨hrow, decide_eq_false hne⟩)
    | submitted => exact hrow
    | refused => exact hrow
  | @postponed _ _ other rest _ hmissed =>
    have hselected : other ∈ s.selected := by
      rw [selected, hmissed]
      exact List.mem_append_right _ List.mem_cons_self
    have hne := ne_of_selected h hselected hrow hstatus
    exact mem_updateWhere.mpr (.inl ⟨hrow, decide_eq_false hne⟩)
  | @failed _ _ other rest hmissed =>
    have hselected : other ∈ s.selected := by
      rw [selected, hmissed]
      exact List.mem_append_right _ List.mem_cons_self
    have hne := ne_of_selected h hselected hrow hstatus
    exact mem_updateWhere.mpr (.inl ⟨hrow, decide_eq_false hne⟩)
  | @recorded dispatch hlast =>
    have hne := hother dispatch.schedule (congrArg (Option.map Dispatch.schedule) hlast)
    exact mem_updateWhere.mpr (.inl ⟨hrow, decide_eq_false hne⟩)
  | @orphaned dispatch =>
    obtain ⟨due, habandon, -⟩ :=
      abandon_spec { s with dispatches := s.dispatches.dropLast } dispatch.triggerType
    rw [habandon]
    exact hrow
  | evaluated =>
    rw [evaluate]
    split_ifs <;> exact hrow
  | reported jobId =>
    rw [report]
    split
    · exact hrow
    · split_ifs <;> exact hrow
  | started => exact hrow
  | fleet => exact hrow
  | restarted => exact hrow
  | idle => exact hrow

/-- Schedules appear only by their creation. -/
theorem step_appears (settings : Settings) (s : Engine) (event : ℤ × Event) {row : ScheduleRow}
    (hrow : row ∈ (s.step settings event).schedules) :
    (∃ old ∈ s.schedules, old.scheduleId = row.scheduleId) ∨
      ∃ spec draw, event.2 = .create spec draw := by
  rcases step_rows settings s event with hkeeps | ⟨spec, draw, made, hevent, -, -⟩
  · obtain ⟨old, hold, hsame⟩ := hkeeps.stored row hrow
    exact .inl ⟨old, hold, scheduleId_of_definition hsame⟩
  · exact .inr ⟨spec, draw, hevent⟩

theorem step_updatesKept {event : ℤ × Event} (h : s.Current) (hcalm : s.Undisturbed event) :
    UpdatesKept settings s event :=
  ⟨fun _ => dispatched_stored h hcalm, fun _ => step_kept h, fun _ => step_appears settings s event,
    (step_current h hcalm).tallied.counts.counted⟩

/-- No update is lost in a run in which no schedule is read, paused or deleted over a held row of
it, and no paused one is triggered. -/
theorem updates_kept (settings : Settings) (events : List (ℤ × Event))
    (h : EachStep (step settings) Undisturbed {} events) :
    EachStep (step settings) (UpdatesKept settings) {} events :=
  EachStep.of_invariant (fun _ _ hs hcalm => step_current hs hcalm)
    (fun _ _ hs hcalm => step_updatesKept hs hcalm) current_empty h

/-! ### Samples -/

/-- A second schedule like the first. -/
def otherScheduleId : String := "sched_1111111111111111"

/-- Two schedules are due, and the evaluator dispatches the first. -/
def evaluatedRun : List (ℤ × Event) :=
  [(0, .create sampleSpec ""),
    (0, .create { sampleSpec with scheduleId := some (.str otherScheduleId) } ""),
    (1, .start), (60000, .evaluate), (60000, .evaluateNext none firstDraws), (60000, .record)]

theorem updates_kept_sample : EachStep (step {}) (UpdatesKept {}) {}
    (evaluatedRun ++ [(60000, .evaluateNext none secondDraws), (60000, .record)]) :=
  updates_kept {} _ (by decide +kernel)

/-- The second schedule is paused, then dispatched from the snapshot and active again. -/
theorem pause_undone :
    ((run {} (evaluatedRun ++ [(60001, .pause otherScheduleId)])).getRow otherScheduleId).map
        ScheduleRow.status = some .paused ∧
      ((run {} (evaluatedRun ++ [(60001, .pause otherScheduleId)])).starts
        (.evaluateNext none secondDraws)).map (fun start => start.schedule.scheduleId) =
          some otherScheduleId ∧
      ((run {} (evaluatedRun ++ [(60001, .pause otherScheduleId),
        (60002, .evaluateNext none secondDraws), (60002, .record)])).getRow otherScheduleId).map
          ScheduleRow.status = some .active := by
  decide +kernel

end Engine

end DshOrbit.Schedules
