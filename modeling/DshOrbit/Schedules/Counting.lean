import DshOrbit.Schedules.Holding

/-!
# Counting runs

The counter of a schedule is written from the row that a dispatch started with. It counts the
recorded runs that were not skipped as long as the engine reads no schedule while it holds a row
of it.

## Main definitions

- `Engine.recordedRuns` — the recorded runs of a schedule that were not skipped
- `Engine.Counts` — the invariant

## Main results

- `run_tallied` — the counter of every schedule is the number of its recorded runs
-/

namespace DshOrbit.Schedules

open DshOrbit.Lib DshOrbit.Fleet

/-- A run that is recorded for the schedule and was not skipped. -/
def RunRow.countsFor (scheduleId : String) (run : RunRow) : Bool :=
  run.scheduleId = scheduleId && run.status ≠ .skipped

namespace Engine

variable {settings : Settings} {now : ℤ} {s s' : Engine}

/-- The recorded runs of a schedule that were not skipped. -/
def recordedRuns (s : Engine) (scheduleId : String) : ℕ :=
  s.runs.countP (RunRow.countsFor scheduleId)

/-- The counters are right, every run has its schedule, and no job reports to a skipped run. -/
structure Counts (s : Engine) : Prop where
  owned : ∀ run ∈ s.runs, ∃ row ∈ s.schedules, row.scheduleId = run.scheduleId
  unlinked : ∀ run ∈ s.runs, run.status = .skipped → ∀ link ∈ s.links, link.2 ≠ run.runId
  counted : ∀ row ∈ s.schedules, row.totalRuns = s.recordedRuns row.scheduleId

def sameTotal (held row : ScheduleRow) : Prop := held.totalRuns = row.totalRuns

/-- The ids of the schedules with their counters. -/
def totals (s : Engine) : List (String × ℤ) :=
  s.schedules.map fun row => (row.scheduleId, row.totalRuns)

theorem totals_updateSchedule {scheduleId : String} {f : ScheduleRow → ScheduleRow}
    (hf : ∀ row, (f row).scheduleId = row.scheduleId ∧ (f row).totalRuns = row.totalRuns) :
    (s.updateSchedule scheduleId f).totals = s.totals :=
  map_updateWhere _ (fun row => Prod.ext (hf row).1 (hf row).2) s.schedules

theorem mem_totals {row : ScheduleRow} (h : row ∈ s'.schedules) (htotals : s'.totals = s.totals) :
    ∃ old ∈ s.schedules, old.scheduleId = row.scheduleId ∧ old.totalRuns = row.totalRuns := by
  have hmem : (row.scheduleId, row.totalRuns) ∈ s'.totals := List.mem_map_of_mem h
  rw [htotals] at hmem
  obtain ⟨old, hold, heq⟩ := List.mem_map.mp hmem
  exact ⟨old, hold, (Prod.mk.inj heq).1, (Prod.mk.inj heq).2⟩

/-- A schedule stays in the table. -/
theorem owner_of_totals {scheduleId : String} (htotals : s'.totals = s.totals)
    (h : ∃ row ∈ s.schedules, row.scheduleId = scheduleId) :
    ∃ row ∈ s'.schedules, row.scheduleId = scheduleId := by
  obtain ⟨row, hrow, hid⟩ := h
  obtain ⟨row', hrow', hsame, -⟩ := mem_totals hrow htotals.symm
  exact ⟨row', hrow', hsame.trans hid⟩

/-! ### What the operations leave -/

theorem Counts.leave (h : s.Counts) (htotals : s'.totals = s.totals) (hruns : s'.runs = s.runs)
    (hlinks : s'.links ⊆ s.links) : s'.Counts := by
  constructor
  · rw [hruns]
    exact fun run hrun => owner_of_totals htotals (h.owned run hrun)
  · rw [hruns]
    exact fun run hrun hskipped link hlink => h.unlinked run hrun hskipped link (hlinks hlink)
  · intro row hrow
    obtain ⟨old, hold, hid, htotal⟩ := mem_totals hrow htotals
    rw [recordedRuns, hruns, ← hid, ← htotal]
    exact h.counted old hold

theorem recordedRuns_append (s : Engine) (run : RunRow) (scheduleId : String) :
    ({ s with runs := s.runs ++ [run] } : Engine).recordedRuns scheduleId =
      s.recordedRuns scheduleId + if run.countsFor scheduleId then 1 else 0 := by
  rw [recordedRuns, List.countP_append, List.countP_singleton, recordedRuns]

/-- A skipped run is recorded. -/
theorem Counts.skip (h : s.Counts) {run : RunRow} (hskipped : run.status = .skipped)
    (howner : ∃ row ∈ s.schedules, row.scheduleId = run.scheduleId)
    (hfresh : ∀ link ∈ s.links, link.2 ≠ run.runId) :
    ({ s with runs := s.runs ++ [run] } : Engine).Counts := by
  constructor
  · intro other hother
    rcases List.mem_append.mp hother with hold | hnew
    · exact h.owned other hold
    · rw [List.mem_singleton.mp hnew]
      exact howner
  · intro other hother hstatus link hlink
    rcases List.mem_append.mp hother with hold | hnew
    · exact h.unlinked other hold hstatus link hlink
    · rw [List.mem_singleton.mp hnew]
      exact hfresh link hlink
  · intro row hrow
    have hnot : run.countsFor row.scheduleId = false := by
      rw [RunRow.countsFor, hskipped]
      simp
    rw [recordedRuns_append, hnot, if_neg Bool.false_ne_true, Nat.add_zero]
    exact h.counted row hrow

/-- A dispatch is recorded, from a row with the stored counter. -/
theorem Counts.account (h : s.Counts) {dispatch : Dispatch}
    (howner : ∃ row ∈ s.schedules, row.scheduleId = dispatch.schedule.scheduleId)
    (htotal : ∀ row ∈ s.schedules, row.scheduleId = dispatch.schedule.scheduleId →
      dispatch.schedule.totalRuns = row.totalRuns) :
    (({ s with runs := s.runs ++ [dispatchedRun now dispatch] } : Engine).updateSchedule
      dispatch.schedule.scheduleId (accountFor now dispatch.schedule)).Counts := by
  have hstatus : (dispatchedRun now dispatch).status ≠ .skipped := by
    rw [dispatchedRun]
    dsimp only
    split_ifs <;> decide
  have hcount : ∀ scheduleId, (dispatchedRun now dispatch).countsFor scheduleId =
      decide (dispatch.schedule.scheduleId = scheduleId) := by
    intro scheduleId
    rw [RunRow.countsFor, decide_eq_true hstatus, Bool.and_true]
    rfl
  have hids : ∀ scheduleId, (∃ row ∈ s.schedules, row.scheduleId = scheduleId) →
      ∃ row ∈ updateWhere (fun row => row.scheduleId = dispatch.schedule.scheduleId)
        (accountFor now dispatch.schedule) s.schedules, row.scheduleId = scheduleId := by
    rintro scheduleId ⟨row, hrow, hid⟩
    refine ⟨_, mem_updateWhere_of_mem hrow, ?_⟩
    rw [← hid]
    split_ifs <;> rfl
  constructor
  · intro run hrun
    rcases List.mem_append.mp hrun with hold | hnew
    · exact hids _ (h.owned run hold)
    · rw [List.mem_singleton.mp hnew]
      exact hids _ howner
  · intro run hrun hskipped link hlink
    rcases List.mem_append.mp hrun with hold | hnew
    · exact h.unlinked run hold hskipped link hlink
    · rw [List.mem_singleton.mp hnew] at hskipped
      exact absurd hskipped hstatus
  · intro row hrow
    show row.totalRuns = (({ s with runs := s.runs ++ [dispatchedRun now dispatch] } :
      Engine).recordedRuns row.scheduleId : ℤ)
    rw [recordedRuns_append, hcount]
    rcases mem_updateWhere.mp hrow with ⟨hold, hother⟩ | ⟨old, hold, hid, rfl⟩
    · rw [decide_eq_false fun heq => of_decide_eq_false hother heq.symm,
        if_neg Bool.false_ne_true, Nat.add_zero]
      exact h.counted row hold
    · have hsame := of_decide_eq_true hid
      rw [scheduleId_accountFor, totalRuns_accountFor, decide_eq_true hsame.symm, if_pos rfl,
        htotal old hold hsame, h.counted old hold, Nat.cast_add, Nat.cast_one]

theorem runStatusOf_ne_skipped {jobStatus : FleetJobStatus} {status : RunStatus}
    (h : runStatusOf jobStatus = some status) : status ≠ .skipped := by
  rintro rfl
  cases jobStatus <;> cases h

/-- An update of runs that were not skipped, and are not skipped after it. -/
theorem Counts.settle (h : s.Counts) {p : RunRow → Bool} {f : RunRow → RunRow}
    {links : List (String × String)} (hlinks : links ⊆ s.links)
    (hp : ∀ run ∈ s.runs, p run = true → run.status ≠ .skipped)
    (hf : ∀ run, (f run).scheduleId = run.scheduleId ∧ (f run).status ≠ .skipped) :
    ({ s with runs := updateWhere p f s.runs, links := links } : Engine).Counts := by
  constructor
  · intro run hrun
    rcases mem_updateWhere.mp hrun with ⟨hold, -⟩ | ⟨old, hold, -, rfl⟩
    · exact h.owned run hold
    · rw [(hf old).1]
      exact h.owned old hold
  · intro run hrun hskipped link hlink
    rcases mem_updateWhere.mp hrun with ⟨hold, -⟩ | ⟨old, -, -, rfl⟩
    · exact h.unlinked run hold hskipped link (hlinks hlink)
    · exact absurd hskipped (hf old).2
  · intro row hrow
    have hsame : (updateWhere p f s.runs).countP (RunRow.countsFor row.scheduleId) =
        s.runs.countP (RunRow.countsFor row.scheduleId) := by
      rw [updateWhere, List.countP_map]
      refine List.countP_congr fun run hrun => ?_
      rw [Function.comp]
      by_cases hpRun : p run = true
      · rw [if_pos hpRun, RunRow.countsFor, RunRow.countsFor, (hf run).1,
          decide_eq_true (hf run).2, decide_eq_true (hp run hrun hpRun)]
      · rw [if_neg hpRun]
    rw [recordedRuns, hsame]
    exact h.counted row hrow

/-- The end of a job is reported to its runs. -/
theorem Counts.report (h : s.Counts) (jobId : String) : (s.report jobId).Counts := by
  rw [Engine.report]
  split
  · exact h
  · split_ifs
    · refine h.settle (fun link hlink => (mem_deleteWhere.mp hlink).1) ?_ ?_
      · intro run hrun hlinked hskipped
        exact h.unlinked run hrun hskipped _ (List.contains_iff_mem.mp hlinked) rfl
      · intro run
        split
        next status hstatus => exact ⟨rfl, runStatusOf_ne_skipped hstatus⟩
        next => exact ⟨rfl, fun hstatus => by cases hstatus⟩
    · exact h

theorem Counts.delete (h : s.Counts) (scheduleId : String) :
    (s.deleteSchedule scheduleId).Counts := by
  constructor
  · intro run hrun
    obtain ⟨hold, hother⟩ := mem_deleteWhere.mp hrun
    obtain ⟨row, hrow, hid⟩ := h.owned run hold
    refine ⟨row, mem_deleteWhere.mpr ⟨hrow, ?_⟩, hid⟩
    rw [hid]
    exact hother
  · intro run hrun hskipped link hlink
    exact h.unlinked run (mem_deleteWhere.mp hrun).1 hskipped link hlink
  · intro row hrow
    obtain ⟨hold, hother⟩ := mem_deleteWhere.mp hrow
    have hsame : (s.deleteSchedule scheduleId).recordedRuns row.scheduleId =
        s.recordedRuns row.scheduleId := by
      show (s.runs.filter fun run => !decide (run.scheduleId = scheduleId)).countP _ = _
      rw [List.countP_filter]
      refine List.countP_congr fun run _ => ?_
      rw [Bool.and_eq_true, and_iff_left_iff_imp, RunRow.countsFor, Bool.and_eq_true,
        decide_eq_true_eq]
      rintro ⟨hid, -⟩
      rw [hid, hother]
      rfl
    rw [hsame]
    exact h.counted row hold

/-- A schedule that is created has no runs. -/
theorem Counts.create (h : s.Counts) {row : ScheduleRow} (hzero : row.totalRuns = 0)
    (hnew : ∀ other ∈ s.schedules, other.scheduleId ≠ row.scheduleId) :
    ({ s with schedules := s.schedules ++ [row] } : Engine).Counts := by
  refine ⟨fun run hrun => ?_, h.unlinked, fun other hother => ?_⟩
  · obtain ⟨owner, howner, hid⟩ := h.owned run hrun
    exact ⟨owner, List.mem_append_left _ howner, hid⟩
  · rcases List.mem_append.mp hother with hold | hlast
    · exact h.counted other hold
    · have hnone : s.recordedRuns row.scheduleId = 0 := by
        refine List.countP_eq_zero.mpr fun run hrun hcounts => ?_
        rw [RunRow.countsFor, Bool.and_eq_true, decide_eq_true_eq] at hcounts
        obtain ⟨owner, howner, hid⟩ := h.owned run hrun
        exact hnew owner howner (hid.trans hcounts.1)
      rw [List.mem_singleton.mp hlast, hzero]
      show (0 : ℤ) = (s.recordedRuns row.scheduleId : ℤ)
      rw [hnone]
      rfl

/-! ### Steps -/

theorem fresh_spec {draws : Draws} (h : s.fresh draws = true) :
    (∀ run ∈ s.runs, run.runId ≠ "srun_" ++ draws.run) ∧
      ∀ link ∈ s.links, link.2 ≠ "srun_" ++ draws.run := by
  rw [fresh, Bool.and_eq_true, Bool.and_eq_true, Bool.and_eq_true, Bool.not_eq_true',
    Bool.not_eq_true', List.any_eq_false, List.any_eq_false] at h
  refine ⟨fun run hrun heq => ?_, fun link hlink heq => ?_⟩
  · exact h.1.1.1 run hrun (decide_eq_true heq)
  · exact h.1.1.2 link hlink (decide_eq_true heq)

theorem Counts.begun (h : s.Counts) {event : Event} {start : Start}
    (hstart : s.starts event = some start)
    (hbegun : Begun start.rest now start.schedule start.triggerType ("srun_" ++ start.draws.run) s') :
    s'.Counts := by
  obtain ⟨-, -, hfresh, -⟩ := starts_spec hstart
  obtain ⟨hruns, hlinks⟩ := fresh_spec hfresh
  have hsame := starts_sameTables hstart
  have hrest : start.rest.Counts := by
    refine h.leave ?_ hsame.runs fun link hlink => hsame.links ▸ hlink
    rw [totals, totals, hsame.schedules]
  rw [← hsame.runs] at hruns
  rw [← hsame.links] at hlinks
  cases hbegun with
  | orphaned =>
    obtain ⟨due, habandon, -⟩ := abandon_spec start.rest start.triggerType
    rw [habandon]
    exact hrest.leave rfl rfl fun _ => id
  | skipped _ _ hrow =>
    refine (hrest.skip rfl hrow hlinks).leave ?_ rfl fun _ => id
    exact totals_updateSchedule fun _ => ⟨rfl, rfl⟩
  | submitted made =>
    refine ⟨hrest.owned, ?_, hrest.counted⟩
    intro run hrun hskipped link hlink
    rcases List.mem_append.mp hlink with hold | hnew
    · exact hrest.unlinked run hrun hskipped link hold
    · rw [List.mem_singleton.mp hnew]
      exact (hruns run hrun).symm
  | refused => exact hrest.leave rfl rfl fun _ => id

/-- The counters stay right where the held rows have the stored ones. -/
theorem step_counts {event : ℤ × Event} (h : s.Counts) (htotals : s.HeldRel sameTotal) :
    (s.step settings event).Counts := by
  have houtcome := step_outcome settings s event
  generalize s.step settings event = s' at houtcome ⊢
  obtain ⟨now, event⟩ := event
  cases houtcome with
  | created hrow hnew => exact h.create (ScheduleSpec.makes_toRow hrow).totalRuns hnew
  | paused => exact h.leave (totals_updateSchedule fun _ => ⟨rfl, rfl⟩) rfl fun _ => id
  | resumed => exact h.leave (totals_updateSchedule fun _ => ⟨rfl, rfl⟩) rfl fun _ => id
  | deleted scheduleId => exact h.delete scheduleId
  | begun hstart hbegun => exact h.begun hstart hbegun
  | postponed => exact h.leave (totals_updateSchedule fun _ => ⟨rfl, rfl⟩) rfl fun _ => id
  | failed => exact h.leave (totals_updateSchedule fun _ => ⟨rfl, rfl⟩) rfl fun _ => id
  | @recorded dispatch hlast hrow =>
    have hpopped : ({ s with dispatches := s.dispatches.dropLast } : Engine).Counts :=
      h.leave rfl rfl fun _ => id
    refine hpopped.account hrow fun row hstored hid => ?_
    refine htotals dispatch.schedule ?_ row hstored hid
    exact List.mem_append_right _ (List.mem_map_of_mem (List.mem_of_getLast? hlast))
  | @orphaned dispatch =>
    obtain ⟨due, habandon, -⟩ :=
      abandon_spec { s with dispatches := s.dispatches.dropLast } dispatch.triggerType
    rw [habandon]
    exact h.leave rfl rfl fun _ => id
  | evaluated =>
    rw [evaluate]
    split_ifs <;> exact h.leave rfl rfl fun _ => id
  | reported jobId => exact h.report jobId
  | started => exact h.leave rfl rfl fun _ => id
  | fleet => exact h.leave rfl rfl fun _ => id
  | restarted => exact h.leave rfl rfl (List.nil_subset _)
  | idle => exact h.leave rfl rfl fun _ => id

/-- Held rows have the stored counters. -/
theorem step_sameTotal {event : ℤ × Event} (hdistinct : s.Distinct) (halone : s.Alone event)
    (h : s.HeldRel sameTotal) : (s.step settings event).HeldRel sameTotal := by
  refine step_heldRel hdistinct halone h (fun _ _ _ => rfl) (fun _ _ => id) ?_
  intro held _ row _ _ row' hwrites hsame
  exact hsame.trans hwrites.totalRuns.symm

/-- The invariant of runs under the condition. -/
structure Tallied (s : Engine) : Prop where
  distinct : s.Distinct
  totals : s.HeldRel sameTotal
  counts : s.Counts

theorem step_tallied {event : ℤ × Event} (h : s.Tallied) (halone : s.Alone event) :
    (s.step settings event).Tallied :=
  ⟨step_distinct h.distinct halone, step_sameTotal h.distinct halone h.totals,
    step_counts h.counts h.totals⟩

theorem tallied_empty : ({} : Engine).Tallied :=
  ⟨distinct_empty, heldRel_empty _, fun _ hrun => absurd hrun List.not_mem_nil,
    fun _ hrun => absurd hrun List.not_mem_nil, fun _ hrow => absurd hrow List.not_mem_nil⟩

/-- After a run that reads no schedule while a row of it is held, the invariant holds. -/
theorem run_tallied {events : List (ℤ × Event)} (h : EachStep (step settings) Alone {} events) :
    (run settings events).Tallied :=
  runFrom_invariant (fun _ _ hs halone => step_tallied hs halone) tallied_empty h

end Engine

end DshOrbit.Schedules
