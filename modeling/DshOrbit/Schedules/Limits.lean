import DshOrbit.Schedules.Counting
import DshOrbit.Schedules.Overlap

/-!
# Limits of schedules

A schedule is completed when its counter reaches its limit. A positive whole limit is never
passed as long as no completed schedule is triggered and every dispatch starts from the stored
counter; any other limit is passed by the run that reaches it.

## Main definitions

- `ScheduleRow.limit` — the number that the counter is compared with
- `Engine.Unfinished` — the condition on a step
- `Engine.LimitKept` — the limits hold in a step

## Main results

- `limits_kept` — the limits hold in a run under the condition
-/

namespace DshOrbit.Schedules

open DshOrbit.Lib DshOrbit.Fleet

/-- The number that the counter of a schedule is compared with. -/
def ScheduleRow.limit (row : ScheduleRow) : Option ℚ :=
  match row.maxRuns with
  | .num number => some number
  | .str text => numberOf text
  | _ => none

/-- A limit that is a positive whole number. -/
def ScheduleRow.HasLimit (row : ScheduleRow) (n : ℕ) : Prop := 0 < n ∧ row.limit = some (n : ℚ)

theorem limitReached_iff {row : ScheduleRow} {n : ℕ} (h : row.HasLimit n) (totalRuns : ℤ) :
    row.limitReached totalRuns = true ↔ (n : ℤ) ≤ totalRuns := by
  obtain ⟨hpos, hlimit⟩ := h
  rw [ScheduleRow.limit] at hlimit
  rw [ScheduleRow.limitReached]
  cases hmax : row.maxRuns with
  | num number =>
    rw [hmax] at hlimit
    obtain rfl := Option.some.inj hlimit
    have hne : (n : ℚ) ≠ 0 := Nat.cast_ne_zero.mpr hpos.ne'
    rw [decide_eq_true_eq, and_iff_right hne]
    exact_mod_cast Iff.rfl
  | str text =>
    rw [hmax] at hlimit
    dsimp only at hlimit ⊢
    have hne : text ≠ "" := by
      rintro rfl
      have hzero : numberOf "" = some 0 := by decide
      rw [hzero] at hlimit
      exact hpos.ne (Nat.cast_injective (R := ℚ) (Nat.cast_zero.trans (Option.some.inj hlimit)))
    rw [hlimit, Option.any_some, decide_eq_true_eq, and_iff_right hne, decide_eq_true_eq]
    exact_mod_cast Iff.rfl
  | _ =>
    rw [hmax] at hlimit
    cases hlimit

theorem hasLimit_congr {row other : ScheduleRow} (h : row.maxRuns = other.maxRuns) (n : ℕ) :
    row.HasLimit n ↔ other.HasLimit n := by
  rw [ScheduleRow.HasLimit, ScheduleRow.HasLimit, ScheduleRow.limit, ScheduleRow.limit, h]

namespace Engine

variable {settings : Settings} {now : ℤ} {s s' : Engine}

/-- No completed schedule is triggered. -/
def TriggersOpen (s : Engine) : Event → Prop
  | .trigger _ scheduleId _ => ∀ row ∈ s.schedules, row.scheduleId = scheduleId →
      row.status ≠ .completed
  | _ => True

instance (s : Engine) : (event : Event) → Decidable (s.TriggersOpen event)
  | .trigger _ scheduleId _ => inferInstanceAs (Decidable (∀ row ∈ s.schedules,
      row.scheduleId = scheduleId → row.status ≠ .completed))
  | .create .. | .pause _ | .resume _ | .delete _ | .start | .stop | .reconcileNext .. | .evaluate
  | .evaluateNext .. | .record | .fleet _ | .report _ | .restart => isTrue trivial

/-- No schedule is read over a held row of it, and no completed one is triggered. -/
def Unfinished (s : Engine) (event : ℤ × Event) : Prop := s.Alone event ∧ s.TriggersOpen event.2

instance (s : Engine) (event : ℤ × Event) : Decidable (s.Unfinished event) :=
  inferInstanceAs (Decidable (s.Alone event ∧ s.TriggersOpen event.2))

/-- The limits hold in a step: no schedule is dispatched whose limit is reached, and after the
step no limit is passed, and one that is reached has completed its schedule. -/
structure LimitKept (settings : Settings) (s : Engine) (event : ℤ × Event) : Prop where
  dispatched : ∀ schedule, (s.starts event.2).map Start.schedule = some schedule →
    ∀ row ∈ s.schedules, row.scheduleId = schedule.scheduleId → ∀ n, row.HasLimit n →
      s.recordedRuns row.scheduleId < n
  bounded : ∀ row ∈ (s.step settings event).schedules, ∀ n, row.HasLimit n →
    (s.step settings event).recordedRuns row.scheduleId ≤ n ∧
      ((s.step settings event).recordedRuns row.scheduleId = n → row.status = .completed)

/-! ### The invariant -/

/-- A held row has the limit of a stored one that is not completed. -/
structure SameLimit (held row : ScheduleRow) : Prop where
  maxRuns : held.maxRuns = row.maxRuns
  unfinished : row.status ≠ .completed

/-- The counters stay within the limits, and below those of schedules that are not completed. -/
structure Limited (s : Engine) : Prop where
  tallied : s.Tallied
  held : s.HeldRel SameLimit
  bounded : ∀ row ∈ s.schedules, ∀ n, row.HasLimit n →
    row.totalRuns ≤ n ∧ (row.status ≠ .completed → row.totalRuns < n)

theorem limited_empty : ({} : Engine).Limited :=
  ⟨tallied_empty, heldRel_empty _, fun _ h => absurd h List.not_mem_nil⟩

theorem step_sameLimit {event : ℤ × Event} (h : s.Limited) (hopen : s.Unfinished event) :
    (s.step settings event).HeldRel SameLimit := by
  obtain ⟨now, event⟩ := event
  refine step_heldRel h.tallied.distinct hopen.1 h.held ?_ (fun _ _ hsame => ⟨hsame.1, hsame.2⟩) ?_
  · intro row hrow hreads
    refine ⟨rfl, fun hcompleted => ?_⟩
    cases event with
    | evaluate => exact absurd (hreads.symm.trans hcompleted) (by decide)
    | start => exact absurd (hreads.symm.trans hcompleted) (by decide)
    | trigger => exact hopen.2 row hrow hreads hcompleted
    | _ => exact hreads
  · intro held _ row _ _ row' hwrites hsame
    refine ⟨?_, ?_⟩
    · rw [hsame.maxRuns]
      exact (congrArg ScheduleDefinition.maxRuns hwrites.definition).symm
    · cases hwrites with
      | left => exact hsame.unfinished
      | paused => exact fun h => by cases h
      | resumed => exact fun h => by cases h

/-- The schedule of a dispatch is not completed. -/
theorem sameLimit_starts {event : ℤ × Event} (h : s.Limited) (hopen : s.Unfinished event)
    {start : Start} (hstart : s.starts event.2 = some start) {row : ScheduleRow}
    (hrow : row ∈ s.schedules) (hid : row.scheduleId = start.schedule.scheduleId) :
    SameLimit start.schedule row := by
  obtain ⟨now, event⟩ := event
  obtain ⟨source, hschedule, ⟨⟨registry, rfl⟩, hstored, -⟩ | hperm⟩ := starts_held hstart
  · rw [hschedule] at hid ⊢
    obtain rfl := unique_row h.tallied.distinct.stored hrow hstored hid
    exact ⟨rfl, hopen.2 row hrow rfl⟩
  · rw [hschedule] at hid ⊢
    have hsame := h.held source (hperm.symm.subset List.mem_cons_self) row hrow hid
    exact ⟨hsame.maxRuns, hsame.unfinished⟩

/-- The bookkeeping of a dispatch keeps within the limit. -/
theorem bounded_accountFor {schedule row : ScheduleRow} {n : ℕ}
    (hlimit : (accountFor now schedule row).HasLimit n) (hmax : schedule.maxRuns = row.maxRuns)
    (hbelow : schedule.totalRuns < n) :
    (accountFor now schedule row).totalRuns ≤ n ∧
      ((accountFor now schedule row).status ≠ .completed →
        (accountFor now schedule row).totalRuns < n) := by
  have hschedule : schedule.HasLimit n := (hasLimit_congr hmax n).mpr hlimit
  rw [totalRuns_accountFor, status_accountFor, afterDispatch]
  refine ⟨by omega, fun hopen => ?_⟩
  by_cases hreached : schedule.limitReached (schedule.totalRuns + 1) = true
  · rw [if_pos hreached] at hopen
    exact absurd rfl hopen
  · rw [limitReached_iff hschedule] at hreached
    omega

theorem step_bounded {event : ℤ × Event} (h : s.Limited) (hopen : s.Unfinished event) :
    ∀ row ∈ (s.step settings event).schedules, ∀ n, row.HasLimit n →
      row.totalRuns ≤ n ∧ (row.status ≠ .completed → row.totalRuns < n) := by
  intro row' hrow' n hlimit
  rcases step_moves h.tallied.distinct.stored hrow' with
    ⟨row, hrow, hmoves⟩ | ⟨spec, draw, -, hmade⟩
  · -- Every move but the bookkeeping leaves the counter, and it leaves or takes the status of a
    -- schedule that is not completed.
    have hkeep : ∀ status nextRunAt, row.status ≠ .completed →
        (row.arm event.1 status nextRunAt).HasLimit n →
          row.totalRuns ≤ n ∧ (status ≠ .completed → row.totalRuns < n) := by
      intro status nextRunAt hunfinished hlimit
      have hbound := h.bounded row hrow n hlimit
      exact ⟨hbound.1, fun _ => hbound.2 hunfinished⟩
    obtain ⟨now, event⟩ := event
    cases hmoves with
    | left => exact h.bounded row' hrow n hlimit
    | paused hactive => exact hkeep _ _ (by rw [hactive]; decide) hlimit
    | resumed hpaused => exact hkeep _ _ (by rw [hpaused]; decide) hlimit
    | skipped hstart hid =>
      exact hkeep _ _ (sameLimit_starts h hopen hstart hrow hid).unfinished hlimit
    | postponed => exact h.bounded row hrow n hlimit
    | failed hread hid =>
      exact hkeep _ _ (h.held _ (List.mem_append_left _ hread) row hrow hid).unfinished hlimit
    | @recorded dispatch _ hdispatch hid =>
      have hheld : dispatch.schedule ∈ s.heldRows :=
        List.mem_append_right _ (List.mem_map_of_mem hdispatch)
      have hsame := h.held _ hheld row hrow hid
      refine bounded_accountFor hlimit hsame.maxRuns ?_
      rw [h.tallied.totals _ hheld row hrow hid]
      exact (h.bounded row hrow n hlimit).2 hsame.unfinished
  · have hmakes := ScheduleSpec.makes_toRow hmade
    have hpos := hlimit.1
    rw [hmakes.totalRuns]
    exact ⟨by omega, fun _ => by omega⟩

theorem step_limited {event : ℤ × Event} (h : s.Limited) (hopen : s.Unfinished event) :
    (s.step settings event).Limited :=
  ⟨step_tallied h.tallied hopen.1, step_sameLimit h hopen, step_bounded h hopen⟩

/-! ### The limits hold -/

theorem step_limitKept {event : ℤ × Event} (h : s.Limited) (hopen : s.Unfinished event) :
    LimitKept settings s event := by
  constructor
  · intro schedule hstart row hrow hid n hlimit
    obtain ⟨start, hstarts, rfl⟩ := Option.map_eq_some_iff.mp hstart
    have hsame := sameLimit_starts h hopen hstarts hrow hid
    have hbelow := (h.bounded row hrow n hlimit).2 hsame.unfinished
    rw [h.tallied.counts.counted row hrow] at hbelow
    exact_mod_cast hbelow
  · intro row hrow n hlimit
    have hlimited : (s.step settings event).Limited := step_limited h hopen
    have hbound := hlimited.bounded row hrow n hlimit
    rw [hlimited.tallied.counts.counted row hrow] at hbound
    refine ⟨by exact_mod_cast hbound.1, fun hreached => ?_⟩
    by_contra hunfinished
    have hbelow := hbound.2 hunfinished
    rw [hreached] at hbelow
    exact lt_irrefl _ hbelow

/-- In a run in which no schedule is read over a held row of it and no completed one is triggered,
no schedule passes a positive whole limit, and one that reaches it is completed and never
dispatched again. -/
theorem limits_kept (settings : Settings) (events : List (ℤ × Event))
    (h : EachStep (step settings) Unfinished {} events) :
    EachStep (step settings) (LimitKept settings) {} events :=
  EachStep.of_invariant (fun _ _ hs hopen => step_limited hs hopen)
    (fun _ _ hs hopen => step_limitKept hs hopen) limited_empty h

/-! ### Samples -/

/-- The schedule of the samples with a limit, dispatched twice by the trigger route. -/
def limitedRun (maxRuns : Json) : List (ℤ × Event) :=
  [(0, .create { sampleSpec with maxRuns := some maxRuns, concurrencyPolicy := some (.str "allow") }
      ""),
    (1, .trigger none sampleScheduleId firstDraws), (1, .record),
    (2, .trigger none sampleScheduleId secondDraws), (2, .record)]

theorem limits_kept_sample :
    EachStep (step {}) (LimitKept {}) {} (limitedRun (.num 2)) :=
  limits_kept {} _ (by decide)

/-- A completed schedule is triggered again, and passes its limit. -/
theorem limit_passed : ∃ row ∈ (run {} (limitedRun (.num 1))).schedules,
    row.limit = some 1 ∧ (run {} (limitedRun (.num 1))).recordedRuns row.scheduleId = 2 := by
  decide

/-- A limit of 0 is none. -/
example : ∃ row ∈ (run {} (limitedRun (.num 0))).schedules,
    row.limit = some 0 ∧ (run {} (limitedRun (.num 0))).recordedRuns row.scheduleId = 2 := by
  decide

end Engine

end DshOrbit.Schedules
