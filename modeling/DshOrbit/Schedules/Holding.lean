import DshOrbit.Schedules.Rows

/-!
# Rows that the engine holds

The engine works with rows that it read earlier: the selected ones, and those of dispatches
whose bookkeeping is still to come. As long as no schedule is read again while a row of it is
held, every schedule has one row in the hands of the engine at most, and nothing but a pause or
a resume writes the stored row of a held one.

## Main definitions

- `Engine.heldRows`, `Engine.Holds` — the held rows
- `Engine.Alone` — the condition on a step
- `Engine.Distinct`, `Engine.HeldRel` — invariants of held rows

## Main results

- `step_distinct` — one held row of a schedule at most
- `step_heldRel` — a relation between held rows and stored ones is kept
-/

namespace DshOrbit.Schedules

open DshOrbit.Lib DshOrbit.Fleet

@[simp] theorem scheduleId_hydrate (row : ScheduleRow) :
    (hydrateScheduleRow row).scheduleId = row.scheduleId := rfl

@[simp] theorem status_hydrate (row : ScheduleRow) :
    (hydrateScheduleRow row).status = row.status := rfl

@[simp] theorem totalRuns_hydrate (row : ScheduleRow) :
    (hydrateScheduleRow row).totalRuns = row.totalRuns := rfl

namespace Engine

variable {settings : Settings} {now : ℤ} {s s' : Engine}

/-! ### Held rows -/

/-- The rows that the engine works with, as it read them. -/
def heldRows (s : Engine) : List ScheduleRow := s.selected ++ s.dispatches.map Dispatch.schedule

/-- The engine holds a row of the schedule. -/
def Holds (s : Engine) (scheduleId : String) : Prop :=
  ∃ held ∈ s.heldRows, held.scheduleId = scheduleId

instance (s : Engine) (scheduleId : String) : Decidable (s.Holds scheduleId) :=
  inferInstanceAs (Decidable (∃ held ∈ s.heldRows, held.scheduleId = scheduleId))

/-- No schedule is read for a dispatch while a row of it is held, nor is one created under
such an id. -/
def Alone (s : Engine) : ℤ × Event → Prop
  | (_, .trigger _ scheduleId _) => ¬s.Holds scheduleId
  | (now, .evaluate) => s.due.isSome ∨ s.running = false ∨
      ∀ row ∈ s.dueRows now, ¬s.Holds row.scheduleId
  | (now, .start) => s.running = true ∨ ∀ row ∈ s.dueRows now, ¬s.Holds row.scheduleId
  | (now, .create spec draw) =>
      match spec.toRow now draw with
      | .ok row => (∃ other ∈ s.schedules, other.scheduleId = row.scheduleId) ∨
          ¬s.Holds row.scheduleId
      | .error _ => True
  | _ => True

instance (s : Engine) : (event : ℤ × Event) → Decidable (s.Alone event)
  | (_, .trigger _ scheduleId _) => inferInstanceAs (Decidable (¬s.Holds scheduleId))
  | (now, .evaluate) => inferInstanceAs (Decidable (s.due.isSome ∨ s.running = false ∨
      ∀ row ∈ s.dueRows now, ¬s.Holds row.scheduleId))
  | (now, .start) => inferInstanceAs (Decidable (s.running = true ∨
      ∀ row ∈ s.dueRows now, ¬s.Holds row.scheduleId))
  | (now, .create spec draw) =>
      match h : spec.toRow now draw with
      | .ok row => decidable_of_iff ((∃ other ∈ s.schedules, other.scheduleId = row.scheduleId) ∨
          ¬s.Holds row.scheduleId) (by rw [Alone, h])
      | .error _ => isTrue (by rw [Alone, h]; trivial)
  | (_, .pause _) | (_, .resume _) | (_, .delete _) | (_, .stop) | (_, .reconcileNext ..)
  | (_, .evaluateNext ..) | (_, .record) | (_, .fleet _) | (_, .report _) | (_, .restart) =>
      isTrue trivial

/-- One stored and one held row of a schedule at most. -/
structure Distinct (s : Engine) : Prop where
  stored : (s.schedules.map ScheduleRow.scheduleId).Nodup
  held : (s.heldRows.map ScheduleRow.scheduleId).Nodup

theorem heldRows_sublist (hdue : s'.due = s.due ∨ s'.due = none)
    (hmissed : s'.missed.Sublist s.missed) (hdispatches : s'.dispatches.Sublist s.dispatches) :
    s'.heldRows.Sublist s.heldRows := by
  have hselected : s'.selected.Sublist s.selected := by
    refine List.Sublist.append ?_ hmissed
    rcases hdue with hdue | hdue
    · rw [hdue]
    · rw [hdue]
      exact List.nil_sublist _
  exact hselected.append (hdispatches.map _)

/-- The row that a dispatch starts with, and the held rows without it. -/
theorem starts_held {event : Event} {start : Start} (h : s.starts event = some start) :
    ∃ row, start.schedule = hydrateScheduleRow row ∧
      (((∃ registry, event = .trigger registry row.scheduleId start.draws) ∧ row ∈ s.schedules ∧
          start.rest = s) ∨
        s.heldRows.Perm (row :: start.rest.heldRows)) := by
  obtain ⟨row, hschedule, -, hread | ⟨rest, -, hdue, hrest⟩ | ⟨rest, -, hmissed, hrest⟩⟩ :=
    starts_spec h
  · exact ⟨row, hschedule, .inl hread⟩
  · refine ⟨row, hschedule, .inr ?_⟩
    rw [hrest, heldRows, selected, hdue]
    exact .refl _
  · refine ⟨row, hschedule, .inr ?_⟩
    rw [hrest, heldRows, heldRows, selected, selected, hmissed, List.append_assoc, List.append_assoc]
    exact List.perm_middle

/-- The schedule of a dispatch is not held by what remains. -/
theorem starts_not_holds {event : ℤ × Event} {start : Start} (hdistinct : s.Distinct)
    (halone : s.Alone event) (h : s.starts event.2 = some start) :
    ¬start.rest.Holds start.schedule.scheduleId := by
  obtain ⟨now, event⟩ := event
  obtain ⟨row, hschedule, ⟨⟨registry, rfl⟩, -, hrest⟩ | hperm⟩ := starts_held h
  · rw [hrest, hschedule]
    exact halone
  · have hnodup := (hperm.map ScheduleRow.scheduleId).nodup_iff.mp hdistinct.held
    rw [List.map_cons, List.nodup_cons] at hnodup
    rintro ⟨held, hheld, hid⟩
    rw [hschedule, scheduleId_hydrate] at hid
    exact hnodup.1 (hid ▸ List.mem_map_of_mem hheld)

/-- A dispatch leaves the held rows, or adds its own. -/
theorem begun_held {schedule : ScheduleRow} {triggerType : TriggerType} {runId : String}
    (h : Begun s now schedule triggerType runId s') :
    s'.heldRows.Sublist s.heldRows ∨ s'.heldRows = s.heldRows ++ [schedule] := by
  cases h with
  | orphaned =>
    obtain ⟨due, habandon, hdue⟩ := abandon_spec s triggerType
    rw [habandon]
    exact .inl (heldRows_sublist hdue (.refl _) (.refl _))
  | skipped => exact .inl (.refl _)
  | submitted =>
    rw [heldRows, heldRows, List.map_append, ← List.append_assoc]
    exact .inr rfl
  | refused =>
    rw [heldRows, heldRows, List.map_append, ← List.append_assoc]
    exact .inr rfl

/-! ### Steps -/

/-- The rows that an event reads. -/
def Reads (event : Event) (row : ScheduleRow) : Prop :=
  match event with
  | .evaluate | .start => row.status = .active
  | .trigger _ scheduleId _ => row.scheduleId = scheduleId
  | _ => False

/-- Where the held rows after a step come from. -/
structure HeldStep (s : Engine) (event : Event) (s' : Engine) : Prop where
  distinct : (s'.heldRows.map ScheduleRow.scheduleId).Nodup
  origin : ∀ held ∈ s'.heldRows,
    (∃ old ∈ s.heldRows, held = old ∨ held = hydrateScheduleRow old) ∨
      ∃ row ∈ s.schedules, Reads event row ∧ (held = row ∨ held = hydrateScheduleRow row)

theorem HeldStep.of_sublist {event : Event} (hdistinct : s.Distinct)
    (h : s'.heldRows.Sublist s.heldRows) : HeldStep s event s' :=
  ⟨hdistinct.held.sublist (h.map _), fun held hheld => .inl ⟨held, h.subset hheld, .inl rfl⟩⟩

theorem HeldStep.same {event : Event} (hdistinct : s.Distinct)
    (hdue : s'.due = s.due ∨ s'.due = none) (hmissed : s'.missed = s.missed)
    (hdispatches : s'.dispatches = s.dispatches) : HeldStep s event s' :=
  .of_sublist hdistinct (heldRows_sublist hdue (hmissed ▸ .refl _) (hdispatches ▸ .refl _))

/-- Stored rows of schedules that are not held are read. -/
theorem HeldStep.read {event : Event} (rows : List ScheduleRow) (hdistinct : s.Distinct)
    (hrows : ∀ row ∈ rows, row ∈ s.schedules ∧ Reads event row ∧ ¬s.Holds row.scheduleId)
    (hnodup : (rows.map ScheduleRow.scheduleId).Nodup)
    (hperm : s'.heldRows.Perm (rows ++ s.heldRows)) : HeldStep s event s' := by
  constructor
  · rw [(hperm.map _).nodup_iff, List.map_append, List.nodup_append]
    refine ⟨hnodup, hdistinct.held, ?_⟩
    intro a ha b hb heq
    obtain ⟨row, hrow, rfl⟩ := List.mem_map.mp ha
    obtain ⟨held, hheld, rfl⟩ := List.mem_map.mp hb
    exact (hrows row hrow).2.2 ⟨held, hheld, heq.symm⟩
  · intro held hheld
    rcases List.mem_append.mp (hperm.subset hheld) with hnew | hold
    · obtain ⟨hstored, hreads, -⟩ := hrows held hnew
      exact .inr ⟨held, hstored, hreads, .inl rfl⟩
    · exact .inl ⟨held, hold, .inl rfl⟩

theorem nodup_dueRows (hdistinct : s.Distinct) :
    ((s.dueRows now).map ScheduleRow.scheduleId).Nodup :=
  hdistinct.stored.sublist (List.filter_sublist.map _)

theorem heldStep_begun {event : ℤ × Event} {start : Start} (hdistinct : s.Distinct)
    (halone : s.Alone event) (hstart : s.starts event.2 = some start) {runId : String}
    (hbegun : Begun start.rest now start.schedule start.triggerType runId s') :
    HeldStep s event.2 s' := by
  obtain ⟨row, hschedule, hread⟩ := starts_held hstart
  have hrest : (start.rest.heldRows.map ScheduleRow.scheduleId).Nodup ∧
      start.rest.heldRows ⊆ s.heldRows := by
    rcases hread with ⟨-, -, hsame⟩ | hperm
    · rw [hsame]
      exact ⟨hdistinct.held, fun _ => id⟩
    · have hnodup := (hperm.map ScheduleRow.scheduleId).nodup_iff.mp hdistinct.held
      exact ⟨(List.nodup_cons.mp hnodup).2, fun held hheld =>
        hperm.symm.subset (List.mem_cons_of_mem row hheld)⟩
  have hnot := starts_not_holds hdistinct halone hstart
  rcases begun_held hbegun with hsub | happend
  · exact ⟨hrest.1.sublist (hsub.map _), fun held hheld =>
      .inl ⟨held, hrest.2 (hsub.subset hheld), .inl rfl⟩⟩
  · constructor
    · rw [happend, List.map_append, List.nodup_append]
      refine ⟨hrest.1, List.nodup_singleton _, ?_⟩
      intro a ha b hb heq
      obtain ⟨held, hheld, rfl⟩ := List.mem_map.mp ha
      exact hnot ⟨held, hheld, heq.trans (List.mem_singleton.mp hb)⟩
    · rw [happend]
      intro held hheld
      rcases List.mem_append.mp hheld with hold | hnew
      · exact .inl ⟨held, hrest.2 hold, .inl rfl⟩
      · rw [List.mem_singleton.mp hnew, hschedule]
        rcases hread with ⟨⟨registry, hevent⟩, hrow, -⟩ | hperm
        · refine .inr ⟨row, hrow, ?_, .inr rfl⟩
          rw [hevent]
          exact rfl
        · exact .inl ⟨row, hperm.symm.subset List.mem_cons_self, .inr rfl⟩

theorem heldStep_evaluate (hdistinct : s.Distinct) (halone : s.Alone (now, .evaluate)) :
    HeldStep s .evaluate (s.evaluate now) := by
  rw [evaluate]
  split_ifs with hidle
  · exact .same hdistinct (.inl rfl) rfl rfl
  · rw [not_or, Bool.not_eq_true, Option.isSome_eq_false_iff, Option.isNone_iff_eq_none] at hidle
    have hfree : ∀ row ∈ s.dueRows now, ¬s.Holds row.scheduleId := by
      rcases halone with hdue | hrunning | hfree
      · rw [hidle.1] at hdue
        exact absurd hdue Bool.false_ne_true
      · exact absurd hrunning hidle.2
      · exact hfree
    have hsorted := List.perm_insertionSort (fun a b : ScheduleRow =>
      a.nextRunAt.getD "" ≤ b.nextRunAt.getD "") (s.dueRows now)
    have hheld : s.heldRows = s.missed ++ s.dispatches.map Dispatch.schedule := by
      rw [heldRows, selected, hidle.1]
      rfl
    refine .read (((s.dueRows now).insertionSort fun a b =>
      a.nextRunAt.getD "" ≤ b.nextRunAt.getD "").take 50) hdistinct ?_ ?_ ?_
    · intro row hrow
      have hdue := hsorted.subset (List.mem_of_mem_take hrow)
      exact ⟨mem_dueRows hdue, status_of_mem_dueRows hdue, hfree row hdue⟩
    · refine List.Nodup.sublist ((List.take_sublist _ _).map _) ?_
      exact (hsorted.map _).nodup_iff.mpr (nodup_dueRows hdistinct)
    · rw [hheld, ← List.append_assoc]
      exact .refl _

theorem heldStep_start (hdistinct : s.Distinct) (halone : s.Alone (now, .start))
    (hstopped : s.running = false) :
    HeldStep s .start { s with running := true, missed := s.missed ++ s.dueRows now } := by
  have hfree := halone.resolve_left (by rw [hstopped]; exact Bool.false_ne_true)
  refine .read (s.dueRows now) hdistinct ?_ (nodup_dueRows hdistinct) ?_
  · intro row hrow
    exact ⟨mem_dueRows hrow, status_of_mem_dueRows hrow, hfree row hrow⟩
  · rw [heldRows, heldRows, selected, selected]
    show ((s.due.getD [] ++ (s.missed ++ s.dueRows now)) ++ _).Perm _
    rw [← List.append_assoc (s.due.getD []), List.append_assoc _ (s.dueRows now)]
    exact List.perm_append_comm_assoc _ _ _

theorem missed_sublist {row : ScheduleRow} {rest : List ScheduleRow} (h : s.missed = row :: rest) :
    rest.Sublist s.missed := by
  rw [h]
  exact List.sublist_cons_self row rest

/-- What a step makes of the held rows. -/
theorem step_heldRows (settings : Settings) {event : ℤ × Event} (hdistinct : s.Distinct)
    (halone : s.Alone event) : HeldStep s event.2 (s.step settings event) := by
  have houtcome := step_outcome settings s event
  generalize s.step settings event = s' at houtcome
  obtain ⟨now, event⟩ := event
  cases houtcome with
  | begun hstart hbegun => exact heldStep_begun hdistinct halone hstart hbegun
  | @orphaned dispatch =>
    obtain ⟨due, habandon, hdue⟩ :=
      abandon_spec { s with dispatches := s.dispatches.dropLast } dispatch.triggerType
    rw [habandon]
    exact .of_sublist hdistinct (heldRows_sublist hdue (.refl _) (List.dropLast_sublist _))
  | evaluated => exact heldStep_evaluate hdistinct halone
  | started hstopped => exact heldStep_start hdistinct halone hstopped
  | restarted =>
    refine ⟨List.nodup_nil, fun held hheld => absurd hheld List.not_mem_nil⟩
  | idle hdue => exact .same hdistinct hdue rfl rfl
  | reported jobId =>
    rw [report]
    split
    · exact .same hdistinct (.inl rfl) rfl rfl
    · split_ifs <;> exact .same hdistinct (.inl rfl) rfl rfl
  | recorded =>
    exact .of_sublist hdistinct (heldRows_sublist (.inl rfl) (.refl _) (List.dropLast_sublist _))
  | postponed hmissed =>
    exact .of_sublist hdistinct (heldRows_sublist (.inl rfl) (missed_sublist hmissed) (.refl _))
  | failed hmissed =>
    exact .of_sublist hdistinct (heldRows_sublist (.inl rfl) (missed_sublist hmissed) (.refl _))
  | created => exact .same hdistinct (.inl rfl) rfl rfl
  | paused => exact .same hdistinct (.inl rfl) rfl rfl
  | resumed => exact .same hdistinct (.inl rfl) rfl rfl
  | deleted => exact .same hdistinct (.inl rfl) rfl rfl
  | fleet => exact .same hdistinct (.inl rfl) rfl rfl

/-! ### Stored rows of held schedules -/

/-- How the stored row of a held schedule is written. -/
inductive Writes (now : ℤ) (row : ScheduleRow) : Event → ScheduleRow → Prop
  | left (event : Event) : Writes now row event row
  | paused (hactive : row.status = .active) :
      Writes now row (.pause row.scheduleId) (row.arm now .paused row.nextRunAt)
  | resumed {nextRunAt : Option String} (hpaused : row.status = .paused)
      (hnext : row.next now = .ok nextRunAt) :
      Writes now row (.resume row.scheduleId) (row.arm now .active nextRunAt)

theorem Writes.definition {row row' : ScheduleRow} {event : Event} (h : Writes now row event row') :
    row'.definition = row.definition := by
  cases h <;> rfl

theorem Writes.totalRuns {row row' : ScheduleRow} {event : Event} (h : Writes now row event row') :
    row'.totalRuns = row.totalRuns := by
  cases h <;> rfl

/-- Writing a schedule that is not held leaves the rows of held ones. -/
theorem mem_of_update {scheduleId : String} {f : ScheduleRow → ScheduleRow} {row : ScheduleRow}
    (h : row ∈ (s.updateSchedule scheduleId f).schedules) (hheld : s.Holds row.scheduleId)
    (hnot : ¬s.Holds scheduleId) (hf : ∀ row, (f row).scheduleId = row.scheduleId) :
    row ∈ s.schedules := by
  rcases mem_updateWhere.mp h with ⟨hold, -⟩ | ⟨old, -, hid, rfl⟩
  · exact hold
  · rw [hf, of_decide_eq_true hid] at hheld
    exact absurd hheld hnot

theorem not_holds_missed {row : ScheduleRow} {rest : List ScheduleRow} (hdistinct : s.Distinct)
    (h : s.missed = row :: rest) : ¬({ s with missed := rest } : Engine).Holds row.scheduleId := by
  have hperm : s.heldRows.Perm (row :: ({ s with missed := rest } : Engine).heldRows) := by
    rw [heldRows, heldRows, selected, selected, h, List.append_assoc, List.append_assoc]
    exact List.perm_middle
  have hnodup := (hperm.map ScheduleRow.scheduleId).nodup_iff.mp hdistinct.held
  rintro ⟨held, hheld, hid⟩
  exact (List.nodup_cons.mp hnodup).1 (hid ▸ List.mem_map_of_mem hheld)

theorem not_holds_dropLast {dispatch : Dispatch} (hdistinct : s.Distinct)
    (h : s.dispatches.getLast? = some dispatch) :
    ¬({ s with dispatches := s.dispatches.dropLast } : Engine).Holds
      dispatch.schedule.scheduleId := by
  have hsplit := List.dropLast_append_getLast? dispatch h
  have hheld : s.heldRows =
      ({ s with dispatches := s.dispatches.dropLast } : Engine).heldRows ++ [dispatch.schedule] := by
    rw [heldRows, heldRows, List.append_assoc, ← List.map_singleton, ← List.map_append, hsplit]
    rfl
  have hnodup := hdistinct.held
  rw [hheld, List.map_append, List.nodup_append] at hnodup
  rintro ⟨held, hin, hid⟩
  exact hnodup.2.2 _ (List.mem_map_of_mem hin) _ (List.mem_singleton_self _) hid

/-- What a step makes of the stored row of a held schedule. -/
theorem step_stored (settings : Settings) {event : ℤ × Event} (hdistinct : s.Distinct)
    (halone : s.Alone event) {row' : ScheduleRow}
    (hrow' : row' ∈ (s.step settings event).schedules)
    (hheld : (s.step settings event).Holds row'.scheduleId) :
    ∃ row ∈ s.schedules, Writes event.1 row event.2 row' := by
  have houtcome := step_outcome settings s event
  generalize s.step settings event = s' at houtcome hrow' hheld
  obtain ⟨now, event⟩ := event
  have hleft : ∀ event, row' ∈ s.schedules → ∃ row ∈ s.schedules, Writes now row event row' :=
    fun event h => ⟨row', h, .left event⟩
  cases houtcome with
  | @created spec draw row hrow hnew =>
    rcases List.mem_append.mp hrow' with hold | hlast
    · exact hleft _ hold
    · rw [List.mem_singleton.mp hlast] at hheld
      rw [Alone, hrow] at halone
      rcases halone with ⟨other, hother, hid⟩ | hnot
      · exact absurd hid (hnew other hother)
      · exact absurd hheld hnot
  | @paused row hrow hactive =>
    rcases mem_updateWhere.mp hrow' with ⟨hold, -⟩ | ⟨old, hold, hid, rfl⟩
    · exact hleft _ hold
    · obtain rfl := unique_row hdistinct.stored hold hrow (of_decide_eq_true hid)
      exact ⟨old, hold, .paused hactive⟩
  | @resumed row _ hrow hpaused hnext =>
    rcases mem_updateWhere.mp hrow' with ⟨hold, -⟩ | ⟨old, hold, hid, rfl⟩
    · exact hleft _ hold
    · obtain rfl := unique_row hdistinct.stored hold hrow (of_decide_eq_true hid)
      exact ⟨old, hold, .resumed hpaused hnext⟩
  | deleted => exact hleft _ (mem_deleteWhere.mp hrow').1
  | @begun _ start _ hstart hbegun =>
    have hschedules := (starts_sameTables hstart).schedules
    have hnot := starts_not_holds hdistinct halone hstart
    refine hleft _ ?_
    rw [← hschedules]
    cases hbegun with
    | orphaned =>
      obtain ⟨due, habandon, -⟩ := abandon_spec start.rest start.triggerType
      rw [habandon] at hrow'
      exact hrow'
    | skipped =>
      exact mem_of_update hrow' hheld hnot fun _ => rfl
    | submitted => exact hrow'
    | refused => exact hrow'
  | @postponed _ _ row rest _ hmissed =>
    have hnot := not_holds_missed hdistinct hmissed
    exact hleft _ (mem_of_update (s := { s with missed := rest }) hrow' hheld hnot fun _ => rfl)
  | @failed _ _ row rest hmissed =>
    have hnot := not_holds_missed hdistinct hmissed
    exact hleft _ (mem_of_update (s := { s with missed := rest }) hrow' hheld hnot fun _ => rfl)
  | @recorded dispatch hlast =>
    have hnot := not_holds_dropLast hdistinct hlast
    exact hleft _ (mem_of_update (s := { s with dispatches := s.dispatches.dropLast }) hrow' hheld
      hnot fun _ => rfl)
  | @orphaned dispatch =>
    obtain ⟨due, habandon, -⟩ :=
      abandon_spec { s with dispatches := s.dispatches.dropLast } dispatch.triggerType
    rw [habandon] at hrow'
    exact hleft _ hrow'
  | evaluated =>
    rw [evaluate] at hrow'
    split_ifs at hrow' <;> exact hleft _ hrow'
  | reported jobId =>
    rw [report] at hrow'
    split at hrow'
    · exact hleft _ hrow'
    · split_ifs at hrow' <;> exact hleft _ hrow'
  | started => exact hleft _ hrow'
  | fleet => exact hleft _ hrow'
  | restarted => exact hleft _ hrow'
  | idle => exact hleft _ hrow'

/-- One stored and one held row of a schedule at most, after every step under the condition. -/
theorem step_distinct {event : ℤ × Event} (hdistinct : s.Distinct) (halone : s.Alone event) :
    (s.step settings event).Distinct :=
  ⟨step_ids_nodup settings event hdistinct.stored, (step_heldRows settings hdistinct halone).distinct⟩

/-! ### Relations between held and stored rows -/

/-- The held rows are so related to the stored ones of their schedules. -/
def HeldRel (R : ScheduleRow → ScheduleRow → Prop) (s : Engine) : Prop :=
  ∀ held ∈ s.heldRows, ∀ row ∈ s.schedules, row.scheduleId = held.scheduleId → R held row

/-- A relation that holds of the rows that an event reads, and that no write of a stored row
breaks, is kept. -/
theorem step_heldRel {R : ScheduleRow → ScheduleRow → Prop} {event : ℤ × Event}
    (hdistinct : s.Distinct) (halone : s.Alone event) (h : s.HeldRel R)
    (hread : ∀ row ∈ s.schedules, Reads event.2 row → R row row)
    (hhydrate : ∀ held row, R held row → R (hydrateScheduleRow held) row)
    (hwrite : ∀ held ∈ s.heldRows, ∀ row ∈ s.schedules, row.scheduleId = held.scheduleId →
      ∀ row', Writes event.1 row event.2 row' → R held row → R held row') :
    (s.step settings event).HeldRel R := by
  obtain ⟨now, event⟩ := event
  intro held hheld row' hrow' hid
  obtain ⟨row, hrow, hwrites⟩ := step_stored settings hdistinct halone hrow' ⟨held, hheld, hid.symm⟩
  have hsame := (scheduleId_of_definition hwrites.definition).symm
  rcases (step_heldRows settings hdistinct halone).origin held hheld with
    ⟨old, hold, hheldRow⟩ | ⟨source, hsource, hreads, hheldRow⟩
  · have hsourceId : row.scheduleId = old.scheduleId := by
      rw [hsame, hid]
      rcases hheldRow with rfl | rfl <;> rfl
    have hnew := hwrite old hold row hrow hsourceId row' hwrites (h old hold row hrow hsourceId)
    rcases hheldRow with rfl | rfl
    · exact hnew
    · exact hhydrate old row' hnew
  · have hleft : row' = row := by
      cases hwrites with
      | left => rfl
      | paused => exact absurd hreads id
      | resumed => exact absurd hreads id
    have hsourceId : row.scheduleId = source.scheduleId := by
      rw [hsame, hid]
      rcases hheldRow with rfl | rfl <;> rfl
    obtain rfl := unique_row hdistinct.stored hrow hsource hsourceId
    rw [hleft]
    have hnew := hread row hrow hreads
    rcases hheldRow with rfl | rfl
    · exact hnew
    · exact hhydrate row row hnew

theorem distinct_empty : ({} : Engine).Distinct := ⟨List.nodup_nil, List.nodup_nil⟩

theorem heldRel_empty (R : ScheduleRow → ScheduleRow → Prop) : ({} : Engine).HeldRel R :=
  fun _ hheld => absurd hheld List.not_mem_nil

end Engine

end DshOrbit.Schedules
