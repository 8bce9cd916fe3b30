import DshOrbit.Registry.Dossiers
import Mathlib.Data.List.Dedup

/-!
# The rollup of events

Maintenance replaces the events of a complete day by one summary for each node and dimension, and
drops the rows of a certain age. What a table accounts for in a group, one for each raw event and
its count for each summary, is kept by the rollup: only the rows that are dropped for their age
take events with them.

## Main definitions

- `tally` — the number of events of a group that a table accounts for
- `freshGroups`, `summaryRows` — the groups that a rollup replaces, and the rows it writes for them
- `Emits` — the records of the phases before and after the rollup
- `KeepsHistory` — what one maintenance does to the table of events

## Main results

- `foldl_rollupEvents`, `retireEvents_eq` — the tables after a rollup
- `rewrites_maintenance` — the table of events after a maintenance
- `rollups_keep_history` — what a sequence of maintenance runs does to the table of events
-/

namespace DshOrbit.Registry

open DshOrbit.Lib DshOrbit.Protocol

/-! ### What a table accounts for -/

def EventRow.isSummary (row : EventRow) : Bool := row.dimension = "rollup"

/-- The group that a row is about: a summary has the dimension of its events in `fromValue`. -/
def EventRow.subject (row : EventRow) : RollupGroup :=
  ⟨row.nodeId, dayOf row.occurredAt, if row.isSummary then row.fromValue else row.dimension⟩

/-- The number at the start of the text of a summary: the digits after the nine characters of
`{"count":`. -/
def summaryCount (text : String) : ℕ :=
  ofDigits (String.ofList ((text.toList.drop 9).takeWhile isDigitChar))

/-- How many events a row stands for. -/
def EventRow.count (row : EventRow) : ℕ := if row.isSummary then summaryCount row.toValue else 1

def tally (group : RollupGroup) (rows : List EventRow) : ℕ :=
  ((rows.filter fun row => row.subject = group).map EventRow.count).sum

@[simp]
theorem tally_nil (group : RollupGroup) : tally group [] = 0 := rfl

@[simp]
theorem tally_append (group : RollupGroup) (rows rows' : List EventRow) :
    tally group (rows ++ rows') = tally group rows + tally group rows' := by
  rw [tally, tally, tally, List.filter_append, List.map_append, List.sum_append]

theorem tally_cons (group : RollupGroup) (row : EventRow) (rows : List EventRow) :
    tally group (row :: rows) =
      (if row.subject = group then row.count else 0) + tally group rows := by
  rw [tally, List.filter_cons]
  by_cases hsubject : row.subject = group
  · rw [if_pos (decide_eq_true hsubject), if_pos hsubject, List.map_cons, List.sum_cons]
    rfl
  · rw [if_neg (by simpa using hsubject), if_neg hsubject, Nat.zero_add]
    rfl

/-- The rows of a kind, and the others. -/
theorem tally_split (group : RollupGroup) (p : EventRow → Bool) (rows : List EventRow) :
    tally group (rows.filter p) + tally group (rows.filter fun row => !p row) =
      tally group rows := by
  induction rows with
  | nil => rfl
  | cons row rest ih =>
    rw [List.filter_cons, List.filter_cons, tally_cons]
    by_cases hp : p row = true
    · rw [if_pos hp, if_neg (by simp [hp]), tally_cons]
      omega
    · rw [if_neg hp, if_pos (by simp [hp]), tally_cons]
      omega

theorem subject_of_raw {row : EventRow} (h : row.isSummary = false) : row.subject = row.group := by
  rw [EventRow.subject, if_neg (by simp [h]), EventRow.group]

theorem count_of_raw {row : EventRow} (h : row.isSummary = false) : row.count = 1 := by
  rw [EventRow.count, if_neg (by simp [h])]

/-- The events of some groups: what they account for in one group is their number. -/
theorem tally_groups {groups : List RollupGroup}
    (hraw : ∀ group ∈ groups, group.dimension ≠ "rollup") (group : RollupGroup) (rows : List EventRow) :
    tally group (rows.filter fun row => row.group ∈ groups) =
      if group ∈ groups then (rows.filter fun row => row.group = group).length else 0 := by
  induction rows with
  | nil => simp
  | cons row rest ih =>
    rw [List.filter_cons, List.filter_cons]
    by_cases hmem : row.group ∈ groups
    · have hrow : row.isSummary = false := decide_eq_false (hraw _ hmem)
      rw [if_pos (decide_eq_true hmem), tally_cons, ih, subject_of_raw hrow, count_of_raw hrow]
      by_cases hgroup : row.group = group
      · subst hgroup
        simp only [hmem, if_true, decide_true, List.length_cons]
        omega
      · simp [hgroup]
    · rw [if_neg (by simpa using hmem), ih]
      by_cases hgroup : row.group = group
      · subst hgroup
        simp [hmem]
      · simp [hgroup]

/-! ### Days -/

theorem dayOf_eq_iff {t day : ℤ} :
    dayOf t = day ↔ day * msPerDay ≤ t ∧ t < day * msPerDay + msPerDay := by
  have hday : msPerDay = 86400000 := rfl
  rw [dayOf, hday]
  omega

theorem dayOf_mono {t t' : ℤ} (h : t ≤ t') : dayOf t ≤ dayOf t' :=
  Int.ediv_le_ediv (by decide) h

/-- When the summary of a group is dated: the last millisecond of its day. -/
def RollupGroup.summaryAt (group : RollupGroup) : ℤ := group.day * msPerDay + msPerDay - 1

theorem dayOf_summaryAt (group : RollupGroup) : dayOf group.summaryAt = group.day := by
  have hday : msPerDay = 86400000 := rfl
  rw [dayOf_eq_iff, RollupGroup.summaryAt, hday]
  omega

theorem occurredAt_le_summaryAt {row : EventRow} {group : RollupGroup} (h : row.group = group) :
    row.occurredAt ≤ group.summaryAt := by
  have hday : dayOf row.occurredAt = group.day := congrArg RollupGroup.day h
  have hbefore := (dayOf_eq_iff.mp hday).2
  rw [RollupGroup.summaryAt]
  omega

theorem summaryAt_inj {group group' : RollupGroup} (hnode : group.nodeId = group'.nodeId)
    (hat : group.summaryAt = group'.summaryAt) (hdimension : group.dimension = group'.dimension) :
    group = group' := by
  have hday := congrArg dayOf hat
  rw [dayOf_summaryAt, dayOf_summaryAt] at hday
  cases group
  cases group'
  simp_all

/-! ### Summaries -/

/-- The row that a rollup writes for a group. -/
def summaryRow (summaries : RollupGroup → Json) (id : ℕ) (group : RollupGroup) : EventRow :=
  ⟨id, group.nodeId, group.summaryAt, "rollup", group.dimension, (summaries group).stringify,
    "retention-rollup"⟩

theorem isSummary_summaryRow (summaries : RollupGroup → Json) (id : ℕ) (group : RollupGroup) :
    (summaryRow summaries id group).isSummary = true := decide_eq_true rfl

theorem subject_summaryRow (summaries : RollupGroup → Json) (id : ℕ) (group : RollupGroup) :
    (summaryRow summaries id group).subject = group := by
  rw [EventRow.subject, if_pos (isSummary_summaryRow ..)]
  show (⟨group.nodeId, dayOf group.summaryAt, group.dimension⟩ : RollupGroup) = group
  rw [dayOf_summaryAt]

/-- The rows that a rollup writes, numbered from an id on. -/
def summaryRows (summaries : RollupGroup → Json) : ℕ → List RollupGroup → List EventRow
  | _, [] => []
  | id, group :: groups => summaryRow summaries id group :: summaryRows summaries (id + 1) groups

theorem ids_summaryRows (summaries : RollupGroup → Json) (id : ℕ) (groups : List RollupGroup) :
    (summaryRows summaries id groups).map EventRow.id = List.range' id groups.length := by
  induction groups generalizing id with
  | nil => rfl
  | cons group groups ih =>
    rw [summaryRows, List.map_cons, ih, List.length_cons, List.range'_succ]
    rfl

theorem subjects_summaryRows (summaries : RollupGroup → Json) (id : ℕ) (groups : List RollupGroup) :
    (summaryRows summaries id groups).map EventRow.subject = groups := by
  induction groups generalizing id with
  | nil => rfl
  | cons group groups ih => rw [summaryRows, List.map_cons, ih, subject_summaryRow]

@[simp]
theorem length_summaryRows (summaries : RollupGroup → Json) (id : ℕ) (groups : List RollupGroup) :
    (summaryRows summaries id groups).length = groups.length := by
  have hlength := congrArg List.length (subjects_summaryRows summaries id groups)
  rwa [List.length_map] at hlength

theorem of_mem_summaryRows {summaries : RollupGroup → Json} {id : ℕ} {groups : List RollupGroup}
    {row : EventRow} (h : row ∈ summaryRows summaries id groups) :
    ∃ group ∈ groups, ∃ n, id ≤ n ∧ row = summaryRow summaries n group := by
  induction groups generalizing id with
  | nil => exact absurd h List.not_mem_nil
  | cons group groups ih =>
    rcases List.mem_cons.mp h with rfl | hrest
    · exact ⟨group, List.mem_cons_self, id, le_rfl, rfl⟩
    · obtain ⟨other, hother, n, hn, hrow⟩ := ih hrest
      exact ⟨other, List.mem_cons_of_mem _ hother, n, (Nat.le_succ id).trans hn, hrow⟩

theorem exists_mem_summaryRows (summaries : RollupGroup → Json) (id : ℕ) {groups : List RollupGroup}
    {group : RollupGroup} (h : group ∈ groups) :
    ∃ n, summaryRow summaries n group ∈ summaryRows summaries id groups := by
  induction groups generalizing id with
  | nil => exact absurd h List.not_mem_nil
  | cons first groups ih =>
    rcases List.mem_cons.mp h with rfl | hrest
    · exact ⟨id, List.mem_cons_self⟩
    · obtain ⟨n, hn⟩ := ih (id + 1) hrest
      exact ⟨n, List.mem_cons_of_mem _ hn⟩

theorem summaryRows_congr {summaries summaries' : RollupGroup → Json} {groups : List RollupGroup}
    (h : ∀ group ∈ groups, summaries group = summaries' group) (id : ℕ) :
    summaryRows summaries id groups = summaryRows summaries' id groups := by
  induction groups generalizing id with
  | nil => rfl
  | cons group groups ih =>
    rw [summaryRows, summaryRows, ih fun other hother => h other (List.mem_cons_of_mem _ hother),
      summaryRow, summaryRow, h group List.mem_cons_self]

/-- Each group is summarized once, so what the rows account for in it is what its summary says. -/
theorem tally_summaryRows (summaries : RollupGroup → Json) (limit : ℤ) (id : ℕ)
    {groups : List RollupGroup} (hnodup : groups.Nodup) (group : RollupGroup) :
    tally group
        (deleteWhere (fun row => row.occurredAt ≤ limit) (summaryRows summaries id groups)) =
      if group ∈ groups ∧ limit < group.summaryAt then summaryCount (summaries group).stringify
      else 0 := by
  induction groups generalizing id with
  | nil => simp [summaryRows, deleteWhere]
  | cons first groups ih =>
    obtain ⟨hfirst, hrest⟩ := List.nodup_cons.mp hnodup
    have htail := ih (id + 1) hrest
    rw [deleteWhere] at htail ⊢
    rw [summaryRows, List.filter_cons]
    have hat : (summaryRow summaries id first).occurredAt = first.summaryAt := rfl
    have hcount : (summaryRow summaries id first).count =
        summaryCount (summaries first).stringify := rfl
    by_cases hgroup : first = group
    · subst hgroup
      rw [if_neg (fun h => hfirst h.1)] at htail
      by_cases hold : first.summaryAt ≤ limit
      · rw [if_neg (by simp [hat, hold]), if_neg (fun h => absurd h.2 (not_lt.mpr hold)), htail]
      · rw [if_pos (by simp [hat, hold]), if_pos ⟨List.mem_cons_self, not_le.mp hold⟩, tally_cons,
          if_pos (subject_summaryRow ..), htail, hcount]
        rfl
    · have hmem : group ∈ first :: groups ↔ group ∈ groups := by
        rw [List.mem_cons]
        exact ⟨fun h => h.resolve_left fun heq => hgroup heq.symm, .inr⟩
      simp only [hmem]
      by_cases hold : first.summaryAt ≤ limit
      · rw [if_neg (by simp [hat, hold]), htail]
      · rw [if_pos (by simp [hat, hold]), tally_cons, htail, subject_summaryRow, if_neg hgroup,
          Nat.zero_add]

/-! ### The text of a summary -/

theorem isDigitChar_of_mem_toDigits {c : Char} {n : ℕ} (h : c ∈ Nat.toDigits 10 n) :
    isDigitChar c = true := by
  have hdigit := Nat.isDigit_of_mem_toDigits (by decide) (by decide) h
  rw [Char.isDigit, Bool.and_eq_true, decide_eq_true_eq, decide_eq_true_eq] at hdigit
  rw [isDigitChar, Bool.and_eq_true, decide_eq_true_eq, decide_eq_true_eq]
  exact hdigit

/-- The text of a natural number begins with its digits. -/
theorem numberText_natCast (n : ℕ) : ∃ rest, (numberText n).toList = Nat.toDigits 10 n ++ rest ∧
    rest.takeWhile isDigitChar = [] := by
  have htext : (toString (n : ℚ).num).toList = Nat.toDigits 10 n := by
    rw [Rat.num_natCast]
    refine Eq.trans (congrArg String.toList ?_) (String.toList_ofList ..)
    exact Nat.toString_eq_repr.trans Nat.repr_eq_ofList_toDigits
  rw [numberText]
  split_ifs with hplain
  · exact ⟨[], by rw [htext, List.append_nil], rfl⟩
  · refine ⟨"/".toList ++ (toString (n : ℚ).den).toList, ?_, ?_⟩
    · rw [String.toList_append, String.toList_append, htext, List.append_assoc]
    · exact List.takeWhile_cons_of_neg (by decide)

theorem takeWhile_digits {digits rest : List Char}
    (hdigits : ∀ c ∈ digits, isDigitChar c = true) (hrest : rest.takeWhile isDigitChar = []) :
    (digits ++ rest).takeWhile isDigitChar = digits := by
  rw [List.takeWhile_append_of_pos hdigits, hrest, List.append_nil]

/-- The count of a summary is read back from its text. -/
theorem summaryCount_stringify (n : ℕ) (final : String) :
    summaryCount (Json.obj [("count", .num n), ("final", .str final)]).stringify = n := by
  obtain ⟨rest, htext, hrest⟩ := numberText_natCast n
  set tail := ("," ++ ((quoteJson "final" ++ (":" ++ quoteJson final)) ++ "\x7d")).toList with htail
  have hstart : (Json.obj [("count", .num n), ("final", .str final)]).stringify.toList.drop 9 =
      Nat.toDigits 10 n ++ (rest ++ tail) := by
    have hfields : (Json.obj [("count", .num n), ("final", .str final)]).stringify =
        ("\x7b" ++ (quoteJson "count" ++ ":")) ++ (numberText n ++
          ("," ++ ((quoteJson "final" ++ (":" ++ quoteJson final)) ++ "\x7d"))) := by
      simp only [Json.stringify, stringifyFields, String.intercalate_cons_cons,
        String.intercalate_singleton, String.append_assoc]
    rw [hfields, String.toList_append, String.toList_append (s := numberText n), htext, ← htail,
      List.append_assoc]
    exact List.drop_left' (by decide)
  have hcomma : (rest ++ tail).takeWhile isDigitChar = [] := by
    cases rest with
    | nil =>
      rw [List.nil_append, htail, String.toList_append]
      exact List.takeWhile_cons_of_neg (by decide)
    | cons c rest =>
      by_cases hc : isDigitChar c = true
      · rw [List.takeWhile_cons_of_pos hc] at hrest
        cases hrest
      · exact List.takeWhile_cons_of_neg hc
  rw [summaryCount, hstart, takeWhile_digits (fun c hc => isDigitChar_of_mem_toDigits hc) hcomma,
    ofDigits_ofList]
  have hdigits : Nat.ofDigitChars 10 (Nat.toDigits 10 n) 0 = n :=
    Nat.ofDigitChars_toDigits (by decide) (by decide)
  rw [Nat.ofDigitChars_eq_foldl] at hdigits
  simpa only [Nat.mul_comm 10] using hdigits

/-! ### Rollups -/

/-- Whether a group has its summary. -/
def Db.summarized (db : Db) (group : RollupGroup) : Bool :=
  db.events.any fun row => row.nodeId = group.nodeId ∧ row.occurredAt = group.summaryAt ∧
    row.dimension = "rollup" ∧ row.fromValue = group.dimension

theorem Db.summarized_iff {db : Db} {group : RollupGroup} :
    db.summarized group = true ↔ ∃ row ∈ db.events, row.isSummary = true ∧
      row.subject = group ∧ row.occurredAt = group.summaryAt := by
  rw [summarized, List.any_eq_true]
  refine exists_congr fun row => and_congr_right fun _ => ?_
  rw [decide_eq_true_eq]
  constructor
  · rintro ⟨hnode, hat, hdimension, hfrom⟩
    have hsummary : row.isSummary = true := decide_eq_true hdimension
    refine ⟨hsummary, ?_, hat⟩
    rw [EventRow.subject, if_pos hsummary, hnode, hat, hfrom, dayOf_summaryAt]
  · rintro ⟨hsummary, rfl, hat⟩
    refine ⟨rfl, hat, of_decide_eq_true hsummary, ?_⟩
    rw [EventRow.subject, if_pos hsummary]

theorem group_eq_iff {row : EventRow} {group : RollupGroup} :
    row.group = group ↔ row.nodeId = group.nodeId ∧ row.dimension = group.dimension ∧
      group.day * msPerDay ≤ row.occurredAt ∧
        row.occurredAt < group.day * msPerDay + msPerDay := by
  rw [← dayOf_eq_iff]
  constructor
  · rintro rfl
    exact ⟨rfl, rfl, rfl⟩
  · rintro ⟨hnode, hdimension, hday⟩
    rw [EventRow.group, hnode, hdimension, hday]

/-- The database in which the events of some groups are replaced by summaries. -/
def rolledUp (summaries : RollupGroup → Json) (groups : List RollupGroup) (db : Db) : Db :=
  { db with
    events := deleteWhere (fun row => row.group ∈ groups) db.events ++
      summaryRows summaries db.nextEventId groups
    nextEventId := db.nextEventId + groups.length }

theorem rolledUp_nil (summaries : RollupGroup → Json) (db : Db) :
    rolledUp summaries [] db = db := by
  have hevents : deleteWhere (fun row : EventRow => row.group ∈ ([] : List RollupGroup)) db.events =
      db.events := List.filter_eq_self.mpr fun row _ => rfl
  rw [rolledUp, hevents, summaryRows, List.append_nil]
  rfl

theorem rollupEvents_eq (summaries : RollupGroup → Json) (db : Db) (group : RollupGroup) :
    rollupEvents summaries db group =
      if db.summarized group then db else rolledUp summaries [group] db := by
  rw [rollupEvents]
  dsimp only
  refine if_congr Iff.rfl rfl ?_
  have hdelete : deleteWhere (fun row : EventRow => row.nodeId = group.nodeId ∧
      row.dimension = group.dimension ∧ group.day * msPerDay ≤ row.occurredAt ∧
      row.occurredAt < group.day * msPerDay + msPerDay) db.events =
      deleteWhere (fun row => row.group ∈ [group]) db.events := by
    refine congrArg (fun p => deleteWhere p db.events) (funext fun row => ?_)
    rw [decide_eq_decide, List.mem_singleton, group_eq_iff]
  rw [hdelete]
  rfl

/-- A group is summarized after a rollup that replaces it, or where it was before. -/
theorem summarized_rolledUp {summaries : RollupGroup → Json} {groups : List RollupGroup}
    (hraw : ∀ group ∈ groups, group.dimension ≠ "rollup") {db : Db} {group : RollupGroup} :
    (rolledUp summaries groups db).summarized group = true ↔
      db.summarized group = true ∨ group ∈ groups := by
  rw [Db.summarized_iff, Db.summarized_iff]
  constructor
  · rintro ⟨row, hrow, hsummary, hsubject, hat⟩
    rcases List.mem_append.mp hrow with hold | hnew
    · exact .inl ⟨row, (mem_deleteWhere.mp hold).1, hsummary, hsubject, hat⟩
    · obtain ⟨other, hother, n, -, rfl⟩ := of_mem_summaryRows hnew
      rw [subject_summaryRow] at hsubject
      exact .inr (hsubject ▸ hother)
  · rintro (⟨row, hrow, hsummary, hsubject, hat⟩ | hmem)
    · have hkept : row.group ∉ groups := fun h => hraw _ h (of_decide_eq_true hsummary)
      exact ⟨row, List.mem_append_left _ (mem_deleteWhere.mpr ⟨hrow, decide_eq_false hkept⟩),
        hsummary, hsubject, hat⟩
    · obtain ⟨n, hn⟩ := exists_mem_summaryRows summaries db.nextEventId hmem
      exact ⟨_, List.mem_append_right _ hn, isSummary_summaryRow .., subject_summaryRow .., rfl⟩

/-- One group after the other. -/
theorem rolledUp_rolledUp (summaries : RollupGroup → Json) {groups : List RollupGroup}
    (hraw : ∀ group ∈ groups, group.dimension ≠ "rollup") (group : RollupGroup) (db : Db) :
    rolledUp summaries groups (rolledUp summaries [group] db) =
      rolledUp summaries (group :: groups) db := by
  have hkept : deleteWhere (fun row : EventRow => row.group ∈ groups)
      (deleteWhere (fun row => row.group ∈ [group]) db.events ++
        summaryRows summaries db.nextEventId [group]) =
      deleteWhere (fun row => row.group ∈ group :: groups) db.events ++
        summaryRows summaries db.nextEventId [group] := by
    rw [deleteWhere, List.filter_append]
    refine congrArg₂ (· ++ ·) ?_ ?_
    · rw [deleteWhere, deleteWhere, List.filter_filter]
      refine List.filter_congr fun row _ => ?_
      rw [Bool.and_comm, ← Bool.not_or, ← Bool.decide_or]
      refine congrArg (!·) (decide_eq_decide.mpr ?_)
      rw [List.mem_singleton, List.mem_cons]
    · refine List.filter_eq_self.mpr fun row hrow => ?_
      obtain ⟨other, -, n, -, rfl⟩ := of_mem_summaryRows hrow
      simp only [Bool.not_eq_true', decide_eq_false_iff_not]
      exact fun h => hraw _ h rfl
  rw [rolledUp, rolledUp, rolledUp]
  dsimp only
  rw [hkept, List.append_assoc, List.length_singleton, List.length_cons, Nat.add_assoc,
    Nat.add_comm 1]
  rfl

/-- The rollup of some groups replaces those that have no summary. -/
theorem foldl_rollupEvents (summaries : RollupGroup → Json) {groups : List RollupGroup}
    (hnodup : groups.Nodup) (hraw : ∀ group ∈ groups, group.dimension ≠ "rollup") (db : Db) :
    groups.foldl (rollupEvents summaries) db =
      rolledUp summaries (groups.filter fun group => !db.summarized group) db := by
  induction groups generalizing db with
  | nil => exact (rolledUp_nil summaries db).symm
  | cons group rest ih =>
    obtain ⟨hgroup, hrest⟩ := List.nodup_cons.mp hnodup
    have hrawRest : ∀ other ∈ rest, other.dimension ≠ "rollup" :=
      fun other hother => hraw other (List.mem_cons_of_mem _ hother)
    rw [List.foldl_cons, rollupEvents_eq, List.filter_cons]
    by_cases hsummarized : db.summarized group = true
    · rw [if_pos hsummarized, if_neg (by simp [hsummarized]), ih hrest hrawRest]
    · have hsame : rest.filter (fun other => !(rolledUp summaries [group] db).summarized other) =
          rest.filter fun other => !db.summarized other := by
        refine List.filter_congr fun other hother => congrArg (!·) (Bool.eq_iff_iff.mpr ?_)
        rw [summarized_rolledUp (by simpa using hraw group List.mem_cons_self), List.mem_singleton]
        exact or_iff_left fun heq => hgroup (heq ▸ hother)
      rw [if_neg hsummarized, if_pos (by simp [hsummarized]), ih hrest hrawRest, hsame]
      exact rolledUp_rolledUp summaries
        (fun other hother => hrawRest other (List.mem_of_mem_filter hother)) group db

/-! ### The retirement of events -/

theorem mem_rollupGroups {db : Db} {cutoff : ℤ} {group : RollupGroup} :
    group ∈ rollupGroups db cutoff ↔ ∃ row ∈ db.events, row.isSummary = false ∧
      dayOf row.occurredAt < dayOf cutoff ∧ row.group = group := by
  rw [rollupGroups, List.mem_dedup, List.mem_map]
  refine exists_congr fun row => ?_
  rw [List.mem_filter, decide_eq_true_eq, and_assoc]
  refine and_congr_right fun _ => ⟨fun h => ?_, fun h => ?_⟩
  · obtain ⟨⟨-, hraw, hday⟩, hgroup⟩ := h
    exact ⟨decide_eq_false hraw, hday, hgroup⟩
  · obtain ⟨hraw, hday, hgroup⟩ := h
    have hbefore : row.occurredAt < cutoff := by
      by_contra hlater
      exact absurd (dayOf_mono (not_lt.mp hlater)) (not_le.mpr hday)
    exact ⟨⟨hbefore, of_decide_eq_false hraw, hday⟩, hgroup⟩

theorem raw_of_mem_rollupGroups {db : Db} {cutoff : ℤ} {group : RollupGroup}
    (h : group ∈ rollupGroups db cutoff) : group.dimension ≠ "rollup" := by
  obtain ⟨row, -, hraw, -, rfl⟩ := mem_rollupGroups.mp h
  exact of_decide_eq_false hraw

/-- The groups that a maintenance summarizes. -/
def freshGroups (now : ℤ) (db : Db) : List RollupGroup :=
  (rollupGroups db (now - eventRollupAfterMs)).filter fun group => !db.summarized group

theorem nodup_freshGroups (now : ℤ) (db : Db) : (freshGroups now db).Nodup :=
  (List.nodup_dedup _).filter _

theorem raw_freshGroups (now : ℤ) (db : Db) :
    ∀ group ∈ freshGroups now db, group.dimension ≠ "rollup" :=
  fun _ hgroup => raw_of_mem_rollupGroups (List.mem_of_mem_filter hgroup)

/-- The rows that the retention of events keeps. -/
def retained (now : ℤ) (rows : List EventRow) : List EventRow :=
  deleteWhere (fun row => row.occurredAt ≤ now - eventRetentionMs) rows

theorem mem_retained {now : ℤ} {rows : List EventRow} {row : EventRow} :
    row ∈ retained now rows ↔ row ∈ rows ∧ now - eventRetentionMs < row.occurredAt := by
  rw [retained, mem_deleteWhere, decide_eq_false_iff_not, not_le]

theorem retireEvents_eq (now : ℤ) (db : Db) :
    retireEvents now db =
      { rolledUp (rollupSummary db) (freshGroups now db) db with
        events := retained now (rolledUp (rollupSummary db) (freshGroups now db) db).events
        audit := deleteWhere (fun row => row.recordedAt ≤ now - auditRetentionMs) db.audit } := by
  have hnodup : (rollupGroups db (now - eventRollupAfterMs)).Nodup := List.nodup_dedup _
  rw [retireEvents, foldl_rollupEvents (rollupSummary db) hnodup
    fun group hgroup => raw_of_mem_rollupGroups hgroup]
  rfl

theorem events_retireEvents (now : ℤ) (db : Db) :
    (retireEvents now db).events =
      retained now (deleteWhere (fun row => row.group ∈ freshGroups now db) db.events ++
        summaryRows (rollupSummary db) db.nextEventId (freshGroups now db)) := by
  rw [retireEvents_eq]
  rfl

theorem nextEventId_retireEvents (now : ℤ) (db : Db) :
    (retireEvents now db).nextEventId = db.nextEventId + (freshGroups now db).length := by
  rw [retireEvents_eq]
  rfl

theorem retained_append (now : ℤ) (rows rows' : List EventRow) :
    retained now (rows ++ rows') = retained now rows ++ retained now rows' :=
  List.filter_append ..

/-! ### Records -/

namespace Db

/-- The events are listed by their ids, all of which are below the next one. -/
structure EventsOrdered (db : Db) : Prop where
  ascending : db.events.Pairwise fun row other => row.id < other.id
  below : ∀ row ∈ db.events, row.id < db.nextEventId

/-- The second database has some more events, numbered from the next id on. -/
structure AddsEvents (db db' : Db) (added : List EventRow) : Prop where
  events : db'.events = db.events ++ added
  ids : added.map EventRow.id = List.range' db.nextEventId added.length
  next : db'.nextEventId = db.nextEventId + added.length

variable {db db' db'' : Db} {added added' : List EventRow}

theorem AddsEvents.id_range (h : db.AddsEvents db' added) {row : EventRow} (hrow : row ∈ added) :
    db.nextEventId ≤ row.id ∧ row.id < db'.nextEventId := by
  have hid := List.mem_map_of_mem (f := EventRow.id) hrow
  rw [h.ids, List.mem_range'_1] at hid
  rw [h.next]
  exact hid

theorem AddsEvents.trans (h : db.AddsEvents db' added) (h' : db'.AddsEvents db'' added') :
    db.AddsEvents db'' (added ++ added') where
  events := by rw [h'.events, h.events, List.append_assoc]
  ids := by
    rw [List.map_append, h.ids, h'.ids, h.next, List.length_append, List.range'_append_1]
  next := by rw [h'.next, h.next, List.length_append, Nat.add_assoc]

theorem EventsOrdered.adds (h : db.EventsOrdered) (hadds : db.AddsEvents db' added) :
    db'.EventsOrdered := by
  have hids : added.Pairwise fun row other => row.id < other.id := by
    rw [← List.pairwise_map, hadds.ids]
    exact List.pairwise_lt_range'
  constructor
  · rw [hadds.events]
    refine List.pairwise_append.mpr ⟨h.ascending, hids, fun row hrow other hother => ?_⟩
    exact (h.below row hrow).trans_le (hadds.id_range hother).1
  · intro row hrow
    rw [hadds.events] at hrow
    rcases List.mem_append.mp hrow with hold | hnew
    · rw [hadds.next]
      exact (h.below row hold).trans_le (Nat.le_add_right ..)
    · exact (hadds.id_range hnew).2

/-- Rows may be deleted. -/
theorem EventsOrdered.sublist (h : db.EventsOrdered) (hevents : db'.events.Sublist db.events)
    (hnext : db'.nextEventId = db.nextEventId) : db'.EventsOrdered where
  ascending := h.ascending.sublist hevents
  below row hrow := hnext ▸ h.below row (hevents.subset hrow)

/-- The second database has some more events that happened from an instant on. -/
def Emits (now : ℤ) (db db' : Db) : Prop :=
  ∃ added, db.AddsEvents db' added ∧ ∀ row ∈ added, row.isSummary = false ∧ now ≤ row.occurredAt

namespace Emits

variable {now : ℤ}

/-- Other tables may change. -/
theorem congr (h : Emits now db db') (hevents : db''.events = db'.events)
    (hnext : db''.nextEventId = db'.nextEventId) : Emits now db db'' := by
  obtain ⟨added, hadds, hadded⟩ := h
  exact ⟨added, ⟨hevents.trans hadds.events, hadds.ids, hnext.trans hadds.next⟩, hadded⟩

theorem of_eq (hevents : db'.events = db.events) (hnext : db'.nextEventId = db.nextEventId) :
    Emits now db db' :=
  ⟨[], ⟨hevents.trans (List.append_nil _).symm, rfl, hnext⟩, nofun⟩

theorem refl (db : Db) : Emits now db db := of_eq rfl rfl

theorem trans (h : Emits now db db') (h' : Emits now db' db'') : Emits now db db'' := by
  obtain ⟨added, hadds, hadded⟩ := h
  obtain ⟨added', hadds', hadded'⟩ := h'
  refine ⟨added ++ added', hadds.trans hadds', fun row hrow => ?_⟩
  rcases List.mem_append.mp hrow with hrow | hrow
  · exact hadded row hrow
  · exact hadded' row hrow

theorem recordEvent (h : Emits now db db') {occurredAt : ℤ} (hnow : now ≤ occurredAt)
    (nodeId : String) {dimension : String} (hdimension : dimension ≠ "rollup")
    (fromValue toValue source : String) :
    Emits now db (db'.recordEvent occurredAt nodeId dimension fromValue toValue source) := by
  rw [Db.recordEvent]
  split_ifs
  · exact h
  · refine h.trans ⟨[_], ⟨rfl, rfl, rfl⟩, fun row hrow => ?_⟩
    rw [List.mem_singleton.mp hrow]
    exact ⟨decide_eq_false hdimension, hnow⟩

theorem transitionDimension (h : Emits now db db') {occurredAt : ℤ} (hnow : now ≤ occurredAt)
    (nodeId : String) {dimension : String} (hdimension : dimension ≠ "rollup")
    (column : NodeRow → String) (toValue source : String) :
    Emits now db (db'.transitionDimension occurredAt nodeId dimension column toValue source) := by
  rw [Db.transitionDimension]
  split
  · exact h
  · exact h.recordEvent hnow nodeId hdimension _ toValue source

theorem setAlertFlag (h : Emits now db db') (nodeId flag : String) :
    Emits now db (db'.setAlertFlag nodeId flag) := by
  rw [Db.setAlertFlag]
  split
  · exact h
  · split_ifs
    · exact h
    · exact h.congr rfl rfl

/-- A loop whose body records only. -/
theorem forEachRow {Row : Type} (width : ℕ) {body : Clock → Db → Row → Db}
    (hbody : ∀ clock db row, (∀ k, now ≤ clock k) → Emits now db (body clock db row))
    (rows : List Row) (s : Db × Clock) (hclock : ∀ k, now ≤ s.2 k) :
    Emits now s.1 (forEachRow width body rows s).1 := by
  induction rows generalizing s with
  | nil => exact refl s.1
  | cons row rows ih =>
    refine (hbody s.2 s.1 row hclock).trans (ih (body s.2 s.1 row, s.2.drop width) fun k => ?_)
    exact hclock (width + k)

end Emits

end Db

/-! ### The other phases of maintenance -/

section

variable {now : ℤ} {clock : Clock} (hclock : ∀ k, now ≤ clock k)

include hclock

theorem emits_resetEvidence (db : Db) (node : NodeRow) :
    Db.Emits now db (resetEvidence clock db node) := by
  rw [resetEvidence]
  split_ifs
  · have hcompatible : Db.Emits now db (db.transitionDimension (clock 0) node.nodeId
        "orbit_compatible" (·.orbitCompatible.text) "unknown" "maintenance") :=
      (Db.Emits.refl db).transitionDimension (hclock 0) node.nodeId (by decide) _ _ _
    exact (hcompatible.transitionDimension (hclock 1) node.nodeId (by decide) _ _ _).congr rfl rfl
  · exact .refl db

theorem emits_ageEvidence (db : Db) (node : NodeRow) :
    Db.Emits now db (ageEvidence clock db node) := by
  have hdsh : ∀ db', Db.Emits now db db' → Db.Emits now db (if node.dshHealthy ≠ .unknown then
      db'.transitionDimension (clock 1) node.nodeId "dsh_healthy" (·.dshHealthy.text) "unknown"
        "maintenance" else db') := by
    intro db' h
    split_ifs
    · exact h.transitionDimension (hclock 1) node.nodeId (by decide) _ _ _
    · exact h
  rw [ageEvidence]
  refine (hdsh _ ?_).congr rfl rfl
  split_ifs
  · exact (Db.Emits.refl db).transitionDimension (hclock 0) node.nodeId (by decide) _ _ _
  · exact .refl db

theorem emits_ageReports (at' : ℤ) (db : Db) (node : NodeRow) :
    Db.Emits now db (ageReports at' clock db node) := by
  rw [ageReports]
  split
  · exact emits_resetEvidence hclock db node
  · split_ifs
    · exact emits_ageEvidence hclock db node
    · exact .refl db

theorem emits_reconcileNode (at' : ℤ) (db : Db) (node : NodeRow) :
    Db.Emits now db (reconcileNode at' clock db node) := by
  rw [reconcileNode]
  dsimp only
  split_ifs
  · exact .refl db
  · exact (((Db.Emits.refl db).recordEvent (hclock 0) node.nodeId (by decide) _ _ _).recordEvent
      (hclock 1) node.nodeId (by decide) _ _ _).congr rfl rfl

theorem emits_ageContact (config : Config) (db : Db) (node : NodeRow) :
    Db.Emits now db (ageContact config clock db node) := by
  rw [ageContact]
  split
  · exact .refl db
  · split
    · exact .refl db
    · have hmoved : ∀ target : RegistryContact, Db.Emits now db ((db.transitionDimension
          (clock 1) node.nodeId "registry_contact" (·.registryContact.text) target.text
          "maintenance").updateNode node.nodeId fun row =>
            { row with registryContact := target }) :=
        fun target => ((Db.Emits.refl db).transitionDimension (hclock 1) node.nodeId (by decide)
          _ _ _).congr rfl rfl
      dsimp only
      split_ifs
      · exact (hmoved _).setAlertFlag node.nodeId "contact-lost"
      · exact hmoved _

end

/-- The readings of a run are not before its first. -/
theorem le_drop {now : ℤ} {clock : Clock} (hclock : ∀ k, now ≤ clock k) (n k : ℕ) :
    now ≤ clock.drop n k := hclock (n + k)

/-- A loop whose body leaves the events. -/
theorem events_forEachRow {Row : Type} (width : ℕ) (body : Clock → Db → Row → Db)
    (hbody : ∀ clock db row, (body clock db row).events = db.events ∧
      (body clock db row).nextEventId = db.nextEventId) (rows : List Row) (s : Db × Clock) :
    (forEachRow width body rows s).1.events = s.1.events ∧
      (forEachRow width body rows s).1.nextEventId = s.1.nextEventId := by
  induction rows generalizing s with
  | nil => exact ⟨rfl, rfl⟩
  | cons row rows ih =>
    obtain ⟨hevents, hnext⟩ := ih (body s.2 s.1 row, s.2.drop width)
    obtain ⟨hrow, hrowNext⟩ := hbody s.2 s.1 row
    exact ⟨hevents.trans hrow, hnext.trans hrowNext⟩

theorem events_expireAndPurge (clock : Clock) (db : Db) :
    (expireAndPurge clock db).1.events = db.events ∧
      (expireAndPurge clock db).1.nextEventId = db.nextEventId := by
  obtain ⟨hnode, hnodeNext⟩ : (expireNodeKeys (db, clock.drop 1)).1.events = db.events ∧
      (expireNodeKeys (db, clock.drop 1)).1.nextEventId = db.nextEventId :=
    events_forEachRow 1 expireNodeKey (fun _ _ _ => ⟨rfl, rfl⟩) _ _
  generalize hexpired : expireNodeKeys (db, clock.drop 1) = expired at hnode hnodeNext
  obtain ⟨hroute, hrouteNext⟩ : (expireRouteKeys expired).1.events = expired.1.events ∧
      (expireRouteKeys expired).1.nextEventId = expired.1.nextEventId :=
    events_forEachRow 2 expireRouteKey (fun _ _ _ => ⟨rfl, rfl⟩) _ (expired.1, expired.2.drop 1)
  rw [expireAndPurge, hexpired]
  exact ⟨hroute.trans hnode, hrouteNext.trans hnodeNext⟩

/-- A maintenance records, retires events, and records again. -/
theorem emits_maintenance (config : Config) {clock : Clock} (hclock : ∀ k, clock 0 ≤ clock k)
    (db : Db) : ∃ aged, Db.Emits (clock 0) db aged ∧
      Db.Emits (clock 0) (retireEvents (clock 0) aged) (maintenance config clock db).2 := by
  obtain ⟨k, hk⟩ := snd_expireAndPurge clock db
  obtain ⟨m, n, hm, hn⟩ := snd_reconcile clock db
  obtain ⟨hevents, hnext⟩ := events_expireAndPurge clock db
  rw [maintenance, ageRecords]
  dsimp only
  generalize expireAndPurge clock db = purged at *
  have haged : Db.Emits (clock 0) purged.1 (ageAllReports (clock 0) purged).1 :=
    .forEachRow 2 (fun _ db node h => emits_ageReports h (clock 0) db node) _ purged fun j => by
      rw [hk]
      exact le_drop hclock k j
  generalize ageAllReports (clock 0) purged = aged at *
  have hreconciled : Db.Emits (clock 0) aged.1 (reconcileNodeCapabilities aged.2 aged.1).1 :=
    .forEachRow 3 (fun _ db node h => emits_reconcileNode h (aged.2 0) db node) _
      (aged.1, aged.2.drop 1) fun j => by
        rw [hm]
        exact le_drop (le_drop hclock m) 1 j
  generalize reconcileNodeCapabilities aged.2 aged.1 = reconciled at *
  refine ⟨reconciled.1, (Db.Emits.of_eq hevents hnext).trans (haged.trans hreconciled), ?_⟩
  have hcontacts : Db.Emits (clock 0) (retireEvents (clock 0) reconciled.1)
      (ageContacts config (retireEvents (clock 0) reconciled.1, reconciled.2)).1 :=
    .forEachRow 2 (fun _ db node h => emits_ageContact h config db node) _
      (retireEvents (clock 0) reconciled.1, reconciled.2) fun j => by
        rw [hn]
        exact le_drop hclock n j
  generalize ageContacts config (retireEvents (clock 0) reconciled.1, reconciled.2) = contacted at *
  obtain ⟨hsame, hsameNext⟩ : (auditExpiries contacted).1.events = contacted.1.events ∧
      (auditExpiries contacted).1.nextEventId = contacted.1.nextEventId :=
    events_forEachRow 2 auditExpiry (fun _ _ _ => ⟨rfl, rfl⟩) _ (contacted.1, contacted.2.drop 2)
  exact hcontacts.congr hsame hsameNext

/-! ### The table after a maintenance -/

/-- The table of events after a maintenance: it summarized the groups `fresh`, and emitted the
events `early` before that and the events `late` after it. -/
structure Rewrites (now : ℤ) (before after : Db) (fresh : List RollupGroup)
    (early late : List EventRow) : Prop where
  events : after.events =
    retained now (deleteWhere (fun row => row.group ∈ fresh) before.events) ++ early ++
      retained now (summaryRows (rollupSummary before) (before.nextEventId + early.length) fresh) ++
      late
  nodup : fresh.Nodup
  raw : ∀ group ∈ fresh, group.dimension ≠ "rollup"
  complete : ∀ group ∈ fresh, group.day < dayOf (now - eventRollupAfterMs)
  unsummarized : ∀ group ∈ fresh, before.summarized group = false
  inhabited : ∀ group ∈ fresh, ∃ row ∈ before.events, row.group = group
  added : ∀ row ∈ early ++ late,
    row.isSummary = false ∧ now ≤ row.occurredAt ∧ before.nextEventId ≤ row.id

/-- An event that is not older than the limit of the rollup is of a day that is not complete. -/
theorem group_notMem {limit : ℤ} {groups : List RollupGroup}
    (hcomplete : ∀ group ∈ groups, group.day < dayOf limit) {row : EventRow}
    (hrow : limit ≤ row.occurredAt) : row.group ∉ groups := by
  intro h
  have hday : dayOf limit ≤ row.group.day := dayOf_mono hrow
  exact absurd (hcomplete _ h) (not_lt.mpr hday)

theorem rollupLimit_le {now t : ℤ} (h : now ≤ t) : now - eventRollupAfterMs ≤ t := by
  have hpos : 0 ≤ eventRollupAfterMs := by decide
  omega

theorem retained_of_recent {now : ℤ} {rows : List EventRow}
    (h : ∀ row ∈ rows, now ≤ row.occurredAt) : retained now rows = rows := by
  refine List.filter_eq_self.mpr fun row hrow => ?_
  have hpos : 0 < eventRetentionMs := by decide
  have hrecent := h row hrow
  simp only [Bool.not_eq_true', decide_eq_false_iff_not]
  omega

theorem complete_freshGroups (now : ℤ) (db : Db) :
    ∀ group ∈ freshGroups now db, group.day < dayOf (now - eventRollupAfterMs) := by
  intro group hgroup
  obtain ⟨row, -, -, hday, rfl⟩ := mem_rollupGroups.mp (List.mem_of_mem_filter hgroup)
  exact hday

theorem unsummarized_freshGroups (now : ℤ) (db : Db) :
    ∀ group ∈ freshGroups now db, db.summarized group = false := by
  intro group hgroup
  simpa using (List.mem_filter.mp hgroup).2

theorem rewrites_maintenance (config : Config) {clock : Clock} (hclock : ∀ k, clock 0 ≤ clock k)
    (db : Db) : ∃ fresh early late,
      Rewrites (clock 0) db (maintenance config clock db).2 fresh early late := by
  obtain ⟨aged, ⟨early, hearly, hearlyRows⟩, late, hlate, hlateRows⟩ :=
    emits_maintenance config hclock db
  have hcomplete := complete_freshGroups (clock 0) aged
  have hunsummarized := unsummarized_freshGroups (clock 0) aged
  have hother : ∀ row ∈ early, row.group ∉ freshGroups (clock 0) aged := fun row hrow =>
    group_notMem hcomplete (rollupLimit_le (hearlyRows row hrow).2)
  have hsame : ∀ group ∈ freshGroups (clock 0) aged,
      (aged.events.filter fun row => row.group = group) =
        db.events.filter fun row => row.group = group := by
    intro group hgroup
    have hnone : (early.filter fun row => row.group = group) = [] := by
      refine List.filter_eq_nil_iff.mpr fun row hrow heq => ?_
      exact hother row hrow (of_decide_eq_true heq ▸ hgroup)
    rw [hearly.events, List.filter_append, hnone, List.append_nil]
  have hsummaries : ∀ group ∈ freshGroups (clock 0) aged,
      rollupSummary aged group = rollupSummary db group := fun group hgroup => by
    rw [rollupSummary, rollupSummary, hsame group hgroup]
  have hkept : deleteWhere (fun row => row.group ∈ freshGroups (clock 0) aged) aged.events =
      deleteWhere (fun row => row.group ∈ freshGroups (clock 0) aged) db.events ++ early := by
    rw [hearly.events, deleteWhere, List.filter_append]
    refine congrArg₂ (· ++ ·) rfl (List.filter_eq_self.mpr fun row hrow => ?_)
    simpa using hother row hrow
  refine ⟨freshGroups (clock 0) aged, early, late, ?_, nodup_freshGroups .., raw_freshGroups _ _,
    hcomplete, fun group hgroup => ?_, fun group hgroup => ?_, fun row hrow => ?_⟩
  · have hrecent : retained (clock 0) early = early :=
      retained_of_recent fun row hrow => (hearlyRows row hrow).2
    rw [hlate.events, events_retireEvents, hkept, summaryRows_congr hsummaries, hearly.next,
      retained_append, retained_append, hrecent]
  · rw [← Bool.not_eq_true, Db.summarized_iff]
    rintro ⟨row, hrow, hsummary⟩
    have hsummarized : aged.summarized group = true := Db.summarized_iff.mpr
      ⟨row, hearly.events ▸ List.mem_append_left _ hrow, hsummary⟩
    rw [hunsummarized group hgroup] at hsummarized
    cases hsummarized
  · obtain ⟨row, hrow, -, -, rfl⟩ := mem_rollupGroups.mp (List.mem_of_mem_filter hgroup)
    rw [hearly.events] at hrow
    rcases List.mem_append.mp hrow with hold | hnew
    · exact ⟨row, hold, rfl⟩
    · exact absurd hgroup (hother row hnew)
  · rcases List.mem_append.mp hrow with hrow | hrow
    · exact ⟨(hearlyRows row hrow).1, (hearlyRows row hrow).2, (hearly.id_range hrow).1⟩
    · refine ⟨(hlateRows row hrow).1, (hlateRows row hrow).2, ?_⟩
      have hnext := (hlate.id_range hrow).1
      rw [nextEventId_retireEvents, hearly.next] at hnext
      omega

theorem ordered_retireEvents (now : ℤ) {db : Db} (h : db.EventsOrdered) :
    (retireEvents now db).EventsOrdered := by
  set fresh := freshGroups now db with hfresh
  have hkept : ({ db with
      events := deleteWhere (fun row => row.group ∈ fresh) db.events } : Db).EventsOrdered :=
    h.sublist List.filter_sublist rfl
  have hrolled : (rolledUp (rollupSummary db) fresh db).EventsOrdered :=
    hkept.adds ⟨rfl, by rw [ids_summaryRows, length_summaryRows],
      congrArg (db.nextEventId + ·) (length_summaryRows ..).symm⟩
  rw [retireEvents_eq, ← hfresh]
  exact hrolled.sublist List.filter_sublist rfl

theorem ordered_maintenance (config : Config) {clock : Clock} (hclock : ∀ k, clock 0 ≤ clock k)
    {db : Db} (h : db.EventsOrdered) : (maintenance config clock db).2.EventsOrdered := by
  obtain ⟨aged, ⟨early, hearly, -⟩, late, hlate, -⟩ := emits_maintenance config hclock db
  exact (ordered_retireEvents (clock 0) (h.adds hearly)).adds hlate

/-! ### What a maintenance does to the history -/

/-- The events that a run added. -/
def emitted (before after : Db) : List EventRow :=
  after.events.filter fun row => before.nextEventId ≤ row.id && !row.isSummary

/-- The summaries that a run added. -/
def created (before after : Db) : List EventRow :=
  after.events.filter fun row => before.nextEventId ≤ row.id && row.isSummary

/-- The rows that are gone after a run, and that no summary of it counts. -/
def lapsed (before after : Db) : List EventRow :=
  before.events.filter fun row =>
    row ∉ after.events && row.group ∉ (created before after).map EventRow.subject

/-- What a maintenance at an instant does to the table of events. -/
structure KeepsHistory (now : ℤ) (before after : Db) : Prop where
  /-- Nothing is lost or counted twice. -/
  tally_eq : ∀ group, tally group after.events + tally group (lapsed before after) =
    tally group before.events + tally group (emitted before after)
  /-- What no summary counts has reached its retention. -/
  lapsed_old : ∀ row ∈ lapsed before after, row.occurredAt ≤ now - eventRetentionMs
  /-- A summary says how many events there were, and the value of the last of them. -/
  summary : ∀ row ∈ created before after,
    ∃ last ∈ before.events, last.group = row.subject ∧
      (∀ other ∈ before.events, other.group = row.subject →
        other.occurredAt < last.occurredAt ∨
          other.occurredAt = last.occurredAt ∧ other.id ≤ last.id) ∧
      row.toValue = (Json.obj
        [("count", .num (before.events.filter fun other => other.group = row.subject).length),
          ("final", .str last.toValue)]).stringify
  /-- A new summary is alone, and none of its events is left. -/
  once : ∀ row ∈ created before after, ∀ other ∈ after.events,
    other.group ≠ row.subject ∧
      (other.isSummary = true → other.subject = row.subject →
        other.occurredAt = row.occurredAt → other = row)
  /-- Events that are not older than the limit of the rollup stay. -/
  recent : ∀ row ∈ before.events, now - eventRollupAfterMs ≤ row.occurredAt → row ∈ after.events

namespace Rewrites

variable {now : ℤ} {before after : Db} {fresh : List RollupGroup} {early late : List EventRow}

theorem mem_events (h : Rewrites now before after fresh early late) {row : EventRow} :
    row ∈ after.events ↔
      row ∈ retained now (deleteWhere (fun row => row.group ∈ fresh) before.events) ∨
        row ∈ early ++ late ∨ row ∈ retained now (summaryRows (rollupSummary before)
          (before.nextEventId + early.length) fresh) := by
  rw [h.events]
  simp only [List.mem_append]
  tauto

/-- The rows of the table before are below its next id, so none of them is new. -/
theorem filter_old (hbelow : ∀ row ∈ before.events, row.id < before.nextEventId)
    (p : EventRow → Bool) :
    (retained now (deleteWhere (fun row => row.group ∈ fresh) before.events)).filter
      (fun row => before.nextEventId ≤ row.id && p row) = [] := by
  refine List.filter_eq_nil_iff.mpr fun row hrow => ?_
  have hid := hbelow row (mem_deleteWhere.mp (mem_retained.mp hrow).1).1
  simp [not_le.mpr hid]

theorem filter_emitted (h : Rewrites now before after fresh early late) {rows : List EventRow}
    (hrows : ∀ row ∈ rows, row ∈ early ++ late) :
    rows.filter (fun row => before.nextEventId ≤ row.id && !row.isSummary) = rows ∧
      rows.filter (fun row => before.nextEventId ≤ row.id && row.isSummary) = [] := by
  constructor
  · refine List.filter_eq_self.mpr fun row hrow => ?_
    obtain ⟨hraw, -, hid⟩ := h.added row (hrows row hrow)
    simp [hraw, hid]
  · refine List.filter_eq_nil_iff.mpr fun row hrow => ?_
    simp [(h.added row (hrows row hrow)).1]

theorem filter_summaries :
    (retained now (summaryRows (rollupSummary before)
      (before.nextEventId + early.length) fresh)).filter
        (fun row => before.nextEventId ≤ row.id && !row.isSummary) = [] ∧
    (retained now (summaryRows (rollupSummary before)
      (before.nextEventId + early.length) fresh)).filter
        (fun row => before.nextEventId ≤ row.id && row.isSummary) =
      retained now (summaryRows (rollupSummary before)
        (before.nextEventId + early.length) fresh) := by
  constructor
  · refine List.filter_eq_nil_iff.mpr fun row hrow => ?_
    obtain ⟨group, -, n, -, rfl⟩ := of_mem_summaryRows (mem_retained.mp hrow).1
    simp [isSummary_summaryRow]
  · refine List.filter_eq_self.mpr fun row hrow => ?_
    obtain ⟨group, -, n, hn, rfl⟩ := of_mem_summaryRows (mem_retained.mp hrow).1
    have hid : before.nextEventId ≤ (summaryRow (rollupSummary before) n group).id :=
      (Nat.le_add_right _ _).trans hn
    simp [isSummary_summaryRow, hid]

theorem emitted_eq (h : Rewrites now before after fresh early late)
    (hbelow : ∀ row ∈ before.events, row.id < before.nextEventId) :
    emitted before after = early ++ late := by
  have hearly := (h.filter_emitted fun row hrow => List.mem_append_left late hrow).1
  have hlate := (h.filter_emitted fun row hrow => List.mem_append_right early hrow).1
  rw [emitted, h.events, List.filter_append, List.filter_append, List.filter_append,
    filter_old hbelow, filter_summaries.1, hearly, hlate, List.nil_append, List.append_nil]

theorem created_eq (h : Rewrites now before after fresh early late)
    (hbelow : ∀ row ∈ before.events, row.id < before.nextEventId) :
    created before after = retained now (summaryRows (rollupSummary before)
      (before.nextEventId + early.length) fresh) := by
  have hearly := (h.filter_emitted fun row hrow => List.mem_append_left late hrow).2
  have hlate := (h.filter_emitted fun row hrow => List.mem_append_right early hrow).2
  rw [created, h.events, List.filter_append, List.filter_append, List.filter_append,
    filter_old hbelow, filter_summaries.2, hearly, hlate, List.append_nil, List.append_nil,
    List.nil_append]

/-- The groups of the new summaries: those whose summary has not reached its retention. -/
theorem mem_created (h : Rewrites now before after fresh early late)
    (hbelow : ∀ row ∈ before.events, row.id < before.nextEventId) {group : RollupGroup} :
    group ∈ (created before after).map EventRow.subject ↔
      group ∈ fresh ∧ now - eventRetentionMs < group.summaryAt := by
  rw [h.created_eq hbelow, List.mem_map]
  constructor
  · rintro ⟨row, hrow, rfl⟩
    obtain ⟨hmem, hretained⟩ := mem_retained.mp hrow
    obtain ⟨group, hgroup, n, -, rfl⟩ := of_mem_summaryRows hmem
    rw [subject_summaryRow]
    exact ⟨hgroup, hretained⟩
  · rintro ⟨hgroup, hretained⟩
    obtain ⟨n, hn⟩ := exists_mem_summaryRows (rollupSummary before)
      (before.nextEventId + early.length) hgroup
    exact ⟨_, mem_retained.mpr ⟨hn, hretained⟩, subject_summaryRow ..⟩

/-- A row of the table before is there after the run, unless it has reached its retention or its
group is summarized. -/
theorem mem_after (h : Rewrites now before after fresh early late)
    (hbelow : ∀ row ∈ before.events, row.id < before.nextEventId) {row : EventRow}
    (hrow : row ∈ before.events) :
    row ∈ after.events ↔ row.group ∉ fresh ∧ now - eventRetentionMs < row.occurredAt := by
  have hid := hbelow row hrow
  rw [h.mem_events, mem_retained, mem_deleteWhere, decide_eq_false_iff_not]
  constructor
  · rintro (⟨⟨-, hgroup⟩, hretained⟩ | hadded | hnew)
    · exact ⟨hgroup, hretained⟩
    · exact absurd (h.added row hadded).2.2 (not_le.mpr hid)
    · obtain ⟨group, -, n, hn, rfl⟩ := of_mem_summaryRows (mem_retained.mp hnew).1
      exact absurd ((Nat.le_add_right _ _).trans hn) (not_le.mpr hid)
  · rintro ⟨hgroup, hretained⟩
    exact .inl ⟨⟨hrow, hgroup⟩, hretained⟩

/-- The rows that lapse: those that have reached their retention, of a group that is not summarized
or whose summary has reached its retention as well. -/
theorem lapsed_eq (h : Rewrites now before after fresh early late)
    (hbelow : ∀ row ∈ before.events, row.id < before.nextEventId) :
    lapsed before after = before.events.filter fun row =>
      if row.group ∈ fresh then row.group.summaryAt ≤ now - eventRetentionMs
      else row.occurredAt ≤ now - eventRetentionMs := by
  refine List.filter_congr fun row hrow => Bool.eq_iff_iff.mpr ?_
  rw [Bool.and_eq_true, decide_eq_true_eq, decide_eq_true_eq, h.mem_after hbelow hrow,
    h.mem_created hbelow]
  by_cases hgroup : row.group ∈ fresh
  · simp [hgroup]
  · simp [hgroup]

theorem summaryCount_rollupSummary (db : Db) (group : RollupGroup) :
    summaryCount (rollupSummary db group).stringify =
      (db.events.filter fun row => row.group = group).length :=
  summaryCount_stringify ..

theorem tally_eq (h : Rewrites now before after fresh early late)
    (hbelow : ∀ row ∈ before.events, row.id < before.nextEventId) (group : RollupGroup) :
    tally group after.events + tally group (lapsed before after) =
      tally group before.events + tally group (emitted before after) := by
  set limit := now - eventRetentionMs with hlimit
  set size := (before.events.filter fun row => row.group = group).length with hsize
  -- the events of the new summaries, and those of the summaries that are dropped at once
  have hfresh : tally group (before.events.filter fun row => row.group ∈ fresh) =
      if group ∈ fresh then size else 0 := tally_groups h.raw group before.events
  have hdropped : tally group ((before.events.filter fun row => row.group ∈ fresh).filter
      fun row => row.group.summaryAt ≤ limit) =
      if group ∈ fresh ∧ group.summaryAt ≤ limit then size else 0 := by
    have hraw : ∀ group ∈ fresh.filter fun group => group.summaryAt ≤ limit,
        group.dimension ≠ "rollup" := fun group hgroup => h.raw group (List.mem_of_mem_filter hgroup)
    have hgroups := tally_groups hraw group before.events
    simp only [List.mem_filter, decide_eq_true_eq, Bool.decide_and] at hgroups
    rw [List.filter_filter]
    simpa only [Bool.and_comm] using hgroups
  have hnew : tally group (retained now (summaryRows (rollupSummary before)
      (before.nextEventId + early.length) fresh)) =
      if group ∈ fresh ∧ limit < group.summaryAt then size else 0 := by
    rw [hsize, ← summaryCount_rollupSummary]
    exact tally_summaryRows _ limit _ h.nodup group
  -- the other events, and those of them that have reached their retention
  have hbefore := tally_split group (fun row => row.group ∈ fresh) before.events
  have hrest := tally_split group (fun row => row.occurredAt ≤ limit)
    (before.events.filter fun row => !decide (row.group ∈ fresh))
  have hlapsed := tally_split group (fun row => row.group ∈ fresh) (lapsed before after)
  have hlapsedFresh : (lapsed before after).filter (fun row => row.group ∈ fresh) =
      (before.events.filter fun row => row.group ∈ fresh).filter
        fun row => row.group.summaryAt ≤ limit := by
    rw [h.lapsed_eq hbelow, List.filter_filter, List.filter_filter]
    refine List.filter_congr fun row _ => ?_
    by_cases hgroup : row.group ∈ fresh <;> simp [hgroup, hlimit]
  have hlapsedRest : (lapsed before after).filter (fun row => !decide (row.group ∈ fresh)) =
      (before.events.filter fun row => !decide (row.group ∈ fresh)).filter
        fun row => row.occurredAt ≤ limit := by
    rw [h.lapsed_eq hbelow, List.filter_filter, List.filter_filter]
    refine List.filter_congr fun row _ => ?_
    by_cases hgroup : row.group ∈ fresh <;> simp [hgroup, hlimit]
  have hkept : retained now (deleteWhere (fun row => row.group ∈ fresh) before.events) =
      (before.events.filter fun row => !decide (row.group ∈ fresh)).filter
        fun row => !decide (row.occurredAt ≤ limit) := rfl
  rw [hlapsedFresh, hlapsedRest, hdropped] at hlapsed
  rw [hfresh] at hbefore
  rw [h.events, tally_append, tally_append, tally_append, hkept, hnew, h.emitted_eq hbelow,
    tally_append]
  by_cases hmem : group ∈ fresh
  · by_cases hold : group.summaryAt ≤ limit
    · rw [if_pos ⟨hmem, hold⟩] at hlapsed
      rw [if_pos hmem] at hbefore
      rw [if_neg fun h => absurd h.2 (not_lt.mpr hold)]
      omega
    · rw [if_neg fun h => hold h.2] at hlapsed
      rw [if_pos hmem] at hbefore
      rw [if_pos ⟨hmem, not_le.mp hold⟩]
      omega
  · rw [if_neg fun h => hmem h.1] at hlapsed
    rw [if_neg hmem] at hbefore
    rw [if_neg fun h => hmem h.1]
    omega

theorem lapsed_old (h : Rewrites now before after fresh early late)
    (hbelow : ∀ row ∈ before.events, row.id < before.nextEventId) :
    ∀ row ∈ lapsed before after, row.occurredAt ≤ now - eventRetentionMs := by
  intro row hrow
  rw [h.lapsed_eq hbelow] at hrow
  have hold := (List.mem_filter.mp hrow).2
  by_cases hgroup : row.group ∈ fresh
  · rw [if_pos hgroup, decide_eq_true_eq] at hold
    exact (occurredAt_le_summaryAt rfl).trans hold
  · rw [if_neg hgroup, decide_eq_true_eq] at hold
    exact hold

/-- The value of a summary is that of the last event of its group. -/
theorem summary_created (h : Rewrites now before after fresh early late)
    (hordered : before.EventsOrdered) :
    ∀ row ∈ created before after, ∃ last ∈ before.events, last.group = row.subject ∧
      (∀ other ∈ before.events, other.group = row.subject →
        other.occurredAt < last.occurredAt ∨
          other.occurredAt = last.occurredAt ∧ other.id ≤ last.id) ∧
      row.toValue = (Json.obj
        [("count", .num (before.events.filter fun other => other.group = row.subject).length),
          ("final", .str last.toValue)]).stringify := by
  intro row hrow
  rw [h.created_eq hordered.below] at hrow
  obtain ⟨group, hgroup, n, -, rfl⟩ := of_mem_summaryRows (mem_retained.mp hrow).1
  rw [subject_summaryRow]
  set events := before.events.filter fun other => other.group = group with hevents
  have hascending : events.Pairwise fun row other => row.id < other.id :=
    hordered.ascending.sublist List.filter_sublist
  obtain ⟨row, hrow, hrowGroup⟩ := h.inhabited group hgroup
  have hne : orderBy EventRow.occurredAt events ≠ [] := by
    refine List.ne_nil_of_mem (a := row) (mem_orderBy.mpr ?_)
    exact List.mem_filter.mpr ⟨hrow, decide_eq_true hrowGroup⟩
  have hlast := List.getLast?_eq_some_getLast hne
  obtain ⟨hmem, hmax⟩ := le_getLast?_orderBy hascending hlast
  obtain ⟨hlastMem, hlastGroup⟩ := List.mem_filter.mp hmem
  refine ⟨_, hlastMem, of_decide_eq_true hlastGroup, fun other hother hotherGroup => ?_, ?_⟩
  · rcases hmax other (List.mem_filter.mpr ⟨hother, decide_eq_true hotherGroup⟩) with rfl | hbefore
    · exact .inr ⟨rfl, le_rfl⟩
    · exact hbefore.imp_right fun h => ⟨h.1, h.2.le⟩
  · show (rollupSummary before group).stringify = _
    rw [rollupSummary, ← hevents, hlast]
    rfl

theorem once_created (h : Rewrites now before after fresh early late)
    (hbelow : ∀ row ∈ before.events, row.id < before.nextEventId) :
    ∀ row ∈ created before after, ∀ other ∈ after.events,
      other.group ≠ row.subject ∧
        (other.isSummary = true → other.subject = row.subject →
          other.occurredAt = row.occurredAt → other = row) := by
  intro row hrow other hother
  rw [h.created_eq hbelow] at hrow
  have hrowNew := (mem_retained.mp hrow).1
  obtain ⟨group, hgroup, n, -, rfl⟩ := of_mem_summaryRows hrowNew
  rw [subject_summaryRow]
  rcases h.mem_events.mp hother with hold | hadded | hnew
  · obtain ⟨hmem, hotherGroup⟩ := mem_deleteWhere.mp (mem_retained.mp hold).1
    refine ⟨fun heq => of_decide_eq_false hotherGroup (heq ▸ hgroup), fun hsummary heq hat => ?_⟩
    have hsummarized := Db.summarized_iff.mpr ⟨other, hmem, hsummary, heq, hat⟩
    rw [h.unsummarized group hgroup] at hsummarized
    cases hsummarized
  · obtain ⟨hraw, hrecent, -⟩ := h.added other hadded
    refine ⟨fun heq => ?_, fun hsummary => ?_⟩
    · exact group_notMem h.complete (rollupLimit_le hrecent) (heq ▸ hgroup)
    · rw [hraw] at hsummary
      cases hsummary
  · have hotherNew := (mem_retained.mp hnew).1
    refine ⟨fun heq => ?_, fun _ heq _ => ?_⟩
    · obtain ⟨group', -, m, -, rfl⟩ := of_mem_summaryRows hotherNew
      exact h.raw group hgroup (congrArg RollupGroup.dimension heq).symm
    · refine List.inj_on_of_nodup_map ?_ hotherNew hrowNew (heq.trans (subject_summaryRow ..).symm)
      rw [subjects_summaryRows]
      exact h.nodup

theorem keepsHistory (h : Rewrites now before after fresh early late)
    (hordered : before.EventsOrdered) : KeepsHistory now before after where
  tally_eq := h.tally_eq hordered.below
  lapsed_old := h.lapsed_old hordered.below
  summary := h.summary_created hordered
  once := h.once_created hordered.below
  recent row hrow hrecent := by
    have hpos : eventRollupAfterMs < eventRetentionMs := by decide
    exact (h.mem_after hordered.below hrow).mpr ⟨group_notMem h.complete hrecent, by omega⟩

end Rewrites

theorem maintenance_keepsHistory (config : Config) {clock : Clock}
    (hclock : ∀ k, clock 0 ≤ clock k) {db : Db} (hordered : db.EventsOrdered) :
    KeepsHistory (clock 0) db (maintenance config clock db).2 := by
  obtain ⟨fresh, early, late, h⟩ := rewrites_maintenance config hclock db
  exact h.keepsHistory hordered

/-! ### Sequences of runs -/

/-- The database after a sequence of maintenance runs. -/
def maintainAll (config : Config) (clocks : List Clock) (db : Db) : Db :=
  clocks.foldl (fun db clock => (maintenance config clock db).2) db

theorem maintainAll_cons (config : Config) (clock : Clock) (clocks : List Clock) (db : Db) :
    maintainAll config (clock :: clocks) db =
      maintainAll config clocks (maintenance config clock db).2 := by
  rw [maintainAll, List.foldl_cons, maintainAll]

theorem maintainAll_append (config : Config) (earlier later : List Clock) (db : Db) :
    maintainAll config (earlier ++ later) db =
      maintainAll config later (maintainAll config earlier db) := List.foldl_append ..

/-- What the runs of a sequence do one after the other, as each of them shows it. -/
def overRuns (config : Config) (f : Db → Db → List EventRow) : List Clock → Db → List EventRow
  | [], _ => []
  | clock :: clocks, db =>
    f db (maintenance config clock db).2 ++ overRuns config f clocks (maintenance config clock db).2

theorem ordered_maintainAll (config : Config) {clocks : List Clock}
    (hclocks : ∀ clock ∈ clocks, ∀ k, clock 0 ≤ clock k) {db : Db} (hordered : db.EventsOrdered) :
    (maintainAll config clocks db).EventsOrdered := by
  induction clocks generalizing db with
  | nil => exact hordered
  | cons clock clocks ih =>
    have hclock := hclocks clock List.mem_cons_self
    rw [maintainAll_cons]
    exact ih (fun other hother => hclocks other (List.mem_cons_of_mem _ hother))
      (ordered_maintenance config hclock hordered)

/-- What is left, and what has lapsed, accounts for what was there and what was emitted. -/
theorem tally_maintainAll (config : Config) {clocks : List Clock}
    (hclocks : ∀ clock ∈ clocks, ∀ k, clock 0 ≤ clock k) {db : Db} (hordered : db.EventsOrdered)
    (group : RollupGroup) :
    tally group (maintainAll config clocks db).events +
        tally group (overRuns config lapsed clocks db) =
      tally group db.events + tally group (overRuns config emitted clocks db) := by
  induction clocks generalizing db with
  | nil => rfl
  | cons clock clocks ih =>
    have hclock := hclocks clock List.mem_cons_self
    have hstep := (maintenance_keepsHistory config hclock hordered).tally_eq group
    have hrest := ih (fun other hother => hclocks other (List.mem_cons_of_mem _ hother))
      (ordered_maintenance config hclock hordered)
    rw [maintainAll_cons, overRuns, overRuns, tally_append, tally_append]
    omega

/-- Every run of a sequence keeps the history, and so does the sequence: for each node, day and
dimension the events and the counts of the summaries stay, apart from the events that the runs
emit and the rows that reach their retention. -/
theorem rollups_keep_history (config : Config) {clocks : List Clock}
    (hclocks : ∀ clock ∈ clocks, ∀ k, clock 0 ≤ clock k) {db : Db} (hordered : db.EventsOrdered) :
    (∀ earlier clock later, clocks = earlier ++ clock :: later →
      KeepsHistory (clock 0) (maintainAll config earlier db)
        (maintainAll config (earlier ++ [clock]) db)) ∧
    ∀ group, tally group (maintainAll config clocks db).events +
        tally group (overRuns config lapsed clocks db) =
      tally group db.events + tally group (overRuns config emitted clocks db) := by
  refine ⟨fun earlier clock later heq => ?_, tally_maintainAll config hclocks hordered⟩
  subst heq
  rw [maintainAll_append]
  exact maintenance_keepsHistory config (hclocks clock (by simp))
    (ordered_maintainAll config (fun other hother => hclocks other (by simp [hother])) hordered)

/-- Two events of the first day of the epoch. -/
def sampleEvents : Db where
  events :=
    [⟨1, sampleNodeId, 1000, "dsh_healthy", "unknown", "ok", "report-upload"⟩,
      ⟨2, sampleNodeId, 2000, "dsh_healthy", "ok", "degraded", "report-upload"⟩]
  nextEventId := 3

theorem ordered_sampleEvents : sampleEvents.EventsOrdered := ⟨by decide, by decide⟩

theorem rollups_keep_history_sample :
    KeepsHistory 691200000 sampleEvents
        (maintainAll sampleConfig [fun _ => 691200000] sampleEvents) ∧
      tally ⟨sampleNodeId, 0, "dsh_healthy"⟩
          (maintainAll sampleConfig [fun _ => 691200000, fun _ => 7776001000] sampleEvents).events +
        tally ⟨sampleNodeId, 0, "dsh_healthy"⟩ (overRuns sampleConfig lapsed
          [fun _ => 691200000, fun _ => 7776001000] sampleEvents) =
      2 + tally ⟨sampleNodeId, 0, "dsh_healthy"⟩ (overRuns sampleConfig emitted
          [fun _ => 691200000, fun _ => 7776001000] sampleEvents) := by
  have hclocks : ∀ clock ∈ ([fun _ => 691200000, fun _ => 7776001000] : List Clock),
      ∀ k, clock 0 ≤ clock k := by
    intro clock hclock k
    rcases List.mem_cons.mp hclock with rfl | hclock
    · exact le_rfl
    · rw [List.mem_singleton.mp hclock]
  obtain ⟨hruns, htally⟩ := rollups_keep_history sampleConfig hclocks ordered_sampleEvents
  have hcount : tally ⟨sampleNodeId, 0, "dsh_healthy"⟩ sampleEvents.events = 2 := by decide
  exact ⟨hruns [] _ _ rfl, hcount ▸ htally _⟩

end DshOrbit.Registry
