import Mathlib.Algebra.Ring.Nat
import Mathlib.Data.List.Sort
import Mathlib.Data.List.Nodup
import Mathlib.Tactic.SplitIfs

/-!
# Tables of rows

Database tables as lists of rows in insertion order, with the statements that a
program runs on them.

## Main definitions

- `updateWhere`, `deleteWhere` — the statements of the same name
- `insertUnique` — an insert that a uniqueness constraint may refuse
- `orderBy` — the rows in ascending order of a column, ties in insertion order

## Main results

- `mem_updateWhere`, `mem_deleteWhere`, `mem_insertUnique` — the rows after a statement
- `find?_of_nodup` — a unique key finds its row
- `pairwise_orderBy`, `le_getLast?_orderBy` — the order is stable, and what comes last in it
-/

namespace DshOrbit.Lib

variable {Row Key : Type*}

/-- `UPDATE … SET f WHERE p`. -/
def updateWhere (p : Row → Bool) (f : Row → Row) (rows : List Row) : List Row :=
  rows.map fun row => if p row then f row else row

/-- `DELETE … WHERE p`. -/
def deleteWhere (p : Row → Bool) (rows : List Row) : List Row := rows.filter fun row => !p row

/-- `INSERT`, refused where a row with the same key exists. -/
def insertUnique [DecidableEq Key] (key : Row → Key) (row : Row) (rows : List Row) :
    Option (List Row) :=
  if rows.any fun other => key other = key row then none else some (rows ++ [row])

/-- `ORDER BY column ASC`. -/
def orderBy (column : Row → ℤ) (rows : List Row) : List Row :=
  rows.insertionSort fun a b => column a ≤ column b

/-! ### Updates and deletions -/

theorem mem_updateWhere {p : Row → Bool} {f : Row → Row} {rows : List Row} {row : Row} :
    row ∈ updateWhere p f rows ↔
      (row ∈ rows ∧ p row = false) ∨ ∃ old ∈ rows, p old = true ∧ row = f old := by
  simp only [updateWhere, List.mem_map]
  constructor
  · rintro ⟨old, hmem, rfl⟩
    by_cases h : p old = true
    · exact .inr ⟨old, hmem, h, by simp [h]⟩
    · exact .inl ⟨by simpa [h] using hmem, by simp [h]⟩
  · rintro (⟨hmem, h⟩ | ⟨old, hmem, h, rfl⟩)
    · exact ⟨row, hmem, by simp [h]⟩
    · exact ⟨old, hmem, by simp [h]⟩

/-- What an update leaves of a row. -/
theorem mem_updateWhere_of_mem {p : Row → Bool} {f : Row → Row} {rows : List Row} {row : Row}
    (h : row ∈ rows) : (if p row then f row else row) ∈ updateWhere p f rows :=
  List.mem_map_of_mem h

theorem mem_deleteWhere {p : Row → Bool} {rows : List Row} {row : Row} :
    row ∈ deleteWhere p rows ↔ row ∈ rows ∧ p row = false := by
  simp [deleteWhere]

theorem map_updateWhere {Value : Type*} {p : Row → Bool} {f : Row → Row} (g : Row → Value)
    (h : ∀ row, g (f row) = g row) (rows : List Row) :
    (updateWhere p f rows).map g = rows.map g := by
  simp only [updateWhere, List.map_map]
  refine List.map_congr_left fun row _ => ?_
  simp only [Function.comp]
  split_ifs
  · exact h row
  · rfl

theorem updateWhere_eq_self {p : Row → Bool} {f : Row → Row} {rows : List Row}
    (h : ∀ row ∈ rows, p row = false) : updateWhere p f rows = rows := by
  simp only [updateWhere]
  conv_rhs => rw [← List.map_id rows]
  refine List.map_congr_left fun row hrow => ?_
  simp [h row hrow]

/-- One update before others of the same kind, each of which overwrites what it wrote: a
row is as it was, or was updated last by one of them. -/
theorem updateWhere_then {Stamp : Type*} {g : Stamp → Row → Row} {f : Row → Row} {P : Row → Prop}
    (hg : ∀ t t' row, g t (g t' row) = g t row)
    (hf : ∀ row, f row = row ∨ P row ∧ ∃ t, f row = g t row) (p : Row → Bool) (t : Stamp)
    (row : Row) :
    f (if p row then g t row else row) = row ∨
      (p row = true ∨ P row) ∧ ∃ t', f (if p row then g t row else row) = g t' row := by
  by_cases hp : p row = true
  · refine .inr ⟨.inl hp, ?_⟩
    rw [if_pos hp]
    rcases hf (g t row) with heq | ⟨-, t', heq⟩
    · exact ⟨t, heq⟩
    · exact ⟨t', heq.trans (hg t' t row)⟩
  · rw [if_neg hp]
    exact (hf row).imp_right (And.imp_left .inr)

theorem updateWhere_congr {p p' : Row → Bool} {f : Row → Row} {rows : List Row}
    (h : ∀ row ∈ rows, p row = p' row) : updateWhere p f rows = updateWhere p' f rows := by
  refine List.map_congr_left fun row hrow => ?_
  rw [h row hrow]

/-- The selected rows after an update that does not move rows in or out of the selection. -/
theorem filter_updateWhere {p q : Row → Bool} {f : Row → Row} (hf : ∀ row, q (f row) = q row)
    (rows : List Row) : (updateWhere p f rows).filter q = updateWhere p f (rows.filter q) := by
  rw [updateWhere, updateWhere, List.filter_map]
  refine congrArg (List.map _) (congrArg (fun q => rows.filter q) (funext fun row => ?_))
  simp only [Function.comp]
  split_ifs
  · exact hf row
  · rfl

/-- The selected rows after an update of other rows. -/
theorem filter_updateWhere_other {p q : Row → Bool} {f : Row → Row} (hf : ∀ row, q (f row) = q row)
    {rows : List Row} (hother : ∀ row ∈ rows, q row = true → p row = false) :
    (updateWhere p f rows).filter q = rows.filter q := by
  rw [filter_updateWhere hf, updateWhere_eq_self]
  intro row hrow
  obtain ⟨hmem, hq⟩ := List.mem_filter.mp hrow
  exact hother row hmem hq

theorem nodup_deleteWhere {p : Row → Bool} (key : Row → Key) {rows : List Row}
    (h : (rows.map key).Nodup) : ((deleteWhere p rows).map key).Nodup :=
  h.sublist (List.Sublist.map key List.filter_sublist)

/-! ### Inserts and unique keys -/

/-- Two rows of a table with one key are the same row. -/
theorem eq_of_nodup_key {key : Row → Key} {rows : List Row}
    (h : (rows.map key).Nodup) {a b : Row} (ha : a ∈ rows) (hb : b ∈ rows) (heq : key a = key b) : a = b :=
  List.inj_on_of_nodup_map h ha hb heq

section

variable [DecidableEq Key] {key : Row → Key}

theorem insertUnique_eq_some {row : Row} {rows rows' : List Row} :
    insertUnique key row rows = some rows' ↔
      (∀ other ∈ rows, key other ≠ key row) ∧ rows' = rows ++ [row] := by
  unfold insertUnique
  split_ifs with h
  · simp only [List.any_eq_true, decide_eq_true_eq] at h
    obtain ⟨other, hmem, heq⟩ := h
    simp only [false_iff, not_and]
    intro hall
    exact absurd heq (hall other hmem)
  · simp only [List.any_eq_true, decide_eq_true_eq, not_exists, not_and] at h
    simp only [Option.some.injEq]
    constructor
    · intro heq
      exact ⟨h, heq.symm⟩
    · rintro ⟨-, rfl⟩
      rfl

theorem mem_insertUnique {row other : Row} {rows rows' : List Row}
    (h : insertUnique key row rows = some rows') : other ∈ rows' ↔ other ∈ rows ∨ other = row := by
  obtain ⟨-, rfl⟩ := insertUnique_eq_some.mp h
  simp

theorem nodup_insertUnique {row : Row} {rows rows' : List Row}
    (h : insertUnique key row rows = some rows') (hnodup : (rows.map key).Nodup) :
    (rows'.map key).Nodup := by
  obtain ⟨hnew, rfl⟩ := insertUnique_eq_some.mp h
  rw [List.map_append, List.nodup_append]
  refine ⟨hnodup, by simp, ?_⟩
  intro a ha b hb
  obtain ⟨other, hmem, rfl⟩ := List.mem_map.mp ha
  simp only [List.map_cons, List.map_nil, List.mem_singleton] at hb
  rw [hb]
  exact hnew other hmem

theorem find?_of_nodup {rows : List Row} (h : (rows.map key).Nodup) {row : Row} (hrow : row ∈ rows)
    {value : Key} (hvalue : key row = value) :
    (rows.find? fun other => key other = value) = some row := by
  cases hfind : rows.find? fun other => key other = value with
  | none =>
    have := List.find?_eq_none.mp hfind row hrow
    simp [hvalue] at this
  | some other =>
    have hkey := List.find?_some hfind
    simp only [decide_eq_true_eq] at hkey
    rw [eq_of_nodup_key h (List.mem_of_find?_eq_some hfind) hrow (hkey.trans hvalue.symm)]

end

/-- An update that keeps the keys, as a look-up sees it. -/
theorem find?_updateWhere [DecidableEq Key] {key : Row → Key} {rows : List Row} {moved value : Key}
    {f : Row → Row} (hf : ∀ row, key (f row) = key row) :
    (updateWhere (fun row => key row = moved) f rows).find? (fun row => key row = value) =
      (rows.find? fun row => key row = value).map fun row =>
        if value = moved then f row else row := by
  induction rows with
  | nil => rfl
  | cons row rest ih =>
    have hsame : key (if decide (key row = moved) = true then f row else row) = key row := by
      split_ifs
      · exact hf row
      · rfl
    simp only [updateWhere, List.map_cons, List.find?_cons, hsame] at ih ⊢
    by_cases hrow : key row = value
    · simp [hrow]
    · simp only [hrow, decide_false]
      exact ih

/-! ### Counting -/

/-- Updating one row moves a count by what it does to that row. -/
theorem countP_updateWhere_key [DecidableEq Key] {key : Row → Key} {rows : List Row}
    (hnodup : (rows.map key).Nodup) (q : Row → Bool) (f : Row → Row) {row : Row}
    (hrow : row ∈ rows) :
    (updateWhere (fun other => key other = key row) f rows).countP q + (if q row then 1 else 0) =
      rows.countP q + (if q (f row) then 1 else 0) := by
  induction rows with
  | nil => exact absurd hrow List.not_mem_nil
  | cons first rest ih =>
    have hrest := (List.nodup_cons.mp (List.map_cons ▸ hnodup)).2
    have hfirst := (List.nodup_cons.mp (List.map_cons ▸ hnodup)).1
    rw [updateWhere, List.map_cons, List.countP_cons, List.countP_cons, ← updateWhere]
    rcases List.mem_cons.mp hrow with rfl | hmem
    · have hsame : updateWhere (fun other => key other = key row) f rest = rest := by
        apply updateWhere_eq_self
        intro other hother
        rw [decide_eq_false_iff_not]
        intro heq
        exact hfirst (heq ▸ List.mem_map_of_mem hother)
      rw [hsame, decide_eq_true rfl, if_pos rfl]
      omega
    · have hne : key first ≠ key row := by
        intro heq
        exact hfirst (heq ▸ List.mem_map_of_mem hmem)
      have hcount := ih hrest hmem
      rw [decide_eq_false hne, if_neg Bool.false_ne_true]
      omega

/-- Updating all rows of a kind moves them from one count to another. -/
theorem countP_updateWhere (p q : Row → Bool) (f : Row → Row) (rows : List Row) :
    (updateWhere p f rows).countP q =
      rows.countP (fun row => !p row && q row) + rows.countP fun row => p row && q (f row) := by
  induction rows with
  | nil => rfl
  | cons row rest ih =>
    rw [updateWhere, List.map_cons, List.countP_cons, List.countP_cons, List.countP_cons,
      ← updateWhere, ih]
    cases p row
    · simp only [Bool.not_false, Bool.true_and, Bool.false_and, Bool.false_eq_true, if_false]
      omega
    · simp only [Bool.not_true, Bool.true_and, Bool.false_and, Bool.false_eq_true, if_false, if_true]
      omega

/-! ### Order -/

theorem perm_orderBy (column : Row → ℤ) (rows : List Row) : (orderBy column rows).Perm rows :=
  List.perm_insertionSort _ rows

@[simp]
theorem mem_orderBy {column : Row → ℤ} {rows : List Row} {row : Row} :
    row ∈ orderBy column rows ↔ row ∈ rows :=
  (perm_orderBy column rows).mem_iff

@[simp]
theorem length_orderBy (column : Row → ℤ) (rows : List Row) :
    (orderBy column rows).length = rows.length :=
  (perm_orderBy column rows).length_eq

/-- The order of a column, where rows of one value come in the order of their keys. -/
def ByColumn [LT Key] (column : Row → ℤ) (key : Row → Key) (a b : Row) : Prop :=
  column a < column b ∨ column a = column b ∧ key a < key b

theorem pairwise_orderedInsert [Preorder Key] {column : Row → ℤ} {key : Row → Key} {row : Row}
    {rows : List Row} (hrows : rows.Pairwise (ByColumn column key))
    (hrow : ∀ other ∈ rows, key row < key other) :
    (rows.orderedInsert (fun a b => column a ≤ column b) row).Pairwise (ByColumn column key) := by
  induction rows with
  | nil => exact List.pairwise_singleton ..
  | cons first rest ih =>
    obtain ⟨hfirst, hrest⟩ := List.pairwise_cons.mp hrows
    by_cases hle : column row ≤ column first
    · rw [List.orderedInsert_cons, if_pos hle]
      refine List.pairwise_cons.mpr ⟨fun other hother => ?_, hrows⟩
      have hcolumn : column row ≤ column other := by
        rcases List.mem_cons.mp hother with rfl | hmem
        · exact hle
        · exact hle.trans ((hfirst other hmem).elim le_of_lt fun h => h.1.le)
      exact hcolumn.lt_or_eq.imp_right fun heq => ⟨heq, hrow other hother⟩
    · rw [List.orderedInsert_cons, if_neg hle]
      have hafter := ih hrest fun other hother => hrow other (List.mem_cons_of_mem _ hother)
      refine List.pairwise_cons.mpr ⟨fun other hother => ?_, hafter⟩
      rcases (List.mem_orderedInsert _).mp hother with rfl | hmem
      · exact .inl (not_le.mp hle)
      · exact hfirst other hmem

/-- The order is stable: rows of one value keep the order of the table. -/
theorem pairwise_orderBy [Preorder Key] {column : Row → ℤ} {key : Row → Key} {rows : List Row}
    (h : rows.Pairwise fun a b => key a < key b) :
    (orderBy column rows).Pairwise (ByColumn column key) := by
  induction rows with
  | nil => exact List.Pairwise.nil
  | cons row rest ih =>
    obtain ⟨hrow, hrest⟩ := List.pairwise_cons.mp h
    exact pairwise_orderedInsert (ih hrest) fun other hother => hrow other (mem_orderBy.mp hother)

/-- The last row of the order is the last by the column and the key. -/
theorem le_getLast?_orderBy [Preorder Key] {column : Row → ℤ} {key : Row → Key} {rows : List Row}
    {last : Row} (h : rows.Pairwise fun a b => key a < key b)
    (hlast : (orderBy column rows).getLast? = some last) :
    last ∈ rows ∧ ∀ row ∈ rows, row = last ∨ ByColumn column key row last := by
  obtain ⟨init, hinit⟩ := List.getLast?_eq_some_iff.mp hlast
  have hmem : ∀ row, row ∈ rows ↔ row ∈ init ++ [last] := fun row => by rw [← hinit, mem_orderBy]
  have hsorted : (orderBy column rows).Pairwise (ByColumn column key) := pairwise_orderBy h
  rw [hinit] at hsorted
  refine ⟨(hmem last).mpr (List.mem_append_right _ List.mem_cons_self), fun row hrow => ?_⟩
  rcases List.mem_append.mp ((hmem row).mp hrow) with hbefore | heq
  · exact .inr ((List.pairwise_append.mp hsorted).2.2 row hbefore last List.mem_cons_self)
  · exact .inl (List.mem_singleton.mp heq)

end DshOrbit.Lib
