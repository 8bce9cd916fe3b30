import DshOrbit.Qr.Bitstream
import Mathlib.Data.List.ProdSigma

/-!
# The modules of a QR code

How `plugin/qr-svg.mjs` draws a symbol: the function patterns, the codewords along the columns,
and the format information. Every function is given with the modules that it writes, in their
order; the run writes each module of the symbol once.

## Main definitions

- `Matrix` — `matrix` and `isFunction`
- `createBaseMatrix`, `placeDataBits`, `inscribeFormatInfo` — the functions of that name
- `written` — the modules that a symbol is drawn on, in their order

## Main results

- `isFunction_createBaseMatrix` — the modules that are kept free of data
- `nodup_written`, `mem_written` — every module is written once
-/

namespace DshOrbit.Qr

open DshOrbit.Lib

/-- A module by its row and its column. -/
abbrev Cell := ℕ × ℕ

/-- `matrix` and `isFunction`; a module that is not set is `none`. The log has the assignments to
`matrix` in their order. -/
structure Matrix where
  size : ℕ
  modules : Cell → Option Bool := fun _ => none
  isFunction : Cell → Bool := fun _ => false
  log : List (Cell × Bool) := []

/-- Assignments to `matrix`. -/
def writeAll (modules : Cell → Option Bool) (writes : List (Cell × Bool)) : Cell → Option Bool :=
  writes.foldl (fun modules write => Function.update modules write.1 (some write.2)) modules

/-! ### Function patterns -/

namespace Matrix

def setModule (m : Matrix) (write : Cell × Bool) : Matrix :=
  if write.1.1 < m.size ∧ write.1.2 < m.size then
    { m with
      modules := Function.update m.modules write.1 (some write.2)
      isFunction := Function.update m.isFunction write.1 true
      log := m.log ++ [write] }
  else m

def draw (m : Matrix) (writes : List (Cell × Bool)) : Matrix := writes.foldl setModule m

end Matrix

/-- The colour of a module of a finder pattern; `r` and `c` are one more than in the source, where
they begin with the separator at `-1`. -/
def finderColor (r c : ℕ) : Bool :=
  if r = 0 ∨ r = 8 ∨ c = 0 ∨ c = 8 then false
  else r = 1 ∨ r = 7 ∨ c = 1 ∨ c = 7 ∨ (3 ≤ r ∧ r ≤ 5 ∧ 3 ≤ c ∧ c ≤ 5)

/-- The writes of `drawFinder`. What lies outside the symbol is skipped. -/
def finderWrites (size top left : ℕ) : List (Cell × Bool) :=
  (List.range 9 ×ˢ List.range 9).filterMap fun (r, c) =>
    if top + r = 0 ∨ size < top + r ∨ left + c = 0 ∨ size < left + c then none
    else some ((top + r - 1, left + c - 1), finderColor r c)

def timingWrites (size : ℕ) : List (Cell × Bool) :=
  (List.range' 8 (size - 16)).flatMap fun i => [((6, i), i % 2 = 0), ((i, 6), i % 2 = 0)]

/-- The writes of one alignment pattern; `dr` and `dc` are two more than in the source. -/
def alignmentWrites (r c : ℕ) : List (Cell × Bool) :=
  (List.range 5 ×ˢ List.range 5).map fun (dr, dc) =>
    ((r + dr - 2, c + dc - 2), dr = 0 ∨ dr = 4 ∨ dc = 0 ∨ dc = 4 ∨ (dr = 2 ∧ dc = 2))

/-- The loops over the alignment patterns, which skip those in a finder pattern. -/
def drawAlignment (m : Matrix) (coords : List ℕ) : Matrix :=
  coords.foldl (fun m r => coords.foldl (fun m c =>
    if m.isFunction (r, c) then m else m.draw (alignmentWrites r c)) m) m

/-- The modules that are reserved for the format information. -/
def reservedCells (size : ℕ) : List Cell :=
  ((List.range 9).flatMap fun i => [(8, i), (i, 8)]) ++
    (List.range' (size - 8) 8).map (fun i => (8, i)) ++ (List.range' (size - 7) 7).map fun i => (i, 8)

def createBaseMatrix (spec : VersionSpec) : Matrix :=
  let size := spec.size
  let m : Matrix := { size }
  let m := m.draw (finderWrites size 0 0)
  let m := m.draw (finderWrites size 0 (size - 7))
  let m := m.draw (finderWrites size (size - 7) 0)
  let m := m.draw (timingWrites size)
  let m := drawAlignment m spec.align
  let m := m.setModule ((size - 8, 8), true)
  { m with
    isFunction := (reservedCells size).foldl
      (fun isFunction cell => Function.update isFunction cell true) m.isFunction }

/-! ### Data -/

/-- The columns at which the pairs begin: `for (col = size - 1; col > 0; col -= 2)`, where the
body skips the timing column. -/
def columnsFrom : ℕ → ℕ → List ℕ
  | 0, _ => []
  | fuel + 1, col =>
    if col = 0 then []
    else
      let col := if col = 6 then 5 else col
      col :: columnsFrom fuel (col - 2)

/-- The rows of a pair of columns in their order. -/
def rowsOf (size : ℕ) (upward : Bool) : List ℕ :=
  if upward then (List.range size).map fun i => size - 1 - i else List.range size

/-- The modules of a pair of columns. -/
def pairCells (size : ℕ) (upward : Bool) (col : ℕ) : List Cell :=
  (rowsOf size upward).flatMap fun row => [(row, col), (row, col - 1)]

def snakeCells (size : ℕ) : Bool → List ℕ → List Cell
  | _, [] => []
  | upward, col :: rest => pairCells size upward col ++ snakeCells size (!upward) rest

/-- The modules that take the bits, in their order. -/
def dataCells (m : Matrix) : List Cell :=
  (snakeCells m.size true (columnsFrom m.size (m.size - 1))).filter fun cell => !m.isFunction cell

/-- The mask patterns that the module knows. -/
def maskOf (maskIdx : ℕ) (cell : Cell) : Bool :=
  if maskIdx = 1 then cell.1 % 2 = 0 else (cell.1 + cell.2) % 2 = 0

/-- The masked bits, and zeroes behind them. -/
def dataWrites (maskIdx : ℕ) : List Cell → List Bool → List (Cell × Bool)
  | [], _ => []
  | cell :: rest, bits =>
    (cell, (bits.headD false).xor (maskOf maskIdx cell)) :: dataWrites maskIdx rest bits.tail

def placeDataBits (m : Matrix) (allCodewords : List UInt8) (maskIdx : ℕ) : Matrix :=
  let writes := dataWrites maskIdx (dataCells m) (byteBits allCodewords)
  { m with modules := writeAll m.modules writes, log := m.log ++ writes }

/-! ### Format information -/

def computeFormatBits (ecLevel : EcLevel) (mask : ℕ) : ℕ :=
  let levelBits := match ecLevel with
    | .M => 0b00
    | .L => 0b01
  let data := (levelBits <<< 3) ||| mask
  let rem := (List.range 5).foldl
    (fun rem k => if (rem >>> (14 - k)) &&& 1 ≠ 0 then rem ^^^ (0x537 <<< (4 - k)) else rem)
    (data <<< 10)
  ((data <<< 10) ||| rem) ^^^ 0x5412

/-- The modules of the format information with the bits that they take. -/
def formatCells (size : ℕ) : List (Cell × ℕ) :=
  ((List.range 6).map fun i => ((8, i), 14 - i)) ++ [((8, 7), 8), ((8, 8), 7), ((7, 8), 6)] ++
    ((List.range 6).map fun i => ((5 - i, 8), i)) ++
    ((List.range 7).map fun i => ((size - 1 - i, 8), i)) ++
    ((List.range 8).map fun i => ((8, size - 8 + i), 7 + i))

def formatWrites (size formatBits : ℕ) : List (Cell × Bool) :=
  (formatCells size).map fun (cell, idx) => (cell, formatBits.testBit idx)

def inscribeFormatInfo (m : Matrix) (formatBits : ℕ) : Matrix :=
  let writes := formatWrites m.size formatBits
  { m with modules := writeAll m.modules writes, log := m.log ++ writes }

/-! ### The symbol -/

/-- The writes of the function patterns, in their order. -/
def patternWrites (spec : VersionSpec) : List (Cell × Bool) :=
  finderWrites spec.size 0 0 ++ finderWrites spec.size 0 (spec.size - 7) ++
    finderWrites spec.size (spec.size - 7) 0 ++ timingWrites spec.size ++
    (spec.align.tail.flatMap fun p => alignmentWrites p p) ++ [((spec.size - 8, 8), true)]

/-- The modules that are written while a symbol is drawn, in their order. -/
def written (spec : VersionSpec) : List Cell :=
  (patternWrites spec).map Prod.fst ++ dataCells (createBaseMatrix spec) ++
    (formatCells spec.size).map Prod.fst

/-! ### Writes -/

variable {modules : Cell → Option Bool} {writes : List (Cell × Bool)} {cell : Cell}

theorem writeAll_append (modules : Cell → Option Bool) (writes others : List (Cell × Bool)) :
    writeAll modules (writes ++ others) = writeAll (writeAll modules writes) others :=
  List.foldl_append

theorem writeAll_of_notMem (h : cell ∉ writes.map Prod.fst) :
    writeAll modules writes cell = modules cell := by
  induction writes generalizing modules with
  | nil => rfl
  | cons write rest ih =>
    rw [List.map_cons, List.mem_cons, not_or] at h
    rw [writeAll, List.foldl_cons, ← writeAll, ih h.2, Function.update_of_ne h.1]

/-- A module that is written once keeps what was written. -/
theorem writeAll_of_mem (hnodup : (writes.map Prod.fst).Nodup) {val : Bool}
    (h : (cell, val) ∈ writes) : writeAll modules writes cell = some val := by
  induction writes generalizing modules with
  | nil => exact absurd h List.not_mem_nil
  | cons write rest ih =>
    rw [List.map_cons, List.nodup_cons] at hnodup
    rw [writeAll, List.foldl_cons, ← writeAll]
    obtain rfl | h := List.mem_cons.mp h
    · rw [writeAll_of_notMem hnodup.1, Function.update_self]
    · exact ih hnodup.2 h

/-- Drawing within the symbol. -/
theorem draw_eq {m : Matrix} (h : ∀ cell ∈ writes.map Prod.fst, cell.1 < m.size ∧ cell.2 < m.size) :
    m.draw writes =
      { m with
        modules := writeAll m.modules writes
        isFunction := fun cell => m.isFunction cell || decide (cell ∈ writes.map Prod.fst)
        log := m.log ++ writes } := by
  induction writes generalizing m with
  | nil => simp [Matrix.draw, writeAll]
  | cons write rest ih =>
    rw [List.map_cons, List.forall_mem_cons] at h
    have hrest := ih (m := m.setModule write) (by rw [Matrix.setModule, if_pos h.1]; exact h.2)
    rw [Matrix.draw, List.foldl_cons, ← Matrix.draw, hrest, Matrix.setModule, if_pos h.1]
    refine congrArg₂ (Matrix.mk m.size _) (funext fun cell => ?_) (List.append_cons ..).symm
    by_cases hcell : cell = write.1
    · subst hcell
      simp
    · simp [hcell]

theorem foldl_update_true (cells : List Cell) (isFunction : Cell → Bool) (cell : Cell) :
    cells.foldl (fun isFunction cell => Function.update isFunction cell true) isFunction cell =
      (isFunction cell || decide (cell ∈ cells)) := by
  induction cells generalizing isFunction with
  | nil => simp
  | cons first rest ih =>
    rw [List.foldl_cons, ih]
    by_cases hcell : cell = first
    · subst hcell
      simp
    · simp [hcell]

/-! ### Where the patterns are -/

theorem mem_finderWrites {size top left : ℕ} :
    cell ∈ (finderWrites size top left).map Prod.fst ↔
      top ≤ cell.1 + 1 ∧ cell.1 ≤ top + 7 ∧ cell.1 < size ∧
        left ≤ cell.2 + 1 ∧ cell.2 ≤ left + 7 ∧ cell.2 < size := by
  obtain ⟨row, col⟩ := cell
  rw [finderWrites, List.map_filterMap, List.mem_filterMap]
  constructor
  · rintro ⟨⟨r, c⟩, hmem, hsome⟩
    rw [List.mem_product, List.mem_range, List.mem_range] at hmem
    dsimp only at hsome
    split_ifs at hsome with hskip
    · cases hsome
    · rw [Option.map_some, Option.some.injEq, Prod.mk.injEq] at hsome
      dsimp only at hmem hsome ⊢
      omega
  · intro h
    dsimp only at h
    refine ⟨(row + 1 - top, col + 1 - left), ?_, ?_⟩
    · rw [List.mem_product, List.mem_range, List.mem_range]
      omega
    · dsimp only
      rw [if_neg (by omega), Option.map_some, Option.some.injEq, Prod.mk.injEq]
      omega

theorem nodup_finderWrites (size top left : ℕ) :
    ((finderWrites size top left).map Prod.fst).Nodup := by
  rw [finderWrites, List.map_filterMap]
  refine List.Nodup.filterMap ?_ (List.nodup_range.product List.nodup_range)
  rintro ⟨r, c⟩ ⟨r', c'⟩ ⟨row, col⟩ h h'
  rw [Option.mem_def] at h h'
  dsimp only at h h'
  split_ifs at h h'
  · cases h
  · cases h
  · cases h'
  · rw [Option.map_some, Option.some.injEq, Prod.mk.injEq] at h h'
    rw [Prod.mk.injEq]
    omega

theorem mem_timingWrites {size : ℕ} :
    cell ∈ (timingWrites size).map Prod.fst ↔
      (cell.1 = 6 ∧ 8 ≤ cell.2 ∧ cell.2 + 8 < size) ∨
        (cell.2 = 6 ∧ 8 ≤ cell.1 ∧ cell.1 + 8 < size) := by
  obtain ⟨row, col⟩ := cell
  simp only [timingWrites, List.map_flatMap, List.mem_flatMap, List.mem_range'_1, List.map_cons,
    List.map_nil, List.mem_cons, List.not_mem_nil, or_false, Prod.mk.injEq]
  constructor
  · rintro ⟨i, hi, ⟨rfl, rfl⟩ | ⟨rfl, rfl⟩⟩
    · exact .inl (by omega)
    · exact .inr (by omega)
  · rintro (⟨rfl, hcol⟩ | ⟨rfl, hrow⟩)
    · exact ⟨col, by omega, .inl ⟨rfl, rfl⟩⟩
    · exact ⟨row, by omega, .inr ⟨rfl, rfl⟩⟩

theorem nodup_timingWrites (size : ℕ) : ((timingWrites size).map Prod.fst).Nodup := by
  rw [timingWrites, List.map_flatMap, List.nodup_flatMap]
  constructor
  · intro i hi
    rw [List.mem_range'_1] at hi
    simp only [List.map_cons, List.map_nil, List.nodup_cons, List.mem_singleton, Prod.mk.injEq,
      List.not_mem_nil, not_false_eq_true, List.nodup_nil, and_true]
    omega
  · have hrange : (List.range' 8 (size - 16)).Nodup := List.nodup_range'
    refine hrange.imp_of_mem fun {i j} hi hj hne => ?_
    rw [List.mem_range'_1] at hi hj
    rintro ⟨row, col⟩ h h'
    simp only [List.map_cons, List.map_nil, List.mem_cons, List.not_mem_nil, or_false,
      Prod.mk.injEq] at h h'
    omega

theorem mem_alignmentWrites {p q : ℕ} (hp : 2 ≤ p) (hq : 2 ≤ q) :
    cell ∈ (alignmentWrites p q).map Prod.fst ↔
      p ≤ cell.1 + 2 ∧ cell.1 ≤ p + 2 ∧ q ≤ cell.2 + 2 ∧ cell.2 ≤ q + 2 := by
  obtain ⟨row, col⟩ := cell
  rw [alignmentWrites, List.map_map, List.mem_map]
  constructor
  · rintro ⟨⟨dr, dc⟩, hmem, heq⟩
    rw [List.mem_product, List.mem_range, List.mem_range] at hmem
    simp only [Function.comp_apply, Prod.mk.injEq] at heq
    dsimp only at hmem ⊢
    omega
  · intro h
    dsimp only at h
    refine ⟨(row + 2 - p, col + 2 - q), ?_, ?_⟩
    · rw [List.mem_product, List.mem_range, List.mem_range]
      omega
    · simp only [Function.comp_apply, Prod.mk.injEq]
      omega

theorem nodup_alignmentWrites {p q : ℕ} (hp : 2 ≤ p) (hq : 2 ≤ q) :
    ((alignmentWrites p q).map Prod.fst).Nodup := by
  rw [alignmentWrites, List.map_map]
  refine (List.nodup_range.product List.nodup_range).map_on ?_
  rintro ⟨dr, dc⟩ - ⟨dr', dc'⟩ - h
  simp only [Function.comp_apply, Prod.mk.injEq] at h
  rw [Prod.mk.injEq]
  omega

theorem mem_reservedCells {size : ℕ} (hsize : 8 ≤ size) :
    cell ∈ reservedCells size ↔
      (cell.1 = 8 ∧ (cell.2 < 9 ∨ (size ≤ cell.2 + 8 ∧ cell.2 < size))) ∨
        (cell.2 = 8 ∧ (cell.1 < 9 ∨ (size ≤ cell.1 + 7 ∧ cell.1 < size))) := by
  obtain ⟨row, col⟩ := cell
  simp only [reservedCells, List.mem_append, List.mem_flatMap, List.mem_range, List.mem_map,
    List.mem_range'_1, List.mem_cons, List.not_mem_nil, or_false, Prod.mk.injEq]
  constructor
  · rintro ((⟨i, hi, ⟨rfl, rfl⟩ | ⟨rfl, rfl⟩⟩ | ⟨i, hi, rfl, rfl⟩) | ⟨i, hi, rfl, rfl⟩) <;> omega
  · rintro (⟨rfl, hcol | hcol⟩ | ⟨rfl, hrow | hrow⟩)
    · exact .inl (.inl ⟨col, hcol, .inl ⟨rfl, rfl⟩⟩)
    · exact .inl (.inr ⟨col, by omega, rfl, rfl⟩)
    · exact .inl (.inl ⟨row, hrow, .inr ⟨rfl, rfl⟩⟩)
    · exact .inr ⟨row, by omega, rfl, rfl⟩

/-! ### Where the format information is -/

theorem mem_formatCells {size : ℕ} (hsize : 17 ≤ size) :
    cell ∈ (formatCells size).map Prod.fst ↔
      (cell.1 = 8 ∧ (cell.2 < 6 ∨ cell.2 = 7 ∨ cell.2 = 8 ∨ (size ≤ cell.2 + 8 ∧ cell.2 < size))) ∨
        (cell.2 = 8 ∧ (cell.1 < 6 ∨ cell.1 = 7 ∨ (size ≤ cell.1 + 7 ∧ cell.1 < size))) := by
  obtain ⟨row, col⟩ := cell
  simp only [formatCells, List.map_append, List.map_map, List.mem_append, List.mem_map,
    List.mem_range, List.map_cons, List.map_nil, List.mem_cons, List.not_mem_nil, or_false,
    Function.comp_apply, Prod.mk.injEq]
  constructor
  · rintro ((((⟨i, hi, rfl, rfl⟩ | h) | ⟨i, hi, rfl, rfl⟩) | ⟨i, hi, rfl, rfl⟩) | ⟨i, hi, rfl, rfl⟩)
      <;> omega
  · rintro (⟨rfl, hcol | hcol | hcol | hcol⟩ | ⟨rfl, hrow | hrow | hrow⟩)
    · exact .inl (.inl (.inl (.inl ⟨col, hcol, rfl, rfl⟩)))
    · exact .inl (.inl (.inl (.inr (.inl ⟨rfl, hcol⟩))))
    · exact .inl (.inl (.inl (.inr (.inr (.inl ⟨rfl, hcol⟩)))))
    · exact .inr ⟨col + 8 - size, by omega, rfl, by omega⟩
    · exact .inl (.inl (.inr ⟨5 - row, by omega, by omega, rfl⟩))
    · exact .inl (.inl (.inl (.inr (.inr (.inr ⟨hrow, rfl⟩)))))
    · exact .inl (.inr ⟨size - 1 - row, by omega, by omega, rfl⟩)

theorem nodup_map_range {n : ℕ} {f : ℕ → Cell} (hf : ∀ i < n, ∀ j < n, f i = f j → i = j) :
    ((List.range n).map f).Nodup :=
  List.nodup_range.map_on fun i hi j hj h => hf i (List.mem_range.mp hi) j (List.mem_range.mp hj) h

theorem nodup_formatCells {size : ℕ} (hsize : 17 ≤ size) :
    ((formatCells size).map Prod.fst).Nodup := by
  simp only [formatCells, List.map_append, List.map_map, List.map_cons, List.map_nil]
  refine List.Nodup.append (List.Nodup.append (List.Nodup.append
    (List.Nodup.append ?_ (by simp) ?_) ?_ ?_) ?_ ?_) ?_ ?_
  case refine_1 => exact nodup_map_range fun i _ j _ h => (Prod.mk.inj h).2
  case refine_3 =>
    refine nodup_map_range fun i hi j hj h => ?_
    have heq : 5 - i = 5 - j := (Prod.mk.inj h).1
    omega
  case refine_5 =>
    refine nodup_map_range fun i hi j hj h => ?_
    have heq : size - 1 - i = size - 1 - j := (Prod.mk.inj h).1
    omega
  case refine_7 =>
    refine nodup_map_range fun i hi j hj h => ?_
    have heq : size - 8 + i = size - 8 + j := (Prod.mk.inj h).2
    omega
  all_goals
    rintro ⟨row, col⟩ h h'
    simp only [List.mem_append, List.mem_map, List.mem_range, List.mem_cons, List.not_mem_nil,
      or_false, Function.comp_apply, Prod.mk.injEq] at h h'
    grind

/-! ### The base matrix -/

/-- What the table says of the size and of the alignment pattern of a version. -/
structure Proper (spec : VersionSpec) : Prop where
  size : spec.size = 17 + 4 * spec.version
  version : 1 ≤ spec.version
  align : (spec.version = 1 ∧ spec.align = []) ∨
    (2 ≤ spec.version ∧ spec.align = [6, spec.size - 7])

theorem proper_of_mem {spec : VersionSpec} (h : spec ∈ versionSpecs) : Proper spec := by
  have htable : ∀ spec ∈ versionSpecs, spec.size = 17 + 4 * spec.version ∧ 1 ≤ spec.version ∧
      ((spec.version = 1 ∧ spec.align = []) ∨
        (2 ≤ spec.version ∧ spec.align = [6, spec.size - 7])) := by decide
  obtain ⟨hsize, hversion, halign⟩ := htable spec h
  exact ⟨hsize, hversion, halign⟩

theorem Proper.le_size {spec : VersionSpec} (h : Proper spec) : 21 ≤ spec.size := by
  have hsize := h.size
  have hversion := h.version
  omega

variable {spec : VersionSpec}

/-- The modules of the finder patterns, with their separators. -/
def InFinder (size : ℕ) (cell : Cell) : Prop :=
  (cell.1 < 8 ∧ cell.2 < 8) ∨ (cell.1 < 8 ∧ size ≤ cell.2 + 8 ∧ cell.2 < size) ∨
    (cell.2 < 8 ∧ size ≤ cell.1 + 8 ∧ cell.1 < size)

def InTiming (size : ℕ) (cell : Cell) : Prop :=
  (cell.1 = 6 ∧ 8 ≤ cell.2 ∧ cell.2 + 8 < size) ∨ (cell.2 = 6 ∧ 8 ≤ cell.1 ∧ cell.1 + 8 < size)

/-- The modules of the alignment pattern, which the first version does not have. -/
def InAlignment (spec : VersionSpec) (cell : Cell) : Prop :=
  spec.version ≠ 1 ∧ spec.size ≤ cell.1 + 9 ∧ cell.1 + 5 ≤ spec.size ∧ spec.size ≤ cell.2 + 9 ∧
    cell.2 + 5 ≤ spec.size

/-- The writes of the finder patterns. -/
def finders (size : ℕ) : List (Cell × Bool) :=
  finderWrites size 0 0 ++ finderWrites size 0 (size - 7) ++ finderWrites size (size - 7) 0

theorem mem_finders {size : ℕ} (hsize : 21 ≤ size) :
    cell ∈ (finders size).map Prod.fst ↔ InFinder size cell := by
  rw [finders, List.map_append, List.map_append, List.mem_append, List.mem_append, InFinder, or_assoc]
  refine or_congr ?_ (or_congr ?_ ?_)
  all_goals
    rw [mem_finderWrites]
    omega

theorem nodup_finders {size : ℕ} (hsize : 21 ≤ size) : ((finders size).map Prod.fst).Nodup := by
  rw [finders, List.map_append, List.map_append]
  refine List.Nodup.append (List.Nodup.append (nodup_finderWrites size 0 0)
    (nodup_finderWrites size 0 (size - 7)) ?_) (nodup_finderWrites size (size - 7) 0) ?_
  · intro cell h h'
    rw [mem_finderWrites] at h h'
    omega
  · intro cell h h'
    rw [List.mem_append, mem_finderWrites, mem_finderWrites] at h
    rw [mem_finderWrites] at h'
    omega

theorem mem_aligned (h : Proper spec) :
    cell ∈ (spec.align.tail.flatMap fun p => alignmentWrites p p).map Prod.fst ↔
      InAlignment spec cell := by
  have hsize := h.size
  rw [InAlignment]
  obtain ⟨hversion, halign⟩ | ⟨hversion, halign⟩ := h.align
  · rw [halign]
    exact iff_of_false List.not_mem_nil fun hnot => hnot.1 hversion
  · rw [halign, List.tail_cons, List.flatMap_cons, List.flatMap_nil, List.append_nil,
      mem_alignmentWrites (by omega) (by omega)]
    omega

theorem nodup_aligned (h : Proper spec) :
    ((spec.align.tail.flatMap fun p => alignmentWrites p p).map Prod.fst).Nodup := by
  have hsize := h.size
  obtain ⟨hversion, halign⟩ | ⟨hversion, halign⟩ := h.align
  · rw [halign]
    exact List.nodup_nil
  · rw [halign, List.tail_cons, List.flatMap_cons, List.flatMap_nil, List.append_nil]
    exact nodup_alignmentWrites (by omega) (by omega)

theorem mem_patternWrites (h : Proper spec) :
    cell ∈ (patternWrites spec).map Prod.fst ↔
      ((InFinder spec.size cell ∨ InTiming spec.size cell) ∨ InAlignment spec cell) ∨
        cell = (spec.size - 8, 8) := by
  rw [patternWrites, List.map_append, List.map_append, List.map_append, List.mem_append,
    List.mem_append, List.mem_append, ← finders, mem_finders h.le_size, mem_timingWrites,
    mem_aligned h]
  refine or_congr Iff.rfl ?_
  exact List.mem_singleton

theorem patternWrites_inside (h : Proper spec) :
    ∀ cell ∈ (patternWrites spec).map Prod.fst, cell.1 < spec.size ∧ cell.2 < spec.size := by
  have hsize := h.le_size
  intro cell hcell
  obtain ((hcell | hcell) | hcell) | rfl := (mem_patternWrites h).mp hcell
  · rw [InFinder] at hcell
    omega
  · rw [InTiming] at hcell
    omega
  · rw [InAlignment] at hcell
    omega
  · dsimp only
    omega

theorem nodup_patternWrites (h : Proper spec) : ((patternWrites spec).map Prod.fst).Nodup := by
  have hsize := h.le_size
  rw [patternWrites, List.map_append, List.map_append, List.map_append, ← finders]
  refine List.Nodup.append (List.Nodup.append (List.Nodup.append (nodup_finders hsize)
    (nodup_timingWrites _) ?_) (nodup_aligned h) ?_) (List.nodup_singleton _) ?_
  · intro cell hfinder htiming
    rw [mem_finders hsize, InFinder] at hfinder
    rw [mem_timingWrites] at htiming
    omega
  · intro cell hpattern haligned
    rw [List.mem_append, mem_finders hsize, mem_timingWrites, InFinder] at hpattern
    rw [mem_aligned h, InAlignment] at haligned
    omega
  · intro cell hpattern hdark
    rw [List.mem_append, List.mem_append, mem_finders hsize, mem_timingWrites, mem_aligned h, InFinder,
      InAlignment] at hpattern
    rw [List.map_singleton, List.mem_singleton] at hdark
    subst hdark
    dsimp only at hpattern
    omega

theorem draw_append (m : Matrix) (writes others : List (Cell × Bool)) :
    (m.draw writes).draw others = m.draw (writes ++ others) :=
  List.foldl_append.symm

theorem drawAlignment_two {m : Matrix} {p : ℕ} (hupper : m.isFunction (6, 6) = true)
    (hright : m.isFunction (6, p) = true) (hlower : m.isFunction (p, 6) = true)
    (hfree : ¬m.isFunction (p, p) = true) :
    drawAlignment m [6, p] = m.draw (alignmentWrites p p) := by
  simp only [drawAlignment, List.foldl_cons, List.foldl_nil, hupper, hright, hlower, hfree, if_true]
  rfl

/-- Of the alignment patterns the one that is in no finder pattern is drawn. -/
theorem drawAlignment_eq (h : Proper spec) :
    drawAlignment (({ size := spec.size } : Matrix).draw (finders spec.size ++ timingWrites spec.size))
        spec.align =
      ({ size := spec.size } : Matrix).draw (finders spec.size ++ timingWrites spec.size ++
        spec.align.tail.flatMap fun p => alignmentWrites p p) := by
  have hsize := h.size
  have hle := h.le_size
  have hinside : ∀ cell ∈ (finders spec.size ++ timingWrites spec.size).map Prod.fst,
      cell.1 < spec.size ∧ cell.2 < spec.size := by
    intro cell hcell
    refine patternWrites_inside h cell ?_
    rw [patternWrites, ← finders, List.map_append, List.map_append]
    exact List.mem_append_left _ (List.mem_append_left _ hcell)
  have hfunction (cell : Cell) : (({ size := spec.size } : Matrix).draw
      (finders spec.size ++ timingWrites spec.size)).isFunction cell = true ↔
        InFinder spec.size cell ∨ InTiming spec.size cell := by
    rw [draw_eq hinside]
    dsimp only
    rw [Bool.false_or, decide_eq_true_eq, List.map_append, List.mem_append, mem_finders hle,
      mem_timingWrites, InTiming]
  obtain ⟨-, halign⟩ | ⟨hversion, halign⟩ := h.align
  · rw [halign, List.tail_nil, List.flatMap_nil, List.append_nil]
    rfl
  · have hupper := (hfunction (6, 6)).mpr (.inl (by rw [InFinder]; omega))
    have hright := (hfunction (6, spec.size - 7)).mpr (.inl (by rw [InFinder]; omega))
    have hlower := (hfunction (spec.size - 7, 6)).mpr (.inl (by rw [InFinder]; omega))
    have hfree := mt (hfunction (spec.size - 7, spec.size - 7)).mp (by rw [InFinder, InTiming]; omega)
    rw [halign, drawAlignment_two hupper hright hlower hfree, List.tail_cons, List.flatMap_cons,
      List.flatMap_nil, List.append_nil, draw_append]

theorem createBaseMatrix_eq (h : Proper spec) :
    createBaseMatrix spec =
      { size := spec.size
        modules := writeAll (fun _ => none) (patternWrites spec)
        isFunction := fun cell => decide (cell ∈ (patternWrites spec).map Prod.fst) ||
          decide (cell ∈ reservedCells spec.size)
        log := patternWrites spec } := by
  have hpatterns : (drawAlignment (((({ size := spec.size } : Matrix).draw
      (finderWrites spec.size 0 0)).draw (finderWrites spec.size 0 (spec.size - 7))).draw
        (finderWrites spec.size (spec.size - 7) 0) |>.draw (timingWrites spec.size))
          spec.align).setModule ((spec.size - 8, 8), true) =
      ({ size := spec.size } : Matrix).draw (patternWrites spec) := by
    have hfinders : ((({ size := spec.size } : Matrix).draw (finderWrites spec.size 0 0)).draw
        (finderWrites spec.size 0 (spec.size - 7))).draw (finderWrites spec.size (spec.size - 7) 0) =
        ({ size := spec.size } : Matrix).draw (finders spec.size) := by
      rw [draw_append, draw_append, finders, List.append_assoc]
    rw [hfinders, draw_append, drawAlignment_eq h]
    exact draw_append _ _ [((spec.size - 8, 8), true)]
  rw [createBaseMatrix]
  rw [hpatterns, draw_eq (patternWrites_inside h)]
  refine congrArg₂ (Matrix.mk spec.size _) (funext fun cell => ?_) (List.nil_append _)
  rw [foldl_update_true]
  rfl

/-- The modules that are kept free of data. -/
theorem isFunction_createBaseMatrix (h : Proper spec) (cell : Cell) :
    (createBaseMatrix spec).isFunction cell = true ↔
      cell ∈ (patternWrites spec).map Prod.fst ∨ cell ∈ reservedCells spec.size := by
  rw [createBaseMatrix_eq h]
  simp only [Bool.or_eq_true, decide_eq_true_eq]

/-! ### The columns -/

/-- What the loop over the columns makes of a version. -/
structure Columns (size : ℕ) (cols : List ℕ) : Prop where
  apart : cols.Pairwise fun col other => other + 2 ≤ col
  inside : ∀ col ∈ cols, 1 ≤ col ∧ col < size
  all : ∀ c < size, c ≠ 6 → ∃ col ∈ cols, c = col ∨ c + 1 = col

theorem columns_of_mem (h : spec ∈ versionSpecs) :
    Columns spec.size (columnsFrom spec.size (spec.size - 1)) := by
  have htable : ∀ spec ∈ versionSpecs,
      (columnsFrom spec.size (spec.size - 1)).Pairwise (fun col other => other + 2 ≤ col) ∧
        (∀ col ∈ columnsFrom spec.size (spec.size - 1), 1 ≤ col ∧ col < spec.size) ∧
        ∀ c < spec.size, c ≠ 6 → ∃ col ∈ columnsFrom spec.size (spec.size - 1),
          c = col ∨ c + 1 = col := by decide +kernel
  obtain ⟨hapart, hinside, hall⟩ := htable spec h
  exact ⟨hapart, hinside, hall⟩

variable {size : ℕ}

theorem mem_pairCells {upward : Bool} {col : ℕ} :
    cell ∈ pairCells size upward col ↔ cell.1 < size ∧ (cell.2 = col ∨ cell.2 = col - 1) := by
  obtain ⟨row, c⟩ := cell
  have hrows : row ∈ rowsOf size upward ↔ row < size := by
    rw [rowsOf]
    split_ifs
    · rw [List.mem_map]
      constructor
      · rintro ⟨i, hi, rfl⟩
        rw [List.mem_range] at hi
        omega
      · intro hrow
        exact ⟨size - 1 - row, List.mem_range.mpr (by omega), by omega⟩
    · exact List.mem_range
  simp only [pairCells, List.mem_flatMap, List.mem_cons, List.not_mem_nil, or_false, Prod.mk.injEq]
  constructor
  · rintro ⟨row', hrow', ⟨rfl, rfl⟩ | ⟨rfl, rfl⟩⟩
    · exact ⟨hrows.mp hrow', .inl rfl⟩
    · exact ⟨hrows.mp hrow', .inr rfl⟩
  · rintro ⟨hrow, rfl | rfl⟩
    · exact ⟨row, hrows.mpr hrow, .inl ⟨rfl, rfl⟩⟩
    · exact ⟨row, hrows.mpr hrow, .inr ⟨rfl, rfl⟩⟩

theorem nodup_pairCells (upward : Bool) {col : ℕ} (hcol : 1 ≤ col) :
    (pairCells size upward col).Nodup := by
  have hrows : (rowsOf size upward).Nodup := by
    rw [rowsOf]
    split_ifs
    · refine List.nodup_range.map_on fun i hi j hj heq => ?_
      rw [List.mem_range] at hi hj
      omega
    · exact List.nodup_range
  rw [pairCells, List.nodup_flatMap]
  constructor
  · intro row _
    rw [List.nodup_cons, List.mem_singleton, Prod.mk.injEq]
    exact ⟨by omega, List.nodup_singleton _⟩
  · refine hrows.imp fun {row other} hne => ?_
    rintro ⟨r, c⟩ h h'
    simp only [List.mem_cons, List.not_mem_nil, or_false, Prod.mk.injEq] at h h'
    omega

theorem mem_snakeCells {upward : Bool} {cols : List ℕ} :
    cell ∈ snakeCells size upward cols ↔
      cell.1 < size ∧ ∃ col ∈ cols, cell.2 = col ∨ cell.2 = col - 1 := by
  induction cols generalizing upward with
  | nil => exact iff_of_false List.not_mem_nil fun ⟨_, _, hcol, _⟩ => absurd hcol List.not_mem_nil
  | cons col rest ih =>
    rw [snakeCells, List.mem_append, mem_pairCells, ih, List.exists_mem_cons_iff]
    exact and_or_left.symm

theorem nodup_snakeCells (upward : Bool) {cols : List ℕ}
    (hapart : cols.Pairwise fun col other => other + 2 ≤ col) (hcols : ∀ col ∈ cols, 1 ≤ col) :
    (snakeCells size upward cols).Nodup := by
  induction cols generalizing upward with
  | nil => exact List.nodup_nil
  | cons col rest ih =>
    rw [List.pairwise_cons] at hapart
    rw [List.forall_mem_cons] at hcols
    rw [snakeCells]
    refine List.Nodup.append (nodup_pairCells upward hcols.1) (ih _ hapart.2 hcols.2) ?_
    intro cell h h'
    rw [mem_pairCells] at h
    obtain ⟨-, other, hother, hcell⟩ := mem_snakeCells.mp h'
    have hdistance := hapart.1 other hother
    omega

/-! ### Every module is written once -/

theorem mem_dataCells (hmem : spec ∈ versionSpecs) :
    cell ∈ dataCells (createBaseMatrix spec) ↔
      cell.1 < spec.size ∧ cell.2 < spec.size ∧
        ¬(cell ∈ (patternWrites spec).map Prod.fst ∨ cell ∈ reservedCells spec.size) := by
  have h := proper_of_mem hmem
  have hcolumns := columns_of_mem hmem
  have hsize : (createBaseMatrix spec).size = spec.size := by rw [createBaseMatrix_eq h]
  rw [dataCells, List.mem_filter, hsize, mem_snakeCells, Bool.not_eq_true', Bool.eq_false_iff, Ne,
    isFunction_createBaseMatrix h, and_assoc]
  refine and_congr_right fun hrow => and_congr_left fun hfree => ?_
  constructor
  · rintro ⟨col, hcol, hcell⟩
    have hinside := hcolumns.inside col hcol
    omega
  · intro hcol
    obtain ⟨row, c⟩ := cell
    have htiming : c ≠ 6 := by
      rintro rfl
      refine hfree (.inl ((mem_patternWrites h).mpr (.inl (.inl ?_))))
      rw [InFinder, InTiming]
      dsimp only at hrow ⊢
      omega
    obtain ⟨col, hmem, hcell⟩ := hcolumns.all c hcol htiming
    exact ⟨col, hmem, hcell.imp_right fun heq => by dsimp only; omega⟩

theorem nodup_dataCells (hmem : spec ∈ versionSpecs) : (dataCells (createBaseMatrix spec)).Nodup := by
  have hcolumns := columns_of_mem hmem
  have hsize : (createBaseMatrix spec).size = spec.size := by
    rw [createBaseMatrix_eq (proper_of_mem hmem)]
  rw [dataCells, hsize]
  exact (nodup_snakeCells true hcolumns.apart fun col hcol => (hcolumns.inside col hcol).1).filter _

/-- No module is written twice. -/
theorem nodup_written (hmem : spec ∈ versionSpecs) : (written spec).Nodup := by
  have h := proper_of_mem hmem
  have hsize := h.le_size
  rw [written]
  refine List.Nodup.append (List.Nodup.append (nodup_patternWrites h) (nodup_dataCells hmem) ?_)
    (nodup_formatCells (by omega)) ?_
  · intro cell hpattern hdata
    exact ((mem_dataCells hmem).mp hdata).2.2 (.inl hpattern)
  · intro cell hearlier hformat
    have hformat' := (mem_formatCells (by omega)).mp hformat
    obtain hpattern | hdata := List.mem_append.mp hearlier
    · obtain ((hpattern | hpattern) | hpattern) | rfl := (mem_patternWrites h).mp hpattern
      · rw [InFinder] at hpattern
        omega
      · rw [InTiming] at hpattern
        omega
      · rw [InAlignment] at hpattern
        omega
      · dsimp only at hformat'
        omega
    · refine ((mem_dataCells hmem).mp hdata).2.2 (.inr ?_)
      rw [mem_reservedCells (by omega)]
      omega

/-- Every module is written. -/
theorem mem_written (hmem : spec ∈ versionSpecs) :
    cell ∈ written spec ↔ cell.1 < spec.size ∧ cell.2 < spec.size := by
  have h := proper_of_mem hmem
  have hsize := h.le_size
  rw [written, List.mem_append, List.mem_append, mem_dataCells hmem]
  constructor
  · rintro ((hpattern | hdata) | hformat)
    · exact patternWrites_inside h cell hpattern
    · exact ⟨hdata.1, hdata.2.1⟩
    · rw [mem_formatCells (by omega)] at hformat
      omega
  · rintro ⟨hrow, hcol⟩
    by_cases hfree : cell ∈ (patternWrites spec).map Prod.fst ∨ cell ∈ reservedCells spec.size
    · obtain hpattern | hreserved := hfree
      · exact .inl (.inl hpattern)
      · by_cases htiming : InTiming spec.size cell
        · exact .inl (.inl ((mem_patternWrites h).mpr (.inl (.inl (.inr htiming)))))
        · rw [mem_reservedCells (by omega)] at hreserved
          rw [InTiming] at htiming
          refine .inr ((mem_formatCells (by omega)).mpr ?_)
          omega
    · exact .inl (.inr ⟨hrow, hcol, hfree⟩)

end DshOrbit.Qr
