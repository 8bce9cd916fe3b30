import DshOrbit.Qr.Symbol

/-!
# Reading a QR code

The reading procedure of ISO/IEC 18004 for versions 1 to 6, on the modules that
`plugin/qr-svg.mjs` returns: format information, mask, columns, blocks and bit stream. The
procedure is stated from the standard and shares no table with the encoder.

## Main definitions

- `FormatCopy` — the two copies of the format information
- `readSymbol` — the level, the mask and the text that are read
- `RoundTrips` — a text is read back

## Main results

- `readFormat_layoutMatrix` — what each copy says
- `readCodewords_layoutMatrix` — the codewords come back
- `roundTrips_iff` — a text is read back over the first copy, when it has no lone surrogate
-/

namespace DshOrbit.Qr

open DshOrbit.Lib

/-! ### Format information -/

inductive FormatCopy
  | upperLeft
  | lowerRight

/-- The modules of a copy, from that of the lowest bit on. -/
def FormatCopy.cells (size : ℕ) : FormatCopy → List Cell
  | .upperLeft =>
    ((List.range 6).map fun k => (k, 8)) ++ [(7, 8), (8, 8), (8, 7)] ++
      (List.range 6).map fun k => (8, 5 - k)
  | .lowerRight =>
    ((List.range 8).map fun k => (8, size - 1 - k)) ++ (List.range 7).map fun k => (size - 7 + k, 8)

/-- What is seen of a module; one that is not set is light. -/
def isDark (matrix : List (List (Option Bool))) (cell : Cell) : Bool :=
  (matrix.getD cell.1 []).getD cell.2 none = some true

/-- The masked sequences of the format information, by their five data bits. -/
def formatSequences : List ℕ :=
  [0x5412, 0x5125, 0x5e7c, 0x5b4b, 0x45f9, 0x40ce, 0x4f97, 0x4aa0,
    0x77c4, 0x72f3, 0x7daa, 0x789d, 0x662f, 0x6318, 0x6c41, 0x6976,
    0x1689, 0x13be, 0x1ce7, 0x19d0, 0x0762, 0x0255, 0x0d0c, 0x083b,
    0x355f, 0x3068, 0x3f31, 0x3a06, 0x24b4, 0x2183, 0x2eda, 0x2bed]

/-- The bits in which two sequences differ. -/
def distance (word other : ℕ) : ℕ :=
  (List.range 15).countP fun k => word.testBit k != other.testBit k

/-- The level indicator and the mask of the sequence that differs in at most three bits. -/
def decodeFormat (word : ℕ) : Option (ℕ × ℕ) :=
  ((List.range 32).find? fun data => distance word (formatSequences.getD data 0) ≤ 3).map
    fun data => (data / 8, data % 8)

def readFormat (copy : FormatCopy) (matrix : List (List (Option Bool))) : Option (ℕ × ℕ) :=
  decodeFormat (ofBits ((copy.cells matrix.length).map (isDark matrix)).reverse)

/-- The level indicators of the standard. -/
def EcLevel.indicator : EcLevel → ℕ
  | .L => 0b01
  | .M => 0b00

/-! ### Data -/

/-- The modules that hold no data. -/
def isoFunctionModule (version : ℕ) (cell : Cell) : Bool :=
  let size := 17 + 4 * version
  let r := cell.1
  let c := cell.2
  -- the finder patterns with their separators and the format information beside them
  (r ≤ 8 ∧ c ≤ 8) ∨ (r ≤ 8 ∧ size ≤ c + 8) ∨ (size ≤ r + 8 ∧ c ≤ 8) ∨
    r = 6 ∨ c = 6 ∨
    (2 ≤ version ∧ size - 9 ≤ r ∧ r ≤ size - 5 ∧ size - 9 ≤ c ∧ c ≤ size - 5)

/-- The right columns of the pairs, from right to left. -/
def isoColumns (size : ℕ) : List ℕ :=
  ((List.range ((size - 7) / 2)).map fun i => size - 1 - 2 * i) ++ [5, 3, 1]

/-- The modules of the data in the order of their bits: every other pair from the bottom up. -/
def readingOrder (version : ℕ) : List Cell :=
  let size := 17 + 4 * version
  ((isoColumns size).zipIdx.flatMap fun (col, j) => (List.range size).flatMap fun i =>
    let row := if j % 2 = 0 then size - 1 - i else i
    [(row, col), (row, col - 1)]).filter fun cell => !isoFunctionModule version cell

/-- The mask patterns of the standard. -/
def isoMask (mask : ℕ) (cell : Cell) : Bool :=
  let i := cell.1
  let j := cell.2
  match mask with
  | 0 => (i + j) % 2 = 0
  | 1 => i % 2 = 0
  | 2 => j % 3 = 0
  | 3 => (i + j) % 3 = 0
  | 4 => (i / 2 + j / 3) % 2 = 0
  | 5 => i * j % 2 + i * j % 3 = 0
  | 6 => (i * j % 2 + i * j % 3) % 2 = 0
  | _ => (i * j % 3 + (i + j) % 2) % 2 = 0

def readCodewords (version mask : ℕ) (matrix : List (List (Option Bool))) : List UInt8 :=
  codewordsOf ((readingOrder version).map fun cell => (isDark matrix cell).xor (isoMask mask cell))

/-- The blocks of a version at a level indicator, and the data codewords in each; the levels `Q`
and `H` are left out. -/
def isoBlocks : ℕ → ℕ → Option (ℕ × ℕ)
  | 1, 0b01 => some (1, 19)
  | 1, 0b00 => some (1, 16)
  | 2, 0b01 => some (1, 34)
  | 2, 0b00 => some (1, 28)
  | 3, 0b01 => some (1, 55)
  | 3, 0b00 => some (1, 44)
  | 4, 0b01 => some (1, 80)
  | 4, 0b00 => some (2, 32)
  | 5, 0b01 => some (1, 108)
  | 5, 0b00 => some (2, 43)
  | 6, 0b01 => some (2, 68)
  | 6, 0b00 => some (4, 27)
  | _, _ => none

/-- The data codewords, block after block. -/
def deinterleave (blocks perBlock : ℕ) (words : List UInt8) : List UInt8 :=
  (List.range blocks).flatMap fun b =>
    (List.range perBlock).map fun i => words.getD (i * blocks + b) 0

/-! ### The procedure -/

structure Reading where
  level : ℕ
  mask : ℕ
  text : List UInt16
  deriving DecidableEq

def readSymbol (copy : FormatCopy) (matrix : List (List (Option Bool))) : Option Reading := do
  let version := (matrix.length - 17) / 4
  let (level, mask) ← readFormat copy matrix
  let (blocks, perBlock) ← isoBlocks version level
  let text ← decodeBitstream (deinterleave blocks perBlock (readCodewords version mask matrix))
  return { level, mask, text := utf16 text.toList }

/-- The code of a text is drawn with every module once, and a copy of the format information gives
the used level and mask and then the text. -/
def RoundTrips (copy : FormatCopy) (text : List UInt16) (options : QrOptions) : Prop :=
  ∃ m code, generateMatrix text options.level = .ok m ∧ generateQrSvg text options = .ok code ∧
    code.matrix = m.rows ∧ DrawnOnce m ∧
    readSymbol copy code.matrix = some ⟨options.level.indicator, 0, text⟩

/-! ### What is seen -/

variable {spec : VersionSpec} {ecLevel : EcLevel} {words : List UInt8} {cell : Cell}

theorem isDark_rows {m : Matrix} (hrow : cell.1 < m.size) (hcol : cell.2 < m.size) :
    isDark m.rows cell = decide (m.modules cell = some true) := by
  have hlines : m.rows.getD cell.1 [] = (List.range m.size).map fun c => m.modules (cell.1, c) := by
    rw [Matrix.rows, List.getD_eq_getElem _ _ (by simpa using hrow), List.getElem_map,
      List.getElem_range]
  rw [isDark, hlines, List.getD_eq_getElem _ _ (by simpa using hcol), List.getElem_map,
    List.getElem_range]

theorem length_rows (m : Matrix) : m.rows.length = m.size := by
  rw [Matrix.rows, List.length_map, List.length_range]

/-- What is seen of a module is what was assigned to it. -/
theorem isDark_layoutMatrix (hmem : spec ∈ versionSpecs) {val : Bool}
    (h : (cell, val) ∈ symbolWrites spec ecLevel words) :
    isDark (layoutMatrix spec ecLevel words).rows cell = val := by
  have hwritten : cell ∈ written spec := by
    rw [← map_fst_symbolWrites ecLevel words]
    exact List.mem_map_of_mem h
  obtain ⟨hrow, hcol⟩ := (mem_written hmem).mp hwritten
  rw [← size_layoutMatrix (proper_of_mem hmem) ecLevel words] at hrow hcol
  rw [isDark_rows hrow hcol, modules_layoutMatrix hmem h]
  cases val with
  | false => rfl
  | true => rfl

/-! ### What the copies say -/

/-- The bits that are in the modules of a copy. -/
def FormatCopy.indices : FormatCopy → List ℕ
  | .upperLeft => ((List.range 6).map fun k => 5 - k) ++ [6, 7, 8] ++ (List.range 6).map fun k => 9 + k
  | .lowerRight => ((List.range 8).map fun k => 14 - k) ++ (List.range 7).map fun k => 6 - k

theorem isDark_formatCell (hmem : spec ∈ versionSpecs) {idx : ℕ}
    (h : (cell, idx) ∈ formatCells spec.size) :
    isDark (layoutMatrix spec ecLevel words).rows cell =
      (computeFormatBits ecLevel 0).testBit idx :=
  isDark_layoutMatrix hmem (List.mem_append_right _ (List.mem_map.mpr ⟨_, h, rfl⟩))

theorem map_isDark_range (hmem : spec ∈ versionSpecs) (ecLevel : EcLevel) (words : List UInt8)
    (n : ℕ) (cells : ℕ → Cell) (indices : ℕ → ℕ) (h : ∀ k < n, (cells k, indices k) ∈ formatCells spec.size) :
    ((List.range n).map cells).map (isDark (layoutMatrix spec ecLevel words).rows) =
      ((List.range n).map indices).map (computeFormatBits ecLevel 0).testBit := by
  rw [List.map_map, List.map_map]
  exact List.map_congr_left fun k hk => isDark_formatCell hmem (h k (List.mem_range.mp hk))

theorem mem_formatCells_pair {size : ℕ} {idx : ℕ} :
    (cell, idx) ∈ formatCells size ↔
      (∃ i < 6, cell = (8, i) ∧ idx = 14 - i) ∨
        (cell = (8, 7) ∧ idx = 8 ∨ cell = (8, 8) ∧ idx = 7 ∨ cell = (7, 8) ∧ idx = 6) ∨
        (∃ i < 6, cell = (5 - i, 8) ∧ idx = i) ∨ (∃ i < 7, cell = (size - 1 - i, 8) ∧ idx = i) ∨
          ∃ i < 8, cell = (8, size - 8 + i) ∧ idx = 7 + i := by
  simp only [formatCells, List.mem_append, List.mem_map, List.mem_range, List.mem_cons,
    List.not_mem_nil, or_false, Prod.mk.injEq, or_assoc, eq_comm (b := cell), eq_comm (b := idx)]

theorem map_isDark_cells (hmem : spec ∈ versionSpecs) (copy : FormatCopy) :
    (copy.cells spec.size).map (isDark (layoutMatrix spec ecLevel words).rows) =
      copy.indices.map (computeFormatBits ecLevel 0).testBit := by
  have hsize := (proper_of_mem hmem).le_size
  cases copy with
  | upperLeft =>
    have hcolumn := map_isDark_range hmem ecLevel words 6 (fun k => (k, 8))
      (fun k => 5 - k) fun k hk =>
        mem_formatCells_pair.mpr (.inr (.inr (.inl ⟨5 - k, by omega, by congr 1; omega, rfl⟩)))
    have hrow := map_isDark_range hmem ecLevel words 6 (fun k => (8, 5 - k))
      (fun k => 9 + k) fun k hk =>
        mem_formatCells_pair.mpr (.inl ⟨5 - k, by omega, rfl, by omega⟩)
    have hcorner : [(7, 8), (8, 8), (8, 7)].map (isDark (layoutMatrix spec ecLevel words).rows) =
        [6, 7, 8].map (computeFormatBits ecLevel 0).testBit := by
      simp only [List.map_cons, List.map_nil]
      rw [isDark_formatCell hmem (mem_formatCells_pair.mpr (.inr (.inl (.inr (.inr ⟨rfl, rfl⟩))))),
        isDark_formatCell hmem (mem_formatCells_pair.mpr (.inr (.inl (.inr (.inl ⟨rfl, rfl⟩))))),
        isDark_formatCell hmem (mem_formatCells_pair.mpr (.inr (.inl (.inl ⟨rfl, rfl⟩))))]
    rw [FormatCopy.cells, FormatCopy.indices, List.map_append, List.map_append, List.map_append,
      List.map_append, hcolumn, hcorner, hrow]
  | lowerRight =>
    have hrow := map_isDark_range hmem ecLevel words 8 (fun k => (8, spec.size - 1 - k))
      (fun k => 14 - k) fun k hk =>
        mem_formatCells_pair.mpr (.inr (.inr (.inr (.inr
          ⟨7 - k, by omega, by congr 1; omega, by omega⟩))))
    have hcolumn := map_isDark_range hmem ecLevel words 7 (fun k => (spec.size - 7 + k, 8))
      (fun k => 6 - k) fun k hk =>
        mem_formatCells_pair.mpr (.inr (.inr (.inr (.inl
          ⟨6 - k, by omega, by congr 1; omega, rfl⟩))))
    rw [FormatCopy.cells, FormatCopy.indices, List.map_append, List.map_append, hrow, hcolumn]

/-- The first copy gives the level and the mask, the second another level or none. -/
theorem readFormat_layoutMatrix (hmem : spec ∈ versionSpecs) (copy : FormatCopy) :
    readFormat copy (layoutMatrix spec ecLevel words).rows =
      match copy, ecLevel with
      | .upperLeft, ecLevel => some (ecLevel.indicator, 0)
      | .lowerRight, .L => none
      | .lowerRight, .M => some (0b11, 4) := by
  have hlength : (layoutMatrix spec ecLevel words).rows.length = spec.size := by
    rw [length_rows, size_layoutMatrix (proper_of_mem hmem)]
  rw [readFormat, hlength, map_isDark_cells hmem copy]
  cases copy with
  | upperLeft =>
    cases ecLevel with
    | L => decide
    | M => decide
  | lowerRight =>
    cases ecLevel with
    | L => decide
    | M => decide

/-! ### The codewords come back -/

theorem isoFunctionModule_eq (hmem : spec ∈ versionSpecs) (hrow : cell.1 < spec.size)
    (hcol : cell.2 < spec.size) :
    isoFunctionModule spec.version cell = (createBaseMatrix spec).isFunction cell := by
  have h := proper_of_mem hmem
  have hsize := h.size
  have hle := h.le_size
  rw [Bool.eq_iff_iff, isFunction_createBaseMatrix h, mem_patternWrites h,
    mem_reservedCells (by omega), isoFunctionModule, InFinder, InTiming, decide_eq_true_eq, ← hsize]
  obtain ⟨row, col⟩ := cell
  have halign : (2 ≤ spec.version ∧ spec.size - 9 ≤ row ∧ row ≤ spec.size - 5 ∧
      spec.size - 9 ≤ col ∧ col ≤ spec.size - 5) ↔ InAlignment spec (row, col) := by
    rw [InAlignment]
    omega
  rw [Prod.mk.injEq, halign]
  dsimp only at hrow hcol ⊢
  constructor
  · rintro (hcorner | hcorner | hcorner | rfl | rfl | haligned)
    · by_cases hedge : row = 8 ∨ col = 8
      · exact .inr (by omega)
      · exact .inl (.inl (.inl (.inl (by omega))))
    · by_cases hedge : row = 8
      · exact .inr (by omega)
      · exact .inl (.inl (.inl (.inl (by omega))))
    · by_cases hedge : col = 8
      · by_cases hdark : row = spec.size - 8
        · exact .inl (.inr ⟨hdark, hedge⟩)
        · exact .inr (by omega)
      · exact .inl (.inl (.inl (.inl (by omega))))
    · exact .inl (.inl (.inl (by omega)))
    · exact .inl (.inl (.inl (by omega)))
    · exact .inl (.inl (.inr haligned))
  · rintro ((((hfinder | htiming) | haligned) | hdark) | hreserved)
    · omega
    · omega
    · exact .inr (.inr (.inr (.inr (.inr haligned))))
    · omega
    · omega

theorem columnsFrom_eq (h : spec ∈ versionSpecs) :
    columnsFrom spec.size (spec.size - 1) = isoColumns spec.size := by
  have htable : ∀ spec ∈ versionSpecs,
      columnsFrom spec.size (spec.size - 1) = isoColumns spec.size := by decide
  exact htable spec h

theorem snakeCells_eq (size k : ℕ) (cols : List ℕ) :
    snakeCells size (decide (k % 2 = 0)) cols =
      (cols.zipIdx k).flatMap fun (col, j) => (List.range size).flatMap fun i =>
        let row := if j % 2 = 0 then size - 1 - i else i
        [(row, col), (row, col - 1)] := by
  induction cols generalizing k with
  | nil => rfl
  | cons col rest ih =>
    have hturn : (!decide (k % 2 = 0)) = decide ((k + 1) % 2 = 0) := by
      rw [← decide_not, decide_eq_decide]
      omega
    have hpair : pairCells size (decide (k % 2 = 0)) col = (List.range size).flatMap fun i =>
        let row := if k % 2 = 0 then size - 1 - i else i
        [(row, col), (row, col - 1)] := by
      rw [pairCells, rowsOf]
      by_cases hk : k % 2 = 0
      · simp only [hk, decide_true, if_true, List.flatMap_map]
      · simp only [hk, decide_false, Bool.false_eq_true, if_false]
    rw [snakeCells, hturn, ih, hpair, List.zipIdx_cons, List.flatMap_cons]

/-- The procedure reads the data in the order in which it was placed. -/
theorem readingOrder_eq (hmem : spec ∈ versionSpecs) :
    readingOrder spec.version = dataCells (createBaseMatrix spec) := by
  have h := proper_of_mem hmem
  have hsize : (createBaseMatrix spec).size = spec.size := by rw [createBaseMatrix_eq h]
  have hcolumns := columns_of_mem hmem
  rw [dataCells, hsize, columnsFrom_eq hmem, readingOrder, ← h.size]
  dsimp only
  rw [← snakeCells_eq spec.size 0 (isoColumns spec.size)]
  refine List.filter_congr fun cell hcell => ?_
  obtain ⟨hrow, col, hcol, hplace⟩ := mem_snakeCells.mp hcell
  rw [← columnsFrom_eq hmem] at hcol
  have hinside := hcolumns.inside col hcol
  rw [isoFunctionModule_eq hmem hrow (by omega)]

theorem isoMask_zero (cell : Cell) : isoMask 0 cell = maskOf 0 cell := rfl

/-- Bits that are placed are read, with zeroes behind them. -/
theorem unmasked_eq {cells : List Cell} {bits : List Bool} (hfit : bits.length ≤ cells.length)
    {seen : Cell → Bool} (hseen : ∀ write ∈ dataWrites 0 cells bits, seen write.1 = write.2) :
    cells.map (fun cell => (seen cell).xor (isoMask 0 cell)) =
      bits ++ List.replicate (cells.length - bits.length) false := by
  induction cells generalizing bits with
  | nil =>
    rw [List.eq_nil_of_length_eq_zero (Nat.le_zero.mp hfit)]
    rfl
  | cons cell rest ih =>
    rw [dataWrites, List.forall_mem_cons] at hseen
    have hfirst : (seen cell).xor (isoMask 0 cell) = bits.headD false := by
      rw [hseen.1, isoMask_zero, Bool.xor_assoc, Bool.xor_self, Bool.xor_false]
    rw [List.map_cons, hfirst]
    cases bits with
    | nil =>
      rw [ih (Nat.zero_le _) hseen.2]
      rfl
    | cons bit bits =>
      have hrest : bits.length ≤ rest.length := by simpa using hfit
      rw [ih hrest hseen.2, List.length_cons, List.length_cons, Nat.add_sub_add_right]
      rfl

/-- The modules of the data take every codeword of the version, and less than one more. -/
theorem length_dataCells (hmem : spec ∈ versionSpecs) :
    8 * spec.total ≤ (dataCells (createBaseMatrix spec)).length ∧
      (dataCells (createBaseMatrix spec)).length < 8 * spec.total + 8 := by
  have hperm : (written spec).Perm (List.range spec.size ×ˢ List.range spec.size) := by
    refine (List.perm_ext_iff_of_nodup (nodup_written hmem)
      (List.nodup_range.product List.nodup_range)).mpr fun cell => ?_
    rw [mem_written hmem, ← Prod.mk.eta (p := cell), List.mem_product, List.mem_range,
      List.mem_range]
  have hcount := hperm.length_eq
  have htable : ∀ spec ∈ versionSpecs,
      8 * spec.total + (patternWrites spec).length + (formatCells spec.size).length ≤
          spec.size * spec.size ∧
        spec.size * spec.size < 8 * spec.total + 8 + (patternWrites spec).length +
          (formatCells spec.size).length := by decide +kernel
  have hsizes := htable spec hmem
  rw [List.length_product, List.length_range, written, List.length_append, List.length_append,
    List.length_map, List.length_map] at hcount
  omega

theorem codewordsOf_pad {n : ℕ} (hn : n < 8) (bytes : List UInt8) :
    codewordsOf (byteBits bytes ++ List.replicate n false) = bytes := by
  induction bytes with
  | nil =>
    have hshort : (byteBits [] ++ List.replicate n false).length / 8 = 0 := by
      rw [List.length_append, List.length_replicate, length_byteBits, List.length_nil]
      omega
    rw [codewordsOf, hshort]
    rfl
  | cons byte rest ih =>
    rw [byteBits, List.flatMap_cons, ← byteBits, List.append_assoc,
      codewordsOf_append (length_bitsOf _ _), ih, ofBits_bitsOf, Nat.mod_eq_of_lt byte.toNat_lt,
      UInt8.ofNat_toNat]

/-- The procedure reads the codewords that were placed. -/
theorem readCodewords_layoutMatrix (hmem : spec ∈ versionSpecs) (hwords : words.length = spec.total) :
    readCodewords spec.version 0 (layoutMatrix spec ecLevel words).rows = words := by
  obtain ⟨hleast, hmost⟩ := length_dataCells hmem
  have hbits := length_byteBits words
  have hread := unmasked_eq (by omega : (byteBits words).length ≤ _)
    fun write (hwrite : write ∈ dataWrites 0 (dataCells (createBaseMatrix spec)) (byteBits words)) =>
      @isDark_layoutMatrix _ ecLevel words _ hmem _
        (List.mem_append_left _ (List.mem_append_right _ hwrite))
  rw [readCodewords, readingOrder_eq hmem, hread, codewordsOf_pad (by omega)]

/-! ### The blocks come back -/

theorem blockDataOf_spec {codewords : List UInt8} {blocks : ℕ}
    (hwhole : codewords.length / blocks * blocks = codewords.length) :
    (blockDataOf codewords blocks).length = blocks ∧
      ∀ block ∈ blockDataOf codewords blocks, block.length = codewords.length / blocks := by
  rw [blockDataOf]
  refine ⟨by rw [List.length_map, List.length_range], fun block hblock => ?_⟩
  obtain ⟨b, hb, rfl⟩ := List.mem_map.mp hblock
  rw [List.mem_range] at hb
  rw [List.length_take, List.length_drop]
  have hroom : (b + 1) * (codewords.length / blocks) ≤ codewords.length := by
    calc (b + 1) * (codewords.length / blocks) ≤ blocks * (codewords.length / blocks) :=
        Nat.mul_le_mul_right _ hb
      _ = codewords.length := by rw [Nat.mul_comm, hwhole]
  rw [Nat.succ_mul] at hroom
  omega

theorem flatMap_blocks (codewords : List UInt8) (n blocks : ℕ) :
    ((List.range blocks).flatMap fun b => (codewords.drop (b * n)).take n) =
      codewords.take (blocks * n) := by
  induction blocks with
  | zero => simp
  | succ blocks ih =>
    rw [List.range_succ, List.flatMap_append, ih, List.flatMap_singleton, Nat.succ_mul,
      List.take_add]

theorem deinterleave_interleavedOf {codewords : List UInt8} {ecSpec : EcSpec}
    (hwhole : codewords.length / ecSpec.blocks * ecSpec.blocks = codewords.length) :
    deinterleave ecSpec.blocks (codewords.length / ecSpec.blocks) (interleavedOf codewords ecSpec) =
      codewords := by
  obtain ⟨hcount, hlength⟩ := blockDataOf_spec hwhole
  have hblock : ∀ b ∈ List.range ecSpec.blocks,
      ((List.range (codewords.length / ecSpec.blocks)).map fun i =>
        (interleavedOf codewords ecSpec).getD (i * ecSpec.blocks + b) 0) =
        (codewords.drop (b * (codewords.length / ecSpec.blocks))).take
          (codewords.length / ecSpec.blocks) := by
    intro b hb
    rw [List.mem_range] at hb
    have hb' : b < (blockDataOf codewords ecSpec.blocks).length := by rw [hcount]; exact hb
    have hchunk : (blockDataOf codewords ecSpec.blocks).getD b [] =
        (codewords.drop (b * (codewords.length / ecSpec.blocks))).take
          (codewords.length / ecSpec.blocks) := by
      rw [List.getD_eq_getElem _ _ hb']
      simp only [blockDataOf, List.getElem_map, List.getElem_range]
    have hchunkLength : ((blockDataOf codewords ecSpec.blocks).getD b []).length =
        codewords.length / ecSpec.blocks := by
      rw [List.getD_eq_getElem _ _ hb']
      exact hlength _ (List.getElem_mem hb')
    rw [← hchunk]
    refine List.ext_getElem (by rw [List.length_map, List.length_range, hchunkLength]) ?_
    intro i hi hi'
    have hi := hi
    rw [List.length_map, List.length_range] at hi
    have hget := interleave_getElem? hlength hi hb'
    rw [hcount, List.getD_eq_getElem _ _ (by omega : i < _)] at hget
    rw [List.getElem_map, List.getElem_range, List.getD_eq_getElem?_getD, interleavedOf]
    rw [List.getElem?_append_left (List.getElem?_eq_some_iff.mp hget).1, hget]
    rfl
  rw [deinterleave, List.flatMap_congr hblock, flatMap_blocks, Nat.mul_comm, hwhole,
    List.take_length]

theorem length_interleavedOf {codewords : List UInt8} {ecSpec : EcSpec}
    (h : Divided spec ecSpec) (hlength : codewords.length = ecSpec.data) :
    (interleavedOf codewords ecSpec).length = spec.total := by
  have hwhole : codewords.length / ecSpec.blocks * ecSpec.blocks = codewords.length := by
    rw [hlength, h.data]
  obtain ⟨hcount, hblocks⟩ := blockDataOf_spec hwhole
  have hec : ∀ block ∈ (blockDataOf codewords ecSpec.blocks).map fun chunk =>
      rsComputeCodewords chunk ecSpec.ec, block.length = ecSpec.ec := by
    intro block hblock
    obtain ⟨chunk, -, rfl⟩ := List.mem_map.mp hblock
    exact length_rsComputeCodewords chunk h.ec
  have htotal := h.total
  rw [interleavedOf, List.length_append, length_interleave hblocks, length_interleave hec, List.length_map, hcount,
    hwhole, hlength]
  exact htotal

/-! ### The text comes back -/

theorem isoBlocks_indicator (h : spec ∈ versionSpecs) (ecLevel : EcLevel) :
    isoBlocks spec.version ecLevel.indicator = some ((spec.ecSpec ecLevel).blocks,
      (spec.ecSpec ecLevel).data / (spec.ecSpec ecLevel).blocks) := by
  have htable : ∀ spec ∈ versionSpecs,
      isoBlocks spec.version 0b01 = some (spec.L.blocks, spec.L.data / spec.L.blocks) ∧
        isoBlocks spec.version 0b00 = some (spec.M.blocks, spec.M.data / spec.M.blocks) := by decide
  cases ecLevel with
  | L => exact (htable spec h).1
  | M => exact (htable spec h).2

theorem isoBlocks_other (h : spec ∈ versionSpecs) : isoBlocks spec.version 0b11 = none := by
  have htable : ∀ spec ∈ versionSpecs, isoBlocks spec.version 0b11 = none := by decide
  exact htable spec h

variable {text : List UInt16} {options : QrOptions}

/-- The first copy leads to the characters of the text, the second to nothing. -/
theorem readSymbol_generateMatrix {m : Matrix} (h : generateMatrix text ecLevel = .ok m)
    (copy : FormatCopy) :
    readSymbol copy m.rows =
      match copy with
      | .upperLeft => some ⟨ecLevel.indicator, 0, utf16 (scalarValues text)⟩
      | .lowerRight => none := by
  obtain ⟨spec, hmem, hfits, rfl⟩ := generateMatrix_ok h
  have hproper := proper_of_mem hmem
  have hdivided := divided_of_mem hmem ecLevel
  obtain ⟨hlength, -⟩ := encodeBitstream_spec hfits
  have hversion : ((layoutMatrix spec ecLevel (interleavedOf
      (encodeBitstream text (spec.ecSpec ecLevel)) (spec.ecSpec ecLevel))).rows.length - 17) / 4 =
        spec.version := by
    have hsize := hproper.size
    rw [length_rows, size_layoutMatrix hproper]
    omega
  rw [readSymbol]
  rw [hversion, readFormat_layoutMatrix hmem copy]
  cases copy with
  | upperLeft =>
    have hblocks := deinterleave_interleavedOf
      (by rw [hlength, hdivided.data] : (encodeBitstream text (spec.ecSpec ecLevel)).length /
        (spec.ecSpec ecLevel).blocks * (spec.ecSpec ecLevel).blocks = _)
    have hsmall := hdivided.small
    have htext := decode_encodeBitstream hfits (by omega)
    rw [hlength] at hblocks
    simp only [Option.bind_eq_bind, Option.bind_some, isoBlocks_indicator hmem,
      readCodewords_layoutMatrix hmem (length_interleavedOf hdivided hlength), hblocks, htext,
      String.toList_ofList]
    rfl
  | lowerRight =>
    cases ecLevel with
    | L => rfl
    | M =>
      simp only [Option.bind_eq_bind, Option.bind_some, isoBlocks_other hmem]
      rfl

theorem readSymbol_text {m : Matrix} (h : generateMatrix text ecLevel = .ok m) (copy : FormatCopy) :
    readSymbol copy m.rows = some ⟨ecLevel.indicator, 0, text⟩ ↔
      copy = .upperLeft ∧ WellFormed text := by
  rw [readSymbol_generateMatrix h copy, wellFormed_iff]
  cases copy with
  | upperLeft => simp
  | lowerRight => simp

/-- A text that is accepted is read back, and its symbol drawn with every module once, when the
first copy of the format information is read and the text has no surrogate outside a pair. The
second copy holds the bits in reverse. -/
theorem roundTrips_iff (haccepted : ∃ code, generateQrSvg text options = .ok code)
    (copy : FormatCopy) :
    RoundTrips copy text options ↔ copy = .upperLeft ∧ WellFormed text := by
  constructor
  · rintro ⟨m, code, hm, -, hmatrix, -, hread⟩
    rw [hmatrix] at hread
    exact (readSymbol_text hm copy).mp hread
  · intro hcondition
    obtain ⟨code, hcode⟩ := haccepted
    obtain ⟨m, hm, rfl⟩ := generateQrSvg_ok.mp hcode
    obtain ⟨spec, hmem, -, hlayout⟩ := generateMatrix_ok hm
    refine ⟨m, _, hm, hcode, rfl, ?_, (readSymbol_text hm copy).mpr hcondition⟩
    rw [hlayout]
    exact drawnOnce_layoutMatrix hmem _

theorem roundTrips_letter : RoundTrips .upperLeft [0x41] {} ↔
    FormatCopy.upperLeft = .upperLeft ∧ WellFormed [0x41] :=
  roundTrips_iff (generateQrSvg_accepts.mpr ⟨by decide, by decide⟩) .upperLeft

/-- The code of a letter is not read over the second copy, and that of a lone surrogate over none. -/
theorem roundTrips_fails :
    ((∃ code, generateQrSvg [0x41] {} = .ok code) ∧ ¬RoundTrips .lowerRight [0x41] {}) ∧
      (∃ code, generateQrSvg [0xd800] {} = .ok code) ∧ ¬RoundTrips .upperLeft [0xd800] {} := by
  refine ⟨⟨generateQrSvg_accepts.mpr ⟨by decide, by decide⟩, ?_⟩,
    generateQrSvg_accepts.mpr ⟨by decide, by decide⟩, ?_⟩
  · rintro ⟨m, code, hm, -, hmatrix, -, hread⟩
    rw [hmatrix, readSymbol_text hm] at hread
    cases hread.1
  · rintro ⟨m, code, hm, -, hmatrix, -, hread⟩
    rw [hmatrix, readSymbol_text hm, wellFormed_iff] at hread
    exact absurd hread.2 (by decide)

end DshOrbit.Qr
