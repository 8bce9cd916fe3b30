import DshOrbit.Qr.Layout

/-!
# The QR code of a text

What `generateQrSvg` (`plugin/qr-svg.mjs`) makes of a text: the version, the blocks with their
error correction, the layout and the drawing.

## Main definitions

- `generateMatrix` — the modules of a text
- `generateQrSvg` — the function of that name
- `DrawnOnce` — every module is assigned once

## Main results

- `layoutMatrix_eq` — the assignments of a layout, and what they leave
- `generateQrSvg_accepts` — the texts that get a code
- `interleave_getElem?` — where a codeword of a block goes
-/

namespace DshOrbit.Qr

open DshOrbit.Lib

/-! ### Blocks -/

/-- `blockData`. -/
def blockDataOf (codewords : List UInt8) (blocks : ℕ) : List (List UInt8) :=
  let dataPerBlock := codewords.length / blocks
  (List.range blocks).map fun b => (codewords.drop (b * dataPerBlock)).take dataPerBlock

def interleave (length : ℕ) (blocks : List (List UInt8)) : List UInt8 :=
  (List.range length).flatMap fun i => blocks.filterMap fun block => block[i]?

/-- `interleaved`: the data codewords and the codewords of the error correction. -/
def interleavedOf (codewords : List UInt8) (ecSpec : EcSpec) : List UInt8 :=
  let dataPerBlock := codewords.length / ecSpec.blocks
  let ecPerBlock := ecSpec.ec
  let blockData := blockDataOf codewords ecSpec.blocks
  let blockEc := blockData.map fun chunk => rsComputeCodewords chunk ecPerBlock
  interleave dataPerBlock blockData ++ interleave ecPerBlock blockEc

/-! ### The symbol -/

def layoutMatrix (spec : VersionSpec) (ecLevel : EcLevel) (interleaved : List UInt8) : Matrix :=
  let maskIdx := 0
  let m := placeDataBits (createBaseMatrix spec) interleaved maskIdx
  inscribeFormatInfo m (computeFormatBits ecLevel maskIdx)

/-- The smallest version that takes the bytes. -/
def matchedSpec (byteLen : ℕ) (ecLevel : EcLevel) : Option VersionSpec :=
  versionSpecs.find? fun s => byteLen + 3 ≤ (s.ecSpec ecLevel).data

def generateMatrix (text : List UInt16) (ecLevel : EcLevel) : Except String Matrix :=
  if text = [] then .error "QR text payload must be a non-empty string"
  else
    let byteLen := (textBytes text).length
    match matchedSpec byteLen ecLevel with
    | none =>
      .error s!"Text payload too large for supported QR versions (byte length: {byteLen})"
    | some spec =>
      let ecSpec := spec.ecSpec ecLevel
      .ok (layoutMatrix spec ecLevel (interleavedOf (encodeBitstream text ecSpec) ecSpec))

/-- The options of a drawing; a margin that is no integer is `none`. -/
structure QrOptions where
  margin : Option ℤ := none
  foreground : Option String := none
  background : Option String := none
  ecLevel : Option String := none
  size : Option ℕ := none

def QrOptions.level (options : QrOptions) : EcLevel :=
  if options.ecLevel = some "L" then .L else .M

structure QrSvg where
  svg : String
  matrix : List (List (Option Bool))
  size : ℕ
  text : List UInt16

/-- The array `matrix`. -/
def Matrix.rows (m : Matrix) : List (List (Option Bool)) :=
  (List.range m.size).map fun r => (List.range m.size).map fun c => m.modules (r, c)

/-- The path of the dark modules. -/
def pathOps (m : Matrix) (margin : ℕ) : String :=
  " ".intercalate ((List.range m.size ×ˢ List.range m.size).filterMap fun (r, c) =>
    if m.modules (r, c) = some true then some s!"M{c + margin},{r + margin}h1v1h-1z" else none)

/-- The drawing of the modules, and what is returned with it. -/
def renderSvg (text : List UInt16) (options : QrOptions) (m : Matrix) : QrSvg :=
  let margin := match options.margin with
    | some margin => if 0 ≤ margin then margin.toNat else 4
    | none => 4
  let foreground := (options.foreground.filter (· ≠ "")).getD "#000000"
  let background := (options.background.filter (· ≠ "")).getD "#ffffff"
  let renderSize := (options.size.filter (· ≠ 0)).getD 200
  let totalDim := m.size + margin * 2
  { svg := "\n".intercalate
      [s!"<svg xmlns=\"http://www.w3.org/2000/svg\" viewBox=\"0 0 {totalDim} {totalDim}\" " ++
          s!"width=\"{renderSize}\" height=\"{renderSize}\" shape-rendering=\"crispEdges\">",
        s!"  <rect width=\"100%\" height=\"100%\" fill=\"{background}\"/>",
        s!"  <path d=\"{pathOps m margin}\" fill=\"{foreground}\"/>",
        "</svg>"]
    matrix := m.rows
    size := totalDim
    text }

def generateQrSvg (text : List UInt16) (options : QrOptions) : Except String QrSvg :=
  (generateMatrix text options.level).map (renderSvg text options)

/-- Every module of the symbol is assigned once, and is set. -/
structure DrawnOnce (m : Matrix) : Prop where
  once : ∀ cell : Cell, cell.1 < m.size → cell.2 < m.size → (m.log.map Prod.fst).count cell = 1
  isSet : ∀ cell : Cell, cell.1 < m.size → cell.2 < m.size → m.modules cell ≠ none

/-! ### The assignments of a layout -/

variable {spec : VersionSpec} {ecLevel : EcLevel} {cell : Cell}

/-- The assignments of a layout, in their order. -/
def symbolWrites (spec : VersionSpec) (ecLevel : EcLevel) (words : List UInt8) :
    List (Cell × Bool) :=
  patternWrites spec ++ dataWrites 0 (dataCells (createBaseMatrix spec)) (byteBits words) ++
    formatWrites spec.size (computeFormatBits ecLevel 0)

theorem map_fst_dataWrites (maskIdx : ℕ) (cells : List Cell) (bits : List Bool) :
    (dataWrites maskIdx cells bits).map Prod.fst = cells := by
  induction cells generalizing bits with
  | nil => rfl
  | cons cell rest ih => rw [dataWrites, List.map_cons, ih]

theorem map_fst_symbolWrites (ecLevel : EcLevel) (words : List UInt8) :
    (symbolWrites spec ecLevel words).map Prod.fst = written spec := by
  rw [symbolWrites, List.map_append, List.map_append, map_fst_dataWrites, formatWrites,
    List.map_map, written]
  rfl

theorem layoutMatrix_eq (h : Proper spec) (ecLevel : EcLevel) (words : List UInt8) :
    layoutMatrix spec ecLevel words =
      { createBaseMatrix spec with
        modules := writeAll (fun _ => none) (symbolWrites spec ecLevel words)
        log := symbolWrites spec ecLevel words } := by
  have hbase := createBaseMatrix_eq h
  have hsize : (createBaseMatrix spec).size = spec.size := by rw [hbase]
  have hmodules : (createBaseMatrix spec).modules = writeAll (fun _ => none) (patternWrites spec) := by
    rw [hbase]
  have hlog : (createBaseMatrix spec).log = patternWrites spec := by rw [hbase]
  rw [layoutMatrix, inscribeFormatInfo, placeDataBits]
  dsimp only
  rw [hsize, hmodules, hlog, symbolWrites, writeAll_append, writeAll_append]

theorem size_layoutMatrix (h : Proper spec) (ecLevel : EcLevel) (words : List UInt8) :
    (layoutMatrix spec ecLevel words).size = spec.size := by
  rw [layoutMatrix_eq h, createBaseMatrix_eq h]

/-- A module holds what is assigned to it. -/
theorem modules_layoutMatrix (hmem : spec ∈ versionSpecs) {words : List UInt8} {val : Bool}
    (h : (cell, val) ∈ symbolWrites spec ecLevel words) :
    (layoutMatrix spec ecLevel words).modules cell = some val := by
  rw [layoutMatrix_eq (proper_of_mem hmem)]
  refine writeAll_of_mem ?_ h
  rw [map_fst_symbolWrites]
  exact nodup_written hmem

theorem drawnOnce_layoutMatrix (hmem : spec ∈ versionSpecs) (words : List UInt8) :
    DrawnOnce (layoutMatrix spec ecLevel words) := by
  have h := proper_of_mem hmem
  have hinside (cell : Cell) (hrow : cell.1 < (layoutMatrix spec ecLevel words).size)
      (hcol : cell.2 < (layoutMatrix spec ecLevel words).size) : cell ∈ written spec := by
    rw [size_layoutMatrix h] at hrow hcol
    exact (mem_written hmem).mpr ⟨hrow, hcol⟩
  refine ⟨fun cell hrow hcol => ?_, fun cell hrow hcol => ?_⟩
  · rw [layoutMatrix_eq h]
    dsimp only
    rw [map_fst_symbolWrites]
    exact List.count_eq_one_of_mem (nodup_written hmem) (hinside cell hrow hcol)
  · have hwritten := hinside cell hrow hcol
    rw [← map_fst_symbolWrites ecLevel words, List.mem_map] at hwritten
    obtain ⟨⟨_, val⟩, hwrite, rfl⟩ := hwritten
    rw [modules_layoutMatrix hmem hwrite]
    exact Option.some_ne_none val

/-! ### Texts that get a code -/

/-- What the table says of the blocks of a level. -/
structure Divided (spec : VersionSpec) (ecSpec : EcSpec) : Prop where
  blocks : 0 < ecSpec.blocks
  data : ecSpec.data / ecSpec.blocks * ecSpec.blocks = ecSpec.data
  ec : 0 < ecSpec.ec
  total : ecSpec.data + ecSpec.ec * ecSpec.blocks = spec.total
  small : ecSpec.data < 2 ^ 8

theorem divided_of_mem (h : spec ∈ versionSpecs) (ecLevel : EcLevel) :
    Divided spec (spec.ecSpec ecLevel) := by
  have htable : ∀ spec ∈ versionSpecs, ∀ ecSpec ∈ [spec.L, spec.M],
      0 < ecSpec.blocks ∧ ecSpec.data / ecSpec.blocks * ecSpec.blocks = ecSpec.data ∧
        0 < ecSpec.ec ∧ ecSpec.data + ecSpec.ec * ecSpec.blocks = spec.total ∧
          ecSpec.data < 2 ^ 8 := by decide
  have hlevel : spec.ecSpec ecLevel ∈ [spec.L, spec.M] := by
    cases ecLevel with
    | L => exact List.mem_cons_self
    | M => exact List.mem_cons_of_mem _ List.mem_cons_self
  obtain ⟨hblocks, hdata, hec, htotal, hsmall⟩ := htable spec h _ hlevel
  exact ⟨hblocks, hdata, hec, htotal, hsmall⟩

theorem matchedSpec_spec {byteLen : ℕ} (h : matchedSpec byteLen ecLevel = some spec) :
    spec ∈ versionSpecs ∧ byteLen + 3 ≤ (spec.ecSpec ecLevel).data :=
  ⟨List.mem_of_find?_eq_some h, by simpa using List.find?_some h⟩

/-- The bytes that the largest version takes. -/
def capacity : EcLevel → ℕ
  | .L => 133
  | .M => 105

theorem matchedSpec_isSome (byteLen : ℕ) :
    (matchedSpec byteLen ecLevel).isSome = true ↔ byteLen ≤ capacity ecLevel := by
  have htable : ∀ spec ∈ versionSpecs, (spec.ecSpec ecLevel).data ≤ capacity ecLevel + 3 := by
    cases ecLevel with
    | L => decide
    | M => decide
  have hlargest : ∃ spec ∈ versionSpecs, (spec.ecSpec ecLevel).data = capacity ecLevel + 3 := by
    cases ecLevel with
    | L => decide
    | M => decide
  rw [matchedSpec, List.find?_isSome]
  constructor
  · rintro ⟨spec, hmem, hfits⟩
    have hdata := htable spec hmem
    rw [decide_eq_true_eq] at hfits
    omega
  · intro hfits
    obtain ⟨spec, hmem, hdata⟩ := hlargest
    exact ⟨spec, hmem, by rw [decide_eq_true_eq]; omega⟩

variable {text : List UInt16} {options : QrOptions}

/-- The modules of a text, at the version that takes its bytes. -/
theorem generateMatrix_ok {m : Matrix} (h : generateMatrix text ecLevel = .ok m) :
    ∃ spec ∈ versionSpecs, (textBytes text).length + 3 ≤ (spec.ecSpec ecLevel).data ∧
      m = layoutMatrix spec ecLevel
        (interleavedOf (encodeBitstream text (spec.ecSpec ecLevel)) (spec.ecSpec ecLevel)) := by
  rw [generateMatrix] at h
  split_ifs at h with hempty
  dsimp only at h
  cases hmatched : matchedSpec (textBytes text).length ecLevel with
  | none =>
    rw [hmatched] at h
    cases h
  | some spec =>
    rw [hmatched] at h
    obtain ⟨hmem, hfits⟩ := matchedSpec_spec hmatched
    exact ⟨spec, hmem, hfits, (Except.ok.inj h).symm⟩

theorem generateMatrix_accepts :
    (∃ m, generateMatrix text ecLevel = .ok m) ↔
      text ≠ [] ∧ (textBytes text).length ≤ capacity ecLevel := by
  rw [generateMatrix, ← matchedSpec_isSome]
  by_cases hempty : text = []
  · rw [if_pos hempty]
    refine iff_of_false ?_ fun h => h.1 hempty
    rintro ⟨m, hm⟩
    cases hm
  · rw [if_neg hempty]
    dsimp only
    cases matchedSpec (textBytes text).length ecLevel with
    | none =>
      refine iff_of_false ?_ fun h => Bool.false_ne_true h.2
      rintro ⟨m, hm⟩
      cases hm
    | some spec => exact iff_of_true ⟨_, rfl⟩ ⟨hempty, rfl⟩

theorem generateQrSvg_ok {code : QrSvg} :
    generateQrSvg text options = .ok code ↔
      ∃ m, generateMatrix text options.level = .ok m ∧ renderSvg text options m = code := by
  rw [generateQrSvg]
  cases generateMatrix text options.level with
  | error message =>
    refine iff_of_false (fun h => ?_) fun ⟨m, hm, _⟩ => ?_
    · cases h
    · cases hm
  | ok m =>
    constructor
    · intro h
      exact ⟨m, rfl, Except.ok.inj h⟩
    · rintro ⟨_, hm, rfl⟩
      cases hm
      rfl

/-- A text gets a code when it is not empty and its bytes fit the largest version. -/
theorem generateQrSvg_accepts :
    (∃ code, generateQrSvg text options = .ok code) ↔
      text ≠ [] ∧ (textBytes text).length ≤ capacity options.level := by
  rw [← generateMatrix_accepts]
  simp only [generateQrSvg_ok]
  constructor
  · rintro ⟨_, m, hm, -⟩
    exact ⟨m, hm⟩
  · rintro ⟨m, hm⟩
    exact ⟨_, m, hm, rfl⟩

/-! ### Where the codewords go -/

theorem getElem?_flatMap_of_length {α β : Type*} {f : α → List β} {n : ℕ} {values : List α}
    (hf : ∀ a ∈ values, (f a).length = n) (j : ℕ) {b : ℕ} (hb : b < n) :
    (values.flatMap f)[j * n + b]? = values[j]?.bind fun a => (f a)[b]? := by
  induction values generalizing j with
  | nil => simp
  | cons first rest ih =>
    rw [List.forall_mem_cons] at hf
    rw [List.flatMap_cons]
    cases j with
    | zero =>
      rw [Nat.zero_mul, Nat.zero_add, List.getElem?_append_left (by omega), List.getElem?_cons_zero]
      rfl
    | succ j =>
      have hindex : (j + 1) * n + b = n + (j * n + b) := by ring
      rw [hindex, List.getElem?_append_right (by omega), hf.1, Nat.add_sub_cancel_left, ih hf.2,
        List.getElem?_cons_succ]

theorem length_flatMap_of_length {α β : Type*} {f : α → List β} {n : ℕ} {values : List α}
    (hf : ∀ a ∈ values, (f a).length = n) : (values.flatMap f).length = values.length * n := by
  rw [List.length_flatMap, List.map_congr_left hf, List.map_const', List.sum_replicate, smul_eq_mul]

variable {length : ℕ} {blocks : List (List UInt8)}

/-- A slot of an interleaving, when no block is shorter. -/
theorem slot_eq (h : ∀ block ∈ blocks, block.length = length) {i : ℕ} (hi : i < length) :
    blocks.filterMap (fun block => block[i]?) = blocks.map fun block => block.getD i 0 := by
  induction blocks with
  | nil => rfl
  | cons block rest ih =>
    rw [List.forall_mem_cons] at h
    have hget : block[i]? = some (block.getD i 0) := by
      rw [List.getElem?_eq_getElem (by omega), List.getD_eq_getElem _ _ (by omega)]
    have hfirst : (block :: rest).filterMap (fun block => block[i]?) =
        block.getD i 0 :: rest.filterMap fun block => block[i]? := List.filterMap_cons_some hget
    rw [hfirst, List.map_cons, ih h.2]

theorem length_slot (h : ∀ block ∈ blocks, block.length = length) :
    ∀ i ∈ List.range length, (blocks.filterMap fun block => block[i]?).length = blocks.length := by
  intro i hi
  rw [slot_eq h (List.mem_range.mp hi), List.length_map]

theorem length_interleave (h : ∀ block ∈ blocks, block.length = length) :
    (interleave length blocks).length = length * blocks.length := by
  rw [interleave, length_flatMap_of_length (length_slot h), List.length_range]

/-- The codeword of a block in the interleaving. -/
theorem interleave_getElem? (h : ∀ block ∈ blocks, block.length = length) {i b : ℕ}
    (hi : i < length) (hb : b < blocks.length) :
    (interleave length blocks)[i * blocks.length + b]? = some ((blocks.getD b []).getD i 0) := by
  rw [interleave, getElem?_flatMap_of_length (length_slot h) i hb, List.getElem?_range hi,
    Option.bind_some, slot_eq h hi, List.getElem?_map, List.getElem?_eq_getElem hb, Option.map_some,
    List.getD_eq_getElem _ _ hb]

end DshOrbit.Qr
