import DshOrbit.Lib.Bytes
import DshOrbit.Lib.Utf16
import DshOrbit.Qr.ReedSolomon

/-!
# The bit stream of a QR code

The data codewords of a text (`plugin/qr-svg.mjs`): the mode, the count and the bytes of the text,
padded to the capacity of the version, and how a decoder reads them.

## Main definitions

- `versionSpecs` — the table of versions
- `encodeBitstream` — the function of that name
- `decodeBitstream` — the text that a decoder finds

## Main results

- `decode_encodeBitstream` — the decoder finds the text
-/

namespace DshOrbit.Qr

open DshOrbit.Lib

inductive EcLevel
  | L
  | M
  deriving DecidableEq

structure EcSpec where
  data : ℕ
  ec : ℕ
  blocks : ℕ
  deriving DecidableEq

structure VersionSpec where
  version : ℕ
  size : ℕ
  total : ℕ
  L : EcSpec
  M : EcSpec
  align : List ℕ
  deriving DecidableEq

def VersionSpec.ecSpec (spec : VersionSpec) : EcLevel → EcSpec
  | .L => spec.L
  | .M => spec.M

def versionSpecs : List VersionSpec :=
  [{ version := 1, size := 21, total := 26, L := ⟨19, 7, 1⟩, M := ⟨16, 10, 1⟩, align := [] },
    { version := 2, size := 25, total := 44, L := ⟨34, 10, 1⟩, M := ⟨28, 16, 1⟩
      align := [6, 18] },
    { version := 3, size := 29, total := 70, L := ⟨55, 15, 1⟩, M := ⟨44, 26, 1⟩
      align := [6, 22] },
    { version := 4, size := 33, total := 100, L := ⟨80, 20, 1⟩, M := ⟨64, 18, 2⟩
      align := [6, 26] },
    { version := 5, size := 37, total := 134, L := ⟨108, 26, 1⟩, M := ⟨86, 24, 2⟩
      align := [6, 30] },
    { version := 6, size := 41, total := 172, L := ⟨136, 18, 2⟩, M := ⟨108, 16, 4⟩
      align := [6, 34] }]

/-! ### Bits -/

/-- The bits that `pushBits` appends, the highest first. -/
def bitsOf (value length : ℕ) : List Bool :=
  (List.range length).reverse.map fun i => value.testBit i

/-- The number that bits are, the highest first. -/
def ofBits (bits : List Bool) : ℕ :=
  bits.foldl (fun value bit => (value <<< 1) ||| bit.toNat) 0

theorem length_bitsOf (value length : ℕ) : (bitsOf value length).length = length := by
  rw [bitsOf, List.length_map, List.length_reverse, List.length_range]

theorem bitsOf_succ (value length : ℕ) :
    bitsOf value (length + 1) = value.testBit length :: bitsOf value length := by
  rw [bitsOf, List.range_succ, List.reverse_append, bitsOf]
  rfl

theorem pushBit (value : ℕ) (bit : Bool) : (value <<< 1) ||| bit.toNat = 2 * value + bit.toNat := by
  rw [Nat.shiftLeft_eq, Nat.mul_comm, pow_one]
  cases bit with
  | false => simp
  | true =>
    have hor := Nat.two_pow_add_eq_or_of_lt (i := 1) (b := 1) (by decide) value
    simpa using hor.symm

theorem foldl_pushBit (bits : List Bool) (value : ℕ) :
    bits.foldl (fun value bit => (value <<< 1) ||| bit.toNat) value =
      value * 2 ^ bits.length + ofBits bits := by
  induction bits generalizing value with
  | nil => simp [ofBits]
  | cons bit rest ih =>
    rw [ofBits, List.foldl_cons, List.foldl_cons, ih, ih, pushBit, pushBit, List.length_cons, pow_succ]
    ring

theorem ofBits_cons (bit : Bool) (rest : List Bool) :
    ofBits (bit :: rest) = bit.toNat * 2 ^ rest.length + ofBits rest := by
  rw [ofBits, List.foldl_cons, foldl_pushBit, pushBit]
  ring

theorem ofBits_lt (bits : List Bool) : ofBits bits < 2 ^ bits.length := by
  induction bits with
  | nil => simp [ofBits]
  | cons bit rest ih =>
    rw [ofBits_cons, List.length_cons, pow_succ]
    have hbit : bit.toNat ≤ 1 := Bool.toNat_le bit
    nlinarith

theorem ofBits_bitsOf (value length : ℕ) : ofBits (bitsOf value length) = value % 2 ^ length := by
  induction length with
  | zero => simp [bitsOf, ofBits, Nat.mod_one]
  | succ length ih =>
    rw [bitsOf_succ, ofBits_cons, ih, length_bitsOf, Nat.mod_pow_succ, Nat.toNat_testBit]
    ring

theorem ofBits_injective {bits others : List Bool} (hlength : bits.length = others.length)
    (h : ofBits bits = ofBits others) : bits = others := by
  induction bits generalizing others with
  | nil => exact (List.length_eq_zero_iff.mp hlength.symm).symm
  | cons bit rest ih =>
    obtain ⟨other, rest', rfl⟩ := List.exists_cons_of_length_eq_add_one hlength.symm
    have hrest : rest.length = rest'.length := by simpa using hlength
    have hlt := ofBits_lt rest
    have hlt' := ofBits_lt rest'
    rw [ofBits_cons, ofBits_cons, hrest] at h
    rw [hrest] at hlt
    generalize 2 ^ rest'.length = n at h hlt hlt'
    cases bit with
    | false =>
      cases other with
      | false => rw [ih hrest (by simpa using h)]
      | true => simp only [Bool.toNat_false, Bool.toNat_true] at h; omega
    | true =>
      cases other with
      | false => simp only [Bool.toNat_false, Bool.toNat_true] at h; omega
      | true => rw [ih hrest (by simpa using h)]

theorem bitsOf_ofBits (bits : List Bool) : bitsOf (ofBits bits) bits.length = bits := by
  refine ofBits_injective (length_bitsOf _ _) ?_
  rw [ofBits_bitsOf, Nat.mod_eq_of_lt (ofBits_lt bits)]

/-! ### Codewords -/

/-- The bits of bytes. -/
def byteBits (bytes : List UInt8) : List Bool := bytes.flatMap fun byte => bitsOf byte.toNat 8

/-- Bits in groups of eight. -/
def codewordsOf (bits : List Bool) : List UInt8 :=
  (List.range (bits.length / 8)).map fun k => .ofNat (ofBits ((bits.drop (8 * k)).take 8))

theorem length_byteBits (bytes : List UInt8) : (byteBits bytes).length = 8 * bytes.length := by
  induction bytes with
  | nil => rfl
  | cons byte rest ih =>
    rw [byteBits, List.flatMap_cons, ← byteBits, List.length_append, length_bitsOf, ih,
      List.length_cons]
    omega

theorem codewordsOf_append {group : List Bool} (h : group.length = 8) (bits : List Bool) :
    codewordsOf (group ++ bits) = .ofNat (ofBits group) :: codewordsOf bits := by
  have hlength : (group ++ bits).length / 8 = bits.length / 8 + 1 := by
    rw [List.length_append, h]
    omega
  rw [codewordsOf, hlength, List.range_succ_eq_map, List.map_cons, List.map_map, codewordsOf]
  refine congrArg₂ _ ?_ (List.map_congr_left fun k _ => ?_)
  · rw [Nat.mul_zero, List.drop_zero, List.take_left' h]
  · have hdrop : (group ++ bits).drop (8 * (k + 1)) = bits.drop (8 * k) := by
      rw [Nat.mul_succ, Nat.add_comm, ← List.drop_drop, List.drop_left' h]
    show UInt8.ofNat (ofBits (((group ++ bits).drop (8 * (k + 1))).take 8)) = _
    rw [hdrop]

theorem codewordsOf_byteBits (bytes : List UInt8) : codewordsOf (byteBits bytes) = bytes := by
  induction bytes with
  | nil => rfl
  | cons byte rest ih =>
    rw [byteBits, List.flatMap_cons, ← byteBits, codewordsOf_append (length_bitsOf _ _), ih,
      ofBits_bitsOf, Nat.mod_eq_of_lt byte.toNat_lt, UInt8.ofNat_toNat]

theorem byteBits_codewordsOf {bits : List Bool} {n : ℕ} (h : bits.length = 8 * n) :
    byteBits (codewordsOf bits) = bits := by
  induction n generalizing bits with
  | zero =>
    rw [List.length_eq_zero_iff.mp h]
    rfl
  | succ n ih =>
    have hgroup : (bits.take 8).length = 8 := by
      rw [List.length_take]
      omega
    have hrest : (bits.drop 8).length = 8 * n := by
      rw [List.length_drop]
      omega
    have hbits := bitsOf_ofBits (bits.take 8)
    have hbyte : (UInt8.ofNat (ofBits (bits.take 8))).toNat = ofBits (bits.take 8) := by
      have hlt := ofBits_lt (bits.take 8)
      rw [hgroup] at hlt
      exact UInt8.toNat_ofNat_of_lt' hlt
    rw [hgroup] at hbits
    conv_lhs => rw [← List.take_append_drop 8 bits, codewordsOf_append hgroup]
    rw [byteBits, List.flatMap_cons, ← byteBits, hbyte, hbits, ih hrest, List.take_append_drop]

/-! ### The bit stream -/

/-- `new TextEncoder().encode(text)`. -/
def textBytes (text : List UInt16) : List UInt8 :=
  utf8Bytes (String.ofList (scalarValues text))

/-- The mode, the count of the bytes, and the bytes. -/
def headedBits (bytes : List UInt8) : List Bool :=
  bitsOf 0b0100 4 ++ bitsOf bytes.length 8 ++ byteBits bytes

/-- Zeroes up to a multiple of eight bits. -/
def padToByte (bitArray : List Bool) : List Bool :=
  bitArray ++ List.replicate ((8 - bitArray.length % 8) % 8) false

/-- Codewords that fill up the capacity. -/
def padBytes (count : ℕ) : List UInt8 :=
  (List.range count).map fun padIdx => if padIdx % 2 = 0 then 0xec else 0x11

/-- The data codewords of a text. -/
def encodeBitstream (text : List UInt16) (ecSpec : EcSpec) : List UInt8 :=
  let maxDataCodewords := ecSpec.data
  let bitArray := headedBits (textBytes text)
  let terminatorLen := min 4 (maxDataCodewords * 8 - bitArray.length)
  let codewords := codewordsOf (padToByte (bitArray ++ List.replicate terminatorLen false))
  codewords ++ padBytes (maxDataCodewords - codewords.length)

/-- The text that a decoder finds in data codewords: byte mode, and the bytes in UTF-8. -/
def decodeBitstream (codewords : List UInt8) : Option String :=
  let bits := byteBits codewords
  let count := ofBits ((bits.drop 4).take 8)
  let payload := (bits.drop 12).take (8 * count)
  if ofBits (bits.take 4) = 0b0100 ∧ payload.length = 8 * count then
    some (utf8Decode (codewordsOf payload))
  else none

variable {text : List UInt16} {ecSpec : EcSpec}

theorem length_headedBits (bytes : List UInt8) :
    (headedBits bytes).length = 12 + 8 * bytes.length := by
  rw [headedBits, List.length_append, List.length_append, length_bitsOf, length_bitsOf,
    length_byteBits]

/-- The codewords begin with the bits of the text, and fill the capacity. -/
theorem encodeBitstream_spec (h : (textBytes text).length + 3 ≤ ecSpec.data) :
    (encodeBitstream text ecSpec).length = ecSpec.data ∧
      ∃ rest, byteBits (encodeBitstream text ecSpec) = headedBits (textBytes text) ++ rest := by
  have hheaded := length_headedBits (textBytes text)
  have hterminator : min 4 (ecSpec.data * 8 - (headedBits (textBytes text)).length) = 4 := by omega
  have hlength : (headedBits (textBytes text) ++ List.replicate 4 false).length =
      8 * ((textBytes text).length + 2) := by
    rw [List.length_append, hheaded, List.length_replicate]
    omega
  have hpadded : padToByte (headedBits (textBytes text) ++ List.replicate 4 false) =
      headedBits (textBytes text) ++ List.replicate 4 false := by
    rw [padToByte, hlength, Nat.mul_mod_right]
    exact List.append_nil _
  rw [encodeBitstream]
  rw [hterminator, hpadded]
  constructor
  · rw [List.length_append, codewordsOf, padBytes, List.length_map, List.length_map,
      List.length_range, List.length_range, hlength]
    omega
  · refine ⟨List.replicate 4 false ++ byteBits (padBytes (ecSpec.data -
      (codewordsOf (headedBits (textBytes text) ++ List.replicate 4 false)).length)), ?_⟩
    rw [byteBits, List.flatMap_append, ← byteBits, byteBits_codewordsOf hlength, ← byteBits,
      List.append_assoc]

/-- The decoder finds the characters of the text. -/
theorem decode_encodeBitstream (h : (textBytes text).length + 3 ≤ ecSpec.data)
    (hcount : (textBytes text).length < 2 ^ 8) :
    decodeBitstream (encodeBitstream text ecSpec) = some (String.ofList (scalarValues text)) := by
  obtain ⟨-, rest, hbits⟩ := encodeBitstream_spec h
  have hmode : (byteBits (encodeBitstream text ecSpec)).take 4 = bitsOf 0b0100 4 := by
    rw [hbits, headedBits, List.append_assoc, List.append_assoc, List.take_left' (length_bitsOf _ _)]
  have hcounted : ((byteBits (encodeBitstream text ecSpec)).drop 4).take 8 =
      bitsOf (textBytes text).length 8 := by
    rw [hbits, headedBits, List.append_assoc, List.append_assoc, List.drop_left' (length_bitsOf _ _),
      List.take_left' (length_bitsOf _ _)]
  have hpayload : ((byteBits (encodeBitstream text ecSpec)).drop 12).take
      (8 * (textBytes text).length) = byteBits (textBytes text) := by
    have hhead : (bitsOf 0b0100 4 ++ bitsOf (textBytes text).length 8).length = 12 := by
      rw [List.length_append, length_bitsOf, length_bitsOf]
    rw [hbits, headedBits, List.append_assoc, List.drop_left' hhead,
      List.take_left' (length_byteBits _)]
  rw [decodeBitstream]
  rw [hmode, hcounted, ofBits_bitsOf, ofBits_bitsOf, Nat.mod_eq_of_lt hcount, hpayload,
    if_pos ⟨rfl, length_byteBits _⟩, codewordsOf_byteBits, textBytes, utf8Decode_utf8Bytes]

end DshOrbit.Qr
