import Mathlib.Data.List.Basic
import Mathlib.Tactic.Ring
import Mathlib.Tactic.NormNum

/-!
# Byte strings

Big-endian unsigned integers of a fixed width, and the decoding of UTF-8 bytes
that replaces every ill-formed part by U+FFFD.

## Main definitions

- `toBigEndian`, `ofBigEndian` — fixed-width big-endian integers
- `utf8Bytes` — the UTF-8 bytes of a text
- `utf8Decode` — lossy decoding, one replacement character for each maximal
  ill-formed part
-/

namespace DshOrbit.Lib

/-! ### Big-endian integers -/

/-- The `width` bytes of `n`, most significant first. -/
def toBigEndian : ℕ → ℕ → List UInt8
  | 0, _ => []
  | width + 1, n => UInt8.ofNat (n / 256 ^ width) :: toBigEndian width (n % 256 ^ width)

/-- The integer whose bytes are given most significant first. -/
def ofBigEndian (bytes : List UInt8) : ℕ :=
  bytes.foldl (fun acc b => acc * 256 + b.toNat) 0

@[simp] theorem length_toBigEndian (width n : ℕ) : (toBigEndian width n).length = width := by
  induction width generalizing n with
  | zero => rfl
  | succ width ih => simp [toBigEndian, ih]

theorem foldl_toBigEndian (width n acc : ℕ) (h : n < 256 ^ width) :
    (toBigEndian width n).foldl (fun acc b => acc * 256 + b.toNat) acc =
      acc * 256 ^ width + n := by
  induction width generalizing n acc with
  | zero =>
    have hn : n = 0 := by simpa using h
    simp [toBigEndian, hn]
  | succ width ih =>
    have hpos : 0 < 256 ^ width := Nat.pow_pos (by norm_num)
    have hdigit : n / 256 ^ width < 256 := by
      rw [Nat.div_lt_iff_lt_mul hpos]
      rwa [pow_succ, Nat.mul_comm] at h
    have hbyte : (UInt8.ofNat (n / 256 ^ width)).toNat = n / 256 ^ width := by
      simpa using hdigit
    simp only [toBigEndian, List.foldl_cons]
    rw [ih _ _ (Nat.mod_lt _ hpos), hbyte]
    calc (acc * 256 + n / 256 ^ width) * 256 ^ width + n % 256 ^ width
        = acc * (256 ^ width * 256) + (256 ^ width * (n / 256 ^ width) + n % 256 ^ width) := by
          ring
      _ = acc * 256 ^ (width + 1) + n := by rw [Nat.div_add_mod, pow_succ]

theorem ofBigEndian_toBigEndian {width n : ℕ} (h : n < 256 ^ width) :
    ofBigEndian (toBigEndian width n) = n := by
  simpa [ofBigEndian] using foldl_toBigEndian width n 0 h

theorem foldl_bigEndian_lt (bytes : List UInt8) (acc : ℕ) :
    bytes.foldl (fun acc b => acc * 256 + b.toNat) acc < (acc + 1) * 256 ^ bytes.length := by
  induction bytes generalizing acc with
  | nil => simp
  | cons b bytes ih =>
    have hb : b.toNat < 256 := b.toNat_lt
    calc (b :: bytes).foldl (fun acc b => acc * 256 + b.toNat) acc
        < (acc * 256 + b.toNat + 1) * 256 ^ bytes.length := ih _
      _ ≤ ((acc + 1) * 256) * 256 ^ bytes.length := Nat.mul_le_mul_right _ (by omega)
      _ = (acc + 1) * 256 ^ (b :: bytes).length := by rw [List.length_cons, pow_succ]; ring

/-- A big-endian integer fits in its bytes. -/
theorem ofBigEndian_lt (bytes : List UInt8) : ofBigEndian bytes < 256 ^ bytes.length := by
  simpa [ofBigEndian] using foldl_bigEndian_lt bytes 0

/-! ### UTF-8 -/

/-- The UTF-8 bytes of a text. -/
def utf8Bytes (text : String) : List UInt8 :=
  text.toList.flatMap String.utf8EncodeChar

def isContinuation (b : UInt8) : Bool := 0x80 ≤ b && b ≤ 0xBF

/-- Whether `second` may follow the lead byte `lead` of a sequence of at least
three bytes: no overlong form, no surrogate, nothing above U+10FFFF. -/
def secondByteOk (lead second : UInt8) : Bool :=
  if lead == 0xE0 then 0xA0 ≤ second && second ≤ 0xBF
  else if lead == 0xED then 0x80 ≤ second && second ≤ 0x9F
  else if lead == 0xF0 then 0x90 ≤ second && second ≤ 0xBF
  else if lead == 0xF4 then 0x80 ≤ second && second ≤ 0x8F
  else isContinuation second

/-- How many bytes the ill-formed part at the front of `lead :: bytes` takes:
the longest start of a well-formed sequence, and at least one byte. -/
def illFormedLength (lead : UInt8) (bytes : List UInt8) : ℕ :=
  if 0xE0 ≤ lead && lead ≤ 0xF4 then
    match bytes with
    | b₁ :: b₂ :: _ =>
      if !secondByteOk lead b₁ then 1
      else if 0xF0 ≤ lead && isContinuation b₂ then 3
      else 2
    | [b₁] => if secondByteOk lead b₁ then 2 else 1
    | [] => 1
  else 1

/-- Decode with a bound on the characters read. -/
def utf8DecodeLoop : ℕ → List UInt8 → List Char
  | _, [] => []
  | 0, _ :: _ => []
  | n + 1, lead :: bytes =>
    match (lead :: bytes).toByteArray.utf8DecodeChar? 0 with
    | some c => c :: utf8DecodeLoop n ((lead :: bytes).drop c.utf8Size)
    | none => '\uFFFD' :: utf8DecodeLoop n ((lead :: bytes).drop (illFormedLength lead bytes))

/-- The text that the bytes decode to. Every character takes at least one byte,
so the number of bytes bounds the loop. -/
def utf8Decode (bytes : List UInt8) : String :=
  String.ofList (utf8DecodeLoop bytes.length bytes)

theorem utf8DecodeLoop_encodeChar (c : Char) (n : ℕ) (rest : List UInt8) :
    utf8DecodeLoop (n + 1) (String.utf8EncodeChar c ++ rest) = c :: utf8DecodeLoop n rest := by
  have hdecode : (String.utf8EncodeChar c ++ rest).toByteArray.utf8DecodeChar? 0 = some c := by
    rw [List.toByteArray_append]
    exact ByteArray.utf8DecodeChar?_utf8EncodeChar_append
  obtain ⟨lead, bytes, hcons⟩ : ∃ lead bytes, String.utf8EncodeChar c ++ rest = lead :: bytes := by
    cases h : String.utf8EncodeChar c with
    | nil => exact absurd h String.utf8EncodeChar_ne_nil
    | cons b bs => exact ⟨b, bs ++ rest, rfl⟩
  rw [hcons] at hdecode ⊢
  simp only [utf8DecodeLoop, hdecode]
  rw [← hcons, ← String.length_utf8EncodeChar c, List.drop_left]

theorem utf8DecodeLoop_encode (cs : List Char) {n : ℕ} (h : cs.length ≤ n) :
    utf8DecodeLoop n (cs.flatMap String.utf8EncodeChar) = cs := by
  induction cs generalizing n with
  | nil => cases n <;> rfl
  | cons c cs ih =>
    obtain ⟨n, rfl⟩ : ∃ k, n = k + 1 := ⟨n - 1, by simp at h; omega⟩
    rw [List.flatMap_cons, utf8DecodeLoop_encodeChar, ih (by simpa using h)]

theorem length_le_length_utf8 (cs : List Char) :
    cs.length ≤ (cs.flatMap String.utf8EncodeChar).length := by
  induction cs with
  | nil => simp
  | cons c cs ih =>
    have := c.utf8Size_pos
    simp only [List.flatMap_cons, List.length_append, String.length_utf8EncodeChar,
      List.length_cons]
    omega

theorem utf8Bytes_ne_nil {text : String} (h : text.toList ≠ []) : utf8Bytes text ≠ [] := by
  obtain ⟨c, rest, hcons⟩ := List.exists_cons_of_ne_nil h
  rw [utf8Bytes, hcons, List.flatMap_cons]
  intro hnil
  exact String.utf8EncodeChar_ne_nil (List.append_eq_nil_iff.mp hnil).1

/-- Decoding the bytes of a text gives the text back. -/
theorem utf8Decode_utf8Bytes (text : String) : utf8Decode (utf8Bytes text) = text := by
  unfold utf8Decode utf8Bytes
  rw [utf8DecodeLoop_encode _ (length_le_length_utf8 _), String.ofList_toList]

theorem length_utf8DecodeLoop_le (n : ℕ) (bytes : List UInt8) :
    (utf8DecodeLoop n bytes).length ≤ n := by
  induction n generalizing bytes with
  | zero => cases bytes <;> simp [utf8DecodeLoop]
  | succ n ih =>
    cases bytes with
    | nil => simp [utf8DecodeLoop]
    | cons lead bytes =>
      simp only [utf8DecodeLoop]
      split <;> simpa using ih _

/-- A decoded text has no more characters than its bytes. -/
theorem length_utf8Decode_le (bytes : List UInt8) :
    (utf8Decode bytes).length ≤ bytes.length := by
  rw [utf8Decode, String.length_ofList]
  exact length_utf8DecodeLoop_le _ _

/-- One stray continuation byte, and a truncated three-byte sequence before an
ASCII letter, each become one replacement character. -/
example : utf8Decode [0x80, 0xE2, 0x82, 0x61] = "\uFFFD\uFFFDa" := by decide

end DshOrbit.Lib
