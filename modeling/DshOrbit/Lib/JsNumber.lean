import DshOrbit.Lib.JsString
import Mathlib.Data.Rat.Floor
import Mathlib.Data.Nat.Log
import Mathlib.Tactic.Linarith
import Mathlib.Tactic.NormNum
import Mathlib.Tactic.Positivity

/-!
# Numbers of the JavaScript standard library

A finite number is the rational it denotes. A text that denotes none, or one that is not
finite, has no number here.

## Main definitions

- `roundDouble` — the nearest double-precision number
- `numberOf` — `Number(text)`
- `isInteger?` — the value of a number for which `Number.isInteger` holds

## Main results

- `roundDouble_natCast`, `le_of_roundDouble` — how an integer is rounded
- `numberOfChars_digits` — the number of a text of decimal digits
-/

namespace DshOrbit.Lib

/-! ### Double precision -/

/-- The nearest integer, the even one of two. -/
def roundHalfEven (q : ℚ) : ℤ :=
  let below := q.floor
  if q - below < 1 / 2 then below
  else if 1 / 2 < q - below then below + 1
  else if below % 2 = 0 then below else below + 1

/-- The exponent of the binade that a positive rational lies in. -/
def binade (q : ℚ) : ℤ :=
  let guess : ℤ := (Nat.log2 q.num.natAbs : ℤ) - Nat.log2 q.den
  if (2 : ℚ) ^ guess ≤ q then guess else guess - 1

/-- The nearest double-precision number; `none` where it is infinite. -/
def roundDouble (q : ℚ) : Option ℚ :=
  if q = 0 then some 0
  else
    let unit : ℚ := (2 : ℚ) ^ (max (binade |q|) (-1022) - 52)
    let rounded := (roundHalfEven (q / unit) : ℚ) * unit
    if |rounded| < 2 ^ 1024 then some rounded else none

/-! ### Numeric texts -/

def digitValue (c : Char) : ℕ :=
  let n := c.toNat
  if 48 ≤ n ∧ n ≤ 57 then n - 48
  else if 97 ≤ n ∧ n ≤ 122 then n - 87
  else if 65 ≤ n ∧ n ≤ 90 then n - 55
  else 36

/-- The digits of a base, at least one of them and nothing else. -/
def readBase (base : ℕ) (chars : List Char) : Option ℕ :=
  if !chars.isEmpty && chars.all fun c => digitValue c < base then
    some (chars.foldl (fun value c => value * base + digitValue c) 0)
  else none

/-- An exponent part, from its letter on. -/
def readExponent : List Char → Option ℤ
  | [] => some 0
  | e :: rest =>
    if e = 'e' ∨ e = 'E' then
      match rest with
      | '+' :: digits => (readBase 10 digits).map Int.ofNat
      | '-' :: digits => (readBase 10 digits).map fun n => -(n : ℤ)
      | digits => (readBase 10 digits).map Int.ofNat
    else none

/-- An unsigned decimal literal: digits with a point among, before or after them, and an
exponent. -/
def readDecimal (chars : List Char) : Option ℚ := do
  let whole := chars.takeWhile isDigitChar
  let rest := chars.dropWhile isDigitChar
  let fraction := match rest with
    | '.' :: more => more.takeWhile isDigitChar
    | _ => []
  let tail := match rest with
    | '.' :: more => more.dropWhile isDigitChar
    | _ => rest
  let digits ← readBase 10 (whole ++ fraction)
  let exponent ← readExponent tail
  return (digits : ℚ) * (10 : ℚ) ^ (exponent - fraction.length)

/-- The number a trimmed text denotes. -/
def readNumber : List Char → Option ℚ
  | [] => some 0
  | '0' :: 'x' :: rest | '0' :: 'X' :: rest => (readBase 16 rest).map fun n => (n : ℚ)
  | '0' :: 'o' :: rest | '0' :: 'O' :: rest => (readBase 8 rest).map fun n => (n : ℚ)
  | '0' :: 'b' :: rest | '0' :: 'B' :: rest => (readBase 2 rest).map fun n => (n : ℚ)
  | '+' :: rest => readDecimal rest
  | '-' :: rest => (readDecimal rest).map fun q => -q
  | chars => readDecimal chars

/-- `Number(text)`. -/
def numberOfChars (chars : List Char) : Option ℚ := (readNumber (trimChars chars)).bind roundDouble

def numberOf (s : String) : Option ℚ := numberOfChars s.toList

/-- The value of an integer. -/
def isInteger? (q : ℚ) : Option ℤ := if q.den = 1 then some q.num else none

example : numberOf " 1.5e1 " = some 15 := by decide +kernel

example : numberOf "0x1f" = some 31 := by decide +kernel

/-! ### Rounding of integers -/

theorem roundHalfEven_intCast (n : ℤ) : roundHalfEven n = n := by
  have hfloor : (n : ℚ).floor = n := Rat.floor_intCast n
  rw [roundHalfEven, hfloor, sub_self, if_pos (by norm_num)]

theorem le_roundHalfEven {q : ℚ} {n : ℤ} (h : (n : ℚ) ≤ q) : n ≤ roundHalfEven q := by
  have hfloor : n ≤ q.floor := Rat.le_floor_iff.mpr h
  rw [roundHalfEven]
  split_ifs <;> omega

theorem binade_natCast {n : ℕ} (h : n ≠ 0) : binade n = Nat.log2 n := by
  have hone : Nat.log2 1 = 0 := by decide +kernel
  have hle : (2 : ℚ) ^ (Nat.log2 n : ℤ) ≤ n := by
    rw [zpow_natCast]
    exact_mod_cast Nat.log2_self_le h
  simp only [binade, Rat.num_natCast, Rat.den_natCast, Int.natAbs_natCast, hone, Nat.cast_zero,
    sub_zero, if_pos hle]

/-- The distance between the double-precision numbers about a positive integer. -/
theorem unit_natCast {n : ℕ} (h : n ≠ 0) :
    (2 : ℚ) ^ (max (binade |(n : ℚ)|) (-1022) - 52) = 2 ^ ((Nat.log2 n : ℤ) - 52) := by
  rw [abs_of_nonneg (Nat.cast_nonneg n), binade_natCast h, max_eq_left (by omega)]

/-- A small integer is a double-precision number. -/
theorem roundDouble_natCast {n : ℕ} (h : n < 2 ^ 53) : roundDouble n = some (n : ℚ) := by
  by_cases hzero : n = 0
  · subst hzero
    rfl
  · have hlog : Nat.log2 n < 53 := (Nat.log2_lt hzero).mpr h
    have hunit : (2 : ℚ) ^ ((Nat.log2 n : ℤ) - 52) = (2 ^ (52 - Nat.log2 n))⁻¹ := by
      rw [← zpow_natCast, ← zpow_neg]
      congr 1
      omega
    have hscaled : (n : ℚ) / (2 ^ (52 - Nat.log2 n))⁻¹ =
        ((n * 2 ^ (52 - Nat.log2 n) : ℕ) : ℤ) := by
      rw [div_inv_eq_mul]
      push_cast
      rfl
    have hback : (((n * 2 ^ (52 - Nat.log2 n) : ℕ) : ℤ) : ℚ) * (2 ^ (52 - Nat.log2 n))⁻¹ = n := by
      push_cast
      rw [mul_assoc, mul_inv_cancel₀ (by positivity), mul_one]
    have hsmall : |(n : ℚ)| < 2 ^ 1024 := by
      rw [abs_of_nonneg (Nat.cast_nonneg n)]
      exact_mod_cast h.trans_le (Nat.pow_le_pow_right (by decide) (by decide))
    simp only [roundDouble, Nat.cast_eq_zero, if_neg hzero, unit_natCast hzero, hunit, hscaled,
      roundHalfEven_intCast, hback, if_pos hsmall]

/-- A large integer is rounded to a large number. -/
theorem le_of_roundDouble {n : ℕ} {q : ℚ} (hn : 2 ^ 53 ≤ n) (h : roundDouble n = some q) :
    2 ^ 53 ≤ q := by
  have hzero : n ≠ 0 := by
    rintro rfl
    exact absurd hn (by decide)
  have hlog : 53 ≤ Nat.log2 n := (Nat.le_log2 hzero).mpr hn
  have hunit : (2 : ℚ) ^ ((Nat.log2 n : ℤ) - 52) = 2 ^ (Nat.log2 n - 52) := by
    rw [← zpow_natCast]
    congr 1
    omega
  have hscaled : ((2 ^ 52 : ℤ) : ℚ) ≤ (n : ℚ) / 2 ^ (Nat.log2 n - 52) := by
    rw [le_div_iff₀ (by positivity)]
    have hsplit : 2 ^ 52 * 2 ^ (Nat.log2 n - 52) = 2 ^ Nat.log2 n := by
      rw [← pow_add]
      congr 1
      omega
    exact_mod_cast hsplit.trans_le (Nat.log2_self_le hzero)
  have hrounded := le_roundHalfEven hscaled
  simp only [roundDouble, Nat.cast_eq_zero, if_neg hzero, unit_natCast hzero, hunit] at h
  split_ifs at h
  rw [← Option.some.inj h]
  have hunit2 : (2 : ℚ) ≤ 2 ^ (Nat.log2 n - 52) := by
    exact_mod_cast Nat.pow_le_pow_right (n := 2) (by decide) (by omega : 1 ≤ Nat.log2 n - 52)
  have hcast : (2 ^ 52 : ℚ) ≤ roundHalfEven ((n : ℚ) / 2 ^ (Nat.log2 n - 52)) := by
    exact_mod_cast hrounded
  calc (2 : ℚ) ^ 53 = 2 ^ 52 * 2 := by norm_num
    _ ≤ (roundHalfEven ((n : ℚ) / 2 ^ (Nat.log2 n - 52)) : ℚ) * 2 ^ (Nat.log2 n - 52) := by gcongr

/-! ### Texts of digits -/

theorem digitValue_lt_ten {c : Char} : digitValue c < 10 ↔ isDigitChar c = true := by
  have hzero : '0' ≤ c ↔ 48 ≤ c.toNat := Char.le_def.trans UInt32.le_iff_toNat_le
  have hnine : c ≤ '9' ↔ c.toNat ≤ 57 := Char.le_def.trans UInt32.le_iff_toNat_le
  rw [isDigitChar, Bool.and_eq_true, decide_eq_true_iff, decide_eq_true_iff, hzero, hnine]
  simp only [digitValue]
  split_ifs <;> omega

theorem readBase_ten {chars : List Char} {n : ℕ} (h : readBase 10 chars = some n) :
    chars ≠ [] ∧ ∀ c ∈ chars, isDigitChar c = true := by
  rw [readBase] at h
  split_ifs at h with hdigits
  rw [Bool.and_eq_true, Bool.not_eq_true', List.isEmpty_eq_false_iff, List.all_eq_true] at hdigits
  exact ⟨hdigits.1, fun c hc => digitValue_lt_ten.mp (of_decide_eq_true (hdigits.2 c hc))⟩

theorem isDigitChar_toNat {c : Char} (h : isDigitChar c = true) : 48 ≤ c.toNat ∧ c.toNat ≤ 57 := by
  rw [isDigitChar, Bool.and_eq_true, decide_eq_true_iff, decide_eq_true_iff] at h
  exact ⟨UInt32.le_iff_toNat_le.mp (Char.le_def.mp h.1),
    UInt32.le_iff_toNat_le.mp (Char.le_def.mp h.2)⟩

theorem not_blank_of_digit {c : Char} (h : isDigitChar c = true) : isJsWhitespace c = false := by
  obtain ⟨hlow, hhigh⟩ := isDigitChar_toNat h
  simp only [isJsWhitespace, Bool.or_eq_false_iff, Bool.and_eq_false_iff, decide_eq_false_iff_not,
    beq_eq_false_iff_ne]
  omega

theorem trimChars_digits {chars : List Char} (h : ∀ c ∈ chars, isDigitChar c = true) :
    trimChars chars = chars :=
  trimChars_eq_self fun c hc => not_blank_of_digit (h c hc)

theorem readDecimal_digits {chars : List Char} {n : ℕ} (h : readBase 10 chars = some n) :
    readDecimal chars = some (n : ℚ) := by
  have hall := (readBase_ten h).2
  have htake : chars.takeWhile isDigitChar = chars := List.takeWhile_eq_self_iff.mpr hall
  have hdrop : chars.dropWhile isDigitChar = [] := List.dropWhile_eq_nil_iff.mpr hall
  simp [readDecimal, htake, hdrop, h, readExponent]

theorem readNumber_digits {chars : List Char} {n : ℕ} (h : readBase 10 chars = some n) :
    readNumber chars = some (n : ℚ) := by
  obtain ⟨hne, hall⟩ := readBase_ten h
  rw [← readDecimal_digits h]
  unfold readNumber
  split
  · exact absurd rfl hne
  all_goals first
    | rfl
    | exact absurd (hall _ (List.mem_cons_self ..)) (by decide)
    | exact absurd (hall _ (List.mem_cons_of_mem _ (List.mem_cons_self ..))) (by decide)

/-- A text of decimal digits denotes their number, to double precision. -/
theorem numberOfChars_digits {chars : List Char} {n : ℕ} (h : readBase 10 chars = some n) :
    numberOfChars chars = roundDouble n := by
  rw [numberOfChars, trimChars_digits (readBase_ten h).2, readNumber_digits h, Option.bind_some]

end DshOrbit.Lib
