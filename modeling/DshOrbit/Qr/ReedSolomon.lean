import DshOrbit.Lib.SyntheticDivision
import DshOrbit.Qr.Gf256
import Mathlib.Algebra.BigOperators.Group.Finset.Basic
import Mathlib.Algebra.Polynomial.Div

/-!
# Reed-Solomon codewords

The generator polynomial and the error correction codewords of `plugin/qr-svg.mjs`. Their loop is
a synthetic division by the generator polynomial, so that data and codewords together are a
multiple of it.

## Main definitions

- `rsGeneratorPolynomial`, `rsComputeCodewords` — the functions of that name
- `bytePolynomial` — bytes as a polynomial over the field of the tables

## Main results

- `bytePolynomial_rsGeneratorPolynomial` — the generator polynomial as a product
- `codeword_syndromes` — data and codewords are a multiple of it
-/

namespace DshOrbit.Qr

open DshOrbit.Lib Polynomial

/-! ### The functions of the module -/

/-- One round of the loop: the polynomial multiplied by `x + GF256_EXP[i]`. -/
def generatorStep (poly : List UInt8) (i : ℕ) : List UInt8 :=
  List.zipWith (· ^^^ ·) (poly.map (gfMultiply · 1) ++ [0])
    (0 :: poly.map (gfMultiply · (gf256Exp i)))

def rsGeneratorPolynomial (degree : ℕ) : List UInt8 :=
  (List.range degree).foldl generatorStep [1]

/-- One round of the loop over the data. -/
def codewordStep (genPoly : List UInt8) (ecCount : ℕ) (remainder : List UInt8) (byte : UInt8) :
    List UInt8 :=
  let factor := byte ^^^ remainder.getD 0 0
  (List.range (ecCount - 1)).map (fun j =>
      remainder.getD (j + 1) 0 ^^^ gfMultiply factor (genPoly.getD (j + 1) 0)) ++
    [gfMultiply factor (genPoly.getD ecCount 0)]

def rsComputeCodewords (data : List UInt8) (ecCount : ℕ) : List UInt8 :=
  data.foldl (codewordStep (rsGeneratorPolynomial ecCount) ecCount) (List.replicate ecCount 0)

/-! ### Bytes as polynomials -/

def toField (bytes : List UInt8) : List Gf256 := bytes.map Gf256.mk

/-- The bytes as coefficients, the highest first. -/
noncomputable def bytePolynomial (bytes : List UInt8) : Gf256[X] := ofCoeffs (toField bytes)

/-- The element whose powers the exponential table holds. -/
def alpha : Gf256 := ⟨2⟩

theorem alpha_pow {n : ℕ} : alpha ^ n = ⟨power n⟩ := by
  induction n with
  | zero => rfl
  | succ n ih =>
    have hone : power 1 = 2 := by decide
    have halpha : gfMultiply (power n) 2 = nextByte^[1] (power n) := by
      rw [← hone, gfMultiply_power _ (by decide)]
    rw [pow_succ, ih]
    ext
    rw [Gf256.byte_mul, alpha, halpha, ← power_add]

/-- Bytes are combined one by one. -/
theorem toField_zipWith (e : UInt8) (bytes others : List UInt8) :
    toField (List.zipWith (fun a b => a ^^^ gfMultiply e b) bytes others) =
      List.zipWith (fun a b => a + ⟨e⟩ * b) (toField bytes) (toField others) := by
  rw [toField, toField, toField, List.map_zipWith, List.zipWith_map]
  rfl

theorem toField_generatorStep (poly : List UInt8) (i : ℕ) :
    toField (generatorStep poly i) = mulRoot ⟨gf256Exp i⟩ (toField poly) := by
  have hleft : poly.map (gfMultiply · 1) = poly := by
    simp only [gfMultiply_one, List.map_id']
  have hright : 0 :: poly.map (gfMultiply · (gf256Exp i)) =
      (0 :: poly).map (gfMultiply (gf256Exp i)) := by
    rw [List.map_cons, gfMultiply_zero]
    exact congrArg (0 :: ·) (List.map_congr_left fun a _ => gfMultiply_comm a _)
  have hzero : toField (poly ++ [0]) = toField poly ++ [0] := List.map_append
  rw [generatorStep, hleft, hright, List.zipWith_map_right, toField_zipWith, hzero]
  rfl

theorem generatorPolynomial_succ (n : ℕ) :
    rsGeneratorPolynomial (n + 1) = generatorStep (rsGeneratorPolynomial n) n := by
  rw [rsGeneratorPolynomial, List.range_succ, List.foldl_append]
  rfl

/-- The generator polynomial is monic. -/
theorem rsGeneratorPolynomial_cons (n : ℕ) :
    ∃ tail, rsGeneratorPolynomial n = 1 :: tail ∧ tail.length = n := by
  induction n with
  | zero => exact ⟨[], rfl, rfl⟩
  | succ n ih =>
    obtain ⟨tail, htail, hlength⟩ := ih
    rw [generatorPolynomial_succ, htail, generatorStep, List.map_cons, List.cons_append,
      List.zipWith_cons_cons, gfMultiply_one, UInt8.xor_zero]
    refine ⟨_, rfl, ?_⟩
    simp [hlength]

/-- The generator polynomial is the product of the linear factors of the powers of `alpha`. -/
theorem bytePolynomial_rsGeneratorPolynomial {n : ℕ} (hn : n ≤ 255) :
    bytePolynomial (rsGeneratorPolynomial n) = ∏ i ∈ Finset.range n, (X - C (alpha ^ i)) := by
  induction n with
  | zero =>
    rw [Finset.range_zero, Finset.prod_empty, bytePolynomial, rsGeneratorPolynomial]
    show ofCoeffs [(1 : Gf256)] = 1
    rw [ofCoeffs_cons, ofCoeffs_nil, List.length_nil, pow_zero, mul_one, add_zero, C_1]
  | succ n ih =>
    have hroot : X - C (alpha ^ n) = X + C (⟨gf256Exp n⟩ : Gf256) := by
      have hneg : -(⟨power n⟩ : Gf256) = ⟨power n⟩ := Gf256.ext rfl
      rw [alpha_pow, gf256Exp_eq (by omega), sub_eq_add_neg, ← C_neg, hneg]
    rw [Finset.prod_range_succ, ← ih (by omega), generatorPolynomial_succ, bytePolynomial,
      toField_generatorStep, ofCoeffs_mulRoot, hroot, bytePolynomial]

/-! ### The codewords -/

/-- A round of the loop is a step of the division. -/
theorem toField_codewordStep {tail remainder : List UInt8} {n : ℕ} (hpos : 0 < n)
    (htail : tail.length = n) (hremainder : remainder.length = n) (byte : UInt8) :
    toField (codewordStep (1 :: tail) n remainder byte) =
      divisionStep (toField tail) (toField remainder) ⟨byte⟩ := by
  obtain ⟨head, rest, rfl⟩ : ∃ head rest, remainder = head :: rest :=
    List.exists_cons_of_length_pos (by omega)
  have hrest : rest.length = n - 1 := by
    rw [List.length_cons] at hremainder
    omega
  have hround : codewordStep (1 :: tail) n (head :: rest) byte =
      List.zipWith (fun a b => a ^^^ gfMultiply (byte ^^^ head) b) (rest ++ [0]) tail := by
    apply List.ext_getElem
    · simp only [codewordStep, List.length_append, List.length_map, List.length_range,
        List.length_singleton, List.length_zipWith]
      omega
    · intro i hi hi'
      have hin : i < n := by
        rw [List.length_zipWith, htail] at hi'
        omega
      simp only [codewordStep, List.getElem_zipWith, List.getD_cons_succ, List.getD_cons_zero]
      by_cases hlast : i < n - 1
      · rw [List.getElem_append_left (by simpa using hlast), List.getElem_map, List.getElem_range,
          List.getElem_append_left (by omega), List.getD_eq_getElem _ _ (by omega),
          List.getD_eq_getElem _ _ (by omega)]
      · obtain rfl : i = n - 1 := by omega
        have hn : (1 :: tail).getD n 0 = tail[n - 1] := by
          obtain ⟨k, rfl⟩ := Nat.exists_eq_succ_of_ne_zero hpos.ne'
          rw [List.getD_cons_succ]
          exact List.getD_eq_getElem _ _ (by omega)
        rw [List.getElem_append_right (by simp), List.getElem_singleton,
          List.getElem_append_right (by omega), List.getElem_singleton, UInt8.zero_xor, hn]
  have hzero : toField (rest ++ [0]) = toField rest ++ [0] := List.map_append
  rw [hround, toField_zipWith, hzero]
  rfl

theorem length_rsComputeCodewords (data : List UInt8) {n : ℕ} (hpos : 0 < n) :
    (rsComputeCodewords data n).length = n := by
  induction data using List.reverseRecOn with
  | nil => exact List.length_replicate
  | append_singleton data byte ih =>
    rw [rsComputeCodewords, List.foldl_append]
    simp only [List.foldl_cons, List.foldl_nil, codewordStep, List.length_append, List.length_map,
      List.length_range, List.length_singleton]
    omega

theorem toField_rsComputeCodewords (data : List UInt8) {n : ℕ} (hpos : 0 < n)
    {tail : List UInt8} (hgenerator : rsGeneratorPolynomial n = 1 :: tail) (htail : tail.length = n) :
    toField (rsComputeCodewords data n) = divisionRemainder (toField tail) (toField data) := by
  induction data using List.reverseRecOn with
  | nil =>
    have hlength : (toField tail).length = n := by rw [toField, List.length_map, htail]
    rw [divisionRemainder, hlength]
    exact List.map_replicate
  | append_singleton data byte ih =>
    have hround : rsComputeCodewords (data ++ [byte]) n =
        codewordStep (1 :: tail) n (rsComputeCodewords data n) byte := by
      rw [rsComputeCodewords, List.foldl_append, hgenerator]
      rw [rsComputeCodewords, hgenerator]
      rfl
    have hconcat : toField (data ++ [byte]) = toField data ++ [⟨byte⟩] := List.map_append
    rw [hround, toField_codewordStep hpos htail (length_rsComputeCodewords data hpos), ih, hconcat,
      divisionRemainder, divisionRemainder, List.foldl_append]
    rfl

/-- Data and codewords are a multiple of the generator polynomial, which is the product of the
linear factors of the first powers of `alpha`, so that they vanish there. -/
theorem codeword_syndromes (data : List UInt8) {n : ℕ} (hpos : 0 < n) (hn : n ≤ 255) :
    bytePolynomial (rsGeneratorPolynomial n) = ∏ i ∈ Finset.range n, (X - C (alpha ^ i)) ∧
      bytePolynomial (rsGeneratorPolynomial n) ∣
        bytePolynomial (data ++ rsComputeCodewords data n) ∧
      ∀ i < n, (bytePolynomial (data ++ rsComputeCodewords data n)).eval (alpha ^ i) = 0 := by
  have hproduct := bytePolynomial_rsGeneratorPolynomial hn
  have hdvd : bytePolynomial (rsGeneratorPolynomial n) ∣
      bytePolynomial (data ++ rsComputeCodewords data n) := by
    obtain ⟨tail, hgenerator, htail⟩ := rsGeneratorPolynomial_cons n
    have hne : toField tail ≠ [] := by
      rw [toField, Ne, List.map_eq_nil_iff, ← List.length_eq_zero_iff, htail]
      omega
    have hremainder := dvd_sub_divisionRemainder hne (toField data)
    have hsum : toField (data ++ rsComputeCodewords data n) =
        toField data ++ divisionRemainder (toField tail) (toField data) := by
      rw [← toField_rsComputeCodewords data hpos hgenerator htail]
      exact List.map_append
    have hsign : -ofCoeffs (divisionRemainder (toField tail) (toField data)) =
        ofCoeffs (divisionRemainder (toField tail) (toField data)) := by
      ext k
      rw [coeff_neg]
      rfl
    rw [sub_eq_add_neg, hsign] at hremainder
    rw [hgenerator, bytePolynomial, bytePolynomial, hsum, ofCoeffs_append,
      length_divisionRemainder hne]
    exact hremainder
  refine ⟨hproduct, hdvd, ?_⟩
  intro i hi
  have hroot : (bytePolynomial (rsGeneratorPolynomial n)).eval (alpha ^ i) = 0 := by
    rw [hproduct, eval_prod]
    exact Finset.prod_eq_zero (Finset.mem_range.mpr hi) (by rw [eval_sub, eval_X, eval_C, sub_self])
  obtain ⟨quotient, hquotient⟩ := hdvd
  rw [hquotient, eval_mul, hroot, zero_mul]

theorem codeword_syndromes_seven :
    bytePolynomial (rsGeneratorPolynomial 7) = ∏ i ∈ Finset.range 7, (X - C (alpha ^ i)) ∧
      bytePolynomial (rsGeneratorPolynomial 7) ∣
        bytePolynomial ([0x40, 0x11, 0xec] ++ rsComputeCodewords [0x40, 0x11, 0xec] 7) ∧
      ∀ i < 7, (bytePolynomial ([0x40, 0x11, 0xec] ++
        rsComputeCodewords [0x40, 0x11, 0xec] 7)).eval (alpha ^ i) = 0 :=
  codeword_syndromes [0x40, 0x11, 0xec] (by decide) (by decide)

end DshOrbit.Qr
