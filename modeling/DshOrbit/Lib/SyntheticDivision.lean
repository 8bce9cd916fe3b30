import Mathlib.Algebra.Polynomial.Eval.Defs
import Mathlib.Algebra.Polynomial.Eval.Degree
import Mathlib.Algebra.Polynomial.Coeff
import Mathlib.Tactic.Ring
import Mathlib.Tactic.LinearCombination

/-!
# Synthetic division

Polynomials given by lists of coefficients, the highest first, and the division of a list by a
monic polynomial in one pass: a register of the length of the degree holds the remainder of the
coefficients that were read.

## Main definitions

- `ofCoeffs` — the polynomial of a list of coefficients
- `divisionStep` — the register after one more coefficient
- `divisionRemainder` — the register after a list of coefficients

## Main results

- `ofCoeffs_mulRoot` — a list of coefficients multiplied by a linear factor
- `dvd_sub_divisionRemainder` — the register holds the remainder
-/

namespace DshOrbit.Lib

open Polynomial

variable {R : Type*} [CommRing R]

/-- The polynomial of the coefficients, the highest first. -/
noncomputable def ofCoeffs (coeffs : List R) : R[X] :=
  coeffs.foldl (fun p a => p * X + C a) 0

theorem ofCoeffs_nil : ofCoeffs ([] : List R) = 0 := rfl

theorem ofCoeffs_concat (coeffs : List R) (a : R) :
    ofCoeffs (coeffs ++ [a]) = ofCoeffs coeffs * X + C a := by
  rw [ofCoeffs, List.foldl_append]
  rfl

theorem ofCoeffs_append (coeffs others : List R) :
    ofCoeffs (coeffs ++ others) = ofCoeffs coeffs * X ^ others.length + ofCoeffs others := by
  induction others using List.reverseRecOn with
  | nil => rw [List.append_nil, ofCoeffs_nil, List.length_nil, pow_zero, mul_one, add_zero]
  | append_singleton others a ih =>
    rw [← List.append_assoc, ofCoeffs_concat, ih, ofCoeffs_concat, List.length_append,
      List.length_singleton, pow_succ]
    ring

theorem ofCoeffs_cons (a : R) (coeffs : List R) :
    ofCoeffs (a :: coeffs) = C a * X ^ coeffs.length + ofCoeffs coeffs := by
  have hsingle : ofCoeffs [a] = C a := by
    rw [← List.nil_append [a], ofCoeffs_concat, ofCoeffs_nil, zero_mul, zero_add]
  rw [← List.singleton_append, ofCoeffs_append, hsingle]

theorem ofCoeffs_replicate_zero (n : ℕ) : ofCoeffs (List.replicate n (0 : R)) = 0 := by
  induction n with
  | zero => rfl
  | succ n ih => rw [List.replicate_succ, ofCoeffs_cons, ih, C_0, zero_mul, zero_add]

/-- Coefficients are combined one by one. -/
theorem ofCoeffs_zipWith (c : R) {coeffs others : List R} (h : coeffs.length = others.length) :
    ofCoeffs (List.zipWith (fun a b => a + c * b) coeffs others) =
      ofCoeffs coeffs + C c * ofCoeffs others := by
  induction coeffs generalizing others with
  | nil =>
    obtain rfl : others = [] := List.length_eq_zero_iff.mp h.symm
    rw [List.zipWith_nil_left, ofCoeffs_nil, mul_zero, add_zero]
  | cons a coeffs ih =>
    obtain ⟨b, others, rfl⟩ := List.exists_cons_of_length_eq_add_one h.symm
    have hlength : coeffs.length = others.length := Nat.succ.inj h
    rw [List.zipWith_cons_cons, ofCoeffs_cons, ofCoeffs_cons, ofCoeffs_cons, ih hlength,
      List.length_zipWith, hlength, min_self, C_add, C_mul]
    ring

/-! ### Products of linear factors -/

/-- The coefficients multiplied by `X + r`. -/
def mulRoot (r : R) (coeffs : List R) : List R :=
  List.zipWith (fun a b => a + r * b) (coeffs ++ [0]) (0 :: coeffs)

theorem ofCoeffs_mulRoot (r : R) (coeffs : List R) :
    ofCoeffs (mulRoot r coeffs) = ofCoeffs coeffs * (X + C r) := by
  rw [mulRoot, ofCoeffs_zipWith r (by simp), ofCoeffs_concat, ofCoeffs_cons, C_0]
  ring

theorem length_mulRoot (r : R) (coeffs : List R) :
    (mulRoot r coeffs).length = coeffs.length + 1 := by
  rw [mulRoot, List.length_zipWith, List.length_append, List.length_singleton, List.length_cons,
    min_self]

/-! ### Division -/

/-- The register after one more coefficient, where `1 :: divisor` is divided by. -/
def divisionStep (divisor register : List R) (a : R) : List R :=
  List.zipWith (fun r g => r + -(a + register.headD 0) * g) (register.tail ++ [0]) divisor

def divisionRemainder (divisor coeffs : List R) : List R :=
  coeffs.foldl (divisionStep divisor) (List.replicate divisor.length 0)

variable {divisor register : List R}

theorem length_divisionStep (hlength : register.length = divisor.length) (hne : divisor ≠ []) (a : R) :
    (divisionStep divisor register a).length = divisor.length := by
  have hpos := List.length_pos_of_ne_nil hne
  rw [divisionStep, List.length_zipWith, List.length_append, List.length_tail,
    List.length_singleton]
  omega

/-- One step multiplies by `X`, adds the coefficient above the register and subtracts a multiple of
the divisor. -/
theorem ofCoeffs_divisionStep (hlength : register.length = divisor.length) (hne : divisor ≠ [])
    (a : R) :
    ofCoeffs (divisionStep divisor register a) =
      ofCoeffs register * X + C a * X ^ divisor.length -
        C (a + register.headD 0) * ofCoeffs (1 :: divisor) := by
  obtain ⟨head, tail, rfl⟩ : ∃ head tail, register = head :: tail := by
    refine List.exists_cons_of_ne_nil ?_
    rintro rfl
    exact hne (List.length_eq_zero_iff.mp hlength.symm)
  have hdegree : divisor.length = tail.length + 1 := hlength.symm
  rw [divisionStep, List.headD_cons, List.tail_cons,
    ofCoeffs_zipWith _ (by rw [List.length_append, List.length_singleton, hdegree]),
    ofCoeffs_concat, ofCoeffs_cons, ofCoeffs_cons, hdegree, C_neg, C_add, C_0, C_1, pow_succ]
  ring

theorem length_divisionRemainder (hne : divisor ≠ []) (coeffs : List R) :
    (divisionRemainder divisor coeffs).length = divisor.length := by
  induction coeffs using List.reverseRecOn with
  | nil => exact List.length_replicate
  | append_singleton coeffs a ih =>
    rw [divisionRemainder, List.foldl_append]
    exact length_divisionStep ih hne a

/-- The register is the remainder of the coefficients, shifted by the degree of the divisor. -/
theorem dvd_sub_divisionRemainder (hne : divisor ≠ []) (coeffs : List R) :
    ofCoeffs (1 :: divisor) ∣
      ofCoeffs coeffs * X ^ divisor.length - ofCoeffs (divisionRemainder divisor coeffs) := by
  induction coeffs using List.reverseRecOn with
  | nil =>
    rw [divisionRemainder, List.foldl_nil, ofCoeffs_replicate_zero, ofCoeffs_nil, zero_mul, sub_zero]
    exact dvd_zero _
  | append_singleton coeffs a ih =>
    obtain ⟨quotient, hquotient⟩ := ih
    have hstep := ofCoeffs_divisionStep (length_divisionRemainder hne coeffs) hne a
    have hregister : divisionRemainder divisor (coeffs ++ [a]) =
        divisionStep divisor (divisionRemainder divisor coeffs) a := by
      rw [divisionRemainder, List.foldl_append]
      rfl
    refine ⟨quotient * X + C (a + (divisionRemainder divisor coeffs).headD 0), ?_⟩
    rw [hregister, hstep, ofCoeffs_concat]
    linear_combination X * hquotient

end DshOrbit.Lib
