import Mathlib.Data.List.Basic

/-!
# UTF-16

A text as its code units, and the characters that an encoder reads from them: a pair of
surrogates is one character, and a surrogate outside a pair is replaced.

## Main definitions

- `utf16` — the code units of characters
- `scalarValues` — the characters of code units

## Main results

- `scalarValues_utf16` — the characters of the code units of characters
-/

namespace DshOrbit.Lib

/-- The code units of a character: one, or two surrogates. -/
def utf16Units (c : Char) : List UInt16 :=
  let n := c.toNat
  if n < 0x10000 then [.ofNat n]
  else [.ofNat (0xD800 + (n - 0x10000) / 0x400), .ofNat (0xDC00 + (n - 0x10000) % 0x400)]

def utf16 (chars : List Char) : List UInt16 := chars.flatMap utf16Units

def isHighSurrogate (u : UInt16) : Bool := 0xD800 ≤ u.toNat && u.toNat ≤ 0xDBFF

def isLowSurrogate (u : UInt16) : Bool := 0xDC00 ≤ u.toNat && u.toNat ≤ 0xDFFF

/-- The character of a code unit that is in no pair. -/
def scalarValue (u : UInt16) : Char :=
  if isHighSurrogate u || isLowSurrogate u then '\uFFFD' else .ofNat u.toNat

/-- The characters of code units. -/
def scalarValues : List UInt16 → List Char
  | [] => []
  | [u] => [scalarValue u]
  | u :: v :: rest =>
    if isHighSurrogate u && isLowSurrogate v then
      .ofNat (0x10000 + (u.toNat - 0xD800) * 0x400 + (v.toNat - 0xDC00)) :: scalarValues rest
    else scalarValue u :: scalarValues (v :: rest)

theorem scalarValues_cons {u : UInt16} (h : isHighSurrogate u = false) (rest : List UInt16) :
    scalarValues (u :: rest) = scalarValue u :: scalarValues rest := by
  cases rest with
  | nil => rfl
  | cons v rest => rw [scalarValues, h, Bool.false_and, if_neg Bool.false_ne_true]

/-- The numbers of characters. -/
theorem toNat_char (c : Char) : c.toNat < 0xD800 ∨ (0xDFFF < c.toNat ∧ c.toNat < 0x110000) :=
  c.valid

theorem scalarValues_utf16Units (c : Char) (rest : List UInt16) :
    scalarValues (utf16Units c ++ rest) = c :: scalarValues rest := by
  have hvalid := toNat_char c
  rw [utf16Units]
  split_ifs with hbasic
  · have hunit : (UInt16.ofNat c.toNat).toNat = c.toNat := UInt16.toNat_ofNat_of_lt' hbasic
    have hhigh : isHighSurrogate (.ofNat c.toNat) = false := by
      rw [isHighSurrogate, hunit, Bool.and_eq_false_iff, decide_eq_false_iff_not,
        decide_eq_false_iff_not]
      omega
    have hlow : isLowSurrogate (.ofNat c.toNat) = false := by
      rw [isLowSurrogate, hunit, Bool.and_eq_false_iff, decide_eq_false_iff_not,
        decide_eq_false_iff_not]
      omega
    rw [List.singleton_append, scalarValues_cons hhigh, scalarValue, hhigh, hlow, hunit,
      Char.ofNat_toNat]
    rfl
  · have hsplit : (c.toNat - 0x10000) / 0x400 < 0x400 := by omega
    have hu : (UInt16.ofNat (0xD800 + (c.toNat - 0x10000) / 0x400)).toNat =
        0xD800 + (c.toNat - 0x10000) / 0x400 :=
      UInt16.toNat_ofNat_of_lt' (by rw [UInt16.size]; omega)
    have hv : (UInt16.ofNat (0xDC00 + (c.toNat - 0x10000) % 0x400)).toNat =
        0xDC00 + (c.toNat - 0x10000) % 0x400 :=
      UInt16.toNat_ofNat_of_lt' (by rw [UInt16.size]; omega)
    have hpair : (isHighSurrogate (.ofNat (0xD800 + (c.toNat - 0x10000) / 0x400)) &&
        isLowSurrogate (.ofNat (0xDC00 + (c.toNat - 0x10000) % 0x400))) = true := by
      rw [isHighSurrogate, isLowSurrogate, hu, hv]
      simp only [Bool.and_eq_true, decide_eq_true_eq]
      omega
    have hnumber : 0x10000 + (0xD800 + (c.toNat - 0x10000) / 0x400 - 0xD800) * 0x400 +
        (0xDC00 + (c.toNat - 0x10000) % 0x400 - 0xDC00) = c.toNat := by omega
    rw [List.cons_append, List.singleton_append, scalarValues, if_pos hpair, hu, hv, hnumber,
      Char.ofNat_toNat]

/-- The characters of the code units of characters are these characters. -/
theorem scalarValues_utf16 (chars : List Char) : scalarValues (utf16 chars) = chars := by
  induction chars with
  | nil => rfl
  | cons c rest ih => rw [utf16, List.flatMap_cons, scalarValues_utf16Units, ← utf16, ih]

/-- Code units without a surrogate outside a pair. -/
def WellFormed (units : List UInt16) : Prop := ∃ chars, units = utf16 chars

theorem wellFormed_iff {units : List UInt16} :
    WellFormed units ↔ utf16 (scalarValues units) = units := by
  constructor
  · rintro ⟨chars, rfl⟩
    rw [scalarValues_utf16]
  · exact fun h => ⟨_, h.symm⟩

end DshOrbit.Lib
