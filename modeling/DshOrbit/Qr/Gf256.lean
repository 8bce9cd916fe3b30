import Mathlib.Algebra.Field.Defs
import Mathlib.Data.Finset.Card
import Mathlib.Data.List.Basic
import Mathlib.Data.List.Iterate
import Mathlib.Data.Nat.Bitwise
import Mathlib.Dynamics.PeriodicPts.Defs
import Mathlib.Order.Interval.Finset.Nat

/-!
# The field of the QR code module

The logarithm tables of `plugin/qr-svg.mjs` and the multiplication by them. Bytes with the
exclusive or as their sum are a field: multiplication by the byte at the index `i` of the
exponential table is `i` steps of the loop that fills it, each of which is linear.

## Main definitions

- `gf256Exp`, `gf256Log`, `gfMultiply` — the tables and the product of the module
- `Gf256` — the bytes with these operations

## Main results

- `gf256Exp_eq`, `gf256Log_power` — what the tables hold
- `instFieldGf256` — the field
-/

namespace DshOrbit.Qr

/-! ### The tables -/

/-- The next value of the loop that fills the tables. -/
def nextVal (val : ℕ) : ℕ := (val <<< 1) ^^^ (if val &&& 0x80 ≠ 0 then 0x11d else 0)

/-- One round of the loop: `GF256_EXP`, `GF256_LOG` and `val`. -/
def tableStep (state : List UInt8 × List UInt8 × ℕ) (i : ℕ) : List UInt8 × List UInt8 × ℕ :=
  let (exp, log, val) := state
  ((exp.set i (.ofNat val)).set (i + 255) (.ofNat val), log.set val (.ofNat i), nextVal val)

/-- The first rounds of the loop. -/
def tableRounds (n : ℕ) : List UInt8 × List UInt8 × ℕ :=
  (List.range n).foldl tableStep (List.replicate 512 0, List.replicate 256 0, 1)

/-- `initGf256`: the tables. -/
def initGf256 : List UInt8 × List UInt8 :=
  let (exp, log, _) := tableRounds 255
  (exp, log.set 0 0)

/-- `GF256_EXP[i]`. -/
def gf256Exp (i : ℕ) : UInt8 := initGf256.1.getD i 0

/-- `GF256_LOG[a]`. -/
def gf256Log (a : UInt8) : UInt8 := initGf256.2.getD a.toNat 0

def gfMultiply (a b : UInt8) : UInt8 :=
  if a = 0 ∨ b = 0 then 0 else gf256Exp ((gf256Log a).toNat + (gf256Log b).toNat)

/-! ### The loop on bytes -/

/-- The next byte of the loop. -/
def nextByte (a : UInt8) : UInt8 := .ofNat (nextVal a.toNat)

/-- A byte has a byte after it, and only zero has zero. -/
theorem nextVal_byte : ∀ n < 256, nextVal n < 256 ∧ (nextVal n = 0 → n = 0) := by decide +kernel

theorem toNat_nextByte (a : UInt8) : (nextByte a).toNat = nextVal a.toNat :=
  UInt8.toNat_ofNat_of_lt' (nextVal_byte a.toNat a.toNat_lt).1

theorem nextVal_xor (a b : ℕ) : nextVal (a ^^^ b) = nextVal a ^^^ nextVal b := by
  have hbit : ∀ n : ℕ, n &&& 0x80 = (n.testBit 7).toNat * 2 ^ 7 := fun n => Nat.and_two_pow n 7
  rw [nextVal, nextVal, nextVal, Nat.shiftLeft_xor_distrib, hbit, hbit, hbit, Nat.testBit_xor]
  cases a.testBit 7 <;> cases b.testBit 7 <;>
    simp [Nat.xor_assoc, Nat.xor_comm, Nat.xor_left_comm]

theorem nextByte_xor (a b : UInt8) : nextByte (a ^^^ b) = nextByte a ^^^ nextByte b := by
  apply UInt8.toNat_inj.mp
  rw [toNat_nextByte, UInt8.toNat_xor, nextVal_xor, UInt8.toNat_xor, toNat_nextByte, toNat_nextByte]

/-- The value of the loop before the round `n`. -/
def power (n : ℕ) : UInt8 := nextByte^[n] 1

theorem power_add (m n : ℕ) : power (m + n) = nextByte^[n] (power m) := by
  rw [power, power, Nat.add_comm, Function.iterate_add_apply]

theorem iterate_nextByte_xor (n : ℕ) (a b : UInt8) :
    nextByte^[n] (a ^^^ b) = nextByte^[n] a ^^^ nextByte^[n] b := by
  induction n generalizing a b with
  | zero => rfl
  | succ n ih => rw [Function.iterate_succ_apply, nextByte_xor, ih]; rfl

theorem iterate_nextByte_zero (n : ℕ) : nextByte^[n] 0 = 0 := by
  have h := iterate_nextByte_xor n 0 0
  rwa [UInt8.xor_self, UInt8.xor_self] at h

theorem nextByte_injective : Function.Injective nextByte := by
  intro a b h
  have hxor : nextByte (a ^^^ b) = 0 := by rw [nextByte_xor, h, UInt8.xor_self]
  have hnat : (a ^^^ b).toNat = 0 := by
    refine (nextVal_byte _ (a ^^^ b).toNat_lt).2 ?_
    rw [← toNat_nextByte, hxor]
    rfl
  exact UInt8.xor_eq_zero_iff.mp (UInt8.toNat_inj.mp hnat)

/-- The loop returns to its first value after 255 rounds and not before. -/
theorem power_return : power 255 = 1 ∧ ∀ n < 254, power (n + 1) ≠ 1 := by
  have hround : power 255 = 1 ∧ ∀ value ∈ List.iterate nextByte (power 1) 254, value ≠ 1 := by
    decide +kernel
  refine ⟨hround.1, fun n hn => hround.2 _ (List.mem_iterate.mpr ⟨n, hn, ?_⟩)⟩
  rw [Nat.add_comm, power_add]

theorem power_ne_zero (n : ℕ) : power n ≠ 0 := by
  intro h
  have hone : (1 : UInt8) = 0 := nextByte_injective.iterate n (h.trans (iterate_nextByte_zero n).symm)
  exact absurd hone (by decide)

theorem power_inj {m n : ℕ} (hm : m < 255) (hn : n < 255) (h : power m = power n) : m = n := by
  wlog hle : m ≤ n generalizing m n
  · exact (this hn hm h.symm (by omega)).symm
  obtain ⟨k, rfl⟩ := Nat.exists_eq_add_of_le hle
  rcases Nat.eq_zero_or_pos k with rfl | hk
  · rfl
  have hone : power k = 1 := by
    refine nextByte_injective.iterate m ?_
    rw [← power_add, Nat.add_comm, ← h]
    rfl
  obtain ⟨k, rfl⟩ := Nat.exists_eq_add_of_lt hk
  rw [Nat.zero_add] at hone hn
  exact absurd hone (power_return.2 k (by omega))

/-- Every byte but zero is a value of the loop. -/
theorem exists_power {a : UInt8} (h : a ≠ 0) : ∃ n < 255, power n = a := by
  have hcard : ((Finset.range 255).image fun n => (power n).toNat) = Finset.Ioo 0 256 := by
    refine Finset.eq_of_subset_of_card_le ?_ ?_
    · intro value hvalue
      obtain ⟨n, -, rfl⟩ := Finset.mem_image.mp hvalue
      have hpos : (power n).toNat ≠ 0 := fun hzero => power_ne_zero n (UInt8.toNat_inj.mp hzero)
      exact Finset.mem_Ioo.mpr ⟨Nat.pos_of_ne_zero hpos, (power n).toNat_lt⟩
    · rw [Finset.card_image_of_injOn, Finset.card_range, Nat.card_Ioo]
      intro m hm n hn heq
      exact power_inj (by simpa using hm) (by simpa using hn) (UInt8.toNat_inj.mp heq)
  have hmem : a.toNat ∈ Finset.Ioo 0 256 := by
    have hpos : a.toNat ≠ 0 := fun hzero => h (UInt8.toNat_inj.mp hzero)
    exact Finset.mem_Ioo.mpr ⟨Nat.pos_of_ne_zero hpos, a.toNat_lt⟩
  rw [← hcard] at hmem
  obtain ⟨n, hn, heq⟩ := Finset.mem_image.mp hmem
  exact ⟨n, Finset.mem_range.mp hn, UInt8.toNat_inj.mp heq⟩

/-- 255 steps of the loop lead back to every byte. -/
theorem iterate_nextByte_255 (a : UInt8) : nextByte^[255] a = a := by
  by_cases ha : a = 0
  · rw [ha, iterate_nextByte_zero]
  · obtain ⟨n, -, rfl⟩ := exists_power ha
    rw [← power_add, Nat.add_comm, power_add, power_return.1]
    rfl

theorem iterate_nextByte_mod (n : ℕ) (a : UInt8) : nextByte^[n % 255] a = nextByte^[n] a := by
  have hperiod : Function.IsPeriodicPt nextByte 255 a := iterate_nextByte_255 a
  exact hperiod.iterate_mod_apply n

theorem power_mod (n : ℕ) : power (n % 255) = power n := iterate_nextByte_mod n 1

/-! ### What the tables hold -/

/-- The tables after the first rounds of the loop. -/
structure RoundsDone (n : ℕ) (state : List UInt8 × List UInt8 × ℕ) : Prop where
  exp_length : state.1.length = 512
  log_length : state.2.1.length = 256
  exp : ∀ i < n, state.1.getD i 0 = power i ∧ state.1.getD (i + 255) 0 = power i
  log : ∀ i < n, state.2.1.getD (power i).toNat 0 = .ofNat i
  val : state.2.2 = (power n).toNat

theorem getD_set {values : List UInt8} {i j : ℕ} {a : UInt8} (hi : i < values.length) :
    (values.set i a).getD j 0 = if i = j then a else values.getD j 0 := by
  rw [List.getD_eq_getElem?_getD, List.getElem?_set, List.getD_eq_getElem?_getD]
  split_ifs <;> rfl

theorem tableRounds_done {n : ℕ} (hn : n ≤ 255) : RoundsDone n (tableRounds n) := by
  induction n with
  | zero => exact ⟨List.length_replicate, List.length_replicate, nofun, nofun, rfl⟩
  | succ n ih =>
    obtain ⟨hexp_length, hlog_length, hexp, hlog, hval⟩ := ih (by omega)
    have hround : tableRounds (n + 1) = tableStep (tableRounds n) n := by
      rw [tableRounds, List.range_succ, List.foldl_append]
      rfl
    have hlt : (power n).toNat < 256 := (power n).toNat_lt
    rw [hround]
    simp only [tableStep, hval, UInt8.ofNat_toNat]
    refine ⟨?_, ?_, ?_, ?_, ?_⟩
    · rw [List.length_set, List.length_set, hexp_length]
    · rw [List.length_set, hlog_length]
    · intro i hi
      rw [getD_set (by rw [List.length_set, hexp_length]; omega), getD_set (by rw [hexp_length]; omega),
        getD_set (by rw [List.length_set, hexp_length]; omega), getD_set (by rw [hexp_length]; omega)]
      by_cases hlast : i = n
      · subst hlast
        rw [if_neg (by omega), if_pos rfl, if_pos rfl]
        exact ⟨rfl, rfl⟩
      · rw [if_neg (by omega), if_neg (by omega), if_neg (by omega), if_neg (by omega)]
        exact hexp i (by omega)
    · intro i hi
      rw [getD_set (by rw [hlog_length]; exact hlt)]
      by_cases hlast : i = n
      · rw [hlast, if_pos rfl]
      · have hne : (power n).toNat ≠ (power i).toNat := by
          intro heq
          exact hlast (power_inj (by omega) (by omega) (UInt8.toNat_inj.mp heq)).symm
        rw [if_neg hne]
        exact hlog i (by omega)
    · rw [← toNat_nextByte, power, power, Function.iterate_succ_apply']

theorem initGf256_eq : initGf256 = ((tableRounds 255).1, (tableRounds 255).2.1.set 0 0) := by
  rw [initGf256]

theorem gf256Exp_eq {i : ℕ} (hi : i < 510) : gf256Exp i = power i := by
  have hexp := (tableRounds_done le_rfl).exp
  rw [gf256Exp, initGf256_eq]
  generalize tableRounds 255 = state at hexp
  by_cases hlow : i < 255
  · exact (hexp i hlow).1
  · obtain ⟨k, rfl⟩ := Nat.exists_eq_add_of_le (not_lt.mp hlow)
    rw [Nat.add_comm, (hexp k (by omega)).2, power_add, iterate_nextByte_255]

theorem gf256Log_power {n : ℕ} (hn : n < 255) : (gf256Log (power n)).toNat = n := by
  have hdone := tableRounds_done le_rfl
  have hpos : (0 : ℕ) ≠ (power n).toNat := fun hzero =>
    power_ne_zero n (UInt8.toNat_inj.mp hzero.symm)
  have htable : gf256Log (power n) = .ofNat n := by
    rw [gf256Log, initGf256_eq, getD_set (by rw [hdone.log_length]; decide), if_neg hpos]
    exact hdone.log n hn
  rw [htable]
  exact UInt8.toNat_ofNat_of_lt' (lt_trans hn (by decide))

/-- The product by the tables is the loop, run from one factor. -/
theorem gfMultiply_power (a : UInt8) {n : ℕ} (hn : n < 255) :
    gfMultiply a (power n) = nextByte^[n] a := by
  by_cases ha : a = 0
  · rw [gfMultiply, if_pos (.inl ha), ha, iterate_nextByte_zero]
  · obtain ⟨m, hm, rfl⟩ := exists_power ha
    rw [gfMultiply, if_neg (not_or.mpr ⟨ha, power_ne_zero n⟩), gf256Log_power hm, gf256Log_power hn,
      gf256Exp_eq (by omega), power_add]

theorem gfMultiply_zero (a : UInt8) : gfMultiply a 0 = 0 := if_pos (.inr rfl)

theorem zero_gfMultiply (a : UInt8) : gfMultiply 0 a = 0 := if_pos (.inl rfl)

theorem gfMultiply_comm (a b : UInt8) : gfMultiply a b = gfMultiply b a := by
  rw [gfMultiply, gfMultiply, Nat.add_comm]
  exact if_congr or_comm rfl rfl

theorem gfMultiply_xor (a b c : UInt8) :
    gfMultiply (a ^^^ b) c = gfMultiply a c ^^^ gfMultiply b c := by
  by_cases hc : c = 0
  · rw [hc, gfMultiply_zero, gfMultiply_zero, gfMultiply_zero, UInt8.xor_self]
  · obtain ⟨n, hn, rfl⟩ := exists_power hc
    rw [gfMultiply_power _ hn, gfMultiply_power _ hn, gfMultiply_power _ hn, iterate_nextByte_xor]

theorem gfMultiply_assoc (a b c : UInt8) :
    gfMultiply (gfMultiply a b) c = gfMultiply a (gfMultiply b c) := by
  by_cases hb : b = 0
  · rw [hb, gfMultiply_zero, zero_gfMultiply, gfMultiply_zero]
  by_cases hc : c = 0
  · rw [hc, gfMultiply_zero, gfMultiply_zero, gfMultiply_zero]
  obtain ⟨m, hm, rfl⟩ := exists_power hb
  obtain ⟨n, hn, rfl⟩ := exists_power hc
  have hproduct : nextByte^[n] (power m) = power ((m + n) % 255) := by rw [power_mod, power_add]
  rw [gfMultiply_power _ hm, gfMultiply_power _ hn, gfMultiply_power _ hn, hproduct,
    gfMultiply_power _ (Nat.mod_lt _ (by decide)), iterate_nextByte_mod, Nat.add_comm,
    Function.iterate_add_apply]

theorem gfMultiply_one (a : UInt8) : gfMultiply a 1 = a := gfMultiply_power a (by decide : 0 < 255)

/-! ### The field -/

/-- A byte with the operations of the module: the exclusive or is the sum. -/
@[ext]
structure Gf256 where
  byte : UInt8
  deriving DecidableEq

namespace Gf256

instance : Zero Gf256 := ⟨⟨0⟩⟩

instance : One Gf256 := ⟨⟨1⟩⟩

instance : Add Gf256 := ⟨fun a b => ⟨a.byte ^^^ b.byte⟩⟩

instance : Neg Gf256 := ⟨fun a => a⟩

instance : Mul Gf256 := ⟨fun a b => ⟨gfMultiply a.byte b.byte⟩⟩

/-- The byte whose product with the given one is one. -/
instance : Inv Gf256 :=
  ⟨fun a => if a = 0 then 0 else ⟨gf256Exp (255 - (gf256Log a.byte).toNat)⟩⟩

@[simp] theorem byte_zero : (0 : Gf256).byte = 0 := rfl

@[simp] theorem byte_one : (1 : Gf256).byte = 1 := rfl

@[simp] theorem byte_add (a b : Gf256) : (a + b).byte = a.byte ^^^ b.byte := rfl

@[simp] theorem byte_neg (a : Gf256) : (-a).byte = a.byte := rfl

@[simp] theorem byte_mul (a b : Gf256) : (a * b).byte = gfMultiply a.byte b.byte := rfl

theorem mul_inv (a : Gf256) (h : a ≠ 0) : a * a⁻¹ = 1 := by
  have hbyte : a.byte ≠ 0 := fun hzero => h (Gf256.ext hzero)
  obtain ⟨n, hn, hpower⟩ := exists_power hbyte
  have hinverse : a⁻¹ = ⟨power (255 - n)⟩ := by
    show (if a = 0 then (0 : Gf256) else _) = _
    rw [if_neg h, ← hpower, gf256Log_power hn, gf256Exp_eq (by omega)]
  ext
  rw [hinverse, byte_mul, byte_one, ← hpower, gfMultiply_comm, gfMultiply_power _ hn, ← power_add,
    Nat.sub_add_cancel hn.le, power_return.1]

instance instFieldGf256 : Field Gf256 where
  add_assoc a b c := Gf256.ext (UInt8.xor_assoc _ _ _)
  zero_add a := Gf256.ext UInt8.zero_xor
  add_zero a := Gf256.ext UInt8.xor_zero
  add_comm a b := Gf256.ext (UInt8.xor_comm _ _)
  neg_add_cancel a := Gf256.ext UInt8.xor_self
  mul_assoc a b c := Gf256.ext (gfMultiply_assoc _ _ _)
  mul_comm a b := Gf256.ext (gfMultiply_comm _ _)
  one_mul a := Gf256.ext ((gfMultiply_comm _ _).trans (gfMultiply_one _))
  mul_one a := Gf256.ext (gfMultiply_one _)
  zero_mul a := Gf256.ext (zero_gfMultiply a.byte)
  mul_zero a := Gf256.ext (gfMultiply_zero _)
  right_distrib a b c := Gf256.ext (gfMultiply_xor _ _ _)
  left_distrib a b c := Gf256.ext (by
    rw [byte_mul, byte_add, gfMultiply_comm, gfMultiply_xor, gfMultiply_comm b.byte,
      gfMultiply_comm c.byte]
    rfl)
  nsmul := nsmulRec
  zsmul := zsmulRec
  exists_pair_ne := ⟨0, 1, by decide⟩
  mul_inv_cancel := mul_inv
  inv_zero := if_pos rfl
  nnqsmul := _
  qsmul := _

/-- A difference is a sum. -/
theorem sub_eq_add (a b : Gf256) : a - b = a + b := by
  rw [sub_eq_add_neg]
  exact congrArg (a + ·) (Gf256.ext rfl)

end Gf256

end DshOrbit.Qr
