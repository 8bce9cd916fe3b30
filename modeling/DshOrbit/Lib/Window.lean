import Mathlib.Data.List.Count
import Mathlib.Data.Int.Order.Basic
import Mathlib.Tactic.TypeStar

/-!
# Instants in a sliding window

A list of instants to which one is only added while fewer than a number of the earlier ones lie in
the window that ends with it. No window of that length, wherever it begins, has more of them.

## Main definitions

- `Spaced` — every instant finds fewer than `n` earlier ones in the window that ends with it
- `Narrow` — a set of instants that a half-open window can hold

## Main results

- `Spaced.countP_le` — no window has more than `n` of the instants
-/

namespace DshOrbit.Lib

/-- Every instant finds fewer than `n` earlier ones in the window of length `width` that ends with
it. -/
inductive Spaced (n : ℕ) (width : ℤ) : List ℤ → Prop
  | nil : Spaced n width []
  | snoc {times : List ℤ} {t : ℤ} (h : Spaced n width times)
      (ht : times.countP (fun x => t - width < x) < n) : Spaced n width (times ++ [t])

/-- All of its instants are less than `width` apart. -/
def Narrow (width : ℤ) (window : ℤ → Bool) : Prop :=
  ∀ x y, window x = true → window y = true → y - x < width

theorem narrow_closed_open (start width : ℤ) :
    Narrow width fun t => start ≤ t ∧ t < start + width := by
  intro x y hx hy
  rw [decide_eq_true_eq] at hx hy
  omega

theorem narrow_open_closed (start width : ℤ) :
    Narrow width fun t => start < t ∧ t ≤ start + width := by
  intro x y hx hy
  rw [decide_eq_true_eq] at hx hy
  omega

variable {n : ℕ} {width : ℤ} {times : List ℤ}

/-- No window has more than `n` of the instants. -/
theorem Spaced.countP_le (h : Spaced n width times) {window : ℤ → Bool}
    (hwindow : Narrow width window) : times.countP window ≤ n := by
  induction h with
  | nil => exact Nat.zero_le n
  | @snoc times t _ ht ih =>
    rw [List.countP_append, List.countP_singleton]
    by_cases hin : window t = true
    · rw [if_pos hin]
      -- what else the window holds lies in the window that ends with the last instant
      have hle : times.countP window ≤ times.countP fun x => t - width < x := by
        refine List.countP_mono_left fun x _ hx => ?_
        have hnear := hwindow x t hx hin
        rw [decide_eq_true_eq]
        omega
      omega
    · rw [if_neg hin]
      exact ih

/-- In the order of time the instants of a window that ends later are a tail. -/
theorem dropWhile_eq_filter {bound : ℤ} (h : times.Pairwise (· ≤ ·)) :
    times.dropWhile (fun t => t ≤ bound) = times.filter fun t => bound < t := by
  induction times with
  | nil => rfl
  | cons t rest ih =>
    rw [List.pairwise_cons] at h
    by_cases ht : t ≤ bound
    · rw [List.dropWhile_cons_of_pos (by simpa using ht),
        List.filter_cons_of_neg (by simpa using ht), ih h.2]
    · have hkept : ∀ x ∈ t :: rest, decide (bound < x) = true := by
        rw [List.forall_mem_cons]
        refine ⟨by simpa using ht, fun x hx => ?_⟩
        have hle := h.1 x hx
        rw [decide_eq_true_eq]
        omega
      rw [List.dropWhile_cons_of_neg (by simpa using ht), List.filter_eq_self.mpr hkept]

end DshOrbit.Lib
