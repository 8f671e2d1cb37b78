-- SUMMARY: Piecewise linear functions through given points, as sums of ramps.
import Mathlib.Algebra.BigOperators.Intervals
import Mathlib.Algebra.BigOperators.Ring.Finset
import Mathlib.Algebra.Order.BigOperators.Group.Finset
import Mathlib.Algebra.Order.Field.Basic
import Mathlib.Algebra.Order.Group.MinMax
import Mathlib.Tactic.FieldSimp
import Mathlib.Tactic.Linarith
import Mathlib.Tactic.Ring

/-!
# Piecewise linear functions

A function through the points `(a i, v i)` that is linear between neighbours and constant
beyond the ends is a sum of ramps: each ramp rises from zero to one between two
neighbouring arguments and carries the difference of their values. What holds of one ramp
(it is monotone, and Lipschitz) is then summed.
-/

namespace TunerOs

open Finset

namespace PiecewiseLinear

variable {K : Type*} [Field K] [LinearOrder K]

/-- How far `x` is on the way from `lo` to `hi`. -/
def ramp (lo hi x : K) : K := (max lo (min hi x) - lo) / (hi - lo)

/-- The function through the points `(a i, v i)` with `i ≤ n`. -/
def interpolant (a v : ℕ → K) (n : ℕ) (x : K) : K :=
  v 0 + ∑ i ∈ range n, (v (i + 1) - v i) * ramp (a i) (a (i + 1)) x

/-! ## One ramp -/

section Ramp

variable {lo hi x y : K}

theorem ramp_of_le (h : lo < hi) (hx : x ≤ lo) : ramp lo hi x = 0 := by
  rw [ramp, min_eq_right (hx.trans h.le), max_eq_left hx, sub_self, zero_div]

theorem ramp_of_mem (hlo : lo ≤ x) (hhi : x ≤ hi) : ramp lo hi x = (x - lo) / (hi - lo) := by
  rw [ramp, min_eq_right hhi, max_eq_right hlo]

variable [IsStrictOrderedRing K]

theorem ramp_of_ge (h : lo < hi) (hx : hi ≤ x) : ramp lo hi x = 1 := by
  rw [ramp, min_eq_left hx, max_eq_right h.le]
  exact div_self (sub_pos.2 h).ne'

theorem ramp_mono (h : lo < hi) (hxy : x ≤ y) : ramp lo hi x ≤ ramp lo hi y :=
  div_le_div_of_nonneg_right
    (sub_le_sub_right (max_le_max le_rfl (min_le_min le_rfl hxy)) lo) (sub_pos.2 h).le

/-- Clamping brings two numbers no further apart. -/
theorem abs_clamp_sub_clamp_le (lo hi x y : K) :
    |max lo (min hi x) - max lo (min hi y)| ≤ |x - y| :=
  calc |max lo (min hi x) - max lo (min hi y)|
      ≤ max |lo - lo| |min hi x - min hi y| := abs_max_sub_max_le_max _ _ _ _
    _ ≤ |min hi x - min hi y| := by rw [sub_self, abs_zero, max_eq_right (abs_nonneg _)]
    _ ≤ max |hi - hi| |x - y| := abs_min_sub_min_le_max _ _ _ _
    _ = |x - y| := by rw [sub_self, abs_zero, max_eq_right (abs_nonneg _)]

theorem ramp_lipschitz (h : lo < hi) (x y : K) :
    |ramp lo hi x - ramp lo hi y| ≤ |x - y| / (hi - lo) := by
  have hpos : 0 < hi - lo := sub_pos.2 h
  have hsub : ramp lo hi x - ramp lo hi y =
      (max lo (min hi x) - max lo (min hi y)) / (hi - lo) := by
    rw [ramp, ramp, ← sub_div]
    congr 1
    ring
  rw [hsub, abs_div, abs_of_pos hpos]
  exact div_le_div_of_nonneg_right (abs_clamp_sub_clamp_le lo hi x y) hpos.le

end Ramp

/-! ## Sums of ramps -/

section Interpolant

variable {a v : ℕ → K} {n : ℕ} {x y : K}

/-- Before the first point the function is constant. -/
theorem interpolant_of_le (ha : ∀ i < n, a i < a (i + 1)) (hx : ∀ i < n, x ≤ a i) :
    interpolant a v n x = v 0 := by
  rw [interpolant, sum_eq_zero, add_zero]
  intro i hi
  rw [ramp_of_le (ha i (mem_range.1 hi)) (hx i (mem_range.1 hi)), mul_zero]

variable [IsStrictOrderedRing K]

/-- Between two neighbours the function is linear: the ramps before have risen and
those after have not begun. -/
theorem interpolant_of_between (ha : ∀ i < n, a i < a (i + 1)) {i : ℕ} (hi : i < n)
    (hlower : a i ≤ x) (hupper : x ≤ a (i + 1)) :
    interpolant a v n x = v i + (v (i + 1) - v i) * ((x - a i) / (a (i + 1) - a i)) := by
  have hmono : ∀ j k, j ≤ k → k ≤ n → a j ≤ a k := by
    intro j k hjk
    induction k, hjk using Nat.le_induction with
    | base => exact fun _ => le_rfl
    | succ k _ ih => exact fun hk => (ih (by omega)).trans (ha k (by omega)).le
  obtain ⟨rest, rfl⟩ := Nat.exists_eq_add_of_lt hi
  have hbefore : ∀ j ∈ range i, (v (j + 1) - v j) * ramp (a j) (a (j + 1)) x =
      v (j + 1) - v j := by
    intro j hj
    have hji : j + 1 ≤ i := mem_range.1 hj
    rw [ramp_of_ge (ha j (by omega)) ((hmono (j + 1) i hji (by omega)).trans hlower), mul_one]
  have hafter : ∀ j ∈ range rest,
      (v (i + 1 + j + 1) - v (i + 1 + j)) * ramp (a (i + 1 + j)) (a (i + 1 + j + 1)) x = 0 := by
    intro j hj
    have hjr : j < rest := mem_range.1 hj
    rw [ramp_of_le (ha (i + 1 + j) (by omega))
      (hupper.trans (hmono (i + 1) (i + 1 + j) (by omega) (by omega))), mul_zero]
  rw [interpolant, show i + rest + 1 = i + 1 + rest by omega, sum_range_add, sum_range_succ,
    sum_congr rfl hbefore, sum_congr rfl hafter, sum_const_zero, add_zero, ← add_assoc,
    sum_range_sub, add_sub_cancel, ramp_of_mem hlower hupper]

/-- After the last point the function is constant. -/
theorem interpolant_of_ge (ha : ∀ i < n, a i < a (i + 1)) (hx : ∀ i < n, a (i + 1) ≤ x) :
    interpolant a v n x = v n := by
  have hramps : ∀ i ∈ range n, (v (i + 1) - v i) * ramp (a i) (a (i + 1)) x =
      v (i + 1) - v i := by
    intro i hi
    rw [ramp_of_ge (ha i (mem_range.1 hi)) (hx i (mem_range.1 hi)), mul_one]
  rw [interpolant, sum_congr rfl hramps, sum_range_sub, add_sub_cancel]

theorem interpolant_mono (ha : ∀ i < n, a i < a (i + 1)) (hv : ∀ i < n, v i ≤ v (i + 1))
    (hxy : x ≤ y) : interpolant a v n x ≤ interpolant a v n y := by
  refine add_le_add_right (sum_le_sum fun i hi => ?_) _
  have hin : i < n := mem_range.1 hi
  exact mul_le_mul_of_nonneg_left (ramp_mono (ha i hin) hxy) (sub_nonneg.2 (hv i hin))

theorem interpolant_antitone (ha : ∀ i < n, a i < a (i + 1)) (hv : ∀ i < n, v (i + 1) ≤ v i)
    (hxy : x ≤ y) : interpolant a v n y ≤ interpolant a v n x := by
  refine add_le_add_right (sum_le_sum fun i hi => ?_) _
  have hin : i < n := mem_range.1 hi
  exact mul_le_mul_of_nonpos_left (ramp_mono (ha i hin) hxy) (sub_nonpos.2 (hv i hin))

/-- The steepest the function can be. -/
def steepness (a v : ℕ → K) (n : ℕ) : K :=
  ∑ i ∈ range n, |v (i + 1) - v i| / (a (i + 1) - a i)

theorem interpolant_lipschitz (ha : ∀ i < n, a i < a (i + 1)) (x y : K) :
    |interpolant a v n x - interpolant a v n y| ≤ steepness a v n * |x - y| := by
  have hsub : interpolant a v n x - interpolant a v n y =
      ∑ i ∈ range n, (v (i + 1) - v i) *
        (ramp (a i) (a (i + 1)) x - ramp (a i) (a (i + 1)) y) := by
    simp only [interpolant, mul_sub, sum_sub_distrib]
    ring
  rw [hsub, steepness, sum_mul]
  refine (abs_sum_le_sum_abs _ _).trans (sum_le_sum fun i hi => ?_)
  rw [abs_mul, div_mul_eq_mul_div, ← mul_div_assoc']
  exact mul_le_mul_of_nonneg_left (ramp_lipschitz (ha i (mem_range.1 hi)) x y) (abs_nonneg _)

end Interpolant

end PiecewiseLinear

end TunerOs
