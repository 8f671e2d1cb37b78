-- SUMMARY: Rounding half away from zero and saturating quantization: error, endpoints, and monotonicity.
import Mathlib.Algebra.Order.Floor.Ring
import Mathlib.Algebra.Order.Round
import Mathlib.Tactic.Linarith
import Mathlib.Tactic.FieldSimp
import Mathlib.Tactic.Ring

/-!
# Quantization

A quantizer rounds a number to the nearest integer and saturates it at zero and at
its highest level. It is monotone, exact up to one half inside its range, and the
nearest endpoint outside.
-/

namespace Quantize

variable {α : Type*} [Field α] [LinearOrder α] [IsStrictOrderedRing α] [FloorRing α]

/-- Round to the nearest integer, halves away from zero. -/
def roundHalfAway (x : α) : ℤ := if 0 ≤ x then ⌊x + 1 / 2⌋ else ⌈x - 1 / 2⌉

/-- Round, then clamp between zero and the highest level. -/
def quantize (levels : ℕ) (x : α) : ℕ := (max 0 (min (levels : ℤ) (roundHalfAway x))).toNat

theorem abs_roundHalfAway_sub_le (x : α) : |(roundHalfAway x : α) - x| ≤ 1 / 2 := by
  unfold roundHalfAway
  rw [abs_le]
  split
  · have hle := Int.floor_le (x + 1 / 2)
    have hlt := Int.lt_floor_add_one (x + 1 / 2)
    constructor <;> linarith
  · have hle := Int.le_ceil (x - 1 / 2)
    have hlt := Int.ceil_lt_add_one (x - 1 / 2)
    constructor <;> linarith

theorem roundHalfAway_mono {x y : α} (hxy : x ≤ y) : roundHalfAway x ≤ roundHalfAway y := by
  unfold roundHalfAway
  by_cases hx : 0 ≤ x
  · rw [if_pos hx, if_pos (hx.trans hxy)]
    exact Int.floor_mono (by linarith)
  · rw [if_neg hx]
    by_cases hy : 0 ≤ y
    · -- a negative number rounds to at most zero, a non-negative one to at least zero
      rw [if_pos hy]
      have hceil : ⌈x - 1 / 2⌉ ≤ 0 := Int.ceil_le.2 (by push_cast; linarith)
      have hfloor : 0 ≤ ⌊y + 1 / 2⌋ := Int.le_floor.2 (by push_cast; linarith)
      exact hceil.trans hfloor
    · rw [if_neg hy]
      exact Int.ceil_mono (by linarith)

theorem roundHalfAway_zero : roundHalfAway (0 : α) = 0 := by
  rw [roundHalfAway, if_pos le_rfl, Int.floor_eq_iff]
  constructor <;> norm_num

theorem roundHalfAway_intCast (n : ℤ) : roundHalfAway (n : α) = n := by
  unfold roundHalfAway
  split
  · rw [Int.floor_eq_iff]
    constructor <;> linarith
  · rw [Int.ceil_eq_iff]
    constructor <;> linarith

section Quantize

variable {levels : ℕ} {x y : α}

omit [IsStrictOrderedRing α] in
theorem quantize_le : quantize levels x ≤ levels := by
  unfold quantize
  omega

theorem quantize_mono (h : x ≤ y) : quantize levels x ≤ quantize levels y := by
  have hround := roundHalfAway_mono h
  unfold quantize
  omega

theorem quantize_of_nonpos (h : x ≤ 0) : quantize levels x = 0 := by
  have hround : roundHalfAway x ≤ 0 := roundHalfAway_zero (α := α) ▸ roundHalfAway_mono h
  unfold quantize
  omega

theorem quantize_of_ge (h : (levels : α) ≤ x) : quantize levels x = levels := by
  have hround : (levels : ℤ) ≤ roundHalfAway x := by
    have hmono := roundHalfAway_mono h
    rwa [← Int.cast_natCast, roundHalfAway_intCast] at hmono
  unfold quantize
  omega

/-- Inside the range the quantizer only rounds. -/
theorem quantize_of_mem (h0 : 0 ≤ x) (hlevels : x ≤ levels) :
    (quantize levels x : ℤ) = roundHalfAway x := by
  have hlow : 0 ≤ roundHalfAway x := roundHalfAway_zero (α := α) ▸ roundHalfAway_mono h0
  have hhigh : roundHalfAway x ≤ levels := by
    have hmono := roundHalfAway_mono hlevels
    rwa [← Int.cast_natCast, roundHalfAway_intCast] at hmono
  unfold quantize
  omega

theorem abs_quantize_sub_le (h0 : 0 ≤ x) (hlevels : x ≤ levels) :
    |(quantize levels x : α) - x| ≤ 1 / 2 := by
  have hcast : (quantize levels x : α) = (roundHalfAway x : α) := by
    rw [← quantize_of_mem h0 hlevels, Int.cast_natCast]
  rw [hcast]
  exact abs_roundHalfAway_sub_le x

end Quantize

/-! ## Scaled values

A value `v` is quantized in steps of `scale` from `offset` and read back with steps
of `factor`, which may differ slightly from `scale`. -/

section Scaled

variable {levels : ℕ} {scale factor offset v w : α}

/-- The level of a value, counted in steps from the offset. -/
def level (levels : ℕ) (scale offset v : α) : ℕ := quantize levels ((v - offset) / scale)

theorem level_mono (hscale : 0 < scale) (h : v ≤ w) :
    level levels scale offset v ≤ level levels scale offset w :=
  quantize_mono (by gcongr)

theorem level_of_le (hscale : 0 < scale) (h : v ≤ offset) : level levels scale offset v = 0 :=
  quantize_of_nonpos (div_nonpos_of_nonpos_of_nonneg (by linarith) hscale.le)

theorem level_of_ge (hscale : 0 < scale) (h : levels * scale + offset ≤ v) :
    level levels scale offset v = levels :=
  quantize_of_ge (by rw [le_div_iff₀ hscale]; linarith)

/-- An integer in steps of one is only clamped. -/
theorem level_intCast (n : ℤ) :
    level levels (1 : α) 0 (n : α) = (max 0 (min (levels : ℤ) n)).toNat := by
  rw [level, sub_zero, div_one, quantize, roundHalfAway_intCast]

/-- A value on the grid is its own level. -/
theorem level_grid (hscale : 0 < scale) (offset : α) {k : ℕ} (hk : k ≤ levels) :
    level levels scale offset (k * scale + offset) = k := by
  have hexact : ((k : α) * scale + offset - offset) / scale = ((k : ℤ) : α) := by
    rw [add_sub_cancel_right, mul_div_cancel_right₀ _ hscale.ne', Int.cast_natCast]
  rw [level, hexact, quantize, roundHalfAway_intCast]
  omega

/-- A grid point that bounds a value bounds what is read back. -/
theorem level_le_of_le (hscale : 0 < scale) {k : ℕ} (hk : k ≤ levels) (h : v ≤ k * scale + offset) :
    level levels scale offset v ≤ k :=
  (level_mono hscale h).trans_eq (level_grid hscale offset hk)

theorem le_level_of_le (hscale : 0 < scale) {k : ℕ} (hk : k ≤ levels) (h : k * scale + offset ≤ v) :
    k ≤ level levels scale offset v :=
  (level_grid hscale offset hk).symm.trans_le (level_mono hscale h)

/-- In range, reading a level back is off by at most half a step, and by the difference of the
two step sizes at that level. -/
theorem abs_level_sub_le (hscale : 0 < scale) (hlow : offset ≤ v)
    (hhigh : v ≤ levels * scale + offset) :
    |level levels scale offset v * factor + offset - v| ≤
      scale / 2 + level levels scale offset v * |factor - scale| := by
  have hsteps : |(level levels scale offset v : α) - (v - offset) / scale| ≤ 1 / 2 := by
    refine abs_quantize_sub_le (div_nonneg (by linarith) hscale.le) ?_
    rw [div_le_iff₀ hscale]
    linarith
  have hstep : |level levels scale offset v * scale + offset - v| ≤ scale / 2 := by
    have hfactor : (level levels scale offset v : α) * scale + offset - v =
        (level levels scale offset v - (v - offset) / scale) * scale := by
      field_simp
      ring
    rw [hfactor, abs_mul, abs_of_pos hscale]
    calc |(level levels scale offset v : α) - (v - offset) / scale| * scale
        ≤ 1 / 2 * scale := by gcongr
      _ = scale / 2 := by ring
  have hdifference : |(level levels scale offset v : α) * (factor - scale)| =
      level levels scale offset v * |factor - scale| := by
    rw [abs_mul, abs_of_nonneg (Nat.cast_nonneg _)]
  calc |(level levels scale offset v : α) * factor + offset - v|
      = |(level levels scale offset v * scale + offset - v) +
          level levels scale offset v * (factor - scale)| := by congr 1; ring
    _ ≤ |level levels scale offset v * scale + offset - v| +
          |level levels scale offset v * (factor - scale)| := abs_add_le _ _
    _ ≤ scale / 2 + level levels scale offset v * |factor - scale| := by
        rw [hdifference]
        gcongr

end Scaled

end Quantize
