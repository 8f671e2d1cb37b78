-- SUMMARY: Calibration axes and tables with their lookups, and the two calibration profiles.
import TunerOs.Exceptions
import Mathlib.Algebra.Order.Ring.Rat
import Mathlib.Data.Rat.Defs
import Mathlib.Data.List.GetD
import Mathlib.Tactic.Linarith
import Mathlib.Algebra.Order.Field.Basic

/-!
# Calibration

An axis carries that its breakpoints increase and a table that it has one value for
each of them, as the constructors require. A lookup interpolates between neighbours
and is constant beyond the ends of an axis.
-/

namespace TunerOs

inductive CalibrationId where
  | stock
  | stage1
deriving DecidableEq, Repr

structure Axis1D where
  name : String
  unit : String
  breakpoints : List ℚ
  name_ne : name ≠ ""
  unit_ne : unit ≠ ""
  two_le_length : 2 ≤ breakpoints.length
  increasing : breakpoints.Pairwise (· < ·)

/-- The two breakpoints around a coordinate, and how far it lies between them. -/
structure Interval where
  lower : ℕ := 0
  upper : ℕ := 0
  fraction : ℚ := 0
deriving DecidableEq

/-- `interval_for`. The breakpoints increase, so `std::upper_bound` finds the first of those
that are greater. -/
def intervalFor (axis : List ℚ) (coordinate : ℚ) : Interval :=
  if coordinate ≤ axis.getD 0 0 then {}
  else if axis.getD (axis.length - 1) 0 ≤ coordinate then
    { lower := axis.length - 1
      upper := axis.length - 1 }
  else
    let upper := axis.findIdx (coordinate < ·)
    let lower := upper - 1
    { lower
      upper
      fraction := (coordinate - axis.getD lower 0) / (axis.getD upper 0 - axis.getD lower 0) }

def interpolate (lower upper fraction : ℚ) : ℚ := lower + (upper - lower) * fraction

structure Table1D where
  name : String
  valueUnit : String
  axis : Axis1D
  values : List ℚ
  name_ne : name ≠ ""
  valueUnit_ne : valueUnit ≠ ""
  length_values : values.length = axis.breakpoints.length

/-- `Table1D::lookup`. -/
def Table1D.lookup (table : Table1D) (coordinate : ℚ) : ℚ :=
  let interval := intervalFor table.axis.breakpoints coordinate
  interpolate (table.values.getD interval.lower 0) (table.values.getD interval.upper 0)
    interval.fraction

structure Table2D where
  name : String
  valueUnit : String
  rowAxis : Axis1D
  columnAxis : Axis1D
  /-- The values, row by row. -/
  values : List ℚ
  name_ne : name ≠ ""
  valueUnit_ne : valueUnit ≠ ""
  length_values : values.length = rowAxis.breakpoints.length * columnAxis.breakpoints.length

/-- `Table2D::lookup`. -/
def Table2D.lookup (table : Table2D) (rowCoordinate columnCoordinate : ℚ) : ℚ :=
  let row := intervalFor table.rowAxis.breakpoints rowCoordinate
  let column := intervalFor table.columnAxis.breakpoints columnCoordinate
  let width := table.columnAxis.breakpoints.length
  let at' := fun rowIndex columnIndex => table.values.getD (rowIndex * width + columnIndex) 0
  let lowerRow := interpolate (at' row.lower column.lower) (at' row.lower column.upper)
    column.fraction
  let upperRow := interpolate (at' row.upper column.lower) (at' row.upper column.upper)
    column.fraction
  interpolate lowerRow upperRow row.fraction

structure CalibrationProfile where
  id : CalibrationId
  throttleResponse : Table1D
  boostTargetKpaGauge : Table2D
  lambdaTarget : Table1D
  ignitionTargetDegrees : Table2D
  boostResponseTimeConstantSeconds : ℚ
  engineOutputMultiplier : ℚ

/-! ## Where a lookup lies -/

/-- The three branches of `interval_for`. -/
theorem intervalFor_cases {axis : List ℚ} (h : 2 ≤ axis.length) (coordinate : ℚ) :
    (coordinate ≤ axis.getD 0 0 ∧ intervalFor axis coordinate = ⟨0, 0, 0⟩) ∨
    (axis.getD 0 0 < coordinate ∧ axis.getD (axis.length - 1) 0 ≤ coordinate ∧
      intervalFor axis coordinate = ⟨axis.length - 1, axis.length - 1, 0⟩) ∨
    ∃ i, i + 1 < axis.length ∧ axis.getD i 0 ≤ coordinate ∧ coordinate < axis.getD (i + 1) 0 ∧
      intervalFor axis coordinate =
        ⟨i, i + 1, (coordinate - axis.getD i 0) / (axis.getD (i + 1) 0 - axis.getD i 0)⟩ := by
  by_cases hfront : coordinate ≤ axis.getD 0 0
  · exact Or.inl ⟨hfront, if_pos hfront⟩
  by_cases hback : axis.getD (axis.length - 1) 0 ≤ coordinate
  · refine Or.inr (Or.inl ⟨not_le.1 hfront, hback, ?_⟩)
    rw [intervalFor, if_neg hfront, if_pos hback]
  have hlast : axis.length - 1 < axis.length := by omega
  have hexists : ∃ breakpoint ∈ axis, decide (coordinate < breakpoint) = true := by
    refine ⟨axis[axis.length - 1], List.getElem_mem hlast, decide_eq_true ?_⟩
    rw [List.getD_eq_getElem _ _ hlast] at hback
    exact not_le.1 hback
  have hupper := List.findIdx_lt_length_of_exists hexists
  have hgreater : coordinate < axis.getD (axis.findIdx (coordinate < ·)) 0 := by
    rw [List.getD_eq_getElem _ _ hupper]
    exact of_decide_eq_true (List.findIdx_getElem (w := hupper))
  have hpos : axis.findIdx (coordinate < ·) ≠ 0 := by
    intro hzero
    rw [hzero] at hgreater
    exact hfront hgreater.le
  obtain ⟨i, hi⟩ := Nat.exists_eq_succ_of_ne_zero hpos
  have hless : axis.getD i 0 ≤ coordinate := by
    have hlower : i < axis.findIdx (coordinate < ·) := by omega
    rw [List.getD_eq_getElem _ _ (hlower.trans hupper)]
    simpa using List.not_of_lt_findIdx hlower
  rw [hi] at hupper hgreater
  refine Or.inr (Or.inr ⟨i, hupper, hless, hgreater, ?_⟩)
  rw [intervalFor, if_neg hfront, if_neg hback]
  simp only [hi, Nat.succ_eq_add_one, Nat.add_sub_cancel]

/-- An interval points into its axis and its fraction is a proportion. -/
theorem intervalFor_spec {axis : List ℚ} (h : 2 ≤ axis.length) (coordinate : ℚ) :
    (intervalFor axis coordinate).lower < axis.length ∧
      (intervalFor axis coordinate).upper < axis.length ∧
      0 ≤ (intervalFor axis coordinate).fraction ∧
      (intervalFor axis coordinate).fraction ≤ 1 := by
  have hfirst : 0 < axis.length := by omega
  have hlast : axis.length - 1 < axis.length := by omega
  rcases intervalFor_cases h coordinate with
    ⟨-, heq⟩ | ⟨-, -, heq⟩ | ⟨i, hi, hless, hgreater, heq⟩ <;> rw [heq]
  · exact ⟨hfirst, hfirst, le_rfl, zero_le_one⟩
  · exact ⟨hlast, hlast, le_rfl, zero_le_one⟩
  · have hwidth := sub_nonneg.2 (hless.trans hgreater.le)
    exact ⟨Nat.lt_of_succ_lt hi, hi, div_nonneg (sub_nonneg.2 hless) hwidth,
      div_le_one_of_le₀ (sub_le_sub_right hgreater.le _) hwidth⟩

/-- The cells of a row and a column of the axes are among the values. -/
theorem Table2D.cell_lt (table : Table2D) {row column : ℕ}
    (hrow : row < table.rowAxis.breakpoints.length)
    (hcolumn : column < table.columnAxis.breakpoints.length) :
    row * table.columnAxis.breakpoints.length + column < table.values.length := by
  rw [table.length_values]
  calc row * table.columnAxis.breakpoints.length + column
      < (row + 1) * table.columnAxis.breakpoints.length := by rw [Nat.succ_mul]; omega
    _ ≤ table.rowAxis.breakpoints.length * table.columnAxis.breakpoints.length :=
      Nat.mul_le_mul_right _ hrow

theorem le_interpolate {bound lower upper fraction : ℚ} (hlower : bound ≤ lower)
    (hupper : bound ≤ upper) (hnonneg : 0 ≤ fraction) (hle : fraction ≤ 1) :
    bound ≤ interpolate lower upper fraction := by
  have hfirst : bound * (1 - fraction) ≤ lower * (1 - fraction) :=
    mul_le_mul_of_nonneg_right hlower (sub_nonneg.2 hle)
  have hsecond : bound * fraction ≤ upper * fraction := mul_le_mul_of_nonneg_right hupper hnonneg
  rw [interpolate]
  linarith

/-- A lookup is at least what all values of the table are. -/
theorem Table1D.le_lookup {table : Table1D} {bound : ℚ} (h : ∀ value ∈ table.values, bound ≤ value)
    (coordinate : ℚ) : bound ≤ table.lookup coordinate := by
  obtain ⟨hlower, hupper, hnonneg, hle⟩ :=
    intervalFor_spec table.axis.two_le_length coordinate
  rw [← table.length_values] at hlower hupper
  rw [lookup, List.getD_eq_getElem _ _ hlower, List.getD_eq_getElem _ _ hupper]
  exact le_interpolate (h _ (List.getElem_mem _)) (h _ (List.getElem_mem _)) hnonneg hle

/-! ## The profiles -/

/-- `Axis1D{"Pedal", ...}`. -/
def pedalAxis : Axis1D where
  name := "Pedal"
  unit := "normalized"
  breakpoints := [0, 0.25, 0.5, 0.75, 1]
  name_ne := by decide
  unit_ne := by decide
  two_le_length := by decide
  increasing := by norm_num

/-- The engine speeds of the boost targets. -/
def boostEngineSpeedAxis : Axis1D where
  name := "Engine speed"
  unit := "rpm"
  breakpoints := [1000, 2500, 4000, 5500, 6500]
  name_ne := by decide
  unit_ne := by decide
  two_le_length := by decide
  increasing := by norm_num

/-- The loads of the boost and ignition targets. -/
def loadAxis : Axis1D where
  name := "Load"
  unit := "normalized"
  breakpoints := [0, 0.5, 1]
  name_ne := by decide
  unit_ne := by decide
  two_le_length := by decide
  increasing := by norm_num

/-- The loads of the lambda targets. -/
def lambdaLoadAxis : Axis1D where
  name := "Load"
  unit := "normalized"
  breakpoints := [0, 0.5, 0.8, 1]
  name_ne := by decide
  unit_ne := by decide
  two_le_length := by decide
  increasing := by norm_num

/-- The engine speeds of the ignition targets. -/
def ignitionEngineSpeedAxis : Axis1D where
  name := "Engine speed"
  unit := "rpm"
  breakpoints := [2000, 3500, 5000, 6500]
  name_ne := by decide
  unit_ne := by decide
  two_le_length := by decide
  increasing := by norm_num

/-- `Table1D{"Throttle response", ...}` with the values of a profile. -/
def throttleResponseTable (values : List ℚ) (h : values.length = 5) : Table1D where
  name := "Throttle response"
  valueUnit := "normalized load"
  axis := pedalAxis
  values
  name_ne := by decide
  valueUnit_ne := by decide
  length_values := h

/-- `Table2D{"Boost target", ...}` with the values of a profile. -/
def boostTargetTable (values : List ℚ) (h : values.length = 15) : Table2D where
  name := "Boost target"
  valueUnit := "kPa_gauge"
  rowAxis := boostEngineSpeedAxis
  columnAxis := loadAxis
  values
  name_ne := by decide
  valueUnit_ne := by decide
  length_values := h

/-- `Table1D{"Lambda target", ...}` with the values of a profile. -/
def lambdaTargetTable (values : List ℚ) (h : values.length = 4) : Table1D where
  name := "Lambda target"
  valueUnit := "lambda"
  axis := lambdaLoadAxis
  values
  name_ne := by decide
  valueUnit_ne := by decide
  length_values := h

/-- `Table2D{"Ignition target", ...}` with the values of a profile. -/
def ignitionTargetTable (values : List ℚ) (h : values.length = 12) : Table2D where
  name := "Ignition target"
  valueUnit := "degrees"
  rowAxis := ignitionEngineSpeedAxis
  columnAxis := loadAxis
  values
  name_ne := by decide
  valueUnit_ne := by decide
  length_values := h

/-- `make_stock_profile`. -/
def makeStockProfile : CalibrationProfile where
  id := .stock
  throttleResponse := throttleResponseTable [0, 0.22, 0.48, 0.74, 1] rfl
  boostTargetKpaGauge := boostTargetTable
    [0, 0, 0, 0, 25, 70, 0, 35, 90, 0, 28, 75, 0, 10, 40] rfl
  lambdaTarget := lambdaTargetTable [1, 1, 0.90, 0.86] rfl
  ignitionTargetDegrees := ignitionTargetTable
    [18, 14, 10, 22, 15, 8, 24, 16, 7, 20, 12, 5] rfl
  boostResponseTimeConstantSeconds := 0.80
  engineOutputMultiplier := 1

/-- `make_stage1_profile`. -/
def makeStage1Profile : CalibrationProfile where
  id := .stage1
  throttleResponse := throttleResponseTable [0, 0.28, 0.60, 0.86, 1] rfl
  boostTargetKpaGauge := boostTargetTable
    [0, 0, 0, 0, 35, 95, 0, 50, 125, 0, 45, 110, 0, 20, 65] rfl
  lambdaTarget := lambdaTargetTable [1, 1, 0.88, 0.82] rfl
  ignitionTargetDegrees := ignitionTargetTable
    [18, 14, 9, 22, 16, 10, 24, 18, 9, 20, 14, 7] rfl
  boostResponseTimeConstantSeconds := 0.65
  engineOutputMultiplier := 1.08

/-- `calibration_profile`; the type has no unknown IDs. -/
def calibrationProfile : CalibrationId → CalibrationProfile
  | .stock => makeStockProfile
  | .stage1 => makeStage1Profile

end TunerOs
