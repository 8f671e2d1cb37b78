-- SUMMARY: What lookups in calibration tables guarantee: they stay inside the table, pass through its values, and are continuous, bounded and monotone between them.
import TunerOs.Lib.PiecewiseLinear
import TunerOs.Simulator.Calibration
import Mathlib.Analysis.Normed.Field.Lemmas
import Mathlib.Topology.Instances.Rat
import Mathlib.Topology.MetricSpace.Lipschitz

/-!
# Lookups

A lookup is the piecewise linear function through the values at the breakpoints of its
axis, and a lookup in two dimensions is one such function of another, in either order.
-/

namespace TunerOs

open PiecewiseLinear

/-! ## Intervals -/

/-- What `interval_for` finds on an axis: two breakpoints of the axis, the same or neighbours,
around a coordinate that the axis reaches, and a proportion, for which it divides by a positive
distance. -/
structure Interval.Encloses (interval : Interval) (axis : List ℚ) (coordinate : ℚ) : Prop where
  lower_lt : interval.lower < axis.length
  upper_lt : interval.upper < axis.length
  neighbours : interval.upper = interval.lower ∨ interval.upper = interval.lower + 1
  lower_le : axis.getD 0 0 ≤ coordinate → axis.getD interval.lower 0 ≤ coordinate
  le_upper : coordinate ≤ axis.getD (axis.length - 1) 0 →
    coordinate ≤ axis.getD interval.upper 0
  nonneg : 0 ≤ interval.fraction
  le_one : interval.fraction ≤ 1
  divides : axis.getD 0 0 < coordinate → coordinate < axis.getD (axis.length - 1) 0 →
    0 < axis.getD interval.upper 0 - axis.getD interval.lower 0

/-- Interpolating over an interval of an axis, for any values at its breakpoints. -/
def interpolateAt (axis : List ℚ) (values : ℕ → ℚ) (coordinate : ℚ) : ℚ :=
  let interval := intervalFor axis coordinate
  interpolate (values interval.lower) (values interval.upper) interval.fraction

theorem interpolate_self (value fraction : ℚ) : interpolate value value fraction = value := by
  rw [interpolate, sub_self, zero_mul, add_zero]

theorem interpolate_zero (lower upper : ℚ) : interpolate lower upper 0 = lower := by
  rw [interpolate, mul_zero, add_zero]

/-- Interpolating along one side of a square and then along the other is the same in
either order. -/
theorem interpolate_interpolate (a b c d s t : ℚ) :
    interpolate (interpolate a b s) (interpolate c d s) t =
      interpolate (interpolate a c t) (interpolate b d t) s := by
  simp only [interpolate]
  ring

theorem interpolate_le_interpolate {a b c d fraction : ℚ} (hlower : a ≤ c) (hupper : b ≤ d)
    (hnonneg : 0 ≤ fraction) (hle : fraction ≤ 1) :
    interpolate a b fraction ≤ interpolate c d fraction := by
  have hfirst : a * (1 - fraction) ≤ c * (1 - fraction) :=
    mul_le_mul_of_nonneg_right hlower (sub_nonneg.2 hle)
  have hsecond : b * fraction ≤ d * fraction := mul_le_mul_of_nonneg_right hupper hnonneg
  rw [interpolate, interpolate]
  linarith

theorem interpolate_le {bound lower upper fraction : ℚ} (hlower : lower ≤ bound)
    (hupper : upper ≤ bound) (hnonneg : 0 ≤ fraction) (hle : fraction ≤ 1) :
    interpolate lower upper fraction ≤ bound := by
  rw [← interpolate_self bound fraction]
  exact interpolate_le_interpolate hlower hupper hnonneg hle

section Axis

variable {axis : List ℚ} (hlength : 2 ≤ axis.length) (hincreasing : axis.Pairwise (· < ·))

include hincreasing in
theorem getD_lt_getD {i j : ℕ} (hij : i < j) (hj : j < axis.length) :
    axis.getD i 0 < axis.getD j 0 := by
  rw [List.getD_eq_getElem _ _ hj, List.getD_eq_getElem _ _ (hij.trans hj)]
  exact List.pairwise_iff_getElem.1 hincreasing i j (hij.trans hj) hj hij

include hincreasing in
theorem getD_le_getD {i j : ℕ} (hij : i ≤ j) (hj : j < axis.length) :
    axis.getD i 0 ≤ axis.getD j 0 := by
  rcases hij.eq_or_lt with rfl | hlt
  · exact le_rfl
  · exact (getD_lt_getD hincreasing hlt hj).le

include hlength hincreasing in
theorem intervalFor_encloses (coordinate : ℚ) :
    (intervalFor axis coordinate).Encloses axis coordinate := by
  obtain ⟨hlower, hupper, hnonneg, hle⟩ := intervalFor_spec hlength coordinate
  rcases intervalFor_cases hlength coordinate with
    ⟨hfront, heq⟩ | ⟨hfront, hback, heq⟩ | ⟨i, hi, hless, hgreater, heq⟩
  · refine ⟨hlower, hupper, ?_, ?_, ?_, hnonneg, hle, ?_⟩ <;> rw [heq]
    · exact Or.inl rfl
    · exact id
    · exact fun _ => hfront
    · exact fun hinside => absurd hfront (not_le.2 hinside)
  · refine ⟨hlower, hupper, ?_, ?_, ?_, hnonneg, hle, ?_⟩ <;> rw [heq]
    · exact Or.inl rfl
    · exact fun _ => hback
    · exact id
    · exact fun _ hinside => absurd hback (not_le.2 hinside)
  · refine ⟨hlower, hupper, ?_, ?_, ?_, hnonneg, hle, ?_⟩ <;> rw [heq]
    · exact Or.inr rfl
    · exact fun _ => hless
    · exact fun _ => hgreater.le
    · exact fun _ _ => sub_pos.2 (getD_lt_getD hincreasing (Nat.lt_succ_self i) hi)

include hlength in
/-- Greater values are interpolated to greater ones. -/
theorem interpolateAt_le_interpolateAt {values greater : ℕ → ℚ}
    (h : ∀ i < axis.length, values i ≤ greater i) (coordinate : ℚ) :
    interpolateAt axis values coordinate ≤ interpolateAt axis greater coordinate := by
  obtain ⟨hlower, hupper, hnonneg, hle⟩ := intervalFor_spec hlength coordinate
  exact interpolate_le_interpolate (h _ hlower) (h _ hupper) hnonneg hle

include hlength hincreasing in
/-- Interpolating over the intervals of an axis is the piecewise linear function through the
values at its breakpoints. -/
theorem interpolateAt_eq_interpolant (values : ℕ → ℚ) (coordinate : ℚ) :
    interpolateAt axis values coordinate =
      interpolant (fun i => axis.getD i 0) values (axis.length - 1) coordinate := by
  have hsteps : ∀ i < axis.length - 1, axis.getD i 0 < axis.getD (i + 1) 0 := fun i hi =>
    getD_lt_getD hincreasing (Nat.lt_succ_self i) (by omega)
  rw [interpolateAt]
  rcases intervalFor_cases hlength coordinate with
    ⟨hfront, heq⟩ | ⟨-, hback, heq⟩ | ⟨i, hi, hless, hgreater, heq⟩ <;> rw [heq]
  · rw [interpolate_zero, interpolant_of_le hsteps]
    exact fun i hi => hfront.trans (getD_le_getD hincreasing (Nat.zero_le i) (by omega))
  · rw [interpolate_zero, interpolant_of_ge hsteps]
    exact fun i hi => (getD_le_getD hincreasing (by omega) (by omega)).trans hback
  · exact (interpolant_of_between hsteps (by omega) hless hgreater.le).symm

include hlength hincreasing

/-- At a breakpoint the value there is returned. -/
theorem interpolateAt_breakpoint (values : ℕ → ℚ) {i : ℕ} (hi : i < axis.length) :
    interpolateAt axis values (axis.getD i 0) = values i := by
  rw [interpolateAt]
  rcases intervalFor_cases hlength (axis.getD i 0) with
    ⟨hfront, heq⟩ | ⟨-, hback, heq⟩ | ⟨j, hj, hless, hgreater, heq⟩ <;> rw [heq]
  · have hzero : i = 0 := by
      by_contra hne
      exact absurd hfront (not_le.2 (getD_lt_getD hincreasing (Nat.pos_of_ne_zero hne) hi))
    rw [interpolate_zero, hzero]
  · have hlast : i = axis.length - 1 := by
      by_contra hne
      exact absurd hback (not_le.2 (getD_lt_getD hincreasing (by omega) (by omega)))
    rw [interpolate_zero, hlast]
  · have hij : i = j := by
      rcases lt_trichotomy i j with hlt | heq | hgt
      · exact absurd hless (not_le.2 (getD_lt_getD hincreasing hlt (by omega)))
      · exact heq
      · exact absurd hgreater (not_lt.2 (getD_le_getD hincreasing hgt hi))
    rw [hij, sub_self, zero_div, interpolate_zero]

theorem interpolateAt_of_le (values : ℕ → ℚ) {coordinate : ℚ} (h : coordinate ≤ axis.getD 0 0) :
    interpolateAt axis values coordinate = interpolateAt axis values (axis.getD 0 0) := by
  rw [interpolateAt_breakpoint hlength hincreasing values (by omega), interpolateAt, intervalFor,
    if_pos h]
  exact interpolate_zero _ _

theorem interpolateAt_of_ge (values : ℕ → ℚ) {coordinate : ℚ}
    (h : axis.getD (axis.length - 1) 0 ≤ coordinate) :
    interpolateAt axis values coordinate =
      interpolateAt axis values (axis.getD (axis.length - 1) 0) := by
  have hfront : ¬ coordinate ≤ axis.getD 0 0 := not_le.2
    ((getD_lt_getD hincreasing (by omega) (by omega)).trans_le h)
  rw [interpolateAt_breakpoint hlength hincreasing values (by omega), interpolateAt, intervalFor,
    if_neg hfront, if_pos h]
  exact interpolate_zero _ _

theorem interpolateAt_mono {values : ℕ → ℚ}
    (hvalues : ∀ i, i + 1 < axis.length → values i ≤ values (i + 1)) :
    Monotone (interpolateAt axis values) := by
  intro x y hxy
  rw [interpolateAt_eq_interpolant hlength hincreasing,
    interpolateAt_eq_interpolant hlength hincreasing]
  exact interpolant_mono (fun i hi => getD_lt_getD hincreasing (Nat.lt_succ_self i) (by omega))
    (fun i hi => hvalues i (by omega)) hxy

theorem interpolateAt_antitone {values : ℕ → ℚ}
    (hvalues : ∀ i, i + 1 < axis.length → values (i + 1) ≤ values i) :
    Antitone (interpolateAt axis values) := by
  intro x y hxy
  rw [interpolateAt_eq_interpolant hlength hincreasing,
    interpolateAt_eq_interpolant hlength hincreasing]
  exact interpolant_antitone
    (fun i hi => getD_lt_getD hincreasing (Nat.lt_succ_self i) (by omega))
    (fun i hi => hvalues i (by omega)) hxy

theorem interpolateAt_lipschitz (values : ℕ → ℚ) :
    ∃ slope, ∀ x y, |interpolateAt axis values x - interpolateAt axis values y| ≤
      slope * |x - y| := by
  refine ⟨steepness (fun i => axis.getD i 0) values (axis.length - 1), fun x y => ?_⟩
  rw [interpolateAt_eq_interpolant hlength hincreasing,
    interpolateAt_eq_interpolant hlength hincreasing]
  exact interpolant_lipschitz
    (fun i hi => getD_lt_getD hincreasing (Nat.lt_succ_self i) (by omega)) x y

end Axis

/-- A function with bounded slope is continuous. -/
theorem continuous_of_slope {f : ℚ → ℚ}
    (h : ∃ slope, ∀ x y, |f x - f y| ≤ slope * |x - y|) : Continuous f := by
  obtain ⟨slope, hslope⟩ := h
  refine (LipschitzWith.of_dist_le_mul (K := Real.toNNReal slope) fun x y => ?_).continuous
  rw [Rat.dist_eq, Rat.dist_eq]
  calc |(f x : ℝ) - f y| ≤ slope * |(x : ℝ) - y| := by exact_mod_cast hslope x y
    _ ≤ Real.toNNReal slope * |(x : ℝ) - y| :=
      mul_le_mul_of_nonneg_right (Real.le_coe_toNNReal _) (abs_nonneg _)

/-! ## Tables in one dimension -/

/-- The breakpoint with this index. -/
def Axis1D.breakpoint (axis : Axis1D) (index : ℕ) : ℚ := axis.breakpoints.getD index 0

/-- The index of the last breakpoint. -/
def Axis1D.last (axis : Axis1D) : ℕ := axis.breakpoints.length - 1

/-- The stored value with this index. -/
def Table1D.valueAt (table : Table1D) (index : ℕ) : ℚ := table.values.getD index 0

/-- What a table with one axis guarantees of its lookups. -/
structure Table1D.Interpolates (table : Table1D) : Prop where
  encloses : ∀ x, (intervalFor table.axis.breakpoints x).Encloses table.axis.breakpoints x
  reads : ∀ x, (intervalFor table.axis.breakpoints x).lower < table.values.length ∧
    (intervalFor table.axis.breakpoints x).upper < table.values.length
  node : ∀ i ≤ table.axis.last, table.lookup (table.axis.breakpoint i) = table.valueAt i
  before : ∀ x ≤ table.axis.breakpoint 0, table.lookup x = table.valueAt 0
  beyond : ∀ x, table.axis.breakpoint table.axis.last ≤ x →
    table.lookup x = table.valueAt table.axis.last
  slope : ∃ slope, ∀ x y, |table.lookup x - table.lookup y| ≤ slope * |x - y|
  continuous : Continuous table.lookup
  between : ∀ x, let interval := intervalFor table.axis.breakpoints x
    min (table.valueAt interval.lower) (table.valueAt interval.upper) ≤ table.lookup x ∧
      table.lookup x ≤ max (table.valueAt interval.lower) (table.valueAt interval.upper)
  monotone : (∀ i < table.axis.last, table.valueAt i ≤ table.valueAt (i + 1)) →
    Monotone table.lookup
  antitone : (∀ i < table.axis.last, table.valueAt (i + 1) ≤ table.valueAt i) →
    Antitone table.lookup

theorem Table1D.lookup_eq (table : Table1D) :
    table.lookup = interpolateAt table.axis.breakpoints table.valueAt := rfl

theorem Table1D.interpolates (table : Table1D) : table.Interpolates := by
  have hlength := table.axis.two_le_length
  have hincreasing := table.axis.increasing
  have hencloses := intervalFor_encloses hlength hincreasing
  have hslope : ∃ slope, ∀ x y, |table.lookup x - table.lookup y| ≤ slope * |x - y| := by
    rw [table.lookup_eq]
    exact interpolateAt_lipschitz hlength hincreasing table.valueAt
  have hnode : ∀ i ≤ table.axis.last, table.lookup (table.axis.breakpoint i) = table.valueAt i := by
    intro i hi
    unfold Axis1D.last at hi
    rw [table.lookup_eq]
    exact interpolateAt_breakpoint hlength hincreasing table.valueAt (by omega)
  constructor
  · exact hencloses
  · intro x
    rw [table.length_values]
    exact ⟨(hencloses x).lower_lt, (hencloses x).upper_lt⟩
  · exact hnode
  · intro x hx
    rw [← hnode 0 (Nat.zero_le _), table.lookup_eq]
    exact interpolateAt_of_le hlength hincreasing table.valueAt hx
  · intro x hx
    rw [← hnode _ le_rfl, table.lookup_eq]
    exact interpolateAt_of_ge hlength hincreasing table.valueAt hx
  · exact hslope
  · exact continuous_of_slope hslope
  · intro x
    have hx := hencloses x
    exact ⟨le_interpolate (min_le_left _ _) (min_le_right _ _) hx.nonneg hx.le_one,
      interpolate_le (le_max_left _ _) (le_max_right _ _) hx.nonneg hx.le_one⟩
  · intro h
    rw [table.lookup_eq]
    exact interpolateAt_mono hlength hincreasing fun i hi => h i (by unfold Axis1D.last; omega)
  · intro h
    rw [table.lookup_eq]
    exact interpolateAt_antitone hlength hincreasing fun i hi => h i (by unfold Axis1D.last; omega)

/-! ## Tables in two dimensions -/

namespace Table2D

/-- The stored value in this row and column. -/
def valueAt (table : Table2D) (row column : ℕ) : ℚ :=
  table.values.getD (row * table.columnAxis.breakpoints.length + column) 0

/-- The lookup that interpolates between the rows first. -/
def lookupRowsFirst (table : Table2D) (rowCoordinate columnCoordinate : ℚ) : ℚ :=
  let row := intervalFor table.rowAxis.breakpoints rowCoordinate
  let column := intervalFor table.columnAxis.breakpoints columnCoordinate
  let lowerColumn := interpolate (table.valueAt row.lower column.lower)
    (table.valueAt row.upper column.lower) row.fraction
  let upperColumn := interpolate (table.valueAt row.lower column.upper)
    (table.valueAt row.upper column.upper) row.fraction
  interpolate lowerColumn upperColumn column.fraction

/-- The least of the values around a pair of coordinates. -/
def leastAround (table : Table2D) (r c : ℚ) : ℚ :=
  let row := intervalFor table.rowAxis.breakpoints r
  let column := intervalFor table.columnAxis.breakpoints c
  min (min (table.valueAt row.lower column.lower) (table.valueAt row.lower column.upper))
    (min (table.valueAt row.upper column.lower) (table.valueAt row.upper column.upper))

/-- The greatest of the values around a pair of coordinates. -/
def greatestAround (table : Table2D) (r c : ℚ) : ℚ :=
  let row := intervalFor table.rowAxis.breakpoints r
  let column := intervalFor table.columnAxis.breakpoints c
  max (max (table.valueAt row.lower column.lower) (table.valueAt row.lower column.upper))
    (max (table.valueAt row.upper column.lower) (table.valueAt row.upper column.upper))

/-- What a table with two axes guarantees of its lookups. -/
structure Interpolates (table : Table2D) : Prop where
  enclosesRow : ∀ r, (intervalFor table.rowAxis.breakpoints r).Encloses table.rowAxis.breakpoints r
  enclosesColumn : ∀ c,
    (intervalFor table.columnAxis.breakpoints c).Encloses table.columnAxis.breakpoints c
  reads : ∀ r c, let row := intervalFor table.rowAxis.breakpoints r
    let column := intervalFor table.columnAxis.breakpoints c
    ∀ i ∈ [row.lower, row.upper], ∀ j ∈ [column.lower, column.upper],
      i * table.columnAxis.breakpoints.length + j < table.values.length
  node : ∀ i ≤ table.rowAxis.last, ∀ j ≤ table.columnAxis.last,
    table.lookup (table.rowAxis.breakpoint i) (table.columnAxis.breakpoint j) = table.valueAt i j
  beforeRow : ∀ r ≤ table.rowAxis.breakpoint 0, ∀ c,
    table.lookup r c = table.lookup (table.rowAxis.breakpoint 0) c
  beyondRow : ∀ r, table.rowAxis.breakpoint table.rowAxis.last ≤ r → ∀ c,
    table.lookup r c = table.lookup (table.rowAxis.breakpoint table.rowAxis.last) c
  beforeColumn : ∀ r, ∀ c ≤ table.columnAxis.breakpoint 0,
    table.lookup r c = table.lookup r (table.columnAxis.breakpoint 0)
  beyondColumn : ∀ r c, table.columnAxis.breakpoint table.columnAxis.last ≤ c →
    table.lookup r c = table.lookup r (table.columnAxis.breakpoint table.columnAxis.last)
  slopeRow : ∀ c, ∃ slope, ∀ x y, |table.lookup x c - table.lookup y c| ≤ slope * |x - y|
  slopeColumn : ∀ r, ∃ slope, ∀ x y, |table.lookup r x - table.lookup r y| ≤ slope * |x - y|
  continuousRow : ∀ c, Continuous fun r => table.lookup r c
  continuousColumn : ∀ r, Continuous (table.lookup r)
  between : ∀ r c, table.leastAround r c ≤ table.lookup r c ∧
    table.lookup r c ≤ table.greatestAround r c
  monotoneRow : (∀ j ≤ table.columnAxis.last, ∀ i < table.rowAxis.last,
    table.valueAt i j ≤ table.valueAt (i + 1) j) → ∀ c, Monotone fun r => table.lookup r c
  antitoneRow : (∀ j ≤ table.columnAxis.last, ∀ i < table.rowAxis.last,
    table.valueAt (i + 1) j ≤ table.valueAt i j) → ∀ c, Antitone fun r => table.lookup r c
  monotoneColumn : (∀ i ≤ table.rowAxis.last, ∀ j < table.columnAxis.last,
    table.valueAt i j ≤ table.valueAt i (j + 1)) → ∀ r, Monotone (table.lookup r)
  antitoneColumn : (∀ i ≤ table.rowAxis.last, ∀ j < table.columnAxis.last,
    table.valueAt i (j + 1) ≤ table.valueAt i j) → ∀ r, Antitone (table.lookup r)
  rowsFirst : ∀ r c, table.lookup r c = table.lookupRowsFirst r c

theorem lookup_eq_rowsFirst (table : Table2D) (r c : ℚ) :
    table.lookup r c = table.lookupRowsFirst r c :=
  interpolate_interpolate _ _ _ _ _ _

/-- A lookup interpolates between rows, in each of which it has interpolated between columns. -/
theorem lookup_eq (table : Table2D) (r c : ℚ) :
    table.lookup r c = interpolateAt table.rowAxis.breakpoints
      (fun i => interpolateAt table.columnAxis.breakpoints (table.valueAt i) c) r := rfl

/-- The same, between columns in each of which it has interpolated between rows. -/
theorem lookup_eq_columns (table : Table2D) (r c : ℚ) :
    table.lookup r c = interpolateAt table.columnAxis.breakpoints
      (fun j => interpolateAt table.rowAxis.breakpoints (fun i => table.valueAt i j) r) c := by
  rw [lookup_eq_rowsFirst]
  rfl

theorem interpolates (table : Table2D) : table.Interpolates := by
  have hrows := table.rowAxis.two_le_length
  have hrowsIncrease := table.rowAxis.increasing
  have hcolumns := table.columnAxis.two_le_length
  have hcolumnsIncrease := table.columnAxis.increasing
  have hrow := intervalFor_encloses hrows hrowsIncrease
  have hcolumn := intervalFor_encloses hcolumns hcolumnsIncrease
  have hlookup : ∀ c, (fun r => table.lookup r c) = interpolateAt table.rowAxis.breakpoints
      (fun i => interpolateAt table.columnAxis.breakpoints (table.valueAt i) c) :=
    fun c => funext fun r => table.lookup_eq r c
  have hlookup' : ∀ r, table.lookup r = interpolateAt table.columnAxis.breakpoints
      (fun j => interpolateAt table.rowAxis.breakpoints (fun i => table.valueAt i j) r) :=
    fun r => funext fun c => table.lookup_eq_columns r c
  have hslopeRow : ∀ c, ∃ slope, ∀ x y, |table.lookup x c - table.lookup y c| ≤
      slope * |x - y| := by
    intro c
    obtain ⟨slope, hslope⟩ := interpolateAt_lipschitz hrows hrowsIncrease
      (fun i => interpolateAt table.columnAxis.breakpoints (table.valueAt i) c)
    refine ⟨slope, fun x y => ?_⟩
    rw [table.lookup_eq, table.lookup_eq]
    exact hslope x y
  have hslopeColumn : ∀ r, ∃ slope, ∀ x y, |table.lookup r x - table.lookup r y| ≤
      slope * |x - y| := by
    intro r
    rw [hlookup']
    exact interpolateAt_lipschitz hcolumns hcolumnsIncrease _
  constructor
  · exact hrow
  · exact hcolumn
  · intro r c row column i hi j hj
    have hi' : i < table.rowAxis.breakpoints.length := by
      rcases List.mem_pair.1 hi with rfl | rfl
      · exact (hrow r).lower_lt
      · exact (hrow r).upper_lt
    have hj' : j < table.columnAxis.breakpoints.length := by
      rcases List.mem_pair.1 hj with rfl | rfl
      · exact (hcolumn c).lower_lt
      · exact (hcolumn c).upper_lt
    exact table.cell_lt hi' hj'
  · intro i hi j hj
    unfold Axis1D.last at hi hj
    rw [table.lookup_eq]
    unfold Axis1D.breakpoint
    rw [interpolateAt_breakpoint hrows hrowsIncrease _ (by omega),
      interpolateAt_breakpoint hcolumns hcolumnsIncrease _ (by omega)]
  · intro r hr c
    rw [table.lookup_eq, table.lookup_eq]
    exact interpolateAt_of_le hrows hrowsIncrease _ hr
  · intro r hr c
    rw [table.lookup_eq, table.lookup_eq]
    exact interpolateAt_of_ge hrows hrowsIncrease _ hr
  · intro r c hc
    rw [hlookup']
    exact interpolateAt_of_le hcolumns hcolumnsIncrease _ hc
  · intro r c hc
    rw [hlookup']
    exact interpolateAt_of_ge hcolumns hcolumnsIncrease _ hc
  · exact hslopeRow
  · exact hslopeColumn
  · exact fun c => continuous_of_slope (hslopeRow c)
  · exact fun r => continuous_of_slope (hslopeColumn r)
  · intro r c
    have hr := hrow r
    have hc := hcolumn c
    constructor
    · refine le_interpolate ?_ ?_ hr.nonneg hr.le_one
      · exact (min_le_left _ _).trans
          (le_interpolate (min_le_left _ _) (min_le_right _ _) hc.nonneg hc.le_one)
      · exact (min_le_right _ _).trans
          (le_interpolate (min_le_left _ _) (min_le_right _ _) hc.nonneg hc.le_one)
    · refine interpolate_le ?_ ?_ hr.nonneg hr.le_one
      · exact (interpolate_le (le_max_left _ _) (le_max_right _ _) hc.nonneg hc.le_one).trans
          (le_max_left _ _)
      · exact (interpolate_le (le_max_left _ _) (le_max_right _ _) hc.nonneg hc.le_one).trans
          (le_max_right _ _)
  · intro h c
    rw [hlookup]
    refine interpolateAt_mono hrows hrowsIncrease fun i hi => ?_
    exact interpolateAt_le_interpolateAt hcolumns
      (fun j hj => h j (by unfold Axis1D.last; omega) i (by unfold Axis1D.last; omega)) c
  · intro h c
    rw [hlookup]
    refine interpolateAt_antitone hrows hrowsIncrease fun i hi => ?_
    exact interpolateAt_le_interpolateAt hcolumns
      (fun j hj => h j (by unfold Axis1D.last; omega) i (by unfold Axis1D.last; omega)) c
  · intro h r
    rw [hlookup']
    refine interpolateAt_mono hcolumns hcolumnsIncrease fun j hj => ?_
    exact interpolateAt_le_interpolateAt hrows
      (fun i hi => h i (by unfold Axis1D.last; omega) j (by unfold Axis1D.last; omega)) r
  · intro h r
    rw [hlookup']
    refine interpolateAt_antitone hcolumns hcolumnsIncrease fun j hj => ?_
    exact interpolateAt_le_interpolateAt hrows
      (fun i hi => h i (by unfold Axis1D.last; omega) j (by unfold Axis1D.last; omega)) r
  · exact table.lookup_eq_rowsFirst

end Table2D

/-- Every table interpolates. -/
theorem tables_interpolate :
    (∀ table : Table1D, table.Interpolates) ∧ ∀ table : Table2D, table.Interpolates :=
  ⟨Table1D.interpolates, Table2D.interpolates⟩

end TunerOs
