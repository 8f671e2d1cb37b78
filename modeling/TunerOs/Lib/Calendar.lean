-- SUMMARY: The proleptic Gregorian calendar: the days before a date, their order, and the date of a day.
import TunerOs.Lib.Blocks

/-!
# The Gregorian calendar

Days are counted from the first day of the year 1. Years are consecutive blocks of
days, and the months of a year are consecutive blocks of its days, so dates are ordered
by year, month and day as their days are.
-/

namespace Calendar

def IsLeapYear (year : ℕ) : Prop := 4 ∣ year ∧ (100 ∣ year → 400 ∣ year)

instance (year : ℕ) : Decidable (IsLeapYear year) := inferInstanceAs (Decidable (_ ∧ _))

def daysInYear (year : ℕ) : ℕ := if IsLeapYear year then 366 else 365

def daysInMonth (year month : ℕ) : ℕ :=
  if month = 2 then if IsLeapYear year then 29 else 28
  else if month = 4 ∨ month = 6 ∨ month = 9 ∨ month = 11 then 30
  else 31

theorem daysInYear_pos (year : ℕ) : 0 < daysInYear year := by
  unfold daysInYear
  split <;> decide

theorem daysInMonth_pos (year month : ℕ) : 0 < daysInMonth year month := by
  unfold daysInMonth
  split
  · split <;> decide
  · split <;> decide

theorem daysInMonth_le (year month : ℕ) : daysInMonth year month ≤ 31 := by
  unfold daysInMonth
  split
  · split <;> decide
  · split <;> decide

/-- Every fourth year has a day more, but of the hundreds only every fourth. -/
theorem daysBeforeYear_succ (years : ℕ) :
    (years + 1) * 365 + (years + 1) / 4 - (years + 1) / 100 + (years + 1) / 400 =
      years * 365 + years / 4 - years / 100 + years / 400 + daysInYear (years + 1) := by
  have hfour : 100 ∣ years + 1 → 4 ∣ years + 1 := Nat.dvd_trans (by decide)
  have hhundred : 400 ∣ years + 1 → 100 ∣ years + 1 := Nat.dvd_trans (by decide)
  have hle : years / 100 ≤ years / 4 := Nat.div_le_div_left (by decide) (by decide)
  rw [Nat.succ_div, Nat.succ_div, Nat.succ_div, daysInYear]
  by_cases h400 : 400 ∣ years + 1
  · have h100 := hhundred h400
    have h4 := hfour h100
    rw [if_pos h4, if_pos h100, if_pos h400, if_pos ⟨h4, fun _ => h400⟩]
    omega
  · by_cases h100 : 100 ∣ years + 1
    · rw [if_pos (hfour h100), if_pos h100, if_neg h400, if_neg fun h => h400 (h.2 h100)]
      omega
    · by_cases h4 : 4 ∣ years + 1
      · rw [if_pos h4, if_neg h100, if_neg h400, if_pos ⟨h4, fun h => absurd h h100⟩]
        omega
      · rw [if_neg h4, if_neg h100, if_neg h400, if_neg fun h => h4 h.1]
        omega

/-- The years, the `n`-th of which is the year `n + 1`. -/
def years : Blocks where
  start n := n * 365 + n / 4 - n / 100 + n / 400
  length n := daysInYear (n + 1)
  start_zero := rfl
  start_succ := daysBeforeYear_succ
  length_pos n := daysInYear_pos (n + 1)

/-- The days of a year before the month `n + 1`. -/
def daysBeforeMonth (year : ℕ) : ℕ → ℕ
  | 0 => 0
  | n + 1 => daysBeforeMonth year n + daysInMonth year (n + 1)

/-- The months of a year, the `n`-th of which is the month `n + 1`; only twelve of them are used. -/
def months (year : ℕ) : Blocks where
  start := daysBeforeMonth year
  length n := daysInMonth year (n + 1)
  start_zero := rfl
  start_succ _ := rfl
  length_pos n := daysInMonth_pos year (n + 1)

/-- Twelve months make a year. -/
theorem months_start_twelve (year : ℕ) : (months year).start 12 = daysInYear year := by
  have hmonths : (months year).start 12 = 31 + daysInMonth year 2 + 306 := rfl
  rw [hmonths, daysInMonth, daysInYear, if_pos rfl]
  split <;> rfl

structure IsDate (year month day : ℕ) : Prop where
  year_pos : 1 ≤ year
  month_pos : 1 ≤ month
  month_le : month ≤ 12
  day_pos : 1 ≤ day
  day_le : day ≤ daysInMonth year month

instance (year month day : ℕ) : Decidable (IsDate year month day) :=
  decidable_of_iff
    (1 ≤ year ∧ 1 ≤ month ∧ month ≤ 12 ∧ 1 ≤ day ∧ day ≤ daysInMonth year month)
    ⟨fun h => ⟨h.1, h.2.1, h.2.2.1, h.2.2.2.1, h.2.2.2.2⟩,
      fun h => ⟨h.year_pos, h.month_pos, h.month_le, h.day_pos, h.day_le⟩⟩

/-- The day in its year, from zero. -/
def dayOfYear (year month day : ℕ) : ℕ := (months year).start (month - 1) + (day - 1)

/-- The days from the first day of the year 1 to a date. -/
def dayNumber (year month day : ℕ) : ℕ := years.start (year - 1) + dayOfYear year month day

section Date

variable {year month day year' month' day' : ℕ}

theorem IsDate.offset_lt (h : IsDate year month day) :
    day - 1 < (months year).length (month - 1) := by
  have hmonth : month - 1 + 1 = month := Nat.sub_add_cancel h.month_pos
  change day - 1 < daysInMonth year (month - 1 + 1)
  rw [hmonth]
  have hday := h.day_le
  have hpos := h.day_pos
  omega

theorem IsDate.dayOfYear_lt (h : IsDate year month day) :
    dayOfYear year month day < years.length (year - 1) := by
  have hyear : years.length (year - 1) = daysInYear year :=
    congrArg daysInYear (Nat.sub_add_cancel h.year_pos)
  have hlast : month - 1 < 12 := by
    have hmonth := h.month_le
    omega
  rw [hyear, ← months_start_twelve]
  exact Blocks.position_lt_start h.offset_lt hlast

/-- Dates are ordered by year, month and day. -/
theorem IsDate.dayNumber_lt_iff (h : IsDate year month day) (h' : IsDate year' month' day') :
    dayNumber year month day < dayNumber year' month' day' ↔
      year < year' ∨ year = year' ∧ (month < month' ∨ month = month' ∧ day < day') := by
  have hyear := h.year_pos
  have hyear' := h'.year_pos
  rw [dayNumber, dayNumber, Blocks.position_lt_iff h.dayOfYear_lt h'.dayOfYear_lt]
  have hyears : year - 1 < year' - 1 ↔ year < year' := by omega
  have hsame : year - 1 = year' - 1 ↔ year = year' := by omega
  rw [hyears, hsame]
  refine or_congr_right (and_congr_right ?_)
  rintro rfl
  have hmonth := h.month_pos
  have hmonth' := h'.month_pos
  have hday := h.day_pos
  have hday' := h'.day_pos
  rw [dayOfYear, dayOfYear, Blocks.position_lt_iff h.offset_lt h'.offset_lt]
  omega

/-- Different dates are different days. -/
theorem IsDate.eq_of_dayNumber_eq (h : IsDate year month day) (h' : IsDate year' month' day')
    (heq : dayNumber year month day = dayNumber year' month' day') :
    year = year' ∧ month = month' ∧ day = day' := by
  have hnot := mt (h.dayNumber_lt_iff h').2 heq.not_lt
  have hnot' := mt (h'.dayNumber_lt_iff h).2 heq.symm.not_lt
  omega

end Date

/-! ## The date of a day -/

/-- Year, month and day of the date that is `n` days after the first. -/
def dateOf (n : ℕ) : ℕ × ℕ × ℕ :=
  let (year, day) := years.locate (n / 365) n
  let (month, day) := (months (year + 1)).locate 11 day
  (year + 1, month + 1, day + 1)

theorem lt_years_start (n : ℕ) : n < years.start (n / 365 + 1) := by
  change n < (n / 365 + 1) * 365 + (n / 365 + 1) / 4 - (n / 365 + 1) / 100 + (n / 365 + 1) / 400
  omega

/-- The date of a day is a date, and it is the date of that day. -/
theorem dateOf_spec (n : ℕ) :
    IsDate (dateOf n).1 (dateOf n).2.1 (dateOf n).2.2 ∧
      dayNumber (dateOf n).1 (dateOf n).2.1 (dateOf n).2.2 = n := by
  obtain ⟨hyear, hinYear⟩ := Blocks.locate_spec (lt_years_start n)
  have hbound : (years.locate (n / 365) n).2 <
      (months ((years.locate (n / 365) n).1 + 1)).start (11 + 1) :=
    (months_start_twelve _).symm ▸ hinYear
  obtain ⟨hmonth, hinMonth⟩ := Blocks.locate_spec hbound
  refine ⟨⟨Nat.le_add_left 1 _, Nat.le_add_left 1 _, ?_, Nat.le_add_left 1 _, hinMonth⟩, ?_⟩
  · exact Nat.succ_le_succ (Nat.findGreatest_le 11)
  · change years.start _ + ((months _).start _ + _) = n
    simp only [dateOf, Nat.add_sub_cancel]
    rw [hmonth, hyear]

/-- The dates up to the end of a year are those of the days before the next one. -/
theorem dateOf_year_le_iff {n year : ℕ} : (dateOf n).1 ≤ year ↔ n < years.start year := by
  obtain ⟨hdate, hday⟩ := dateOf_spec n
  have hpos := hdate.year_pos
  rw [dayNumber] at hday
  constructor
  · intro hle
    rw [← hday]
    exact Blocks.position_lt_start hdate.dayOfYear_lt (by omega)
  · intro hbefore
    by_contra hlater
    have hstart : years.start year ≤ years.start ((dateOf n).1 - 1) :=
      Blocks.start_strictMono.monotone (by omega)
    omega

end Calendar
