-- SUMMARY: Creation times: their conversion to UTC, and when the order of their texts is that of their instants.
import TunerOs.Exceptions
import TunerOs.Lib.Calendar
import TunerOs.Lib.FixedWidth
import Mathlib.Algebra.Order.Group.Unbundled.Abs
import Mathlib.Data.String.Basic

/-!
# Creation times

A recorder converts its creation time to UTC, which raises if that leaves the years 1
to 9999, and keeps the text of it. The texts have fields of fixed widths up to the
second. The fraction comes after a point, and the text of a whole second has a `Z` in
its place, which is greater.
-/

namespace TunerOs

/-! ## Points in time -/

/-- A point in time in UTC, by its calendar fields. -/
structure UtcTime where
  year : ℕ
  month : ℕ
  day : ℕ
  hour : ℕ
  minute : ℕ
  second : ℕ
  microsecond : ℕ
  year_le : year ≤ 9999
  month_le : month ≤ 12
  day_le : day ≤ 31
  hour_lt : hour < 24
  minute_lt : minute < 60
  second_lt : second < 60
  microsecond_lt : microsecond < 1000000
deriving DecidableEq

def paddedDecimal (width n : ℕ) : String :=
  let digits := Nat.toDigits 10 n
  String.ofList (List.replicate (width - digits.length) '0' ++ digits)

/-- `time.isoformat().replace("+00:00", "Z")`; a zero microsecond is not printed. -/
def UtcTime.isoformat (time : UtcTime) : String :=
  paddedDecimal 4 time.year ++ "-" ++ paddedDecimal 2 time.month ++ "-" ++
    paddedDecimal 2 time.day ++ "T" ++ paddedDecimal 2 time.hour ++ ":" ++
    paddedDecimal 2 time.minute ++ ":" ++ paddedDecimal 2 time.second ++
    (if time.microsecond = 0 then "" else "." ++ paddedDecimal 6 time.microsecond) ++ "Z"

namespace UtcTime

def IsDate (time : UtcTime) : Prop := Calendar.IsDate time.year time.month time.day

instance (time : UtcTime) : Decidable time.IsDate :=
  inferInstanceAs (Decidable (Calendar.IsDate _ _ _))

/-- The whole seconds since the start of the year 1. -/
def seconds (time : UtcTime) : ℕ :=
  Calendar.dayNumber time.year time.month time.day * 86400 + time.hour * 3600 + time.minute * 60 +
    time.second

/-- The microseconds since the start of the year 1. -/
def instant (time : UtcTime) : ℕ := time.seconds * 1000000 + time.microsecond

/-- The time of an instant, if it is in the years 1 to 9999. -/
def ofInstant : ℤ → Option UtcTime
  | .negSucc _ => none
  | .ofNat n =>
    let date := Calendar.dateOf (n / 86400000000)
    if hyear : date.1 ≤ 9999 then
      some {
        year := date.1
        month := date.2.1
        day := date.2.2
        hour := n / 3600000000 % 24
        minute := n / 60000000 % 60
        second := n / 1000000 % 60
        microsecond := n % 1000000
        year_le := hyear
        month_le := (Calendar.dateOf_spec _).1.month_le
        day_le := (Calendar.dateOf_spec _).1.day_le.trans (Calendar.daysInMonth_le _ _)
        hour_lt := Nat.mod_lt _ (by decide)
        minute_lt := Nat.mod_lt _ (by decide)
        second_lt := Nat.mod_lt _ (by decide)
        microsecond_lt := Nat.mod_lt _ (by decide) }
    else none

theorem ofInstant_spec {instant : ℤ} {time : UtcTime} (h : ofInstant instant = some time) :
    time.IsDate ∧ (time.instant : ℤ) = instant := by
  cases instant with
  | negSucc _ => cases h
  | ofNat n =>
    obtain ⟨hdate, hday⟩ := Calendar.dateOf_spec (n / 86400000000)
    simp only [ofInstant] at h
    split at h
    · cases h
      refine ⟨hdate, congrArg Int.ofNat ?_⟩
      simp only [UtcTime.instant, UtcTime.seconds, hday]
      omega
    · cases h

/-- The instants of these years have a time. -/
theorem ofInstant_isSome_iff {instant : ℤ} :
    (ofInstant instant).isSome ↔
      0 ≤ instant ∧ instant < Calendar.years.start 9999 * 86400000000 := by
  cases instant with
  | negSucc n => exact iff_of_false Bool.false_ne_true fun h => absurd h.1 (Int.negSucc_lt_zero n).not_ge
  | ofNat n =>
    have hyear := @Calendar.dateOf_year_le_iff (n / 86400000000) 9999
    have hday : n / 86400000000 < Calendar.years.start 9999 ↔
        n < Calendar.years.start 9999 * 86400000000 := Nat.div_lt_iff_lt_mul (by decide)
    simp only [ofInstant]
    split
    · rename_i hle
      exact iff_of_true rfl ⟨Int.natCast_nonneg n, Int.ofNat_lt.2 (hday.1 (hyear.1 hle))⟩
    · rename_i hle
      exact iff_of_false Bool.false_ne_true fun h => hle (hyear.2 (hday.2 (Int.ofNat_lt.1 h.2)))

end UtcTime

/-! ## Time zones -/

/-- A `datetime` with a time zone: what it shows, and how many microseconds that is ahead of UTC. -/
structure AwareDateTime where
  shown : UtcTime
  isDate : shown.IsDate
  utcOffset : ℤ
  utcOffset_lt : |utcOffset| < 86400000000
deriving DecidableEq

/-- `datetime(..., tzinfo=timezone(...))`, if the fields are in their ranges. -/
def AwareDateTime.ofFields (year month day hour minute second microsecond : ℕ) (utcOffset : ℤ) :
    Option AwareDateTime :=
  if h : year ≤ 9999 ∧ month ≤ 12 ∧ day ≤ 31 ∧ hour < 24 ∧ minute < 60 ∧ second < 60 ∧
      microsecond < 1000000 then
    let shown : UtcTime := ⟨year, month, day, hour, minute, second, microsecond, h.1, h.2.1, h.2.2.1,
      h.2.2.2.1, h.2.2.2.2.1, h.2.2.2.2.2.1, h.2.2.2.2.2.2⟩
    if hdate : shown.IsDate ∧ |utcOffset| < 86400000000 then
      some ⟨shown, hdate.1, utcOffset, hdate.2⟩
    else none
  else none

/-- A `datetime`: one without a time zone, or one with it. -/
inductive CreationTime where
  | naive
  | aware (time : AwareDateTime)
deriving DecidableEq

namespace AwareDateTime

/-- The microseconds from the start of the year 1 in UTC. -/
def instant (time : AwareDateTime) : ℤ := time.shown.instant - time.utcOffset

def outOfRange : PyException := ⟨.overflowError, "date value out of range"⟩

/-- `astimezone(UTC)`. -/
def astimezone (time : AwareDateTime) : Except PyException UtcTime :=
  match UtcTime.ofInstant time.instant with
  | none => .error outOfRange
  | some utc => .ok utc

/-- The time is in one of the years 1 to 9999 in UTC. -/
def InUtcRange (time : AwareDateTime) : Prop :=
  0 ≤ time.instant ∧ time.instant < Calendar.years.start 9999 * 86400000000

instance (time : AwareDateTime) : Decidable time.InUtcRange :=
  inferInstanceAs (Decidable (_ ∧ _))

theorem astimezone_spec {time : AwareDateTime} {utc : UtcTime} (h : time.astimezone = .ok utc) :
    utc.IsDate ∧ (utc.instant : ℤ) = time.instant := by
  unfold astimezone at h
  split at h
  · cases h
  · rename_i hutc
    cases h
    exact UtcTime.ofInstant_spec hutc

/-- The conversion returns exactly in these years. -/
theorem astimezone_ok_iff {time : AwareDateTime} :
    (∃ utc, time.astimezone = .ok utc) ↔ time.InUtcRange := by
  rw [InUtcRange, ← UtcTime.ofInstant_isSome_iff, Option.isSome_iff_exists, astimezone]
  cases UtcTime.ofInstant time.instant with
  | none => exact ⟨fun ⟨_, hutc⟩ => (by cases hutc), fun ⟨_, hutc⟩ => (by cases hutc)⟩
  | some utc => exact ⟨fun _ => ⟨utc, rfl⟩, fun _ => ⟨utc, rfl⟩⟩

end AwareDateTime

/-! ## The order of times -/

/-- The first instant, in microseconds, is the start of a second in which the second one is later. -/
def StartsSecondOf (start later : ℤ) : Prop :=
  1000000 ∣ start ∧ start < later ∧ later < start + 1000000

instance (start later : ℤ) : Decidable (StartsSecondOf start later) :=
  inferInstanceAs (Decidable (_ ∧ _))

namespace UtcTime

section Order

variable {a b : UtcTime}

/-- Times are ordered by their fields, down to the second. -/
theorem seconds_lt_iff (ha : a.IsDate) (hb : b.IsDate) :
    a.seconds < b.seconds ↔
      a.year < b.year ∨ a.year = b.year ∧ (a.month < b.month ∨ a.month = b.month ∧
        (a.day < b.day ∨ a.day = b.day ∧ (a.hour < b.hour ∨ a.hour = b.hour ∧
          (a.minute < b.minute ∨ a.minute = b.minute ∧ a.second < b.second)))) := by
  have hdays := ha.dayNumber_lt_iff hb
  have hdays' := hb.dayNumber_lt_iff ha
  have hsame := fun heq => ha.eq_of_dayNumber_eq hb heq
  have := a.hour_lt
  have := a.minute_lt
  have := a.second_lt
  have := b.hour_lt
  have := b.minute_lt
  have := b.second_lt
  unfold seconds
  omega

end Order

/-! ## The text -/

/-- The text after the second. -/
def fraction (microsecond : ℕ) : List Char :=
  if microsecond = 0 then ['Z'] else '.' :: (FixedWidth.digits 6 microsecond ++ ['Z'])

end UtcTime

theorem toList_paddedDecimal {width n : ℕ} (hpos : 0 < width) (h : n < 10 ^ width) :
    (paddedDecimal width n).toList = FixedWidth.digits width n := by
  rw [paddedDecimal, String.toList_ofList]
  exact FixedWidth.replicate_append_toDigits hpos h

namespace UtcTime

variable {a b : UtcTime}

theorem fields_lt (time : UtcTime) :
    time.year < 10 ^ 4 ∧ time.month < 10 ^ 2 ∧ time.day < 10 ^ 2 ∧ time.hour < 10 ^ 2 ∧
      time.minute < 10 ^ 2 ∧ time.second < 10 ^ 2 := by
  have hyear := time.year_le
  have hmonth := time.month_le
  have hday := time.day_le
  have hhour := time.hour_lt
  have hminute := time.minute_lt
  have hsecond := time.second_lt
  omega

/-- The fields of the text and what separates them. -/
theorem toList_isoformat (time : UtcTime) :
    time.isoformat.toList =
      FixedWidth.digits 4 time.year ++ '-' :: (FixedWidth.digits 2 time.month ++ '-' ::
        (FixedWidth.digits 2 time.day ++ 'T' :: (FixedWidth.digits 2 time.hour ++ ':' ::
          (FixedWidth.digits 2 time.minute ++ ':' :: (FixedWidth.digits 2 time.second ++
            fraction time.microsecond))))) := by
  obtain ⟨hyear, hmonth, hday, hhour, hminute, hsecond⟩ := time.fields_lt
  have hfraction : (if time.microsecond = 0 then ""
      else "." ++ paddedDecimal 6 time.microsecond).toList ++ ['Z'] =
      fraction time.microsecond := by
    unfold fraction
    split
    · rfl
    · rw [String.toList_append, toList_paddedDecimal (by decide) time.microsecond_lt]
      rfl
  simp only [isoformat, String.toList_append]
  rw [toList_paddedDecimal (by decide) hyear, toList_paddedDecimal (by decide) hmonth,
    toList_paddedDecimal (by decide) hday, toList_paddedDecimal (by decide) hhour,
    toList_paddedDecimal (by decide) hminute, toList_paddedDecimal (by decide) hsecond, ← hfraction]
  simp only [List.append_assoc]
  rfl

/-- Of two fractions of a second, one that is zero has the greater text. -/
theorem fraction_lt_iff {m n : ℕ} (hm : m < 10 ^ 6) (hn : n < 10 ^ 6) :
    fraction m < fraction n ↔ m ≠ 0 ∧ (n = 0 ∨ m < n) := by
  have hpoint : '.' < 'Z' := by decide
  have hbefore : ¬ 'Z' < '.' := by decide
  by_cases hzero : m = 0
  · have hnot : ¬ fraction m < fraction n := by
      rw [fraction, fraction, if_pos hzero]
      split
      · exact List.lt_irrefl _
      · rw [List.cons_lt_cons_iff]
        rintro (hlt | ⟨heq, -⟩)
        · exact hbefore hlt
        · cases heq
    exact ⟨fun hlt => absurd hlt hnot, fun h => absurd hzero h.1⟩
  · rw [fraction, if_neg hzero, fraction]
    split
    · rename_i hzero'
      rw [List.cons_lt_cons_iff]
      exact ⟨fun _ => ⟨hzero, .inl hzero'⟩, fun _ => .inl hpoint⟩
    · rename_i hzero'
      have hends : ¬ ['Z'] < ['Z'] := List.lt_irrefl _
      rw [List.cons_lt_cons_iff, FixedWidth.digits_append_lt_iff hm hn]
      simp only [Char.lt_irrefl, hends, and_false, or_false, true_and, false_or, ne_eq, hzero,
        hzero', not_false_eq_true]

/-- Texts are ordered by their seconds, and in one second a text without a fraction is the last. -/
theorem isoformat_lt_iff (ha : a.IsDate) (hb : b.IsDate) :
    a.isoformat < b.isoformat ↔
      a.seconds < b.seconds ∨ a.seconds = b.seconds ∧
        a.microsecond ≠ 0 ∧ (b.microsecond = 0 ∨ a.microsecond < b.microsecond) := by
  obtain ⟨hyear, hmonth, hday, hhour, hminute, hsecond⟩ := a.fields_lt
  obtain ⟨hyear', hmonth', hday', hhour', hminute', hsecond'⟩ := b.fields_lt
  have hfraction := fraction_lt_iff a.microsecond_lt b.microsecond_lt
  rw [String.lt_iff_toList_lt, toList_isoformat, toList_isoformat]
  simp only [FixedWidth.digits_append_lt_iff hyear hyear',
    FixedWidth.digits_append_lt_iff hmonth hmonth', FixedWidth.digits_append_lt_iff hday hday',
    FixedWidth.digits_append_lt_iff hhour hhour', FixedWidth.digits_append_lt_iff hminute hminute',
    FixedWidth.digits_append_lt_iff hsecond hsecond', List.cons_lt_cons_iff, Char.lt_irrefl,
    true_and, false_or, hfraction]
  have hseconds := seconds_lt_iff ha hb
  have hseconds' := seconds_lt_iff hb ha
  omega

/-- Texts are ordered as the instants, but the start of a second comes after all that is in it. -/
theorem isoformat_lt_iff_instant (ha : a.IsDate) (hb : b.IsDate) :
    a.isoformat < b.isoformat ↔
      a.instant < b.instant ∧ ¬ StartsSecondOf a.instant b.instant ∨
        StartsSecondOf b.instant a.instant := by
  have hmicrosecond := a.microsecond_lt
  have hmicrosecond' := b.microsecond_lt
  rw [isoformat_lt_iff ha hb]
  unfold StartsSecondOf instant
  omega

/-- Times have one text exactly if they are one instant. -/
theorem isoformat_eq_iff (ha : a.IsDate) (hb : b.IsDate) :
    a.isoformat = b.isoformat ↔ a.instant = b.instant := by
  have hbefore := isoformat_lt_iff_instant ha hb
  have hafter := isoformat_lt_iff_instant hb ha
  constructor
  · intro h
    rw [h] at hbefore hafter
    have hnot := mt hbefore.2 (String.lt_irrefl _)
    have hnot' := mt hafter.2 (String.lt_irrefl _)
    unfold StartsSecondOf at hnot hnot'
    omega
  · intro h
    have hdistinct : ∀ instant, ¬ StartsSecondOf instant instant := fun _ hstarts =>
      absurd hstarts.2.1 (lt_irrefl _)
    rw [h] at hbefore hafter
    rcases lt_trichotomy a.isoformat b.isoformat with hlt | heq | hgt
    · rcases hbefore.1 hlt with ⟨hirrefl, -⟩ | hstarts
      · exact absurd hirrefl (lt_irrefl _)
      · exact absurd hstarts (hdistinct _)
    · exact heq
    · rcases hafter.1 hgt with ⟨hirrefl, -⟩ | hstarts
      · exact absurd hirrefl (lt_irrefl _)
      · exact absurd hstarts (hdistinct _)

end UtcTime

end TunerOs
