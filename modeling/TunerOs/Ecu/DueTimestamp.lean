-- SUMMARY: Advancing a due timestamp: the deadline it reaches, saturation, and the one input that wraps around.
import TunerOs.Ecu.Publication
import TunerOs.Lib.Periodic

/-!
# Due timestamps

A due timestamp is advanced in 64-bit arithmetic by the whole periods since it and one
more. Their number is computed before anything is compared with the range, so it wraps
around itself when the whole range has passed in periods of one.
-/

namespace TunerOs

open Periodic

/-- The whole range has passed in periods of one: one more period does not fit 64 bits. -/
def PeriodsWrap (nextDue period observedTimestamp : UInt64) : Prop :=
  period = 1 ∧ nextDue = 0 ∧ observedTimestamp = maximumUInt64

instance (nextDue period observedTimestamp : UInt64) :
    Decidable (PeriodsWrap nextDue period observedTimestamp) :=
  inferInstanceAs (Decidable (_ ∧ _))

section Advance

variable {nextDue period observed : UInt64}

theorem toNat_maximumUInt64 : maximumUInt64.toNat = 2 ^ 64 - 1 := rfl

/-- The number of periods fits, but for the input that makes it wrap around. -/
theorem periods_lt_of_not_wrap (hpos : 0 < period.toNat)
    (hwrap : ¬ PeriodsWrap nextDue period observed) :
    (observed.toNat - nextDue.toNat) / period.toNat + 1 < 2 ^ 64 := by
  have hrange : observed.toNat < 2 ^ 64 := observed.toNat_lt
  have hquotient : (observed.toNat - nextDue.toNat) / period.toNat ≤
      observed.toNat - nextDue.toNat := Nat.div_le_self _ _
  by_contra hlarge
  have hall : observed.toNat - nextDue.toNat = 2 ^ 64 - 1 := by omega
  have hperiod : period.toNat = 1 := by
    by_contra hne
    have hhalf : (observed.toNat - nextDue.toNat) / period.toNat ≤
        (observed.toNat - nextDue.toNat) / 2 := Nat.div_le_div_left (by omega) Nat.two_pos
    omega
  refine hwrap ⟨?_, ?_, ?_⟩
  · exact UInt64.toNat_inj.1 hperiod
  · exact UInt64.toNat_inj.1 (show nextDue.toNat = 0 by omega)
  · exact UInt64.toNat_inj.1 (toNat_maximumUInt64 ▸ (by omega))

/-- Unless the periods wrap around, a due timestamp is advanced past the observation, or to the
largest timestamp. -/
theorem toNat_advanceDueTimestamp_of_not_wrap (hpos : 0 < period.toNat)
    (hle : nextDue.toNat ≤ observed.toNat) (hwrap : ¬ PeriodsWrap nextDue period observed) :
    (advanceDueTimestamp nextDue period observed).toNat =
      min (nextDue.toNat + ((observed.toNat - nextDue.toNat) / period.toNat + 1) * period.toNat)
        maximumUInt64.toNat := by
  have hmax := toNat_maximumUInt64
  have hrange : observed.toNat < 2 ^ 64 := observed.toNat_lt
  have hfew := periods_lt_of_not_wrap hpos hwrap
  have hdiff : (observed - nextDue).toNat = observed.toNat - nextDue.toNat :=
    UInt64.toNat_sub_of_le _ _ (UInt64.le_iff_toNat_le.2 hle)
  have hroom : (maximumUInt64 - nextDue).toNat = maximumUInt64.toNat - nextDue.toNat :=
    UInt64.toNat_sub_of_le _ _ (UInt64.le_iff_toNat_le.2 (by omega))
  have hperiods : ((observed - nextDue) / period + 1).toNat =
      (observed.toNat - nextDue.toNat) / period.toNat + 1 := by
    rw [UInt64.toNat_add, UInt64.toNat_div, hdiff]
    exact Nat.mod_eq_of_lt hfew
  have hexceeds : (maximumUInt64 - nextDue) / period < (observed - nextDue) / period + 1 ↔
      maximumUInt64.toNat <
        nextDue.toNat + ((observed.toNat - nextDue.toNat) / period.toNat + 1) * period.toNat := by
    rw [UInt64.lt_iff_toNat_lt, hperiods, UInt64.toNat_div, hroom, Nat.div_lt_iff_lt_mul hpos]
    omega
  rw [advanceDueTimestamp]
  by_cases hlarge : (maximumUInt64 - nextDue) / period < (observed - nextDue) / period + 1
  · rw [if_pos hlarge]
    exact (min_eq_right (hexceeds.1 hlarge).le).symm
  · have hfits := not_lt.1 (mt hexceeds.2 hlarge)
    have hproduct : (((observed - nextDue) / period + 1) * period).toNat =
        ((observed.toNat - nextDue.toNat) / period.toNat + 1) * period.toNat := by
      rw [UInt64.toNat_mul, hperiods]
      exact Nat.mod_eq_of_lt (by omega)
    rw [if_neg hlarge, min_eq_left hfits, UInt64.toNat_add, hproduct]
    exact Nat.mod_eq_of_lt (by omega)

/-- A due timestamp, advanced past an observation without leaving the range. -/
theorem toNat_advanceDueTimestamp (hpos : 0 < period.toNat) (hle : nextDue.toNat ≤ observed.toNat)
    (hbound : observed.toNat + period.toNat ≤ maximumUInt64.toNat) :
    (advanceDueTimestamp nextDue period observed).toNat =
      nextDue.toNat + ((observed.toNat - nextDue.toNat) / period.toNat + 1) * period.toNat := by
  have hwrap : ¬ PeriodsWrap nextDue period observed := by
    rintro ⟨-, -, rfl⟩
    omega
  have hwhole : (observed.toNat - nextDue.toNat) / period.toNat * period.toNat ≤
      observed.toNat - nextDue.toNat := Nat.div_mul_le_self _ _
  rw [toNat_advanceDueTimestamp_of_not_wrap hpos hle hwrap]
  refine min_eq_left ?_
  rw [Nat.succ_mul]
  omega

end Advance

/-- Where the periods wrap around, the due timestamp stays at zero. -/
theorem advanceDueTimestamp_of_wrap {nextDue period observed : UInt64}
    (h : PeriodsWrap nextDue period observed) : advanceDueTimestamp nextDue period observed = 0 := by
  obtain ⟨rfl, rfl, rfl⟩ := h
  decide

/-- A due timestamp is advanced to its first deadline after the observation, or to the largest
timestamp if that deadline is out of range, exactly unless the periods wrap around. -/
theorem advanceDueTimestamp_reaches_deadline_iff (nextDue period observed : UInt64)
    (hpos : 0 < period) (hle : nextDue ≤ observed) :
    (∃ deadline,
        IsLeast (deadlinesAfter nextDue.toNat period.toNat observed.toNat) deadline ∧
        (advanceDueTimestamp nextDue period observed).toNat =
          if deadline < 2 ^ 64 then deadline else 2 ^ 64 - 1) ↔
      ¬ PeriodsWrap nextDue period observed := by
  have hposNat : 0 < period.toNat := UInt64.lt_iff_toNat_lt.1 hpos
  have hleNat : nextDue.toNat ≤ observed.toNat := UInt64.le_iff_toNat_le.1 hle
  constructor
  · rintro ⟨deadline, hfirst, hadvanced⟩ hwrap
    have hafter : observed.toNat < deadline := lt_of_mem_deadlinesAfter hfirst.1
    rw [advanceDueTimestamp_of_wrap hwrap] at hadvanced
    split at hadvanced
    · exact absurd (hadvanced ▸ hafter) (Nat.not_lt_zero _)
    · cases hadvanced
  · intro hwrap
    refine ⟨_, isLeast_deadlinesAfter hposNat hleNat, ?_⟩
    rw [toNat_advanceDueTimestamp_of_not_wrap hposNat hleNat hwrap, toNat_maximumUInt64]
    split
    · rename_i hfits
      exact min_eq_left (Nat.le_sub_one_of_lt hfits)
    · rename_i hlarge
      exact min_eq_right ((Nat.sub_le _ _).trans (not_lt.1 hlarge))

/-- The fast engine frame, observed 25 milliseconds after it was due. -/
theorem advanceDueTimestamp_reaches_thirty :
    ∃ deadline,
      IsLeast (deadlinesAfter (0 : UInt64).toNat kDmeFastEnginePeriodMicroseconds.toNat
        (25000 : UInt64).toNat) deadline ∧
      (advanceDueTimestamp 0 kDmeFastEnginePeriodMicroseconds 25000).toNat =
        if deadline < 2 ^ 64 then deadline else 2 ^ 64 - 1 :=
  (advanceDueTimestamp_reaches_deadline_iff 0 kDmeFastEnginePeriodMicroseconds 25000 (by decide)
    (by decide)).2 (by decide)

/-- With a period of one, the largest timestamp leaves a message that was never sent due at zero,
although its first deadline after that is out of range. -/
theorem advanceDueTimestamp_stays_at_zero :
    ¬ ∃ deadline,
      IsLeast (deadlinesAfter (0 : UInt64).toNat (1 : UInt64).toNat maximumUInt64.toNat) deadline ∧
      (advanceDueTimestamp 0 1 maximumUInt64).toNat =
        if deadline < 2 ^ 64 then deadline else 2 ^ 64 - 1 := by
  rintro ⟨deadline, hfirst, hadvanced⟩
  have hafter : maximumUInt64.toNat < deadline := lt_of_mem_deadlinesAfter hfirst.1
  have hstays : (advanceDueTimestamp 0 1 maximumUInt64).toNat = 0 := by decide
  rw [hstays] at hadvanced
  split at hadvanced
  · exact absurd (hadvanced ▸ hafter) (Nat.not_lt_zero _)
  · cases hadvanced

end TunerOs
