-- SUMMARY: Periodic deadlines: the next multiple of a period, when it is reached, and advancing a deadline past a time.
import Mathlib.Algebra.Order.Floor.Div
import Mathlib.Algebra.Order.Ring.Nat

/-!
# Periodic deadlines

A deadline that always stands at the next multiple of its period is reached exactly
when the number of whole periods grows, whatever the steps of the observed times are.
-/

namespace Periodic

/-- The least multiple of the period that is after `t`. -/
def nextMultiple (period t : ℕ) : ℕ := (t / period + 1) * period

variable {period t u : ℕ}

theorem dvd_nextMultiple : period ∣ nextMultiple period t := Dvd.intro_left _ rfl

/-- The deadline after `t` is reached at `u` when more whole periods have passed. -/
theorem nextMultiple_le_iff (h : 0 < period) :
    nextMultiple period t ≤ u ↔ t / period < u / period := by
  rw [nextMultiple, ← Nat.le_div_iff_mul_le h]
  exact Iff.rfl

/-- A deadline that is reached, advanced by the whole periods since it and one more. -/
theorem advance_eq_nextMultiple {due : ℕ} (h : 0 < period) (hdvd : period ∣ due) (hle : due ≤ t) :
    due + ((t - due) / period + 1) * period = nextMultiple period t := by
  obtain ⟨k, rfl⟩ := hdvd
  have hdiv : (t - period * k) / period = t / period - k := Nat.sub_mul_div t period k
  have hk : k ≤ t / period := by
    rw [Nat.le_div_iff_mul_le h, Nat.mul_comm]
    exact hle
  rw [hdiv, nextMultiple, Nat.mul_comm period k, ← Nat.add_mul]
  congr 1
  omega

/-! ## Deadlines from any start -/

/-- The deadlines after `t`, of those that follow `due` in whole periods. -/
def deadlinesAfter (due period t : ℕ) : Set ℕ :=
  {deadline | ∃ k, 1 ≤ k ∧ deadline = due + k * period ∧ t < deadline}

theorem lt_of_mem_deadlinesAfter {due deadline : ℕ} (h : deadline ∈ deadlinesAfter due period t) :
    t < deadline :=
  h.elim fun _ hk => hk.2.2

/-- A deadline that is reached, advanced by the whole periods since it and one more, is the
first one that is not. -/
theorem isLeast_deadlinesAfter {due : ℕ} (h : 0 < period) (hle : due ≤ t) :
    IsLeast (deadlinesAfter due period t) (due + ((t - due) / period + 1) * period) := by
  refine ⟨⟨_, Nat.le_add_left 1 _, rfl, ?_⟩, ?_⟩
  · have hlater : t - due < ((t - due) / period + 1) * period :=
      (Nat.lt_mul_div_succ _ h).trans_eq (Nat.mul_comm _ _)
    omega
  · rintro _ ⟨k, -, rfl, hafter⟩
    have hperiods : (t - due) / period < k := by
      rw [Nat.div_lt_iff_lt_mul h]
      omega
    exact Nat.add_le_add_left (Nat.mul_le_mul_right period hperiods) due

end Periodic
