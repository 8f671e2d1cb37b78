-- SUMMARY: Timers that measure how long a condition has held without a break, and the history each such timer stands for.
import Mathlib.Order.Bounds.Basic

/-!
# Persistence of a condition

Steps are numbered; some carry a timestamp. A condition has held since `s` when it
held at every step from one stamped `s` on. A timer that starts at the first
stamped step of such a stretch, and is dropped when the condition breaks, tracks
the earliest of these times, so comparing it with a duration decides whether the
condition has persisted that long.
-/

namespace Persistence

variable {stamp : ℕ → Option ℕ} {holds : ℕ → Prop}

/-- The condition has held at every step before `n` from one stamped `s` on. -/
def HeldSince (stamp : ℕ → Option ℕ) (holds : ℕ → Prop) (n s : ℕ) : Prop :=
  ∃ j, j < n ∧ stamp j = some s ∧ ∀ k, j ≤ k → k < n → holds k

/-- The timer is the earliest time the condition has held since, or is not running. -/
def Tracks (stamp : ℕ → Option ℕ) (holds : ℕ → Prop) (n : ℕ) (timer : Option ℕ) : Prop :=
  match timer with
  | none => ∀ s, ¬ HeldSince stamp holds n s
  | some started => IsLeast {s | HeldSince stamp holds n s} started

theorem HeldSince.pred {n s : ℕ} (h : HeldSince stamp holds (n + 1) s) :
    holds n ∧ (HeldSince stamp holds n s ∨ stamp n = some s) := by
  obtain ⟨j, hj, hstamp, hheld⟩ := h
  refine ⟨hheld n (by omega) (by omega), ?_⟩
  rcases Nat.lt_or_ge j n with hlt | hge
  · exact Or.inl ⟨j, hlt, hstamp, fun k hk hkn => hheld k hk (by omega)⟩
  · have hjn : j = n := by omega
    exact Or.inr (hjn ▸ hstamp)

theorem HeldSince.succ {n s : ℕ} (h : HeldSince stamp holds n s) (hn : holds n) :
    HeldSince stamp holds (n + 1) s := by
  obtain ⟨j, hj, hstamp, hheld⟩ := h
  refine ⟨j, by omega, hstamp, ?_⟩
  intro k hjk hk
  rcases Nat.lt_or_ge k n with hlt | hge
  · exact hheld k hjk hlt
  · have hkn : k = n := by omega
    exact hkn ▸ hn

theorem HeldSince.start {n s : ℕ} (hstamp : stamp n = some s) (hn : holds n) :
    HeldSince stamp holds (n + 1) s := by
  refine ⟨n, Nat.lt_succ_self n, hstamp, ?_⟩
  intro k hnk hk
  have hkn : k = n := by omega
  exact hkn ▸ hn

theorem heldSince_succ {n s : ℕ} :
    HeldSince stamp holds (n + 1) s ↔
      holds n ∧ (HeldSince stamp holds n s ∨ stamp n = some s) := by
  constructor
  · exact HeldSince.pred
  · rintro ⟨hn, hheld | hstamp⟩
    · exact hheld.succ hn
    · exact HeldSince.start hstamp hn

/-! ## What one step does to a timer -/

theorem tracks_zero : Tracks stamp holds 0 none := by
  rintro s ⟨j, hj, -⟩
  omega

/-- A step at which the condition fails stops the timer. -/
theorem tracks_break {n : ℕ} (hn : ¬ holds n) : Tracks stamp holds (n + 1) none := by
  intro s hs
  exact hn hs.pred.1

/-- A step without a timestamp leaves the timer alone while the condition holds. -/
theorem Tracks.skip {n : ℕ} {timer : Option ℕ} (h : Tracks stamp holds n timer)
    (hstamp : stamp n = none) (hn : holds n) : Tracks stamp holds (n + 1) timer := by
  have hsame : ∀ s, HeldSince stamp holds (n + 1) s ↔ HeldSince stamp holds n s := by
    intro s
    rw [heldSince_succ]
    simp [hstamp, hn]
  cases timer with
  | none =>
    intro s hs
    exact h s ((hsame s).1 hs)
  | some started =>
    simp only [Tracks, hsame] at h ⊢
    exact h

/-- A stamped step starts the timer, or leaves it running, while the condition holds. -/
theorem Tracks.hold {n t : ℕ} {timer : Option ℕ} (h : Tracks stamp holds n timer)
    (hstamp : stamp n = some t) (hn : holds n)
    (hmono : ∀ j s, j < n → stamp j = some s → s ≤ t) :
    Tracks stamp holds (n + 1) (some (timer.getD t)) := by
  cases timer with
  | none =>
    refine ⟨HeldSince.start hstamp hn, ?_⟩
    rintro s hs
    rcases hs.pred.2 with hheld | hnow
    · exact absurd hheld (h s)
    · rw [hstamp] at hnow
      cases hnow
      exact le_rfl
  | some started =>
    refine ⟨h.1.succ hn, ?_⟩
    rintro s hs
    rcases hs.pred.2 with hheld | hnow
    · exact h.2 hheld
    · -- a stretch that starts now starts no earlier than the timer did
      rw [hstamp] at hnow
      cases hnow
      obtain ⟨j, hj, hj_stamp, -⟩ := h.1
      exact hmono j started hj hj_stamp

/-- A running timer has run for a duration exactly when the condition has persisted for it. -/
theorem Tracks.due_iff {n started duration t : ℕ} (h : Tracks stamp holds n (some started)) :
    started + duration ≤ t ↔ ∃ s, HeldSince stamp holds n s ∧ s + duration ≤ t := by
  constructor
  · intro hdue
    exact ⟨started, h.1, hdue⟩
  · rintro ⟨s, hs, hdue⟩
    have hle : started ≤ s := h.2 hs
    omega

/-- A condition that fails at the last step has not persisted at all. -/
theorem not_heldSince_of_not {n : ℕ} (hn : ¬ holds n) :
    ¬ ∃ s, HeldSince stamp holds (n + 1) s := by
  rintro ⟨s, hs⟩
  exact hn hs.pred.1

end Persistence
