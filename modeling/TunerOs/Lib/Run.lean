-- SUMMARY: Runs of labelled transition systems: invariants over runs, and the step of a run at which a property first holds.
import Mathlib.Data.List.Basic
import Mathlib.Logic.Basic

/-!
# Runs

A system is a partial step function on states and labels. A run is a list of
labels, each enabled in the state the ones before it left.
-/

namespace Transition

variable {σ ℓ : Type*} {step : σ → ℓ → Option σ}

/-- The state a list of labels leads to, if each of them is enabled in turn. -/
def run (step : σ → ℓ → Option σ) : σ → List ℓ → Option σ
  | s, [] => some s
  | s, label :: rest => (step s label).bind (fun t => run step t rest)

@[simp] theorem run_nil {s t : σ} : run step s [] = some t ↔ s = t := by
  simp [run]

@[simp] theorem run_cons {s u : σ} {label : ℓ} {rest : List ℓ} :
    run step s (label :: rest) = some u ↔
      ∃ t, step s label = some t ∧ run step t rest = some u := by
  simp [run, Option.bind_eq_some_iff]

theorem run_append {s u : σ} {l m : List ℓ} :
    run step s (l ++ m) = some u ↔ ∃ t, run step s l = some t ∧ run step t m = some u := by
  induction l generalizing s with
  | nil => simp
  | cons label rest ih =>
    simp only [List.cons_append, run_cons, ih]
    constructor
    · rintro ⟨v, hv, t, hrest, hm⟩
      exact ⟨t, ⟨v, hv, hrest⟩, hm⟩
    · rintro ⟨t, ⟨v, hv, hrest⟩, hm⟩
      exact ⟨v, hv, t, hrest, hm⟩

/-- What holds at the start and is kept by every step of a run holds at its end. The steps may
be restricted to those whose label is allowed where it fires. -/
theorem run_invariant {P : σ → Prop} {allowed : σ → ℓ → Prop}
    (hstep : ∀ s label t, P s → allowed s label → step s label = some t → P t)
    {s u : σ} {labels : List ℓ} (h : run step s labels = some u)
    (hallowed : ∀ before label after t, labels = before ++ label :: after →
      run step s before = some t → allowed t label)
    (hs : P s) : P u := by
  induction labels generalizing s with
  | nil =>
    rw [run_nil] at h
    exact h ▸ hs
  | cons label rest ih =>
    rw [run_cons] at h
    obtain ⟨t, hfirst, hrest⟩ := h
    refine ih hrest ?_ (hstep s label t hs (hallowed [] label rest s rfl rfl) hfirst)
    intro before next after v hsplit hbefore
    exact hallowed (label :: before) next after v (by rw [hsplit]; rfl)
      (run_cons.2 ⟨t, hfirst, hbefore⟩)

/-- What holds at the start and is kept by every step holds at the end of every run. -/
theorem run_invariant_all {P : σ → Prop}
    (hstep : ∀ s label t, P s → step s label = some t → P t)
    {s u : σ} {labels : List ℓ} (h : run step s labels = some u) (hs : P s) : P u :=
  run_invariant (fun s label t hP (_ : True) ht => hstep s label t hP ht) h
    (fun _ _ _ _ _ _ => trivial) hs

/-- A run without steps meets whatever is asked of its steps. -/
theorem allowed_nil {allowed : σ → ℓ → Prop} {s : σ} (before : List ℓ) (label : ℓ)
    (after : List ℓ) (u : σ) (hsplit : [] = before ++ label :: after)
    (_ : run step s before = some u) : allowed u label := by
  simp at hsplit

/-- What is asked of each step of a run is asked of the first one and of those after it. -/
theorem allowed_cons {allowed : σ → ℓ → Prop} {s t : σ} {first : ℓ} {rest : List ℓ}
    (hstep : step s first = some t) (hfirst : allowed s first)
    (hrest : ∀ before label after u, rest = before ++ label :: after →
      run step t before = some u → allowed u label)
    (before : List ℓ) (label : ℓ) (after : List ℓ) (u : σ)
    (hsplit : first :: rest = before ++ label :: after) (hbefore : run step s before = some u) :
    allowed u label := by
  cases before with
  | nil =>
    obtain ⟨rfl, -⟩ := List.cons.inj hsplit
    rw [run_nil] at hbefore
    exact hbefore ▸ hfirst
  | cons head before =>
    obtain ⟨rfl, htail⟩ := List.cons.inj hsplit
    obtain ⟨next, hnext, hlater⟩ := run_cons.1 hbefore
    rw [hstep] at hnext
    cases hnext
    exact hrest before label after u htail hlater

/-- A property that holds at the end of a run but not at its start became true at some step. -/
theorem exists_step_of_run {P : σ → Prop} {s u : σ} {labels : List ℓ}
    (h : run step s labels = some u) (hs : ¬ P s) (hu : P u) :
    ∃ before label after mid next, labels = before ++ label :: after ∧
      run step s before = some mid ∧ ¬ P mid ∧ step mid label = some next ∧ P next := by
  induction labels generalizing s with
  | nil =>
    rw [run_nil] at h
    exact absurd (h ▸ hu) hs
  | cons label rest ih =>
    rw [run_cons] at h
    obtain ⟨t, hfirst, hrest⟩ := h
    by_cases ht : P t
    · exact ⟨[], label, rest, s, t, rfl, rfl, hs, hfirst, ht⟩
    · obtain ⟨before, next, after, mid, last, hsplit, hbefore, hmid, hstep, hlast⟩ := ih hrest ht
      exact ⟨label :: before, next, after, mid, last, by rw [hsplit]; rfl,
        run_cons.2 ⟨t, hfirst, hbefore⟩, hmid, hstep, hlast⟩

end Transition
