-- SUMMARY: Paths of transitions: lists of labelled steps whose ends meet, how they compose, and what they say about first and last steps.
import Mathlib.Data.List.Chain

/-!
# Paths of transitions

A list of transitions is a path when each one starts where the one before it
ended. A log that is a path records every change of the state it describes.
-/

namespace Transition

variable {α σ : Type*}

/-- `steps` leads from `s` to `t`: every step starts where the previous one ended. -/
def Path (src dst : α → σ) : σ → List α → σ → Prop
  | s, [], t => s = t
  | s, step :: rest, t => src step = s ∧ Path src dst (dst step) rest t

variable {src dst : α → σ}

@[simp] theorem path_nil {s t : σ} : Path src dst s [] t ↔ s = t := Iff.rfl

@[simp] theorem path_cons {s t : σ} {step : α} {rest : List α} :
    Path src dst s (step :: rest) t ↔ src step = s ∧ Path src dst (dst step) rest t :=
  Iff.rfl

theorem Path.append {s t u : σ} {l m : List α} (hl : Path src dst s l t)
    (hm : Path src dst t m u) : Path src dst s (l ++ m) u := by
  induction l generalizing s with
  | nil =>
    cases hl
    exact hm
  | cons step rest ih => exact ⟨hl.1, ih hl.2⟩

/-- Relabelling the steps of a path. -/
theorem path_map {β : Type*} {f : β → α} {s t : σ} {l : List β} :
    Path src dst s (l.map f) t ↔ Path (src ∘ f) (dst ∘ f) s l t := by
  induction l generalizing s with
  | nil => exact Iff.rfl
  | cons step rest ih => simp only [List.map_cons, path_cons, ih, Function.comp_apply]

/-- Where a path ends is fixed by its last step. -/
theorem Path.getLast? {s t : σ} {l : List α} (h : Path src dst s l t) :
    t = (l.getLast?.map dst).getD s := by
  induction l generalizing s with
  | nil =>
    cases h
    rfl
  | cons step rest ih =>
    have hrest := ih h.2
    cases hlast : rest.getLast? with
    | none =>
      rw [List.getLast?_eq_none_iff] at hlast
      subst hlast
      simpa using hrest
    | some last => simpa [List.getLast?_cons, hlast] using hrest

theorem Path.head? {s t : σ} {l : List α} (h : Path src dst s l t) :
    ∀ first ∈ l.head?, src first = s := by
  intro first hfirst
  cases l with
  | nil => cases hfirst
  | cons step rest =>
    cases hfirst
    exact h.1

theorem Path.isChain {s t : σ} {l : List α} (h : Path src dst s l t) :
    l.IsChain (fun a b => src b = dst a) := by
  induction l generalizing s with
  | nil => exact List.isChain_nil
  | cons step rest ih =>
    cases rest with
    | nil => exact List.isChain_singleton _
    | cons next tail => exact List.isChain_cons_cons.2 ⟨h.2.1, ih h.2⟩

end Transition
