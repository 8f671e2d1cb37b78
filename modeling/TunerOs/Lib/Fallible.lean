-- SUMMARY: Mapping a fallible function over a list: when it returns, and how its result relates to the list.
import Mathlib.Data.List.Forall2

/-!
# Fallible maps

`List.mapM` in `Except` stops at the first error.
-/

namespace Fallible

variable {α β ε : Type*} {f : α → Except ε β}

theorem bind_eq_ok.{u} {α β : Type u} {x : Except ε α} {f : α → Except ε β} {b : β} :
    x >>= f = .ok b ↔ ∃ a, x = .ok a ∧ f a = .ok b := by
  cases x <;> simp [bind, Except.bind]

/-- A computation whose value, if any, passes a test returns one that does. -/
theorem exists_ok_of_any {x : Except ε α} {p : α → Bool} (h : x.toOption.any p = true) :
    ∃ a, x = .ok a ∧ p a = true := by
  cases x with
  | error _ => cases h
  | ok a => exact ⟨a, rfl, h⟩

/-- A map that returns gives every element its result, in order. -/
theorem forall₂_of_mapM {l : List α} {results : List β} (h : l.mapM f = .ok results) :
    List.Forall₂ (fun a b => f a = .ok b) l results := by
  induction l generalizing results with
  | nil =>
    cases h
    exact .nil
  | cons a rest ih =>
    rw [List.mapM_cons] at h
    cases hfirst : f a with
    | error e => simp [hfirst, bind, Except.bind] at h
    | ok b =>
      cases hrest : rest.mapM f with
      | error e => simp [hfirst, hrest, bind, Except.bind] at h
      | ok others =>
        simp only [hfirst, hrest, bind, Except.bind, pure, Except.pure, Except.ok.injEq] at h
        exact h ▸ .cons hfirst (ih hrest)

/-- A map returns only if the function does on every element. -/
theorem exists_of_mapM {l : List α} {results : List β} (h : l.mapM f = .ok results) {a : α}
    (hmem : a ∈ l) : ∃ b, f a = .ok b := by
  have hrelated := forall₂_of_mapM h
  clear h
  induction hrelated with
  | nil => cases hmem
  | cons hfirst _ ih =>
    rcases List.mem_cons.1 hmem with rfl | htail
    · exact ⟨_, hfirst⟩
    · exact ih htail

theorem exists_mapM {l : List α} (h : ∀ a ∈ l, ∃ b, f a = .ok b) :
    ∃ results, l.mapM f = .ok results := by
  induction l with
  | nil => exact ⟨[], rfl⟩
  | cons a rest ih =>
    obtain ⟨b, hb⟩ := h a List.mem_cons_self
    obtain ⟨others, hothers⟩ := ih (fun other hmem => h other (List.mem_cons_of_mem _ hmem))
    refine ⟨b :: others, ?_⟩
    rw [List.mapM_cons, hb, hothers]
    rfl

/-- A map of a function that returns on every element is a map of its results. -/
theorem mapM_eq_map {l : List α} {g : α → β} (h : ∀ a ∈ l, f a = .ok (g a)) :
    l.mapM f = .ok (l.map g) := by
  induction l with
  | nil => rfl
  | cons a rest ih =>
    rw [List.mapM_cons, h a List.mem_cons_self,
      ih fun other hmem => h other (List.mem_cons_of_mem _ hmem)]
    rfl

/-- The results of a map that returns are the results of the list's elements. -/
theorem mem_of_mapM {l : List α} {results : List β} (h : l.mapM f = .ok results) {b : β} :
    b ∈ results ↔ ∃ a ∈ l, f a = .ok b := by
  have hrelated := forall₂_of_mapM h
  clear h
  induction hrelated with
  | nil => simp
  | @cons a first rest others hfirst _ ih =>
    have hhead : b = first ↔ f a = .ok b := by
      rw [hfirst, Except.ok.injEq, eq_comm]
    simp only [List.mem_cons, ih, or_and_right, exists_or, exists_eq_left, hhead]

end Fallible
