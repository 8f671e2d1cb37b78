-- SUMMARY: Double-ended queues with a maximum length: an append drops the oldest items, so a run of appends keeps the newest.
import Mathlib.Data.List.DropRight

/-!
# Bounded deques

A deque with a maximum length keeps its newest items. The list of all items
ever appended is its abstract state; the deque holds the tail of that list.
-/

namespace Containers

/-- A deque with a maximum length; the oldest item comes first. -/
structure BoundedDeque (α : Type*) where
  maxlen : ℕ
  items : List α
  length_le : items.length ≤ maxlen
deriving DecidableEq

theorem length_rtake {α : Type*} (l : List α) (n : ℕ) : (l.rtake n).length = min n l.length := by
  rw [List.rtake, List.length_drop]
  omega

/-- Keeping the newest `n` items after each append is keeping the newest `n` of all. -/
theorem rtake_rtake_append {α : Type*} (l m : List α) (n : ℕ) :
    ((l.rtake n) ++ m).rtake n = (l ++ m).rtake n := by
  simp only [List.rtake, List.length_append, List.length_drop, List.drop_append, List.drop_drop]
  congr 1
  · congr 1
    omega
  · congr 1
    omega

theorem rtake_sublist {α : Type*} (l : List α) (n : ℕ) : List.Sublist (l.rtake n) l :=
  List.drop_sublist _ _

/-- The newest of all items is the newest of those kept. -/
theorem getLast?_rtake {α : Type*} {n : ℕ} (h : 0 < n) (l : List α) :
    (l.rtake n).getLast? = l.getLast? := by
  cases l with
  | nil => simp
  | cons a rest =>
    rw [List.rtake, List.getLast?_drop, if_neg]
    simp only [List.length_cons, not_le]
    omega

namespace BoundedDeque

variable {α : Type*}

def empty (maxlen : ℕ) : BoundedDeque α := ⟨maxlen, [], Nat.zero_le _⟩

/-- Append at the right; an overfull deque drops from the left. -/
def append (d : BoundedDeque α) (a : α) : BoundedDeque α :=
  ⟨d.maxlen, (d.items ++ [a]).rtake d.maxlen, by
    rw [length_rtake]
    exact min_le_left _ _⟩

@[simp] theorem items_empty (maxlen : ℕ) : (empty maxlen : BoundedDeque α).items = [] := rfl

@[simp] theorem maxlen_empty (maxlen : ℕ) : (empty maxlen : BoundedDeque α).maxlen = maxlen := rfl

@[simp] theorem maxlen_append (d : BoundedDeque α) (a : α) : (d.append a).maxlen = d.maxlen := rfl

@[simp] theorem items_append (d : BoundedDeque α) (a : α) :
    (d.append a).items = (d.items ++ [a]).rtake d.maxlen := rfl

/-- The deque holds the newest items of the sequence `all` of everything appended. -/
def Holds (d : BoundedDeque α) (all : List α) : Prop := d.items = all.rtake d.maxlen

theorem holds_empty (maxlen : ℕ) : (empty maxlen : BoundedDeque α).Holds [] := by
  simp [Holds]

theorem Holds.append {d : BoundedDeque α} {all : List α} (h : d.Holds all) (a : α) :
    (d.append a).Holds (all ++ [a]) := by
  simp only [Holds, items_append, maxlen_append]
  rw [h, rtake_rtake_append]

theorem Holds.length {d : BoundedDeque α} {all : List α} (h : d.Holds all) :
    d.items.length = min d.maxlen all.length := by
  rw [h, length_rtake]

end BoundedDeque

end Containers
