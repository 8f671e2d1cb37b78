-- SUMMARY: Consecutive blocks of numbers: positions in them are ordered block by block, and every number has one.
import Mathlib.Data.Nat.Find
import Mathlib.Order.Monotone.Basic

/-!
# Consecutive blocks

The natural numbers, cut into blocks of positive lengths. A number is the start of its
block and the offset in it, and numbers are ordered by their blocks first.
-/

/-- Blocks that follow each other from zero on. -/
structure Blocks where
  start : ℕ → ℕ
  length : ℕ → ℕ
  start_zero : start 0 = 0
  start_succ : ∀ n, start (n + 1) = start n + length n
  length_pos : ∀ n, 0 < length n

namespace Blocks

variable {blocks : Blocks} {m n r s : ℕ}

theorem start_strictMono : StrictMono blocks.start :=
  strictMono_nat_of_lt_succ fun n => by
    rw [blocks.start_succ]
    exact Nat.lt_add_of_pos_right (blocks.length_pos n)

/-- A position in a block is before every later block. -/
theorem position_lt_start (hr : r < blocks.length m) (h : m < n) :
    blocks.start m + r < blocks.start n :=
  calc blocks.start m + r < blocks.start m + blocks.length m := Nat.add_lt_add_left hr _
    _ = blocks.start (m + 1) := (blocks.start_succ m).symm
    _ ≤ blocks.start n := blocks.start_strictMono.monotone h

/-- Positions are ordered by their blocks, and in one block by their offsets. -/
theorem position_lt_iff (hr : r < blocks.length m) (hs : s < blocks.length n) :
    blocks.start m + r < blocks.start n + s ↔ m < n ∨ m = n ∧ r < s := by
  rcases Nat.lt_trichotomy m n with hlt | rfl | hgt
  · have hbefore := position_lt_start hr hlt
    exact ⟨fun _ => .inl hlt, fun _ => Nat.lt_add_right s hbefore⟩
  · simp only [Nat.add_lt_add_iff_left, Nat.lt_irrefl, true_and, false_or]
  · have hafter := position_lt_start hs hgt
    constructor
    · intro h
      omega
    · rintro (h | ⟨rfl, -⟩)
      · omega
      · omega

/-- The block a number is in, if it is at most the `bound`-th, and the offset in it. -/
def locate (blocks : Blocks) (bound p : ℕ) : ℕ × ℕ :=
  let block := Nat.findGreatest (fun n => blocks.start n ≤ p) bound
  (block, p - blocks.start block)

/-- A number is where it was located. -/
theorem locate_spec {bound p : ℕ} (h : p < blocks.start (bound + 1)) :
    blocks.start (blocks.locate bound p).1 + (blocks.locate bound p).2 = p ∧
      (blocks.locate bound p).2 < blocks.length (blocks.locate bound p).1 := by
  have hbelow : blocks.start (blocks.locate bound p).1 ≤ p :=
    Nat.findGreatest_spec (P := fun n => blocks.start n ≤ p) (Nat.zero_le bound)
      (blocks.start_zero.trans_le (Nat.zero_le p))
  have habove : p < blocks.start ((blocks.locate bound p).1 + 1) := by
    by_contra hreached
    have hlarger : (blocks.locate bound p).1 < (blocks.locate bound p).1 + 1 := Nat.lt_succ_self _
    by_cases hbound : (blocks.locate bound p).1 + 1 ≤ bound
    · exact Nat.findGreatest_is_greatest hlarger hbound (not_lt.1 hreached)
    · have hlast : (blocks.locate bound p).1 ≤ bound := Nat.findGreatest_le bound
      obtain heq : (blocks.locate bound p).1 = bound := by omega
      rw [heq] at hreached
      exact hreached h
  have hoffset : (blocks.locate bound p).2 = p - blocks.start (blocks.locate bound p).1 := rfl
  rw [blocks.start_succ] at habove
  omega

end Blocks
