-- SUMMARY: Numerals of a fixed width: their digits, and that they are ordered as the numbers are.
import Mathlib.Algebra.Order.Ring.Nat
import Mathlib.Data.List.Basic
import Mathlib.Tactic.Tauto

/-!
# Fixed-width numerals

Numerals that are padded to one width compare digit by digit as their numbers do, and
two texts that begin with such numerals compare by them first.
-/

namespace FixedWidth

/-- Lists with beginnings of one length are compared by these first. -/
theorem append_lt_append_iff {α : Type*} [LT α] {x y u v : List α} (h : x.length = y.length) :
    x ++ u < y ++ v ↔ x < y ∨ x = y ∧ u < v := by
  induction x generalizing y with
  | nil =>
    obtain rfl := List.eq_nil_of_length_eq_zero h.symm
    have hnil : ¬ ([] : List α) < [] := List.not_lt_nil []
    simp only [List.nil_append, hnil, true_and, false_or]
  | cons a x ih =>
    cases y with
    | nil => cases h
    | cons b y =>
      simp only [List.cons_append, List.cons_lt_cons_iff, ih (Nat.succ.inj h),
        List.cons.injEq]
      tauto

/-- The last `width` decimal digits of a number. -/
def digits : ℕ → ℕ → List Char
  | 0, _ => []
  | width + 1, n => digits width (n / 10) ++ [Nat.digitChar (n % 10)]

theorem digitChar_lt_iff {d e : ℕ} (hd : d < 10) (he : e < 10) :
    Nat.digitChar d < Nat.digitChar e ↔ d < e := by
  have hall : ∀ d < 10, ∀ e < 10, (Nat.digitChar d < Nat.digitChar e ↔ d < e) := by decide
  exact hall d hd e he

theorem digitChar_inj {d e : ℕ} (hd : d < 10) (he : e < 10) :
    Nat.digitChar d = Nat.digitChar e ↔ d = e := by
  have hall : ∀ d < 10, ∀ e < 10, (Nat.digitChar d = Nat.digitChar e ↔ d = e) := by decide
  exact hall d hd e he

section Digits

variable {width m n : ℕ}

@[simp] theorem length_digits : (digits width n).length = width := by
  induction width generalizing n with
  | zero => rfl
  | succ width ih => rw [digits, List.length_append, ih, List.length_singleton]

theorem div_ten_lt (h : n < 10 ^ (width + 1)) : n / 10 < 10 ^ width :=
  Nat.div_lt_of_lt_mul (by rwa [Nat.pow_succ'] at h)

/-- Numerals of numbers that fit the width are different for different numbers. -/
theorem digits_inj (hm : m < 10 ^ width) (hn : n < 10 ^ width) :
    digits width m = digits width n ↔ m = n := by
  refine ⟨fun h => ?_, congrArg _⟩
  induction width generalizing m n with
  | zero => rw [Nat.pow_zero] at hm hn; omega
  | succ width ih =>
    obtain ⟨hinit, hlast⟩ := List.append_inj h (by simp only [length_digits])
    have htens := ih (div_ten_lt hm) (div_ten_lt hn) hinit
    have hunits : m % 10 = n % 10 := (digitChar_inj (Nat.mod_lt m (show 0 < 10 by decide))
      (Nat.mod_lt n (show 0 < 10 by decide))).1 (List.cons.inj hlast).1
    omega

/-- Numerals of numbers that fit the width are ordered as the numbers. -/
theorem digits_lt_iff (hm : m < 10 ^ width) (hn : n < 10 ^ width) :
    digits width m < digits width n ↔ m < n := by
  induction width generalizing m n with
  | zero =>
    rw [Nat.pow_zero] at hm hn
    exact ⟨fun h => absurd h (List.not_lt_nil _), fun h => by omega⟩
  | succ width ih =>
    have htens := ih (div_ten_lt hm) (div_ten_lt hn)
    have hsame := digits_inj (div_ten_lt hm) (div_ten_lt hn)
    have hunits := digitChar_lt_iff (Nat.mod_lt m (show 0 < 10 by decide))
      (Nat.mod_lt n (show 0 < 10 by decide))
    have hnil : ¬ ([] : List Char) < [] := List.not_lt_nil []
    rw [digits, digits, append_lt_append_iff (by simp only [length_digits]), htens, hsame,
      List.cons_lt_cons_iff, hunits]
    simp only [hnil, and_false, or_false]
    omega

/-- Two texts that begin with numerals are compared by their numbers first. -/
theorem digits_append_lt_iff (hm : m < 10 ^ width) (hn : n < 10 ^ width) {u v : List Char} :
    digits width m ++ u < digits width n ++ v ↔ m < n ∨ m = n ∧ u < v := by
  rw [append_lt_append_iff (by simp only [length_digits]), digits_lt_iff hm hn, digits_inj hm hn]

theorem digits_zero : digits width 0 = List.replicate width '0' := by
  induction width with
  | zero => rfl
  | succ width ih =>
    rw [digits, Nat.zero_div, ih, List.replicate_succ']
    rfl

/-- A decimal that fits the width, filled up with zeros from the left. -/
theorem replicate_append_toDigits (hpos : 0 < width) (h : n < 10 ^ width) :
    List.replicate (width - (Nat.toDigits 10 n).length) '0' ++ Nat.toDigits 10 n =
      digits width n := by
  induction width generalizing n with
  | zero => cases hpos
  | succ width ih =>
    by_cases hsmall : n < 10
    · have hquotient : n / 10 = 0 := Nat.div_eq_of_lt hsmall
      rw [Nat.toDigits_of_lt_base hsmall, digits, hquotient, digits_zero,
        Nat.mod_eq_of_lt hsmall]
      rfl
    · have hwidth : 0 < width := by
        rcases Nat.eq_zero_or_pos width with rfl | hpositive
        · omega
        · exact hpositive
      rw [Nat.toDigits_of_base_le (by decide) (Nat.le_of_not_lt hsmall), List.length_append,
        List.length_singleton, Nat.add_sub_add_right, ← List.append_assoc,
        ih hwidth (div_ten_lt h), digits]

end Digits

end FixedWidth
