-- SUMMARY: Facts about lists: keys that do not repeat, the first and the last of a kind, blocks of one width, and greatest elements.
import Mathlib.Data.List.Forall2
import Mathlib.Data.List.Nodup
import Mathlib.Order.MinMax
import Mathlib.Tactic.Common

/-!
# Sequences

What several parts of a development use of lists, over any element type.
-/

namespace List

/-! ## Keys that do not repeat -/

section Keys

variable {α κ : Type*} {key : α → κ} {l : List α}

/-- An element with a new key can be appended. -/
theorem nodup_map_concat {a : α} (h : (l.map key).Nodup) (ha : key a ∉ l.map key) :
    ((l ++ [a]).map key).Nodup := by
  rw [map_append, nodup_append]
  refine ⟨h, nodup_singleton _, ?_⟩
  rintro x hx y hy rfl
  rw [mem_singleton.1 hy] at hx
  exact ha hx

/-- Where keys do not repeat, modifying at the index of a key is modifying that key's element. -/
theorem modify_findIdx_eq_map [DecidableEq κ] {k : κ} {f : α → α} {index : ℕ}
    (hnodup : (l.map key).Nodup) (hfind : l.findIdx? (fun a => key a = k) = some index) :
    l.modify index f = l.map (fun a => if key a = k then f a else a) := by
  induction l generalizing index with
  | nil => cases hfind
  | cons a rest ih =>
    rw [map_cons, nodup_cons] at hnodup
    rw [findIdx?_cons] at hfind
    rw [map_cons]
    split at hfind
    · rename_i hkey
      cases hfind
      have hkey : key a = k := of_decide_eq_true hkey
      have hrest : ∀ b ∈ rest, (if key b = k then f b else b) = b := by
        intro b hb
        refine if_neg (fun hsame => hnodup.1 ?_)
        exact mem_map.2 ⟨b, hb, hsame.trans hkey.symm⟩
      rw [modify_zero_cons, if_pos hkey, map_congr_left hrest, map_id']
    · rename_i hkey
      have hkey : ¬ key a = k := fun hsame => hkey (decide_eq_true hsame)
      obtain ⟨tail, htail, rfl⟩ := Option.map_eq_some_iff.1 hfind
      rw [modify_succ_cons, if_neg hkey, ih hnodup.2 htail]

end Keys

/-- A sublist of a list without repetitions consists of the elements that it contains. -/
theorem Sublist.eq_filter {α : Type*} {l m : List α} (h : l.Sublist m) (hnodup : m.Nodup)
    {p : α → Bool} (hp : ∀ a ∈ m, p a = true ↔ a ∈ l) : l = m.filter p := by
  induction h with
  | slnil => rfl
  | @cons l m a hsub ih =>
    obtain ⟨hnew, hrest⟩ := nodup_cons.1 hnodup
    have hnot : p a = false := by
      rw [Bool.eq_false_iff, Ne, hp a mem_cons_self]
      exact fun hmem => hnew (hsub.subset hmem)
    rw [filter_cons, hnot, if_neg Bool.false_ne_true]
    exact ih hrest fun b hb => hp b (mem_cons_of_mem _ hb)
  | @cons_cons l m a hsub ih =>
    obtain ⟨hnew, hrest⟩ := nodup_cons.1 hnodup
    rw [filter_cons, if_pos ((hp a mem_cons_self).2 mem_cons_self)]
    refine congrArg (a :: ·) (ih hrest fun b hb => ?_)
    rw [hp b (mem_cons_of_mem _ hb), mem_cons, or_iff_right]
    rintro rfl
    exact hnew hb

/-! ## Where a list splits -/

/-- A list with an element of a kind splits at the last one. -/
theorem exists_last_of_mem {α : Type*} {p : α → Prop} {l : List α} (h : ∃ a ∈ l, p a) :
    ∃ before a after, l = before ++ a :: after ∧ p a ∧ ∀ b ∈ after, ¬ p b := by
  induction l with
  | nil =>
    obtain ⟨_, hmem, -⟩ := h
    cases hmem
  | cons first rest ih =>
    by_cases hrest : ∃ a ∈ rest, p a
    · obtain ⟨before, a, after, rfl, ha, hafter⟩ := ih hrest
      exact ⟨first :: before, a, after, rfl, ha, hafter⟩
    · obtain ⟨a, hmem, ha⟩ := h
      rcases mem_cons.1 hmem with rfl | htail
      · exact ⟨[], a, rest, rfl, ha, fun b hb hpb => hrest ⟨b, hb, hpb⟩⟩
      · exact absurd ⟨a, htail, ha⟩ hrest

/-- The first occurrence of a separator splits a list in one way. -/
theorem append_separator_inj {α : Type*} {separator : α} {x y v w : List α} (hx : separator ∉ x)
    (hy : separator ∉ y) (h : x ++ separator :: v = y ++ separator :: w) : x = y ∧ v = w := by
  induction x generalizing y with
  | nil =>
    cases y with
    | nil => exact ⟨rfl, (List.cons.inj h).2⟩
    | cons b y => exact absurd (List.cons.inj h).1 (ne_of_not_mem_cons hy)
  | cons a x ih =>
    cases y with
    | nil => exact absurd (List.cons.inj h).1.symm (ne_of_not_mem_cons hx)
    | cons b y =>
      obtain ⟨rfl, htail⟩ := List.cons.inj h
      obtain ⟨rfl, rfl⟩ := ih (not_mem_of_not_mem_cons hx) (not_mem_of_not_mem_cons hy)
        htail
      exact ⟨rfl, rfl⟩

/-- Cutting a list of blocks of one width leaves whole blocks and a part of the next. -/
theorem take_flatten_blocks {α : Type*} {width : ℕ} (hwidth : 0 < width) (blocks : List (List α))
    (hblocks : ∀ block ∈ blocks, block.length = width) (n : ℕ)
    (hn : n ≤ blocks.flatten.length) :
    ∃ tail, blocks.flatten.take n = (blocks.take (n / width)).flatten ++ tail ∧
      tail.length = n % width := by
  induction blocks generalizing n with
  | nil =>
    have hzero : n = 0 := Nat.le_zero.1 hn
    subst hzero
    exact ⟨[], by rw [Nat.zero_div]; rfl, (Nat.zero_mod width).symm⟩
  | cons block rest ih =>
    have hblock := hblocks block mem_cons_self
    rcases Nat.lt_or_ge n width with hlt | hge
    · refine ⟨block.take n, ?_, ?_⟩
      · rw [Nat.div_eq_of_lt hlt, flatten_cons, take_append_of_le_length (by omega)]
        rfl
      · rw [length_take, hblock, Nat.mod_eq_of_lt hlt]
        exact min_eq_left hlt.le
    · obtain ⟨m, rfl⟩ := Nat.exists_eq_add_of_le hge
      rw [flatten_cons, length_append] at hn
      obtain ⟨tail, htail, hlength⟩ := ih (fun b hb => hblocks b (mem_cons_of_mem _ hb)) m
        (by omega)
      refine ⟨tail, ?_, ?_⟩
      · rw [flatten_cons, ← hblock, take_length_add_append, htail, hblock,
          Nat.add_div_left m hwidth, take_succ_cons, flatten_cons, append_assoc]
      · rw [hlength, Nat.add_mod_left]

/-! ## Elements of related lists -/

section Pairs

variable {α β : Type*} {R : α → β → Prop} {l : List α} {m : List β}

/-- Each element of lists that are related pair by pair has its partner. -/
theorem Forall₂.exists_right (h : Forall₂ R l m) {a : α} (ha : a ∈ l) :
    ∃ b ∈ m, R a b := by
  induction h with
  | nil => exact absurd ha not_mem_nil
  | @cons first partner rest others hfirst _ ih =>
    obtain rfl | hrest := mem_cons.1 ha
    · exact ⟨partner, mem_cons_self, hfirst⟩
    · obtain ⟨b, hb, hrelated⟩ := ih hrest
      exact ⟨b, mem_cons_of_mem _ hb, hrelated⟩

theorem Forall₂.exists_left (h : Forall₂ R l m) {b : β} (hb : b ∈ m) :
    ∃ a ∈ l, R a b :=
  h.flip.exists_right hb

end Pairs

/-- A bound is below the greatest of some elements when it is below one of them. -/
theorem lt_foldl_max_iff {α : Type*} [LinearOrder α] {l : List α} {first bound : α} :
    bound < l.foldl max first ↔ ∃ a ∈ first :: l, bound < a := by
  induction l generalizing first with
  | nil =>
    rw [foldl_nil]
    simp only [mem_singleton, exists_eq_left]
  | cons next rest ih =>
    rw [foldl_cons, ih, exists_mem_cons_iff, exists_mem_cons_iff, exists_mem_cons_iff, lt_max_iff,
      or_assoc]

end List
