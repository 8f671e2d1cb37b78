-- SUMMARY: Thinning a stream: an element far enough after the newest kept one is added, a nearer one takes its place.
import TunerOs.Lib.BoundedDeque
import Mathlib.Data.List.Chain
import Mathlib.Data.List.Dedup
import Mathlib.Order.Lattice

/-!
# Thinned streams

`thin` keeps a bounded list of elements. What it keeps of a stream in order is decided
by the steps between consecutive elements of the stream alone: each step of at least
the interval adds one.
-/

namespace Containers

variable {α β : Type*}

/-! ## Counting steps -/

/-- How many consecutive pairs are related. -/
def countSteps (r : α → α → Prop) [DecidableRel r] : List α → ℕ
  | a :: b :: rest => (if r a b then 1 else 0) + countSteps r (b :: rest)
  | _ => 0

section Steps

variable {r s : α → α → Prop} [DecidableRel r] [DecidableRel s] {l : List α} {a b : α}

theorem countSteps_concat (h : l.getLast? = some a) :
    countSteps r (l ++ [b]) = countSteps r l + if r a b then 1 else 0 := by
  induction l with
  | nil => cases h
  | cons first rest ih =>
    cases rest with
    | nil =>
      cases h
      exact Nat.add_comm _ _
    | cons second rest =>
      have hrest := ih h
      simp only [List.cons_append, countSteps] at hrest ⊢
      rw [hrest, Nat.add_assoc]

/-- Steps of a stronger relation are no more. -/
theorem countSteps_le (h : l.IsChain (fun a b => r a b → s a b)) :
    countSteps r l ≤ countSteps s l := by
  induction l with
  | nil => exact le_rfl
  | cons first rest ih =>
    cases rest with
    | nil => exact le_rfl
    | cons second rest =>
      obtain ⟨hfirst, hrest⟩ := List.isChain_cons_cons.1 h
      have hle := ih hrest
      by_cases hr : r first second
      · simp only [countSteps, if_pos hr, if_pos (hfirst hr)]
        exact Nat.add_le_add_left hle 1
      · simp only [countSteps, if_neg hr]
        omega

/-- They are as many exactly if every step of the weaker relation is one of the stronger. -/
theorem le_countSteps_iff (h : l.IsChain (fun a b => r a b → s a b)) :
    countSteps s l ≤ countSteps r l ↔ l.IsChain (fun a b => s a b → r a b) := by
  induction l with
  | nil => exact ⟨fun _ => .nil, fun _ => le_rfl⟩
  | cons first rest ih =>
    cases rest with
    | nil => exact ⟨fun _ => .singleton _, fun _ => le_rfl⟩
    | cons second rest =>
      obtain ⟨hfirst, hrest⟩ := List.isChain_cons_cons.1 h
      have hle := countSteps_le hrest
      rw [List.isChain_cons_cons, ← ih hrest]
      by_cases hr : r first second
      · simp only [countSteps, if_pos hr, if_pos (hfirst hr)]
        exact ⟨fun hsteps => ⟨fun _ => hr, by omega⟩, fun hsteps => by omega⟩
      · by_cases hs : s first second
        · simp only [countSteps, if_neg hr, if_pos hs]
          exact ⟨fun hsteps => by omega, fun hsteps => absurd (hsteps.1 hs) hr⟩
        · simp only [countSteps, if_neg hr, if_neg hs]
          exact ⟨fun hsteps => ⟨fun hs' => absurd hs' hs, by omega⟩, fun hsteps => by omega⟩

/-- A stream on which `f` does not decrease takes one value more than it changes. -/
theorem length_dedup_map [LinearOrder β] {f : α → β} (h : l.IsChain (fun a b => f a ≤ f b))
    (hne : l ≠ []) :
    (l.map f).dedup.length = countSteps (fun a b => f a ≠ f b) l + 1 := by
  induction l with
  | nil => exact absurd rfl hne
  | cons first rest ih =>
    cases rest with
    | nil => simp [countSteps]
    | cons second rest =>
      obtain ⟨hfirst, hrest⟩ := List.isChain_cons_cons.1 h
      have hlater := ih hrest (List.cons_ne_nil _ _)
      by_cases heq : f first = f second
      · have hmem : f first ∈ (second :: rest).map f :=
          heq ▸ List.mem_map_of_mem List.mem_cons_self
        rw [List.map_cons, List.dedup_cons_of_mem hmem, hlater, countSteps,
          if_neg (not_not.2 heq), Nat.zero_add]
      · have hmono : ((second :: rest).map f).Pairwise (· ≤ ·) :=
          List.isChain_iff_pairwise.1 ((List.isChain_map f).2 hrest)
        have hbelow : ∀ value ∈ (second :: rest).map f, f second ≤ value := by
          intro value hmem
          rcases List.mem_cons.1 hmem with rfl | htail
          · exact le_rfl
          · exact List.rel_of_pairwise_cons hmono htail
        have hmem : f first ∉ (second :: rest).map f := fun hmem =>
          heq (le_antisymm hfirst (hbelow _ hmem))
        rw [List.map_cons, List.dedup_cons_of_notMem hmem, List.length_cons, hlater, countSteps,
          if_pos heq]
        omega

end Steps

/-! ## Thinning -/

/-- `a` is added if it is at least the interval after the newest element, and replaces that
otherwise. -/
def thin (time : α → ℕ) (interval capacity : ℕ) (kept : List α) (a : α) : List α :=
  match kept.getLast? with
  | none => [a]
  | some newest =>
    (if time newest + interval ≤ time a then kept ++ [a] else kept.dropLast ++ [a]).rtake capacity

/-- What is kept of a stream. -/
structure Thinned (time : α → ℕ) (interval capacity : ℕ) (stream kept : List α) : Prop where
  last : kept.getLast? = stream.getLast?
  increasing : kept.Pairwise (fun a b => time a < time b)
  length : kept.length =
    min capacity (countSteps (fun a b => time a + interval ≤ time b) stream + 1)

variable {time : α → ℕ} {interval capacity : ℕ} {stream kept : List α} {a newest : α}

theorem Thinned.thin (h : Thinned time interval capacity stream kept) (hcapacity : 0 < capacity)
    (hinterval : 0 < interval) (hlast : stream.getLast? = some newest)
    (hle : time newest ≤ time a) :
    Thinned time interval capacity (stream ++ [a]) (thin time interval capacity kept a) := by
  have hnewest : kept.getLast? = some newest := h.last.trans hlast
  obtain ⟨before, rfl⟩ := List.getLast?_eq_some_iff.1 hnewest
  obtain ⟨hbefore, -, hbelow⟩ := List.pairwise_append.1 h.increasing
  have hlength := h.length
  rw [List.length_append, List.length_singleton] at hlength
  unfold Containers.thin
  rw [hnewest]
  simp only []
  split
  · next hwide =>
    refine ⟨?_, ?_, ?_⟩
    · rw [getLast?_rtake hcapacity, List.getLast?_concat, List.getLast?_concat]
    · refine List.Pairwise.sublist (rtake_sublist _ _) (List.pairwise_append.2
        ⟨h.increasing, List.pairwise_singleton _ _, fun x hx y hy => ?_⟩)
      rw [List.mem_singleton.1 hy]
      rcases List.mem_append.1 hx with hx | hx
      · have hlt := hbelow x hx newest List.mem_cons_self
        omega
      · rw [List.mem_singleton.1 hx]
        omega
    · rw [length_rtake, List.length_append, List.length_append, List.length_singleton,
        List.length_singleton, countSteps_concat hlast, if_pos hwide]
      omega
  · next hnear =>
    rw [List.dropLast_concat]
    refine ⟨?_, ?_, ?_⟩
    · rw [getLast?_rtake hcapacity, List.getLast?_concat, List.getLast?_concat]
    · refine List.Pairwise.sublist (rtake_sublist _ _) (List.pairwise_append.2
        ⟨hbefore, List.pairwise_singleton _ _, fun x hx y hy => ?_⟩)
      rw [List.mem_singleton.1 hy]
      exact (hbelow x hx newest List.mem_cons_self).trans_le hle
    · rw [length_rtake, List.length_append, List.length_singleton, countSteps_concat hlast,
        if_neg hnear]
      omega

/-- What thinning keeps of a stream in order. -/
theorem thinned_foldl (hcapacity : 0 < capacity) (hinterval : 0 < interval)
    (hsorted : stream.IsChain (fun a b => time a ≤ time b)) (hne : stream ≠ []) :
    Thinned time interval capacity stream (stream.foldl (thin time interval capacity) []) := by
  induction stream using List.reverseRecOn with
  | nil => exact absurd rfl hne
  | append_singleton stream a ih =>
    rw [List.foldl_append, List.foldl_cons, List.foldl_nil]
    cases hlast : stream.getLast? with
    | none =>
      rw [List.getLast?_eq_none_iff] at hlast
      subst hlast
      refine ⟨rfl, List.pairwise_singleton _ _, ?_⟩
      exact (Nat.min_eq_right hcapacity).symm
    | some newest =>
      have hstream : stream ≠ [] := fun hnil => by
        rw [hnil] at hlast
        cases hlast
      have hle := (List.isChain_append.1 hsorted).2.2 newest hlast a rfl
      exact (ih hsorted.left_of_append hstream).thin hcapacity hinterval hlast hle

end Containers
