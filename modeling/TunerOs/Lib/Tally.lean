-- SUMMARY: Dictionaries that count: the counts of a dictionary that tallies a list sum to the list's length.
import TunerOs.Lib.Dict
import Mathlib.Algebra.BigOperators.Group.Finset.Basic
import Mathlib.Algebra.GroupWithZero.Nat

/-!
# Tallies

A dictionary tallies a list of keys when every key of the list is present and the
count stored under a key is the number of its occurrences.
-/

namespace Containers

/-- `count` reads from each value of `d` how often its key occurs in `l`. -/
structure Dict.Tallies {κ ν : Type*} [DecidableEq κ] (d : Dict κ ν) (count : ν → ℕ)
    (l : List κ) : Prop where
  covers : ∀ k ∈ l, k ∈ d.keys
  counts : ∀ k v, d.get? k = some v → count v = l.count k

namespace Dict.Tallies

variable {κ ν : Type*} [DecidableEq κ] {d : Dict κ ν} {count : ν → ℕ} {l : List κ}

/-- Every occurrence is counted under exactly one key. -/
theorem sum_eq (h : d.Tallies count l) : (d.values.map count).sum = l.length := by
  have hvalues : d.values.map count = d.keys.map (fun k => l.count k) := by
    unfold Dict.values Dict.keys
    rw [List.map_map, List.map_map]
    refine List.map_congr_left ?_
    intro entry hmem
    exact h.counts entry.1 entry.2 (Dict.mem_entries_iff.1 hmem)
  have hcover : ∀ k ∈ (l : Multiset κ), k ∈ d.keys.toFinset := by
    intro k hk
    exact List.mem_toFinset.2 (h.covers k (Multiset.mem_coe.1 hk))
  calc (d.values.map count).sum = (d.keys.map (fun k => l.count k)).sum := by rw [hvalues]
    _ = ∑ k ∈ d.keys.toFinset, l.count k := (List.sum_toFinset _ d.keys_nodup).symm
    _ = ∑ k ∈ d.keys.toFinset, (l : Multiset κ).count k := by simp only [Multiset.coe_count]
    _ = l.length := by rw [Multiset.sum_count_eq_card hcover, Multiset.coe_card]

end Dict.Tallies

end Containers
