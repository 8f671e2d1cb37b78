-- SUMMARY: Insertion-ordered dictionaries: lookup, in-place update, mapping over values, and the laws relating them.
import Mathlib.Data.List.Nodup

/-!
# Insertion-ordered dictionaries

A dictionary is a list of entries with pairwise different keys. Writing a key
that is present replaces its value in place; writing a new key appends an entry.
The order of the entries is therefore the order of first writes.
-/

namespace Containers

/-- Replace the value of `k`, or append an entry when `k` is absent. -/
def writeEntry {κ ν : Type*} [DecidableEq κ] (k : κ) (v : ν) : List (κ × ν) → List (κ × ν)
  | [] => [(k, v)]
  | entry :: rest => if entry.1 = k then (k, v) :: rest else entry :: writeEntry k v rest

/-- The value of the first entry with key `k`. -/
def readEntry {κ ν : Type*} [DecidableEq κ] (k : κ) : List (κ × ν) → Option ν
  | [] => none
  | entry :: rest => if entry.1 = k then some entry.2 else readEntry k rest

section Entries

variable {κ ν : Type*} [DecidableEq κ]

theorem keys_writeEntry_of_mem {k : κ} {v : ν} {entries : List (κ × ν)}
    (h : k ∈ entries.map Prod.fst) :
    (writeEntry k v entries).map Prod.fst = entries.map Prod.fst := by
  induction entries with
  | nil => simp at h
  | cons entry rest ih =>
    simp only [writeEntry]
    split
    · rename_i heq
      simp [heq]
    · rename_i hne
      have hrest : k ∈ rest.map Prod.fst := by
        simpa [Ne.symm hne] using h
      simp [ih hrest]

theorem keys_writeEntry_of_not_mem {k : κ} {v : ν} {entries : List (κ × ν)}
    (h : k ∉ entries.map Prod.fst) :
    writeEntry k v entries = entries ++ [(k, v)] := by
  induction entries with
  | nil => rfl
  | cons entry rest ih =>
    simp only [List.map_cons, List.mem_cons, not_or] at h
    simp only [writeEntry, if_neg (Ne.symm h.1), ih h.2, List.cons_append]

theorem nodup_writeEntry {k : κ} {v : ν} {entries : List (κ × ν)}
    (h : (entries.map Prod.fst).Nodup) : ((writeEntry k v entries).map Prod.fst).Nodup := by
  by_cases hk : k ∈ entries.map Prod.fst
  · rwa [keys_writeEntry_of_mem hk]
  · rw [keys_writeEntry_of_not_mem hk, List.map_append]
    exact List.nodup_append.2 ⟨h, by simp, by
      intro a ha b hb hab
      simp only [List.map_cons, List.map_nil, List.mem_singleton] at hb
      exact hk (hb ▸ hab ▸ ha)⟩

theorem readEntry_writeEntry_self {k : κ} {v : ν} {entries : List (κ × ν)} :
    readEntry k (writeEntry k v entries) = some v := by
  induction entries with
  | nil => simp [writeEntry, readEntry]
  | cons entry rest ih =>
    simp only [writeEntry]
    split
    · simp [readEntry]
    · rename_i hne
      simp [readEntry, hne, ih]

theorem readEntry_writeEntry_of_ne {k k' : κ} {v : ν} {entries : List (κ × ν)} (h : k' ≠ k) :
    readEntry k' (writeEntry k v entries) = readEntry k' entries := by
  induction entries with
  | nil => simp [writeEntry, readEntry, Ne.symm h]
  | cons entry rest ih =>
    simp only [writeEntry]
    split
    · rename_i heq
      simp [readEntry, heq, Ne.symm h]
    · simp [readEntry, ih]

/-- An entry is in a list without repeated keys exactly when its key reads as its value. -/
theorem mem_iff_readEntry {k : κ} {v : ν} {entries : List (κ × ν)}
    (hnodup : (entries.map Prod.fst).Nodup) :
    (k, v) ∈ entries ↔ readEntry k entries = some v := by
  induction entries with
  | nil => simp [readEntry]
  | cons entry rest ih =>
    obtain ⟨k', v'⟩ := entry
    simp only [List.map_cons, List.nodup_cons] at hnodup
    simp only [List.mem_cons, Prod.mk.injEq, readEntry]
    by_cases hk : k' = k
    · subst hk
      have hnot : (k', v) ∉ rest := fun hmem => hnodup.1 (List.mem_map_of_mem hmem)
      simp [hnot, eq_comm]
    · simp [hk, Ne.symm hk, ih hnodup.2]

end Entries

/-- A finite map that remembers the order in which its keys were first written. -/
structure Dict (κ ν : Type*) where
  entries : List (κ × ν)
  keys_nodup : (entries.map Prod.fst).Nodup
deriving DecidableEq

/-- Apply a fallible function to every value, in order; the first error is the result. -/
def traverseEntries {κ ν μ ε : Type*} (f : κ → ν → Except ε μ) :
    List (κ × ν) → Except ε (List (κ × μ))
  | [] => .ok []
  | entry :: rest =>
    match f entry.1 entry.2, traverseEntries f rest with
    | .error e, _ => .error e
    | .ok _, .error e => .error e
    | .ok value, .ok values => .ok ((entry.1, value) :: values)

theorem keys_traverseEntries {κ ν μ ε : Type*} {f : κ → ν → Except ε μ}
    {entries : List (κ × ν)} {result : List (κ × μ)} (h : traverseEntries f entries = .ok result) :
    result.map Prod.fst = entries.map Prod.fst := by
  induction entries generalizing result with
  | nil =>
    cases h
    rfl
  | cons entry rest ih =>
    simp only [traverseEntries] at h
    split at h
    · cases h
    · cases h
    · rename_i hrest
      cases h
      simp [ih hrest]

theorem exists_traverseEntries {κ ν μ ε : Type*} {f : κ → ν → Except ε μ}
    {entries : List (κ × ν)} (h : ∀ entry ∈ entries, ∃ value, f entry.1 entry.2 = .ok value) :
    ∃ result, traverseEntries f entries = .ok result := by
  induction entries with
  | nil => exact ⟨[], rfl⟩
  | cons entry rest ih =>
    obtain ⟨value, hvalue⟩ := h entry List.mem_cons_self
    obtain ⟨values, hvalues⟩ := ih (fun other hmem => h other (List.mem_cons_of_mem _ hmem))
    exact ⟨(entry.1, value) :: values, by simp [traverseEntries, hvalue, hvalues]⟩

theorem mem_traverseEntries {κ ν μ ε : Type*} {f : κ → ν → Except ε μ}
    {entries : List (κ × ν)} {result : List (κ × μ)} (h : traverseEntries f entries = .ok result)
    {k : κ} {m : μ} (hmem : (k, m) ∈ result) : ∃ v, (k, v) ∈ entries ∧ f k v = .ok m := by
  induction entries generalizing result with
  | nil =>
    cases h
    cases hmem
  | cons entry rest ih =>
    simp only [traverseEntries] at h
    split at h
    · cases h
    · cases h
    · rename_i value values hvalue hrest
      cases h
      rcases List.mem_cons.1 hmem with heq | htail
      · cases heq
        exact ⟨entry.2, List.mem_cons_self, hvalue⟩
      · obtain ⟨v, hv, hf⟩ := ih hrest htail
        exact ⟨v, List.mem_cons_of_mem _ hv, hf⟩

namespace Dict

variable {κ ν μ : Type*}

@[ext] theorem ext {d e : Dict κ ν} (h : d.entries = e.entries) : d = e := by
  cases d; cases e; cases h; rfl

def empty : Dict κ ν := ⟨[], List.nodup_nil⟩

def keys (d : Dict κ ν) : List κ := d.entries.map Prod.fst

def values (d : Dict κ ν) : List ν := d.entries.map Prod.snd

/-- Apply `f` to every value; the keys and their order stay. -/
def mapValues (f : ν → μ) (d : Dict κ ν) : Dict κ μ :=
  ⟨d.entries.map (fun entry => (entry.1, f entry.2)), by
    simpa [List.map_map, Function.comp_def] using d.keys_nodup⟩

/-- A dictionary comprehension over the entries of `d` whose value expression may raise. -/
def traverse {ε : Type*} (f : κ → ν → Except ε μ) (d : Dict κ ν) : Except ε (Dict κ μ) :=
  match h : traverseEntries f d.entries with
  | .error e => .error e
  | .ok entries => .ok ⟨entries, keys_traverseEntries h ▸ d.keys_nodup⟩

theorem traverse_eq_ok_iff {ε : Type*} {f : κ → ν → Except ε μ} {d : Dict κ ν} {e : Dict κ μ} :
    d.traverse f = .ok e ↔ traverseEntries f d.entries = .ok e.entries := by
  unfold traverse
  split
  · rename_i h
    simp [h]
  · rename_i h
    simp [h, Dict.ext_iff]

/-- A comprehension none of whose values raises returns. -/
theorem exists_traverse {ε : Type*} {f : κ → ν → Except ε μ} {d : Dict κ ν}
    (h : ∀ entry ∈ d.entries, ∃ value, f entry.1 entry.2 = .ok value) :
    ∃ e : Dict κ μ, d.traverse f = .ok e := by
  obtain ⟨result, hresult⟩ := exists_traverseEntries h
  exact ⟨⟨result, keys_traverseEntries hresult ▸ d.keys_nodup⟩, traverse_eq_ok_iff.2 hresult⟩

@[simp] theorem entries_empty : (empty : Dict κ ν).entries = [] := rfl

@[simp] theorem keys_empty : (empty : Dict κ ν).keys = [] := rfl

@[simp] theorem keys_mapValues (f : ν → μ) (d : Dict κ ν) : (d.mapValues f).keys = d.keys := by
  simp [mapValues, keys, List.map_map, Function.comp_def]

variable [DecidableEq κ]

def get? (d : Dict κ ν) (k : κ) : Option ν := readEntry k d.entries

def set (d : Dict κ ν) (k : κ) (v : ν) : Dict κ ν :=
  ⟨writeEntry k v d.entries, nodup_writeEntry d.keys_nodup⟩

@[simp] theorem get?_empty (k : κ) : (empty : Dict κ ν).get? k = none := rfl

@[simp] theorem get?_set_self (d : Dict κ ν) (k : κ) (v : ν) : (d.set k v).get? k = some v :=
  readEntry_writeEntry_self

@[simp] theorem get?_set_of_ne (d : Dict κ ν) {k k' : κ} (v : ν) (h : k' ≠ k) :
    (d.set k v).get? k' = d.get? k' :=
  readEntry_writeEntry_of_ne h

theorem get?_set (d : Dict κ ν) (k k' : κ) (v : ν) :
    (d.set k v).get? k' = if k' = k then some v else d.get? k' := by
  split
  · rename_i h
    rw [h, get?_set_self]
  · rename_i h
    exact get?_set_of_ne d v h

/-- An entry is in the list exactly when its key looks up to its value. -/
theorem mem_entries_iff {d : Dict κ ν} {k : κ} {v : ν} :
    (k, v) ∈ d.entries ↔ d.get? k = some v :=
  mem_iff_readEntry d.keys_nodup

theorem mem_keys_iff {d : Dict κ ν} {k : κ} : k ∈ d.keys ↔ ∃ v, d.get? k = some v := by
  simp only [keys, List.mem_map, Prod.exists, ← mem_entries_iff]
  exact ⟨fun ⟨_, v, hmem, heq⟩ => ⟨v, heq ▸ hmem⟩, fun ⟨v, hmem⟩ => ⟨k, v, hmem, rfl⟩⟩

theorem get?_eq_none_iff {d : Dict κ ν} {k : κ} : d.get? k = none ↔ k ∉ d.keys := by
  rw [mem_keys_iff]
  cases d.get? k <;> simp

theorem keys_set_of_mem {d : Dict κ ν} {k : κ} {v : ν} (h : k ∈ d.keys) :
    (d.set k v).keys = d.keys :=
  keys_writeEntry_of_mem h

theorem keys_set_of_not_mem {d : Dict κ ν} {k : κ} {v : ν} (h : k ∉ d.keys) :
    (d.set k v).keys = d.keys ++ [k] := by
  simp only [keys, set]
  rw [keys_writeEntry_of_not_mem h, List.map_append, List.map_cons, List.map_nil]

theorem mem_keys_set {d : Dict κ ν} {k k' : κ} {v : ν} :
    k' ∈ (d.set k v).keys ↔ k' = k ∨ k' ∈ d.keys := by
  by_cases h : k ∈ d.keys
  · rw [keys_set_of_mem h]
    exact ⟨Or.inr, fun hor => hor.elim (fun heq => heq ▸ h) id⟩
  · rw [keys_set_of_not_mem h]
    simp [or_comm]

@[simp] theorem get?_mapValues (f : ν → μ) (d : Dict κ ν) (k : κ) :
    (d.mapValues f).get? k = (d.get? k).map f := by
  obtain ⟨entries, hnodup⟩ := d
  simp only [mapValues, get?]
  clear hnodup
  induction entries with
  | nil => rfl
  | cons entry rest ih =>
    simp only [List.map_cons, readEntry, ih]
    split <;> rfl

/-! ## Writing a list of entries -/

section Fold

variable {α : Type*} {key : α → κ} {value : α → ν}

/-- After writing a list of entries, a value read was written by one of them or read before. -/
theorem get?_foldl_set_cases {l : List α} {d : Dict κ ν} {k : κ} {v : ν}
    (h : (l.foldl (fun d a => d.set (key a) (value a)) d).get? k = some v) :
    (∃ a ∈ l, key a = k ∧ value a = v) ∨ ((∀ a ∈ l, key a ≠ k) ∧ d.get? k = some v) := by
  induction l generalizing d with
  | nil => exact Or.inr ⟨nofun, h⟩
  | cons a rest ih =>
    rw [List.foldl_cons] at h
    rcases ih h with ⟨b, hb, hkey, hvalue⟩ | ⟨hrest, hget⟩
    · exact Or.inl ⟨b, List.mem_cons_of_mem _ hb, hkey, hvalue⟩
    · rw [get?_set] at hget
      split at hget
      · rename_i hk
        cases hget
        exact Or.inl ⟨a, List.mem_cons_self, hk.symm, rfl⟩
      · rename_i hk
        refine Or.inr ⟨?_, hget⟩
        intro b hb
        rcases List.mem_cons.1 hb with rfl | hmem
        · exact Ne.symm hk
        · exact hrest b hmem

/-- Writing entries under other keys changes nothing under this one. -/
theorem get?_foldl_set_of_ne {l : List α} {d : Dict κ ν} {k : κ} (h : ∀ a ∈ l, key a ≠ k) :
    (l.foldl (fun d a => d.set (key a) (value a)) d).get? k = d.get? k := by
  induction l generalizing d with
  | nil => rfl
  | cons a rest ih =>
    rw [List.foldl_cons, ih (fun other hmem => h other (List.mem_cons_of_mem _ hmem)),
      get?_set_of_ne d _ (Ne.symm (h a List.mem_cons_self))]

/-- Writing entries removes no key. -/
theorem isSome_foldl_set {l : List α} {d : Dict κ ν} {k : κ}
    (h : (∃ a ∈ l, key a = k) ∨ (d.get? k).isSome) :
    ((l.foldl (fun d a => d.set (key a) (value a)) d).get? k).isSome := by
  induction l generalizing d with
  | nil => exact h.resolve_left (fun ⟨a, ha, _⟩ => by cases ha)
  | cons a rest ih =>
    rw [List.foldl_cons]
    apply ih
    rw [get?_set]
    by_cases hk : k = key a
    · exact Or.inr (by rw [if_pos hk]; rfl)
    · rw [if_neg hk]
      rcases h with ⟨b, hb, hkey⟩ | hsome
      · rcases List.mem_cons.1 hb with rfl | hmem
        · exact absurd hkey.symm hk
        · exact Or.inl ⟨b, hmem, hkey⟩
      · exact Or.inr hsome

/-- Writing the entries of a dictionary to an empty one gives the dictionary back. -/
theorem foldl_set_entries (d : Dict κ ν) :
    d.entries.foldl (fun e entry => e.set entry.1 entry.2) empty = d := by
  have happend : ∀ (l : List (κ × ν)) (base : Dict κ ν),
      ((base.entries ++ l).map Prod.fst).Nodup →
        (l.foldl (fun e entry => e.set entry.1 entry.2) base).entries = base.entries ++ l := by
    intro l
    induction l with
    | nil =>
      intro base _
      exact (List.append_nil _).symm
    | cons entry rest ih =>
      intro base hnodup
      have hentry : entry.1 ∉ base.entries.map Prod.fst := by
        rw [List.map_append, List.map_cons] at hnodup
        intro hmem
        exact List.disjoint_of_nodup_append hnodup hmem List.mem_cons_self
      have hset : (base.set entry.1 entry.2).entries = base.entries ++ [entry] :=
        keys_writeEntry_of_not_mem hentry
      have hrest := ih (base.set entry.1 entry.2) (by
        rwa [hset, List.append_assoc, List.singleton_append])
      rw [List.foldl_cons, hrest, hset, List.append_assoc, List.singleton_append]
  exact Dict.ext (happend d.entries empty d.keys_nodup)

end Fold

end Dict

end Containers
