import Mathlib.Data.List.AList

/-!
# Tables

A hash map, as Mathlib's association lists with one type of values: looking a key up, inserting
with replacement, changing a value in place and changing all of them.  A hash map is iterated in
an order of its own; the functions that depend on it take the keys in that order.

The entries of an association list have an order as well, that of their insertion, and nothing is
to depend on it: what is used of a table is `lookup`, membership and which values there are.
-/

universe u v

/-- A finite map from keys to values. -/
abbrev Table (K : Type u) (V : Type v) := AList fun _ : K => V

namespace Table

variable {K : Type u} {V : Type v} [DecidableEq K]

/-- Changes the value of `k`, if it has one. -/
def modify (t : Table K V) (k : K) (f : V → V) : Table K V :=
  match t.lookup k with
  | none => t
  | some v => t.insert k (f v)

omit [DecidableEq K] in
theorem keys_map_entries (f : V → V) (l : List (Sigma fun _ : K => V)) :
    (l.map fun e => (⟨e.1, f e.2⟩ : Sigma fun _ : K => V)).keys = l.keys := by
  rw [List.keys, List.map_map]
  rfl

/-- Changes every value. -/
def mapValues (f : V → V) (t : Table K V) : Table K V :=
  ⟨t.entries.map fun e => ⟨e.1, f e.2⟩, by
    rw [List.NodupKeys, keys_map_entries]
    exact t.nodupKeys⟩

/-- The values, in the order of insertion. -/
def values (t : Table K V) : List V := t.entries.map fun e => e.2

theorem lookup_insert_eq (t : Table K V) (k k' : K) (v : V) :
    (t.insert k v).lookup k' = if k' = k then some v else t.lookup k' := by
  split_ifs with h
  · rw [h, AList.lookup_insert]
  · exact AList.lookup_insert_ne h

theorem lookup_erase_eq_some {t : Table K V} {k k' : K} {v : V} :
    (t.erase k).lookup k' = some v ↔ k' ≠ k ∧ t.lookup k' = some v := by
  by_cases hne : k' = k
  · rw [hne, AList.lookup_erase]
    simp
  · rw [AList.lookup_erase_ne hne, and_iff_right hne]

theorem lookup_modify (t : Table K V) (k k' : K) (f : V → V) :
    (t.modify k f).lookup k' = if k' = k then (t.lookup k).map f else t.lookup k' := by
  rw [modify]
  cases h : t.lookup k with
  | none =>
    split_ifs with hk
    · rw [hk, h]
      rfl
    · rfl
  | some v =>
    rw [lookup_insert_eq]
    rfl

theorem dlookup_map_entries (f : V → V) (l : List (Sigma fun _ : K => V)) (k : K) :
    (l.map fun e => (⟨e.1, f e.2⟩ : Sigma fun _ : K => V)).dlookup k = (l.dlookup k).map f := by
  induction l with
  | nil => rfl
  | cons e l ih =>
    obtain ⟨k', v⟩ := e
    rw [List.map_cons]
    by_cases hk : k = k'
    · subst hk
      simp
    · simp [hk, ih]

theorem lookup_mapValues (f : V → V) (t : Table K V) (k : K) :
    (t.mapValues f).lookup k = (t.lookup k).map f :=
  dlookup_map_entries f t.entries k

theorem mem_values {t : Table K V} {v : V} : v ∈ t.values ↔ ∃ k, t.lookup k = some v := by
  rw [values, List.mem_map]
  constructor
  · rintro ⟨⟨k, w⟩, hmem, rfl⟩
    exact ⟨k, AList.mem_lookup_iff.mpr hmem⟩
  · rintro ⟨k, hk⟩
    exact ⟨⟨k, v⟩, AList.mem_lookup_iff.mp hk, rfl⟩

theorem entries_insert (t : Table K V) (k : K) (v : V) :
    (t.insert k v).entries = ⟨k, v⟩ :: (t.erase k).entries := by
  rw [AList.entries_insert]
  rfl

theorem erase_eq_self {t : Table K V} {k : K} (h : t.lookup k = none) : t.erase k = t :=
  AList.ext (List.kerase_of_notMem_keys (AList.lookup_eq_none.mp h))

theorem perm_cons_erase {t : Table K V} {k : K} {v : V} (h : t.lookup k = some v) :
    t.entries.Perm (⟨k, v⟩ :: (t.erase k).entries) := by
  have hmem : (⟨k, v⟩ : Sigma fun _ : K => V) ∈ t.entries := AList.mem_lookup_iff.mp h
  obtain ⟨w, before, after, -, hentries, herase⟩ :=
    List.exists_of_kerase (List.mem_keys_of_mem hmem)
  have hw : t.lookup k = some w :=
    AList.mem_lookup_iff.mpr (by rw [hentries]; exact List.mem_append_right _ List.mem_cons_self)
  obtain rfl := Option.some.inj (h.symm.trans hw)
  have herased : (t.erase k).entries = before ++ after := herase
  rw [herased, hentries]
  exact List.perm_middle

theorem mem_values_erase {t : Table K V} {k : K} {v : V} (h : v ∈ values (t.erase k)) :
    ∃ k', k' ≠ k ∧ t.lookup k' = some v := by
  obtain ⟨k', hk'⟩ := mem_values.mp h
  have hne : k' ≠ k := by
    rintro rfl
    exact absurd (hk'.symm.trans (AList.lookup_erase k' t)) (by simp)
  exact ⟨k', hne, (AList.lookup_erase_ne hne).symm.trans hk'⟩

/-- What the values of a table give, of which `p` keeps what comes from one key. -/
theorem filter_filterMap_values {W : Type*} {t : Table K V} {f : V → Option W} {p : W → Bool}
    {k : K} {v : V} (hk : t.lookup k = some v)
    (hp : ∀ k' v' w, t.lookup k' = some v' → f v' = some w → (p w = true ↔ k' = k)) :
    (t.values.filterMap f).filter p = (f v).toList := by
  have hsame : (f v).toList.filter p = (f v).toList := by
    refine List.filter_eq_self.mpr fun w hw => ?_
    exact (hp k v w hk (Option.mem_toList.mp hw)).mpr rfl
  have hrest : ((values (t.erase k)).filterMap f).filter p = [] := by
    refine List.filter_eq_nil_iff.mpr fun w hw hpw => ?_
    obtain ⟨v', hv', hfv'⟩ := List.mem_filterMap.mp hw
    obtain ⟨k', hne, hk'⟩ := mem_values_erase hv'
    exact hne ((hp k' v' w hk' hfv').mp hpw)
  have hperm : t.values.Perm (v :: values (t.erase k)) := (perm_cons_erase hk).map _
  have hmap : ((t.values.filterMap f).filter p).Perm
      (((v :: values (t.erase k)).filterMap f).filter p) := (hperm.filterMap f).filter p
  cases hfv : f v with
  | none =>
    rw [List.filterMap_cons_none hfv, hrest] at hmap
    exact hmap.eq_nil
  | some w =>
    rw [List.filterMap_cons_some hfv, ← List.singleton_append, List.filter_append, hrest,
      List.append_nil] at hmap
    rw [hfv] at hsame
    exact List.perm_singleton.mp (hmap.trans (List.Perm.of_eq hsame))

end Table
