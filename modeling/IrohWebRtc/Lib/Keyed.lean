import Mathlib.Data.List.Nodup

/-!
# Lists of records with keys

A list in which a record is found by its key, and changed where it stands.

It is a map that keeps its order, and that may contain a key twice, in which case the first record
counts.  The lemmas say what a change leaves of the rest: the other records, their order, and the
list of the keys.

* `find`, `modify`: the first record with a key, and the list with that record changed.
* `find_modify`: what a change leaves to be found.
* `filter_modify`: the records with other keys are left alone, in their order.
-/

namespace Keyed

variable {α κ : Type*} [DecidableEq κ] (key : α → κ)

/-- The first record with the key `k`. -/
def find (k : κ) (l : List α) : Option α := l.find? fun a => key a = k

/-- Changes the first record with the key `k`. -/
def modify (k : κ) (f : α → α) : List α → List α
  | [] => []
  | a :: l => if key a = k then f a :: l else a :: modify k f l

variable {key} {k k' : κ} {a : α} {l l' : List α}

@[simp] theorem find_nil : find key k [] = none := rfl

theorem find_cons : find key k (a :: l) = if key a = k then some a else find key k l := by
  rw [find, List.find?_cons]
  by_cases h : key a = k
  · rw [if_pos h, decide_eq_true h]
  · rw [if_neg h, decide_eq_false h]
    rfl

/-! ## Finding -/

theorem mem_of_find (h : find key k l = some a) : a ∈ l := List.mem_of_find?_eq_some h

theorem key_of_find (h : find key k l = some a) : key a = k := by
  simpa using List.find?_some h

theorem find_eq_none : find key k l = none ↔ ∀ a ∈ l, key a ≠ k := by
  rw [find, List.find?_eq_none]
  simp

theorem isSome_find : (find key k l).isSome = true ↔ ∃ a ∈ l, key a = k := by
  rw [Option.isSome_iff_ne_none, Ne, find_eq_none]
  push Not
  rfl

theorem find_append : find key k (l ++ l') = (find key k l).or (find key k l') := List.find?_append

theorem find_filter_ne :
    find key k (l.filter fun a => key a ≠ k') = if k = k' then none else find key k l := by
  induction l with
  | nil => split_ifs <;> rfl
  | cons a l ih =>
    by_cases ha : key a = k'
    · rw [List.filter_cons_of_neg (by simpa using ha), ih, find_cons]
      split_ifs with hk hak
      · rfl
      · exact absurd (hak.symm.trans ha) hk
      · rfl
    · rw [List.filter_cons_of_pos (by simpa using ha), find_cons, find_cons, ih]
      split_ifs with hak hk hk
      · exact absurd (hak.trans hk) ha
      · rfl
      · rfl
      · rfl

/-! ## Changing -/

variable {f : α → α} (hf : ∀ a, key (f a) = key a)

include hf

theorem map_key_modify : (modify key k f l).map key = l.map key := by
  induction l with
  | nil => rfl
  | cons a l ih =>
    rw [modify]
    split_ifs
    · rw [List.map_cons, List.map_cons, hf]
    · rw [List.map_cons, List.map_cons, ih]

/-- **What a change leaves to be found.** -/
theorem find_modify :
    find key k' (modify key k f l) =
      if k' = k then (find key k l).map f else find key k' l := by
  induction l with
  | nil => split_ifs <;> rfl
  | cons a l ih =>
    rw [modify]
    by_cases ha : key a = k
    · rw [if_pos ha, find_cons, find_cons, find_cons, hf, if_pos ha]
      split_ifs with hk' hk hk
      · rfl
      · exact absurd (hk'.symm.trans ha) hk
      · exact absurd (ha.trans hk.symm) hk'
      · rfl
    · rw [if_neg ha, find_cons, find_cons, find_cons, ih, if_neg ha]
      split_ifs with hk' hk hk
      · exact absurd (hk'.trans hk) ha
      · rfl
      · rfl
      · rfl

/-- The records with other keys are left alone. -/
theorem filter_modify :
    (modify key k f l).filter (fun a => key a ≠ k) = l.filter fun a => key a ≠ k := by
  induction l with
  | nil => rfl
  | cons a l ih =>
    rw [modify]
    by_cases ha : key a = k
    · have hfa : key (f a) = k := (hf a).trans ha
      rw [if_pos ha, List.filter_cons_of_neg (by simpa using hfa),
        List.filter_cons_of_neg (by simpa using ha)]
    · rw [if_neg ha, List.filter_cons_of_pos (by simpa using ha),
        List.filter_cons_of_pos (by simpa using ha), ih]

omit hf in
/-- What the change keeps, all records keep. -/
theorem forall_mem_modify {P : α → Prop} (hP : ∀ a, P a → P (f a)) (hl : ∀ a ∈ l, P a) :
    ∀ a ∈ modify key k f l, P a := by
  induction l with
  | nil => exact hl
  | cons a l ih =>
    obtain ⟨ha, hl⟩ := List.forall_mem_cons.mp hl
    rw [modify]
    split_ifs
    · exact List.forall_mem_cons.mpr ⟨hP a ha, hl⟩
    · exact List.forall_mem_cons.mpr ⟨ha, ih hl⟩

omit hf in
/-- A record after the change was there before, or is the changed one. -/
theorem mem_modify (h : a ∈ modify key k f l) : a ∈ l ∨ ∃ a' ∈ l, key a' = k ∧ a = f a' := by
  induction l with
  | nil => exact absurd h List.not_mem_nil
  | cons b l ih =>
    rw [modify] at h
    split_ifs at h with hb
    · rcases List.mem_cons.mp h with rfl | h
      · exact Or.inr ⟨b, List.mem_cons_self, hb, rfl⟩
      · exact Or.inl (List.mem_cons_of_mem _ h)
    · rcases List.mem_cons.mp h with rfl | h
      · exact Or.inl List.mem_cons_self
      · rcases ih h with h | ⟨a', ha', hkey, rfl⟩
        · exact Or.inl (List.mem_cons_of_mem _ h)
        · exact Or.inr ⟨a', List.mem_cons_of_mem _ ha', hkey, rfl⟩

end Keyed
