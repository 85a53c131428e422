import Mathlib.Data.List.DropRight

/-!
# Parts of a text

Texts are lists of characters here, and most of it is about lists over any type.

A parser of a line takes parts off a text: blanks at both ends, what comes before a separator,
what comes after.  A text that was put together from clean parts is taken apart again without
looking into them; what clean means is a hypothesis of each lemma, that a part does not contain
the separator, or does not begin with a blank.

* `isWhitespace`: the characters with the property `White_Space`.
* `trim p l`: `l` without the entries at its two ends that satisfy `p`.  A list that starts with
  an entry that does not keeps all but its tail (`trim_append`).
* `afterFirst z l`: what follows the first `z` of `l`, and `l` where there is none.
-/

namespace Text

/-! ## Whitespace -/

/-- The code points with the property `White_Space`. -/
def isWhitespace (c : Char) : Bool :=
  let n := c.toNat
  (0x9 ≤ n && n ≤ 0xD) || n == 0x20 || n == 0x85 || n == 0xA0 || n == 0x1680 ||
    (0x2000 ≤ n && n ≤ 0x200A) || n == 0x2028 || n == 0x2029 || n == 0x202F || n == 0x205F ||
    n == 0x3000

variable {α : Type*}

def trim (p : α → Bool) (l : List α) : List α := (l.dropWhile p).rdropWhile p

section Trim

variable {p : α → Bool} {u v : List α}

theorem rdropWhile_append (hu : ∀ a ∈ u, p a = false) :
    (u ++ v).rdropWhile p = u ++ v.rdropWhile p := by
  induction v using List.reverseRecOn with
  | nil =>
    rw [List.append_nil, List.rdropWhile_nil, List.append_nil, List.rdropWhile_eq_self_iff]
    intro hne
    rw [hu _ (List.getLast_mem hne)]
    exact Bool.false_ne_true
  | append_singleton v a ih =>
    rw [← List.append_assoc]
    by_cases ha : p a = true
    · rw [List.rdropWhile_concat_pos _ _ _ ha, List.rdropWhile_concat_pos _ _ _ ha, ih]
    · rw [List.rdropWhile_concat_neg _ _ _ ha, List.rdropWhile_concat_neg _ _ _ ha,
        List.append_assoc]

/-- Only the end of what follows `u` is trimmed. -/
theorem trim_append (hne : u ≠ []) (hu : ∀ a ∈ u, p a = false) :
    trim p (u ++ v) = u ++ v.rdropWhile p := by
  obtain ⟨a, u, rfl⟩ := List.exists_cons_of_ne_nil hne
  have ha : ¬ p a = true := by simpa using hu a List.mem_cons_self
  rw [trim, List.cons_append, List.dropWhile_cons_of_neg ha, ← List.cons_append,
    rdropWhile_append hu]

theorem trim_eq_self (hu : ∀ a ∈ u, p a = false) : trim p u = u := by
  cases u with
  | nil => rfl
  | cons a u =>
    have h := trim_append (v := []) (List.cons_ne_nil a u) hu
    rwa [List.append_nil, List.rdropWhile_nil, List.append_nil] at h

end Trim

section Separator

variable [BEq α] [LawfulBEq α] {z : α} {u v : List α}

/-- What follows the first `z`. -/
def afterFirst (z : α) (l : List α) : List α :=
  match l.idxOf? z with
  | none => l
  | some i => l.drop (i + 1)

theorem afterFirst_of_notMem (hu : z ∉ u) : afterFirst z u = u := by
  rw [afterFirst, List.idxOf?_eq_none_iff.mpr hu]

/-- The first `z` ends a part without `z`. -/
theorem afterFirst_append (hu : z ∉ u) : afterFirst z (u ++ z :: v) = v := by
  have hidx : (u ++ z :: v).idxOf? z = some u.length := by
    induction u with
    | nil => simp [List.idxOf?_cons]
    | cons a u ih =>
      rw [List.mem_cons, not_or] at hu
      rw [List.cons_append, List.idxOf?_cons, ih hu.2, if_neg (by simpa using Ne.symm hu.1)]
      rfl
  rw [afterFirst, hidx]
  show (u ++ z :: v).drop (u.length + 1) = v
  rw [← List.drop_drop, List.drop_left]
  rfl

end Separator

end Text
