import Mathlib.Data.List.DropRight
import Mathlib.Data.List.Nodup

/-!
# Sliding windows

The last `n` items of a growing list, `List.rtake`, as a bounded queue holds them: a full queue
drops its oldest item before it takes a new one.

What a bounded memory remembers is not a set that grows, so a test of membership in it is no test
of whether something has ever come.  How long it remembers an item can be said, though: until `n`
later ones have come.

* `slide_rtake`: the queue holds the last `n` items.
* `mem_rtake_append_cons`: an item leaves the window only after `n` later items.
-/

namespace Window

variable {α : Type*}

theorem length_rtake (n : ℕ) (l : List α) : (l.rtake n).length = min n l.length := by
  rw [List.rtake, List.length_drop]
  omega

/-- A queue of `n + 1` items that drops its oldest item when it is full. -/
def slide (n : ℕ) (w : List α) (x : α) : List α :=
  (if n + 1 ≤ w.length then w.tail else w) ++ [x]

theorem slide_rtake (n : ℕ) (l : List α) (x : α) :
    slide n (l.rtake (n + 1)) x = (l ++ [x]).rtake (n + 1) := by
  rw [List.rtake_concat_succ, slide]
  congr 1
  split_ifs with hfull
  · rw [length_rtake] at hfull
    rw [List.rtake, List.rtake, List.tail_drop]
    congr 1
    omega
  · rw [length_rtake] at hfull
    rw [List.rtake, List.rtake]
    congr 1
    omega

/-- An item that is no longer in the window was followed by a window full of other items. -/
theorem mem_rtake_append_cons (n : ℕ) (l m : List α) (x : α) :
    x ∈ (l ++ x :: m).rtake n ∨ n ≤ m.length ∧ (l ++ x :: m).rtake n = m.rtake n := by
  rcases Nat.lt_or_ge m.length n with hlt | hle
  · refine Or.inl ?_
    rw [List.rtake, List.drop_append, List.mem_append]
    refine Or.inr ?_
    have hzero : (l ++ x :: m).length - n - l.length = 0 := by
      rw [List.length_append, List.length_cons]
      omega
    rw [hzero, List.drop_zero]
    exact List.mem_cons_self
  · refine Or.inr ⟨hle, ?_⟩
    rw [List.rtake, List.rtake, show l ++ x :: m = (l ++ [x]) ++ m by simp, List.drop_append,
      List.drop_of_length_le (by simp only [List.length_append, List.length_singleton]; omega),
      List.nil_append]
    congr 1
    simp only [List.length_append, List.length_singleton]
    omega

theorem slide_subset (n : ℕ) (w : List α) (x : α) : slide n w x ⊆ x :: w := by
  intro y hy
  rw [slide, List.mem_append, List.mem_singleton] at hy
  rw [List.mem_cons]
  rcases hy with hy | rfl
  · split_ifs at hy
    · exact Or.inr (List.mem_of_mem_tail hy)
    · exact Or.inr hy
  · exact Or.inl rfl

theorem nodup_slide {n : ℕ} {w : List α} {x : α} (hw : w.Nodup) (hx : x ∉ w) :
    (slide n w x).Nodup := by
  rw [slide, List.nodup_append]
  refine ⟨?_, List.nodup_singleton x, ?_⟩
  · split_ifs
    · exact hw.tail
    · exact hw
  · intro y hy z hz heq
    rw [List.mem_singleton] at hz
    subst hz heq
    split_ifs at hy
    · exact hx (List.mem_of_mem_tail hy)
    · exact hx hy

end Window
