import Mathlib.Data.List.Basic

/-!
# Cutting a list into segments

`cut n l` is `l` in consecutive segments of `n` entries, the last of which may be shorter.  What
is used of it is how it starts: with its first segment (`cut_step`), which is everything when the
list is not longer than a segment (`cut_of_le`).

A loop that takes one segment after the other can be followed with these two, and needs to know
nothing of the segments behind.
-/

namespace Segments

variable {α : Type*}

/-- Consecutive segments of `n` entries; the last may be shorter.  With `n = 0` the list is one
segment. -/
def cut (n : ℕ) (l : List α) : List (List α) :=
  if _hl : l.length = 0 then []
  else if _hn : n = 0 then [l]
  else l.take n :: cut n (l.drop n)
termination_by l.length
decreasing_by rw [List.length_drop]; omega

@[simp] theorem cut_nil (n : ℕ) : cut n ([] : List α) = [] := by
  rw [cut, dif_pos List.length_nil]

/-- The first segment and the rest. -/
theorem cut_step {n : ℕ} {l : List α} (hn : 0 < n) (hl : l ≠ []) :
    cut n l = l.take n :: cut n (l.drop n) := by
  have hlen : l.length ≠ 0 := fun h => hl (List.length_eq_zero_iff.mp h)
  rw [cut, dif_neg hlen, dif_neg (Nat.pos_iff_ne_zero.mp hn)]

/-- A list no longer than the segment size is one segment. -/
theorem cut_of_le {n : ℕ} {l : List α} (hn : 0 < n) (hl : l ≠ []) (h : l.length ≤ n) :
    cut n l = [l] := by
  rw [cut_step hn hl, List.take_of_length_le h, List.drop_of_length_le h, cut_nil]

end Segments
