import Mathlib.Data.List.Basic
import Mathlib.Tactic.Common

/-!
# Streams that arrive in chunks

A stream that is still to be read is a list of chunks, which ends where the stream ends.  What is
read from it depends on the bytes alone, not on where the chunks end.

A network delivers the same bytes in other chunks every time, and a reader that asks for a number
of bytes is not to notice.  The lemmas compare a reader of chunks with their concatenation; with
them a proof about a protocol over a stream is one about a list of bytes.

* `readExact n cs`: the next `n` entries, or nothing when the stream ends before.
* `readExact_spec`: what is read and what is left are the two parts of the stream.
-/

namespace Chunks

variable {α : Type*}

/-- The next `n` entries, and what is left of the stream.  A stream that ends before is used up. -/
def readExact : ℕ → List (List α) → Option (List α) × List (List α)
  | 0, cs => (some [], cs)
  | _ + 1, [] => (none, [])
  | n + 1, c :: cs =>
    if n + 1 ≤ c.length then (some (c.take (n + 1)), c.drop (n + 1) :: cs)
    else
      let (read, rest) := readExact (n + 1 - c.length) cs
      (read.map (c ++ ·), rest)

/-- **Reading does not depend on the chunks.** -/
theorem readExact_spec (n : ℕ) (cs : List (List α)) :
    (readExact n cs).1 = (if n ≤ cs.flatten.length then some (cs.flatten.take n) else none) ∧
      (readExact n cs).2.flatten = cs.flatten.drop n := by
  induction cs generalizing n with
  | nil => cases n <;> simp [readExact]
  | cons c cs ih =>
    cases n with
    | zero => simp [readExact]
    | succ n =>
      rw [List.flatten_cons, List.length_append]
      by_cases hle : n + 1 ≤ c.length
      · have hfits : n + 1 ≤ c.length + cs.flatten.length := by omega
        simp only [readExact, if_pos hle, if_pos hfits, List.flatten_cons]
        rw [List.take_append_of_le_length hle, List.drop_append_of_le_length hle]
        exact ⟨rfl, rfl⟩
      · obtain ⟨hread, hrest⟩ := ih (n + 1 - c.length)
        have hlong : c.length ≤ n + 1 := by omega
        have hfits : n + 1 ≤ c.length + cs.flatten.length ↔
            n + 1 - c.length ≤ cs.flatten.length := by
          omega
        simp only [readExact, if_neg hle, hread, hrest, hfits]
        rw [List.take_append, List.drop_append, List.take_of_length_le hlong,
          List.drop_of_length_le hlong, List.nil_append]
        refine ⟨?_, rfl⟩
        split_ifs <;> rfl

theorem readExact_append {cs : List (List α)} {a b : List α} (h : cs.flatten = a ++ b) :
    (readExact a.length cs).1 = some a ∧ (readExact a.length cs).2.flatten = b := by
  obtain ⟨hread, hrest⟩ := readExact_spec a.length cs
  rw [h] at hread hrest
  rw [if_pos (by simp), List.take_left] at hread
  rw [List.drop_left] at hrest
  exact ⟨hread, hrest⟩

theorem readExact_of_short {n : ℕ} {cs : List (List α)} (h : cs.flatten.length < n) :
    (readExact n cs).1 = none := by
  rw [(readExact_spec n cs).1, if_neg (Nat.not_le.mpr h)]

end Chunks
