import Mathlib.Data.List.Basic

/-!
# Prefix-free codes

A code is prefix-free when the code of a value can be split off the front of any longer list, so
that a concatenation of such codes needs no separators to be read.

It is stated without a decoder: two lists that begin with codes and are equal begin with the same
code, and go on equally.  In this form it can be used from the left, part by part, on a layout
with any number of fields.

* `PrefixFree f`, with `PrefixFree.append_eq_append_iff`.
* `prefixFree_of_length`: injective codes of one length are prefix-free.
* `prefixFree_of_terminated`: so are injective codes closed with an entry that none contains.
-/

namespace PrefixCode

variable {ι α : Type*}

/-- The code of a value can be split off the front of any list. -/
def PrefixFree (f : ι → List α) : Prop :=
  ∀ ⦃a b : ι⦄ ⦃s t : List α⦄, f a ++ s = f b ++ t → a = b ∧ s = t

theorem PrefixFree.append_eq_append_iff {f : ι → List α} (hf : PrefixFree f) {a b : ι}
    {s t : List α} : f a ++ s = f b ++ t ↔ a = b ∧ s = t := by
  constructor
  · intro h
    exact hf h
  · rintro ⟨rfl, rfl⟩
    rfl

theorem prefixFree_of_length {f : ι → List α} {n : ℕ} (hlength : ∀ a, (f a).length = n)
    (hf : Function.Injective f) : PrefixFree f := by
  intro a b s t h
  have hab : (f a).length = (f b).length := (hlength a).trans (hlength b).symm
  obtain ⟨hcode, htail⟩ := List.append_inj h hab
  exact ⟨hf hcode, htail⟩

/-- The first occurrence of `z` ends the part before it. -/
theorem append_cons_inj {z : α} {u v s t : List α} (hu : z ∉ u) (hv : z ∉ v)
    (h : u ++ z :: s = v ++ z :: t) : u = v ∧ s = t := by
  induction u generalizing v with
  | nil =>
    cases v with
    | nil => exact ⟨rfl, (List.cons.inj h).2⟩
    | cons b v =>
      have hb : z = b := (List.cons.inj h).1
      exact absurd (hb ▸ List.mem_cons_self) hv
  | cons a u ih =>
    cases v with
    | nil =>
      have ha : a = z := (List.cons.inj h).1
      exact absurd (ha ▸ List.mem_cons_self) hu
    | cons b v =>
      obtain ⟨rfl, htail⟩ := List.cons.inj h
      obtain ⟨rfl, hst⟩ := ih (fun hz => hu (List.mem_cons_of_mem _ hz))
        (fun hz => hv (List.mem_cons_of_mem _ hz)) htail
      exact ⟨rfl, hst⟩

theorem prefixFree_of_terminated {f : ι → List α} {z : α} (hf : Function.Injective f)
    (hz : ∀ a, z ∉ f a) : PrefixFree fun a => f a ++ [z] := by
  intro a b s t h
  have hsplit : f a ++ z :: s = f b ++ z :: t := by
    simpa only [List.append_assoc, List.singleton_append] using h
  obtain ⟨hcode, htail⟩ := append_cons_inj (hz a) (hz b) hsplit
  exact ⟨hf hcode, htail⟩

end PrefixCode
