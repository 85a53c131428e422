import Mathlib.Data.List.Basic
import Mathlib.Data.Option.Basic

/-!
# Ledgers

A ledger lists what was put into a queue, in order, each item with what became of it; an item
without a fate still waits.  The queue itself is `waiting`, and what left it with the fate `f` is
`settledAs f`.

A bounded queue that drops or merges items has no simple law between what goes in and what comes
out.  With a ledger beside it there is one: nothing is ever taken out of the ledger, so every item
that was put in is there with its fate, and what came out is a part of it in the same order.

* `waiting_settleNext`: settling the next item takes it off the queue.
* `InOrder.settledAs_settleNext`: what left with one fate left in the order of the ledger, as long
  as nothing that waits comes before it.
* `settledAs_sublist`: a subsequence of everything that was put in.
-/

namespace Ledger

variable {α φ : Type*}

/-- Everything that was put in. -/
def items (l : List (α × Option φ)) : List α := l.map Prod.fst

/-- What still waits. -/
def waiting (l : List (α × Option φ)) : List α := (l.filter fun e => e.2.isNone).map Prod.fst

/-- What left with the fate `f`. -/
def settledAs [DecidableEq φ] (f : φ) (l : List (α × Option φ)) : List α :=
  (l.filter fun e => e.2 = some f).map Prod.fst

/-- Gives the first item that waits the fate `f`. -/
def settleNext (f : φ) : List (α × Option φ) → List (α × Option φ)
  | [] => []
  | (x, none) :: l => (x, some f) :: l
  | (x, some g) :: l => (x, some g) :: settleNext f l

/-- Nothing that waits comes before something that left with the fate `f`. -/
def InOrder (f : φ) (l : List (α × Option φ)) : Prop :=
  l.Pairwise fun e e' => e.2 = none → e'.2 ≠ some f

/-! ## Putting in -/

@[simp] theorem items_append (l m : List (α × Option φ)) : items (l ++ m) = items l ++ items m :=
  List.map_append

@[simp] theorem waiting_append (l m : List (α × Option φ)) :
    waiting (l ++ m) = waiting l ++ waiting m := by
  rw [waiting, List.filter_append, List.map_append]
  rfl

@[simp] theorem settledAs_append [DecidableEq φ] (f : φ) (l m : List (α × Option φ)) :
    settledAs f (l ++ m) = settledAs f l ++ settledAs f m := by
  rw [settledAs, List.filter_append, List.map_append]
  rfl

theorem InOrder.concat {f : φ} {l : List (α × Option φ)} {e : α × Option φ} (h : InOrder f l)
    (he : e.2 ≠ some f) : InOrder f (l ++ [e]) := by
  refine List.pairwise_append.mpr ⟨h, List.pairwise_singleton _ e, ?_⟩
  intro a _ b hb _
  rw [List.mem_singleton.mp hb]
  exact he

/-! ## Settling -/

@[simp] theorem items_settleNext (f : φ) (l : List (α × Option φ)) :
    items (settleNext f l) = items l := by
  induction l with
  | nil => rfl
  | cons e l ih =>
    obtain ⟨x, _ | g⟩ := e
    · rfl
    · exact congrArg (x :: ·) ih

@[simp] theorem waiting_settleNext (f : φ) (l : List (α × Option φ)) :
    waiting (settleNext f l) = (waiting l).tail := by
  induction l with
  | nil => rfl
  | cons e l ih =>
    obtain ⟨x, _ | g⟩ := e
    · rfl
    · exact ih

theorem mem_settleNext {f : φ} {l : List (α × Option φ)} {e : α × Option φ}
    (h : e ∈ settleNext f l) : e ∈ l ∨ e.2 = some f ∧ (waiting l).head? = some e.1 := by
  induction l with
  | nil => exact absurd h List.not_mem_nil
  | cons a l ih =>
    obtain ⟨x, _ | g⟩ := a
    · rcases List.mem_cons.mp h with rfl | h
      · exact Or.inr ⟨rfl, rfl⟩
      · exact Or.inl (List.mem_cons_of_mem _ h)
    · rcases List.mem_cons.mp h with rfl | h
      · exact Or.inl List.mem_cons_self
      · rcases ih h with h | h
        · exact Or.inl (List.mem_cons_of_mem _ h)
        · exact Or.inr h

theorem InOrder.settleNext {f : φ} {l : List (α × Option φ)} (g : φ) (h : InOrder f l) :
    InOrder f (settleNext g l) := by
  induction l with
  | nil => exact h
  | cons a l ih =>
    obtain ⟨hhead, htail⟩ := List.pairwise_cons.mp h
    obtain ⟨x, _ | g'⟩ := a
    · refine List.pairwise_cons.mpr ⟨fun b _ hnone => ?_, htail⟩
      exact absurd hnone (Option.some_ne_none g)
    · refine List.pairwise_cons.mpr ⟨fun b _ hnone => ?_, ih htail⟩
      exact absurd hnone (Option.some_ne_none g')

/-- What leaves next with the fate `f` comes after everything that left with it before. -/
theorem InOrder.settledAs_settleNext [DecidableEq φ] {f : φ} {l : List (α × Option φ)}
    (h : InOrder f l) :
    settledAs f (Ledger.settleNext f l) = settledAs f l ++ (waiting l).head?.toList := by
  induction l with
  | nil => rfl
  | cons a l ih =>
    obtain ⟨hhead, htail⟩ := List.pairwise_cons.mp h
    obtain ⟨x, _ | g⟩ := a
    · have hnil : settledAs f l = [] := by
        rw [settledAs, List.map_eq_nil_iff, List.filter_eq_nil_iff]
        intro b hb
        rw [decide_eq_true_eq]
        exact hhead b hb rfl
      have hx : settledAs f ((x, none) :: l) = settledAs f l := rfl
      rw [hx, hnil, Ledger.settleNext, settledAs, List.filter_cons_of_pos (by simp), List.map_cons]
      exact congrArg (x :: ·) hnil
    · have hwaiting : waiting ((x, some g) :: l) = waiting l := rfl
      rw [hwaiting, Ledger.settleNext, settledAs, settledAs]
      by_cases hg : g = f
      · rw [List.filter_cons_of_pos (by simp [hg]), List.filter_cons_of_pos (by simp [hg])]
        exact congrArg (x :: ·) (ih htail)
      · rw [List.filter_cons_of_neg (by simp [hg]), List.filter_cons_of_neg (by simp [hg])]
        exact ih htail

theorem settledAs_settleNext_of_ne [DecidableEq φ] {f g : φ} (hne : g ≠ f)
    (l : List (α × Option φ)) : settledAs f (settleNext g l) = settledAs f l := by
  induction l with
  | nil => rfl
  | cons a l ih =>
    obtain ⟨x, _ | g'⟩ := a
    · rw [settleNext, settledAs, settledAs, List.filter_cons_of_neg (by simp [hne]),
        List.filter_cons_of_neg (by simp)]
    · rw [settleNext, settledAs, settledAs, List.filter_cons, List.filter_cons]
      split_ifs
      · exact congrArg (x :: ·) ih
      · exact ih

/-! ## Reading the ledger -/

theorem settledAs_sublist [DecidableEq φ] (f : φ) (l : List (α × Option φ)) :
    (settledAs f l).Sublist (items l) :=
  List.Sublist.map Prod.fst List.filter_sublist

theorem mem_waiting {l : List (α × Option φ)} {x : α} : x ∈ waiting l ↔ (x, none) ∈ l := by
  rw [waiting, List.mem_map]
  constructor
  · rintro ⟨⟨y, fate⟩, hmem, rfl⟩
    obtain ⟨hmem, hnone⟩ := List.mem_filter.mp hmem
    obtain rfl : fate = none := Option.isNone_iff_eq_none.mp hnone
    exact hmem
  · intro h
    exact ⟨(x, none), List.mem_filter.mpr ⟨h, rfl⟩, rfl⟩

end Ledger
