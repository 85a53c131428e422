import Mathlib.Data.List.Basic

/-!
# Items and takers

Two queues that meet: an item goes to the first taker that waits, and waits itself if there is
none; a taker gets the first item that waits, and waits itself if there is none.  In whatever
order they come, the first item meets the first taker, the second the second, and so on.

The queues are compared with the lists of all items and of all takers that have ever come.  Each
queue is what its list has behind as many entries as the other list has in all.  So one of the
queues is empty, and what waits in the other one is known from the lists.  The two arrivals mirror
each other, and the second is proved from the first by exchanging the queues.

* `Meets.put`, `Meets.take`: what each arrival does, in the lists of all that have come.
* `Meets.items_eq_nil_or`: never do items and takers wait at once.
-/

/-- The items and the takers that wait. -/
structure Rendezvous (α β : Type*) where
  items : List α
  takers : List β
  deriving DecidableEq, Repr

namespace Rendezvous

variable {α β : Type*}

def empty : Rendezvous α β := ⟨[], []⟩

/-- An item comes, with the taker it goes to. -/
def put (r : Rendezvous α β) (a : α) : Option β × Rendezvous α β :=
  match r.takers with
  | [] => (none, { r with items := r.items ++ [a] })
  | b :: takers => (some b, { r with takers := takers })

/-- A taker comes, with the item it gets. -/
def take (r : Rendezvous α β) (b : β) : Option α × Rendezvous α β :=
  match r.items with
  | [] => (none, { r with takers := r.takers ++ [b] })
  | a :: items => (some a, { r with items := items })

/-- The items `as` and the takers `bs` have come, and those without a partner wait. -/
structure Meets (r : Rendezvous α β) (as : List α) (bs : List β) : Prop where
  items : r.items = as.drop bs.length
  takers : r.takers = bs.drop as.length

variable {r : Rendezvous α β} {as : List α} {bs : List β}

theorem meets_empty : (empty : Rendezvous α β).Meets [] [] := ⟨rfl, rfl⟩

/-- **The item that comes next goes to the taker with its number.** -/
theorem Meets.put (h : r.Meets as bs) (a : α) :
    (r.put a).2.Meets (as ++ [a]) bs ∧ (r.put a).1 = bs[as.length]? := by
  obtain ⟨hitems, htakers⟩ := h
  rw [Rendezvous.put]
  cases hwait : r.takers with
  | nil =>
    rw [hwait] at htakers
    have hle : bs.length ≤ as.length := List.drop_eq_nil_iff.mp htakers.symm
    refine ⟨⟨?_, ?_⟩, (List.getElem?_eq_none hle).symm⟩
    · show r.items ++ [a] = (as ++ [a]).drop bs.length
      rw [hitems, List.drop_append_of_le_length hle]
    · show [] = bs.drop (as ++ [a]).length
      refine (List.drop_eq_nil_iff.mpr ?_).symm
      rw [List.length_append]
      exact Nat.le_add_right_of_le hle
  | cons b takers =>
    rw [hwait] at htakers
    have hlt : as.length < bs.length := by
      by_contra hle
      rw [List.drop_eq_nil_iff.mpr (Nat.le_of_not_lt hle)] at htakers
      cases htakers
    rw [List.drop_eq_getElem_cons hlt] at htakers
    obtain ⟨rfl, rfl⟩ := List.cons.inj htakers
    refine ⟨⟨?_, ?_⟩, (List.getElem?_eq_getElem hlt).symm⟩
    · show r.items = (as ++ [a]).drop bs.length
      rw [hitems, List.drop_eq_nil_iff.mpr (Nat.le_of_lt hlt), List.drop_eq_nil_iff.mpr]
      rw [List.length_append]
      exact hlt
    · show bs.drop (as.length + 1) = bs.drop (as ++ [a]).length
      rw [List.length_append]
      rfl

/-- A rendezvous, seen from the other side. -/
def swap (r : Rendezvous α β) : Rendezvous β α := ⟨r.takers, r.items⟩

theorem swap_take (b : β) :
    (r.swap.put b).1 = (r.take b).1 ∧ (r.swap.put b).2.swap = (r.take b).2 := by
  obtain ⟨_ | ⟨a, items⟩, takers⟩ := r <;> exact ⟨rfl, rfl⟩

/-- **The taker that comes next gets the item with its number.** -/
theorem Meets.take (h : r.Meets as bs) (b : β) :
    (r.take b).2.Meets as (bs ++ [b]) ∧ (r.take b).1 = as[bs.length]? := by
  have hswap : r.swap.Meets bs as := ⟨h.takers, h.items⟩
  obtain ⟨⟨hitems, htakers⟩, hitem⟩ := hswap.put b
  obtain ⟨hfst, hsnd⟩ := r.swap_take b
  rw [← hfst, ← hsnd]
  exact ⟨⟨htakers, hitems⟩, hitem⟩

/-- Of items and takers only one kind waits. -/
theorem Meets.items_eq_nil_or (h : r.Meets as bs) : r.items = [] ∨ r.takers = [] := by
  rcases Nat.le_total as.length bs.length with hle | hle
  · exact Or.inl (h.items.trans (List.drop_eq_nil_iff.mpr hle))
  · exact Or.inr (h.takers.trans (List.drop_eq_nil_iff.mpr hle))

/-- Who waits has no partner yet. -/
theorem Meets.mem_takers_iff (h : r.Meets as bs) {b : β} :
    b ∈ r.takers ↔ ∃ k : ℕ, bs[k]? = some b ∧ as[k]? = none := by
  rw [h.takers, List.mem_iff_getElem?]
  constructor
  · rintro ⟨k, hk⟩
    rw [List.getElem?_drop] at hk
    exact ⟨as.length + k, hk, List.getElem?_eq_none (Nat.le_add_right _ _)⟩
  · rintro ⟨k, hk, hnone⟩
    have hle : as.length ≤ k := List.getElem?_eq_none_iff.mp hnone
    refine ⟨k - as.length, ?_⟩
    rw [List.getElem?_drop, Nat.add_sub_cancel' hle]
    exact hk

end Rendezvous
