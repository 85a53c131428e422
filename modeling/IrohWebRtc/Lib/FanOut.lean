import IrohWebRtc.Lib.Table
import Mathlib.Data.List.Induction
import Mathlib.Data.List.Pairwise

/-!
# Handing out a list by key

The entries of a list are grouped by a key, and the groups are handed, as one batch each, to the
receivers of their keys.

The keys are visited in an order that nothing is known of, and the walk may stop early.  What a
receiver has got is therefore compared with the list it was made from, key by key: of a key that
was reached it has everything, in the order of the list, and of the others nothing.

* `group`, with `lookup_group` and `mem_keys_group`: the groups of a list.
* `filter_sentTo`: what a receiver has got of a key is the batch of the key, if it was handed out.
* `forall_mem_takeWhile_iff`: the walk over the keys that stops at the first one without a
  receiver passes every key that has one exactly when no key with a receiver comes after one
  without.
-/

namespace FanOut

variable {α K W : Type*} [DecidableEq K]

/-! ## Groups -/

/-- The entries of each key, in the order of the list. -/
def group (f : α → K) (l : List α) : Table K (List α) :=
  l.foldl (fun t a => t.insert (f a) ((t.lookup (f a)).getD [] ++ [a])) ∅

theorem group_concat (f : α → K) (l : List α) (a : α) :
    group f (l ++ [a]) =
      (group f l).insert (f a) (((group f l).lookup (f a)).getD [] ++ [a]) := by
  rw [group, List.foldl_append]
  rfl

theorem lookup_group (f : α → K) (l : List α) (k : K) :
    (group f l).lookup k =
      if ∃ a ∈ l, f a = k then some (l.filter fun a => f a = k) else none := by
  induction l using List.reverseRecOn with
  | nil =>
    rw [if_neg (by simp)]
    exact AList.lookup_empty k
  | append_singleton l a ih =>
    rw [group_concat, Table.lookup_insert_eq]
    by_cases hk : k = f a
    · have hmem : ∃ b ∈ l ++ [a], f b = k := ⟨a, by simp, hk.symm⟩
      have hold : ((group f l).lookup (f a)).getD [] = l.filter fun b => f b = k := by
        rw [← hk, ih]
        split_ifs with h
        · rfl
        · refine (List.filter_eq_nil_iff.mpr fun b hb hbk => h ⟨b, hb, ?_⟩).symm
          exact of_decide_eq_true hbk
      rw [if_pos hk, if_pos hmem, hold, List.filter_append]
      simp [hk]
    · have hiff : (∃ b ∈ l ++ [a], f b = k) ↔ ∃ b ∈ l, f b = k := by
        constructor
        · rintro ⟨b, hb, hbk⟩
          rcases List.mem_append.mp hb with hb | hb
          · exact ⟨b, hb, hbk⟩
          · rw [List.mem_singleton.mp hb] at hbk
            exact absurd hbk.symm hk
        · rintro ⟨b, hb, hbk⟩
          exact ⟨b, List.mem_append_left _ hb, hbk⟩
      have hlast : [a].filter (fun b => decide (f b = k)) = [] := by
        simp [Ne.symm hk]
      rw [if_neg hk, ih, List.filter_append, hlast, List.append_nil]
      simp only [hiff]

/-- The groups are those of the entries. -/
theorem mem_keys_group {f : α → K} {l : List α} {k : K} :
    k ∈ (group f l).keys ↔ ∃ a ∈ l, f a = k := by
  rw [← AList.mem_keys, ← AList.lookup_isSome, lookup_group]
  split_ifs with h
  · simp [h]
  · simp [h]

/-- The group of a key, empty where there is none. -/
theorem getD_lookup_group (f : α → K) (l : List α) (k : K) :
    ((group f l).lookup k).getD [] = l.filter fun a => f a = k := by
  rw [lookup_group]
  split_ifs with h
  · rfl
  · refine (List.filter_eq_nil_iff.mpr fun a ha hak => h ⟨a, ha, ?_⟩).symm
    exact of_decide_eq_true hak

/-! ## Receivers -/

/-- The batch of a key, for its receiver. -/
def batchOf (receivers : K → Option W) (batches : K → List α) (k : K) : Option (W × List α) :=
  (receivers k).map fun w => (w, batches k)

/-- What a receiver has got. -/
def sentTo [DecidableEq W] (w : W) (sent : List (W × List α)) : List α :=
  (sent.filter fun batch => batch.1 = w).flatMap fun batch => batch.2

theorem sentTo_cons [DecidableEq W] (w : W) (batch : W × List α) (sent : List (W × List α)) :
    sentTo w (batch :: sent) = (if batch.1 = w then batch.2 else []) ++ sentTo w sent := by
  rw [sentTo, List.filter_cons]
  by_cases h : batch.1 = w
  · simp [h, sentTo]
  · simp [h, sentTo]

/-- What a receiver has got of a key. -/
theorem filter_sentTo [DecidableEq W] {receivers : K → Option W} {batches : K → List α}
    {f : α → K} (hbatches : ∀ k, ∀ a ∈ batches k, f a = k) {order : List K} (hnodup : order.Nodup)
    {k : K} {w : W} (hk : receivers k = some w) :
    ((sentTo w (order.filterMap (batchOf receivers batches))).filter fun a => f a = k) =
      if k ∈ order then batches k else [] := by
  induction order with
  | nil => rfl
  | cons k' order ih =>
    obtain ⟨hnew, hnodup⟩ := List.nodup_cons.mp hnodup
    have hrest := ih hnodup
    cases hreceiver : receivers k' with
    | none =>
      have hne : k ≠ k' := by
        rintro rfl
        exact absurd (hk.symm.trans hreceiver) (by simp)
      have hnone : batchOf receivers batches k' = none := by
        rw [batchOf, hreceiver]
        rfl
      rw [List.filterMap_cons_none hnone, hrest]
      simp [hne]
    | some w' =>
      have hsome : batchOf receivers batches k' = some (w', batches k') := by
        rw [batchOf, hreceiver]
        rfl
      rw [List.filterMap_cons_some hsome, sentTo_cons, List.filter_append, hrest]
      by_cases hkey : k = k'
      · subst hkey
        obtain rfl := Option.some.inj (hk.symm.trans hreceiver)
        have hall : ((batches k).filter fun a => f a = k) = batches k :=
          List.filter_eq_self.mpr fun a ha => decide_eq_true (hbatches k a ha)
        simp [hall, hnew]
      · -- the batch of another key, whoever gets it
        have hother : ((if w' = w then batches k' else []).filter fun a => f a = k) = [] := by
          refine List.filter_eq_nil_iff.mpr fun a ha hak => hkey ?_
          split_ifs at ha
          · exact (of_decide_eq_true hak).symm.trans (hbatches k' a ha)
          · exact absurd ha (by simp)
        rw [hother]
        simp [hkey]

omit [DecidableEq K] in
/-- A walk that stops at the first key that fails passes every key that does not. -/
theorem forall_mem_takeWhile_iff {p : K → Bool} {order : List K} (hnodup : order.Nodup) :
    (∀ k ∈ order, p k = true → k ∈ order.takeWhile p) ↔
      order.Pairwise fun a b => p a = false → p b = false := by
  induction order with
  | nil => simp
  | cons k order ih =>
    obtain ⟨hnew, hnodup⟩ := List.nodup_cons.mp hnodup
    rw [List.pairwise_cons]
    cases hk : p k with
    | true =>
      rw [List.takeWhile_cons_of_pos hk, ← ih hnodup]
      constructor
      · intro h
        refine ⟨fun b _ hfalse => absurd hfalse (by simp), fun b hb hpb => ?_⟩
        rcases List.mem_cons.mp (h b (List.mem_cons_of_mem k hb) hpb) with rfl | hmem
        · exact absurd hb hnew
        · exact hmem
      · rintro ⟨-, h⟩ b hb hpb
        rcases List.mem_cons.mp hb with rfl | hb
        · exact List.mem_cons_self
        · exact List.mem_cons_of_mem k (h b hb hpb)
    | false =>
      rw [List.takeWhile_cons_of_neg (by simp [hk])]
      constructor
      · intro h
        have hall : ∀ b ∈ order, p b = false := by
          intro b hb
          by_contra hpb
          exact absurd (h b (List.mem_cons_of_mem k hb) (by simpa using hpb)) (by simp)
        refine ⟨fun b hb _ => hall b hb, ?_⟩
        exact List.Pairwise.imp_of_mem (fun _ hb _ _ => hall _ hb)
          (List.pairwise_of_forall (R := fun _ _ => True) fun _ _ => trivial)
      · rintro ⟨h, -⟩ b hb hpb
        rcases List.mem_cons.mp hb with rfl | hb
        · exact absurd (hpb.symm.trans hk) (by simp)
        · exact absurd (hpb.symm.trans (h b hb rfl)) (by simp)

end FanOut
