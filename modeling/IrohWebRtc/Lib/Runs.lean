import Mathlib.Logic.Relation

/-!
# Runs of a labelled transition system

A system is a step function `step : σ → α → Option σ`: in state `s` the event `a` either leads
to a state or is not enabled.  `run step s as` is the state after the events `as`, and the rules
below are the ones by which a fact about one step becomes a fact about every run.

* `run_append`, `run_concat`: running in two parts, and running one more event.
* `run_invariant`: what every step preserves, every run preserves.
* `Guarded g`: every event of the run meets `g` in the state in which it happens, with
  `run_invariant_of_guarded`: what the guarded steps preserve, a guarded run preserves, and
  `guarded_iff_forall_split`: a run is guarded when each of its splits is.
* `forall_prefix_iff_guarded`: every state of a run has a property exactly when the run is guarded
  by what keeps the property.
* `iff_guarded_of_lost`: the same for the last state, when the property is lost for good.
* `exists_step_of_run`: a property that does not hold at the start of a run and holds at its end
  was established by one of its steps.
* `total`: a step function that is always enabled, and its runs as a `foldl`, with the invariant
  rule once more (`foldl_invariant_of_guarded`).
-/

namespace Runs

variable {σ α : Type*}

/-- Where an entry of a list with a last one stands. -/
theorem append_singleton_eq_append_cons {l pre post : List α} {a x : α}
    (h : l ++ [x] = pre ++ a :: post) :
    post = [] ∧ l = pre ∧ x = a ∨ ∃ post', post = post' ++ [x] ∧ l = pre ++ a :: post' := by
  rcases List.eq_nil_or_concat post with rfl | ⟨post', y, rfl⟩
  · obtain ⟨hl, hx⟩ := List.append_inj' h rfl
    exact Or.inl ⟨rfl, hl, (List.cons.inj hx).1⟩
  · rw [List.concat_eq_append, ← List.cons_append, ← List.append_assoc] at h
    obtain ⟨hl, hx⟩ := List.append_inj' h rfl
    obtain ⟨rfl, -⟩ := List.cons.inj hx
    exact Or.inr ⟨post', List.concat_eq_append, hl⟩

section Partial

variable (step : σ → α → Option σ)

/-- The state after the events `as`, when each is enabled in its turn. -/
def run : σ → List α → Option σ
  | s, [] => some s
  | s, a :: as => (step s a).bind fun t => run t as

/-- Some run leads from `s` to `t`. -/
def Reachable (s t : σ) : Prop := ∃ as, run step s as = some t

/-- Every event of the run meets `g` in the state in which it happens. -/
def Guarded (g : σ → α → Prop) : σ → List α → Prop
  | _, [] => True
  | s, a :: as => g s a ∧ ∀ t, step s a = some t → Guarded g t as

variable {step}

@[simp] theorem run_nil (s : σ) : run step s [] = some s := rfl

theorem run_cons {s u : σ} {a : α} {as : List α} :
    run step s (a :: as) = some u ↔ ∃ t, step s a = some t ∧ run step t as = some u :=
  Option.bind_eq_some_iff

theorem run_append {s u : σ} {as bs : List α} :
    run step s (as ++ bs) = some u ↔ ∃ t, run step s as = some t ∧ run step t bs = some u := by
  induction as generalizing s with
  | nil => simp
  | cons a as ih =>
    rw [List.cons_append, run_cons]
    constructor
    · rintro ⟨t, ht, hu⟩
      obtain ⟨v, hv, hu⟩ := ih.mp hu
      exact ⟨v, run_cons.mpr ⟨t, ht, hv⟩, hu⟩
    · rintro ⟨v, hv, hu⟩
      obtain ⟨t, ht, hv⟩ := run_cons.mp hv
      exact ⟨t, ht, ih.mpr ⟨v, hv, hu⟩⟩

theorem run_concat {s u : σ} {as : List α} {a : α} :
    run step s (as ++ [a]) = some u ↔ ∃ t, run step s as = some t ∧ step t a = some u := by
  rw [run_append]
  refine exists_congr fun t => and_congr_right fun _ => ?_
  rw [run_cons]
  simp

@[simp] theorem Guarded.nil (g : σ → α → Prop) (s : σ) : Guarded step g s [] := trivial

theorem Guarded.cons {g : σ → α → Prop} {s t : σ} {a : α} {as : List α} (hg : g s a)
    (hstep : step s a = some t) (has : Guarded step g t as) : Guarded step g s (a :: as) := by
  refine ⟨hg, fun u hu => ?_⟩
  obtain rfl := Option.some.inj (hstep.symm.trans hu)
  exact has

theorem Guarded.mono {g h : σ → α → Prop} (hgh : ∀ s a, g s a → h s a) {s : σ} {as : List α}
    (hg : Guarded step g s as) : Guarded step h s as := by
  induction as generalizing s with
  | nil => trivial
  | cons a as ih => exact ⟨hgh s a hg.1, fun t ht => ih (hg.2 t ht)⟩

theorem Guarded.and {g h : σ → α → Prop} {s : σ} {as : List α} (hg : Guarded step g s as)
    (hh : Guarded step h s as) : Guarded step (fun s a => g s a ∧ h s a) s as := by
  induction as generalizing s with
  | nil => trivial
  | cons a as ih => exact ⟨⟨hg.1, hh.1⟩, fun t ht => ih (hg.2 t ht) (hh.2 t ht)⟩

theorem Guarded.of_forall {g : σ → α → Prop} {s : σ} {as : List α}
    (h : ∀ a ∈ as, ∀ s, g s a) : Guarded step g s as := by
  induction as generalizing s with
  | nil => trivial
  | cons a as ih =>
    exact ⟨h a List.mem_cons_self s, fun t _ => ih fun b hb => h b (List.mem_cons_of_mem _ hb)⟩

/-- A guarded run goes on with a guarded one. -/
theorem Guarded.append {g : σ → α → Prop} {s : σ} {as bs : List α} (h : Guarded step g s as)
    (hbs : ∀ t, run step s as = some t → Guarded step g t bs) : Guarded step g s (as ++ bs) := by
  induction as generalizing s with
  | nil => exact hbs s rfl
  | cons a as ih =>
    exact ⟨h.1, fun t ht => ih (h.2 t ht) fun u hu => hbs u (run_cons.mpr ⟨t, ht, hu⟩)⟩

theorem Guarded.append_left {g : σ → α → Prop} {s : σ} {as bs : List α}
    (h : Guarded step g s (as ++ bs)) : Guarded step g s as := by
  induction as generalizing s with
  | nil => trivial
  | cons a as ih => exact ⟨h.1, fun t ht => ih (h.2 t ht)⟩

theorem Guarded.append_right {g : σ → α → Prop} {s t : σ} {as bs : List α}
    (h : Guarded step g s (as ++ bs)) (ht : run step s as = some t) : Guarded step g t bs := by
  induction as generalizing s with
  | nil =>
    obtain rfl : s = t := Option.some.inj ht
    exact h
  | cons a as ih =>
    obtain ⟨u, hu, hut⟩ := run_cons.mp ht
    exact ih (h.2 u hu) hut

/-- Whether a run is guarded is decided along the run. -/
def decideGuarded (g : σ → α → Prop) [∀ s a, Decidable (g s a)] :
    ∀ s as, Decidable (Guarded step g s as)
  | _, [] => .isTrue trivial
  | s, a :: as =>
    match h : step s a with
    | none => decidable_of_iff (g s a) (by simp [Guarded, h])
    | some t =>
      have := decideGuarded g t as
      decidable_of_iff (g s a ∧ Guarded step g t as) (by simp [Guarded, h])

instance (g : σ → α → Prop) [∀ s a, Decidable (g s a)] (s : σ) (as : List α) :
    Decidable (Guarded step g s as) := decideGuarded g s as

/-- A run is guarded exactly when the guard holds at every one of its splits. -/
theorem guarded_iff_forall_split {g : σ → α → Prop} {s : σ} {as : List α} :
    Guarded step g s as ↔
      ∀ pre a post t, as = pre ++ a :: post → run step s pre = some t → g t a := by
  constructor
  · rintro h pre a post t rfl ht
    exact (h.append_right ht).1
  · intro h
    induction as generalizing s with
    | nil => trivial
    | cons a as ih =>
      refine ⟨h [] a as s rfl rfl, fun t ht => ih ?_⟩
      rintro pre b post u rfl hu
      exact h (a :: pre) b post u rfl (run_cons.mpr ⟨t, ht, hu⟩)

/-! ## The invariant rules -/

/-- What the guarded steps preserve, a guarded run preserves. -/
theorem run_invariant_of_guarded {g : σ → α → Prop} {I : σ → Prop}
    (hstep : ∀ s a t, I s → g s a → step s a = some t → I t)
    {s t : σ} {as : List α} (hs : I s) (hg : Guarded step g s as)
    (hrun : run step s as = some t) : I t := by
  induction as generalizing s with
  | nil =>
    obtain rfl : s = t := Option.some.inj hrun
    exact hs
  | cons a as ih =>
    obtain ⟨u, hu, hut⟩ := run_cons.mp hrun
    exact ih (hstep s a u hs hg.1 hu) (hg.2 u hu) hut

/-- What every step preserves, every run preserves. -/
theorem run_invariant {I : σ → Prop} (hstep : ∀ s a t, I s → step s a = some t → I t)
    {s t : σ} {as : List α} (hs : I s) (hrun : run step s as = some t) : I t := by
  induction as generalizing s with
  | nil =>
    obtain rfl : s = t := Option.some.inj hrun
    exact hs
  | cons a as ih =>
    obtain ⟨u, hu, hut⟩ := run_cons.mp hrun
    exact ih (hstep s a u hs hu) hut

theorem Reachable.invariant {I : σ → Prop} (hstep : ∀ s a t, I s → step s a = some t → I t)
    {s t : σ} (hs : I s) (h : Reachable step s t) : I t :=
  let ⟨_, hrun⟩ := h
  run_invariant hstep hs hrun

/-- **A property of every state of a run.**  Where a step out of a state with the property, in an
invariant, keeps the property exactly when it meets `g`, the states of a run have the property
exactly when the first one has it and the run is guarded. -/
theorem forall_prefix_iff_guarded {g : σ → α → Prop} {I P : σ → Prop}
    (hI : ∀ s a t, I s → step s a = some t → I t)
    (hstep : ∀ s a t, I s → P s → step s a = some t → (P t ↔ g s a))
    {s u : σ} {as : List α} (hs : I s) (hrun : run step s as = some u) :
    (∀ pre post t, as = pre ++ post → run step s pre = some t → P t) ↔
      P s ∧ Guarded step g s as := by
  constructor
  · intro h
    refine ⟨h [] as s rfl rfl, guarded_iff_forall_split.mpr ?_⟩
    rintro pre a post t rfl hpre
    obtain ⟨t', ht', hpost⟩ := run_append.mp hrun
    obtain rfl := Option.some.inj (hpre.symm.trans ht')
    obtain ⟨v, hv, -⟩ := run_cons.mp hpost
    have hPt : P t := h pre (a :: post) t rfl hpre
    have hPv : P v := h (pre ++ [a]) post v (by simp) (run_concat.mpr ⟨t, hpre, hv⟩)
    exact (hstep t a v (run_invariant hI hs hpre) hPt hv).mp hPv
  · rintro ⟨hP, hguard⟩ pre post t rfl hpre
    have hIP : I t ∧ P t :=
      run_invariant_of_guarded (I := fun t => I t ∧ P t)
        (fun t a v ht hg hv => ⟨hI t a v ht.1 hv, (hstep t a v ht.1 ht.2 hv).mpr hg⟩)
        ⟨hs, hP⟩ hguard.append_left hpre
    exact hIP.2

/-- **A property that is lost for good.**  Where no step restores the property, it holds at the end
of a run exactly when the run is guarded by what keeps it. -/
theorem iff_guarded_of_lost {g : σ → α → Prop} {I P : σ → Prop}
    (hI : ∀ s a t, I s → step s a = some t → I t)
    (hstep : ∀ s a t, I s → P s → step s a = some t → (P t ↔ g s a))
    (hlost : ∀ s a t, I s → ¬ P s → step s a = some t → ¬ P t)
    {s u : σ} {as : List α} (hs : I s) (hP : P s) (hrun : run step s as = some u) :
    P u ↔ Guarded step g s as := by
  have hall := forall_prefix_iff_guarded hI hstep hs hrun
  constructor
  · intro hu
    refine (hall.mp ?_).2
    rintro pre post t rfl ht
    obtain ⟨t', ht', hpost⟩ := run_append.mp hrun
    obtain rfl := Option.some.inj (ht.symm.trans ht')
    refine Classical.byContradiction fun hnot => ?_
    have hend : I u ∧ ¬ P u :=
      run_invariant (I := fun t => I t ∧ ¬ P t)
        (fun t a v h hv => ⟨hI t a v h.1 hv, hlost t a v h.1 h.2 hv⟩)
        ⟨run_invariant hI hs ht, hnot⟩ hpost
    exact hend.2 hu
  · intro hg
    exact hall.mpr ⟨hP, hg⟩ as [] u (by simp) hrun

/-- A property that fails at the start of a run and holds at its end was established by one of
its steps. -/
theorem exists_step_of_run {P : σ → Prop} {s t : σ} {as : List α} (hs : ¬ P s) (ht : P t)
    (hrun : run step s as = some t) :
    ∃ pre a post u v, as = pre ++ a :: post ∧ run step s pre = some u ∧ step u a = some v ∧
      run step v post = some t ∧ ¬ P u ∧ P v := by
  induction as generalizing s with
  | nil =>
    obtain rfl : s = t := Option.some.inj hrun
    exact absurd ht hs
  | cons a as ih =>
    obtain ⟨v, hv, hvt⟩ := run_cons.mp hrun
    by_cases hP : P v
    · exact ⟨[], a, as, s, v, rfl, rfl, hv, hvt, hs, hP⟩
    · obtain ⟨pre, b, post, u, w, rfl, hu, hw, hpost, hnot, hyes⟩ := ih hP hvt
      exact ⟨a :: pre, b, post, u, w, rfl, run_cons.mpr ⟨v, hv, hu⟩, hw, hpost, hnot, hyes⟩

end Partial

/-! ## Steps that are always enabled -/

/-- A step function that is always enabled, as a system. -/
def total (f : σ → α → σ) : σ → α → Option σ := fun s a => some (f s a)

variable {f : σ → α → σ}

theorem total_eq_some {s t : σ} {a : α} : total f s a = some t ↔ f s a = t :=
  Option.some_inj

@[simp] theorem run_total (s : σ) (as : List α) : run (total f) s as = some (as.foldl f s) := by
  induction as generalizing s with
  | nil => rfl
  | cons a as ih => exact run_cons.mpr ⟨f s a, rfl, ih (f s a)⟩

/-- The invariant rule for a step function that is always enabled. -/
theorem foldl_invariant_of_guarded {g : σ → α → Prop} {I : σ → Prop}
    (hstep : ∀ s a, I s → g s a → I (f s a)) {s : σ} {as : List α} (hs : I s)
    (hg : Guarded (total f) g s as) : I (as.foldl f s) := by
  refine run_invariant_of_guarded (fun s a t hI hga ht => ?_) hs hg (run_total s as)
  rw [← total_eq_some.mp ht]
  exact hstep s a hI hga

/-- A property of every state of a run whose steps are always enabled. -/
theorem foldl_forall_prefix_iff_guarded {g : σ → α → Prop} {I P : σ → Prop}
    (hI : ∀ s a, I s → I (f s a)) (hstep : ∀ s a, I s → P s → (P (f s a) ↔ g s a))
    {s : σ} (as : List α) (hs : I s) :
    (∀ pre post, as = pre ++ post → P (pre.foldl f s)) ↔ P s ∧ Guarded (total f) g s as := by
  have hI' : ∀ s a t, I s → total f s a = some t → I t := by
    intro s a t h ht
    rw [← total_eq_some.mp ht]
    exact hI s a h
  have hstep' : ∀ s a t, I s → P s → total f s a = some t → (P t ↔ g s a) := by
    intro s a t h hP ht
    rw [← total_eq_some.mp ht]
    exact hstep s a h hP
  rw [← forall_prefix_iff_guarded hI' hstep' hs (run_total s as)]
  refine forall₂_congr fun pre post =>
    ⟨fun h t has ht => ?_, fun h has => h _ has (run_total s pre)⟩
  rw [run_total, Option.some.injEq] at ht
  exact ht ▸ h has

end Runs
