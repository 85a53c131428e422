import IrohWebRtc.Core.Signaling
import Mathlib.Data.Fintype.Card
import Mathlib.Data.List.Nodup

/-!
# Dial ids do not repeat

A dial id is the head of a hash of initiator, responder, epoch and generation.  Here any number of
generators, each with its own initiator and epoch, hand out dial ids in any order, and every id is
recorded with the generator and the remote it was handed out for.

The hash is a parameter, so nothing can be said of ids that collide in it.  What can be proved is
everything in front of it: that the four parts are laid out in such a way that they can be read
off the bytes again, and that no generator hashes the same four parts twice.  The generation is a
counter that a generator keeps for each remote, beginning at zero; at the last `u64` it panics
rather than wraps, which the model shows as a call that has no result.

* `dialIdPreimage_injective`: the four parts can be read off the bytes that are hashed.
* `handedOut_callAll`: what a sequence of calls has handed out for one remote of one generator are
  the generations `0, 1, 2, ...`, as many as there were calls for it, up to the last `u64`.
* `dialIds_distinct`: the bytes that are hashed are pairwise distinct, and so are the ids unless
  two of them collide.

Two generators of one initiator must differ in their epochs, sixteen random bytes which are a
parameter too.
-/

namespace IrohWebRtc

open Bytes

/-! ## The bytes that are hashed -/

section Preimage

variable {E : Type*} [EndpointKey E]

theorem asBytes_injective : Function.Injective (EndpointKey.asBytes : E → FixedBytes 32) := by
  intro a b h
  have ha := EndpointKey.fromBytes_asBytes a
  rw [h, EndpointKey.fromBytes_asBytes b] at ha
  exact (Option.some.inj ha).symm

/-- **The layout is injective**: initiator, responder and epoch have fixed lengths, and so has a
generation that is a `u64`. -/
theorem dialIdPreimage_injective {initiator responder initiator' responder' : E}
    {epoch epoch' : FixedBytes 16} {generation generation' : ℕ} (hle : generation ≤ u64Max)
    (hle' : generation' ≤ u64Max)
    (h : dialIdPreimage initiator responder epoch generation =
      dialIdPreimage initiator' responder' epoch' generation') :
    initiator = initiator' ∧ responder = responder' ∧ epoch = epoch' ∧
      generation = generation' := by
  have hu64 : u64Max < 256 ^ 8 := by decide
  unfold dialIdPreimage at h
  obtain ⟨h, hgeneration⟩ := List.append_inj' h (by rw [length_toBe, length_toBe])
  obtain ⟨h, hepoch⟩ := List.append_inj' h (by rw [epoch.length_toList, epoch'.length_toList])
  obtain ⟨h, hresponder⟩ := List.append_inj' h
    (by rw [FixedBytes.length_toList, FixedBytes.length_toList])
  have hinitiator := List.append_cancel_left h
  refine ⟨asBytes_injective (FixedBytes.ext hinitiator),
    asBytes_injective (FixedBytes.ext hresponder), FixedBytes.ext hepoch, ?_⟩
  rw [← fromBe_toBe (hle.trans_lt hu64), hgeneration, fromBe_toBe (hle'.trans_lt hu64)]

end Preimage

/-! ## Generators and what they hand out -/

/-- A dial id that was handed out. -/
structure DialRecord (ι E : Type*) where
  generator : ι
  remote : E
  session : DialSessionId

/-- Generators, with the ids they have handed out, in order. -/
structure DialTrace (ι E : Type*) where
  generators : ι → DialIdGenerator E
  handedOut : List (DialRecord ι E)

namespace DialTrace

variable {ι E : Type*}

/-- Generators with their initiators and epochs. -/
def start (localId : ι → E) (epoch : ι → FixedBytes 16) : DialTrace ι E :=
  ⟨fun i => .withEpoch (localId i) (epoch i), []⟩

section Calls

variable [DecidableEq ι] [DecidableEq E]

/-- The generations that generator `i` has handed out for `remote`, in order. -/
def generations (t : DialTrace ι E) (i : ι) (remote : E) : List ℕ :=
  (t.handedOut.filter fun d => d.generator = i && d.remote = remote).map
    fun d => d.session.generation

variable [EndpointKey E] [Blake3]

/-- A call of `next`.  One that panics hands out nothing and leaves its counter as it is. -/
def call (t : DialTrace ι E) (c : ι × E) : DialTrace ι E :=
  match (t.generators c.1).next c.2 with
  | none => t
  | some (session, generator) =>
    { generators := Function.update t.generators c.1 generator
      handedOut := t.handedOut ++ [⟨c.1, c.2, session⟩] }

/-- The calls in turn. -/
def callAll (t : DialTrace ι E) (calls : List (ι × E)) : DialTrace ι E := calls.foldl call t

end Calls

/-- The number of ids that `n` calls for one remote hand out: the last `u64` is not among the
generations, since the counter cannot be advanced past it. -/
def handedOutAfter (n : ℕ) : ℕ := min n u64Max

/-- What `calls` have made of the generators. -/
structure HandedOut [DecidableEq ι] [DecidableEq E] [EndpointKey E] [Blake3] (localId : ι → E)
    (epoch : ι → FixedBytes 16) (calls : List (ι × E)) (t : DialTrace ι E) : Prop where
  generators : ∀ i, t.generators i =
    ⟨localId i, epoch i, fun remote => handedOutAfter (calls.count (i, remote))⟩
  generations : ∀ i remote,
    t.generations i remote = List.range (handedOutAfter (calls.count (i, remote)))
  ids : ∀ d ∈ t.handedOut, d.session.dialId =
    fromInitiatorSequence (localId d.generator) d.remote (epoch d.generator) d.session.generation

section Step

variable [DecidableEq E] [EndpointKey E] [Blake3]

theorem next_eq_none {generator : DialIdGenerator E} {remote : E} :
    generator.next remote = none ↔ u64Max ≤ generator.nextByRemote remote := by
  rw [DialIdGenerator.next, Option.map_eq_none_iff, DialIdGenerator.nextGeneration]
  simp only [ite_eq_left_iff, reduceCtorEq, imp_false, not_not]
  exact Nat.lt_succ_iff

theorem next_eq_some {generator : DialIdGenerator E} {remote : E}
    (h : generator.nextByRemote remote < u64Max) :
    generator.next remote =
      some (⟨fromInitiatorSequence generator.localId remote generator.epoch
          (generator.nextByRemote remote), generator.nextByRemote remote⟩,
        { generator with
          nextByRemote := fun r =>
            if r = remote then generator.nextByRemote remote + 1
            else generator.nextByRemote r }) := by
  have hnot : ¬ u64Max < generator.nextByRemote remote + 1 := by omega
  rw [DialIdGenerator.next, DialIdGenerator.nextGeneration]
  simp only [if_neg hnot, Option.map_some]

end Step

/-! ## What a sequence of calls hands out -/

theorem handedOutAfter_of_le {n : ℕ} (h : u64Max ≤ handedOutAfter n) (k : ℕ) :
    handedOutAfter (n + k) = handedOutAfter n := by
  unfold handedOutAfter at h ⊢
  omega

theorem handedOutAfter_succ {n : ℕ} (h : handedOutAfter n < u64Max) :
    handedOutAfter (n + 1) = handedOutAfter n + 1 := by
  unfold handedOutAfter at h ⊢
  omega

section Runs

variable [DecidableEq ι] [DecidableEq E] [EndpointKey E] [Blake3]
  {localId : ι → E} {epoch : ι → FixedBytes 16} {calls : List (ι × E)} {t : DialTrace ι E}

theorem handedOut_start : HandedOut localId epoch [] (start localId epoch) where
  generators := fun _ => rfl
  generations := fun _ _ => rfl
  ids := fun _ h => absurd h List.not_mem_nil

omit [EndpointKey E] [Blake3] in
theorem count_concat (c : ι × E) (i : ι) (remote : E) :
    (calls ++ [c]).count (i, remote) =
      calls.count (i, remote) + if c = (i, remote) then 1 else 0 := by
  rw [List.count_append, List.count_singleton]
  simp only [beq_iff_eq]

/-- A call of an exhausted counter panics and changes nothing; another one hands out the next
generation of its remote. -/
theorem HandedOut.call (h : HandedOut localId epoch calls t) (c : ι × E) :
    HandedOut localId epoch (calls ++ [c]) (t.call c) := by
  obtain ⟨j, target⟩ := c
  have hcounter : (t.generators j).nextByRemote target = handedOutAfter (calls.count (j, target)) := by
    rw [h.generators]
  by_cases hexhausted : u64Max ≤ handedOutAfter (calls.count (j, target))
  · have hcall : t.call (j, target) = t := by
      rw [DialTrace.call, next_eq_none.mpr (hcounter ▸ hexhausted)]
    have hsame : ∀ i remote, handedOutAfter ((calls ++ [(j, target)]).count (i, remote)) =
        handedOutAfter (calls.count (i, remote)) := by
      intro i remote
      rw [count_concat]
      split_ifs with heq
      · exact handedOutAfter_of_le (heq ▸ hexhausted) 1
      · rfl
    rw [hcall]
    exact ⟨fun i => by simp only [h.generators i, hsame],
      fun i remote => by rw [h.generations, hsame], h.ids⟩
  · have hroom : handedOutAfter (calls.count (j, target)) < u64Max := Nat.lt_of_not_le hexhausted
    have hnext := next_eq_some (hcounter ▸ hroom)
    rw [hcounter, h.generators] at hnext
    have hcall : t.call (j, target) =
        { generators := Function.update t.generators j
            ⟨localId j, epoch j, fun r =>
              if r = target then handedOutAfter (calls.count (j, target)) + 1
              else handedOutAfter (calls.count (j, r))⟩
          handedOut := t.handedOut ++ [⟨j, target, ⟨fromInitiatorSequence (localId j) target (epoch j)
            (handedOutAfter (calls.count (j, target))), handedOutAfter (calls.count (j, target))⟩⟩] } := by
      rw [DialTrace.call, h.generators, hnext]
    rw [hcall]
    refine ⟨fun i => ?_, fun i remote => ?_, fun d hd => ?_⟩
    · by_cases hi : i = j
      · subst hi
        refine (Function.update_self i _ t.generators).trans ?_
        congr 1
        funext r
        rw [count_concat]
        by_cases hr : r = target
        · subst hr
          rw [if_pos rfl, if_pos rfl, handedOutAfter_succ hroom]
        · rw [if_neg hr, if_neg fun heq => hr (Prod.mk.inj heq).2.symm]
          rfl
      · refine (Function.update_of_ne hi _ t.generators).trans ?_
        rw [h.generators]
        congr 1
        funext r
        rw [count_concat, if_neg fun heq => hi (Prod.mk.inj heq).1.symm]
        rfl
    · rw [count_concat, DialTrace.generations, List.filter_append, List.map_append,
        ← DialTrace.generations, h.generations]
      by_cases heq : (j, target) = (i, remote)
      · obtain ⟨rfl, rfl⟩ := Prod.mk.inj heq
        rw [if_pos rfl, handedOutAfter_succ hroom, List.range_succ]
        simp
      · have hne : ¬ (j = i ∧ target = remote) := fun ⟨hi, hr⟩ => heq (by rw [hi, hr])
        rw [if_neg heq, List.filter_cons_of_neg (by simpa using fun hi hr => hne ⟨hi, hr⟩)]
        simp
    · rcases List.mem_append.mp hd with hd | hd
      · exact h.ids d hd
      · rw [List.mem_singleton.mp hd]

/-- **What a sequence of calls hands out.** -/
theorem handedOut_callAll (localId : ι → E) (epoch : ι → FixedBytes 16) (calls : List (ι × E)) :
    HandedOut localId epoch calls ((start localId epoch).callAll calls) := by
  induction calls using List.reverseRecOn with
  | nil => exact handedOut_start
  | append_singleton calls c ih =>
    have hlast : (start localId epoch).callAll (calls ++ [c]) =
        ((start localId epoch).callAll calls).call c := by
      rw [callAll, List.foldl_append]
      rfl
    rw [hlast]
    exact ih.call c

/-- The generations that were handed out are below the counter. -/
theorem HandedOut.generation_lt (h : HandedOut localId epoch calls t) {d : DialRecord ι E}
    (hd : d ∈ t.handedOut) :
    d.session.generation < handedOutAfter (calls.count (d.generator, d.remote)) := by
  rw [← List.mem_range, ← h.generations]
  exact List.mem_map.mpr ⟨d, List.mem_filter.mpr ⟨hd, by simp⟩, rfl⟩

end Runs

/-! ## Distinct ids -/

/-- The bytes that were hashed for a dial id. -/
def preimage [EndpointKey E] (localId : ι → E) (epoch : ι → FixedBytes 16) (d : DialRecord ι E) :
    List UInt8 :=
  dialIdPreimage (localId d.generator) d.remote (epoch d.generator) d.session.generation

/-- Records of one generator for one remote differ in their generations. -/
theorem pairwise_of_generations_nodup [DecidableEq ι] [DecidableEq E] {l : List (DialRecord ι E)}
    (h : ∀ i remote, ((l.filter fun d => d.generator = i && d.remote = remote).map
      fun d => d.session.generation).Nodup) :
    l.Pairwise fun d d' => ¬ (d.generator = d'.generator ∧ d.remote = d'.remote ∧
      d.session.generation = d'.session.generation) := by
  induction l with
  | nil => exact List.Pairwise.nil
  | cons d l ih =>
    refine List.pairwise_cons.mpr ⟨?_, ih fun i remote => (h i remote).sublist ?_⟩
    · rintro d' hd' ⟨hi, hremote, hgeneration⟩
      have hnodup := h d.generator d.remote
      rw [List.filter_cons_of_pos (by simp), List.map_cons, List.nodup_cons] at hnodup
      refine hnodup.1 (hgeneration ▸ List.mem_map.mpr ⟨d', List.mem_filter.mpr ⟨hd', ?_⟩, rfl⟩)
      simp [hi, hremote]
    · exact ((List.sublist_cons_self d l).filter _).map _

section Distinct

variable [DecidableEq ι] [DecidableEq E] [EndpointKey E] [Blake3]

/-- **Dial ids do not repeat.**  Take generators no two of which have both initiator and epoch in
common, and any sequence of calls, in any order.  The bytes that are hashed for the dial ids are
pairwise distinct, so that the ids are distinct unless two of these hashes agree in their heads.  For
a remote, a generator hands out `0, 1, 2, ...`, whatever was asked for other remotes or of other
generators, and when the last `u64` is reached it panics. -/
theorem dialIds_distinct (localId : ι → E) (epoch : ι → FixedBytes 16)
    (hdistinct : Function.Injective fun i => (localId i, epoch i)) (calls : List (ι × E))
    {t : DialTrace ι E} (ht : t = (start localId epoch).callAll calls) :
    (t.handedOut.map (preimage localId epoch)).Nodup ∧
      (∀ d ∈ t.handedOut, d.session.dialId = hashHead (Blake3.hash (preimage localId epoch d))) ∧
      (Set.InjOn (fun bs => hashHead (Blake3.hash bs))
          {bs | bs ∈ t.handedOut.map (preimage localId epoch)} →
        (t.handedOut.map fun d => d.session.dialId).Nodup) ∧
      ∀ i remote,
        t.generations i remote = List.range (min (calls.count (i, remote)) u64Max) ∧
          ((t.generators i).next remote = none ↔ u64Max ≤ calls.count (i, remote)) := by
  have h : HandedOut localId epoch calls t := ht ▸ handedOut_callAll localId epoch calls
  have hpreimages : (t.handedOut.map (preimage localId epoch)).Nodup := by
    refine List.pairwise_map.mpr (List.Pairwise.imp_of_mem ?_ (pairwise_of_generations_nodup
      fun i remote => ?_))
    · intro d d' hd hd' hne heq
      have hle : ∀ x ∈ t.handedOut, x.session.generation ≤ u64Max := fun x hx =>
        (h.generation_lt hx).le.trans (Nat.min_le_right _ _)
      obtain ⟨hlocal, hremote, hepoch, hgeneration⟩ :=
        dialIdPreimage_injective (hle d hd) (hle d' hd') heq
      exact hne ⟨hdistinct (Prod.ext hlocal hepoch), hremote, hgeneration⟩
    · have hgenerations := h.generations i remote
      rw [generations] at hgenerations
      rw [hgenerations]
      exact List.nodup_range
  refine ⟨hpreimages, h.ids, fun hcollide => ?_, fun i remote => ⟨h.generations i remote, ?_⟩⟩
  · have hids : t.handedOut.map (fun d => d.session.dialId) =
        (t.handedOut.map (preimage localId epoch)).map fun bs => hashHead (Blake3.hash bs) := by
      rw [List.map_map]
      exact List.map_congr_left h.ids
    rw [hids]
    exact hpreimages.map_on fun bs hbs bs' hbs' heq => hcollide hbs hbs' heq
  · rw [next_eq_none, h.generators]
    show u64Max ≤ min (calls.count (i, remote)) u64Max ↔ _
    exact ⟨fun hle => hle.trans (Nat.min_le_left _ _), fun hle => le_min hle le_rfl⟩

end Distinct

section Sample

open scoped Sample
open Sample

/-- Alice and bob have one epoch and call each other. -/
theorem dialIds_distinct_sample :
    ∃ t : DialTrace Bool Key,
      t = (start (fun i => if i then alice else bob) fun _ => epoch).callAll
        [(true, bob), (false, alice), (true, bob)] ∧
      (t.handedOut.map (preimage (fun i => if i then alice else bob) fun _ => epoch)).Nodup ∧
      t.generations true bob = [0, 1] ∧ t.generations false alice = [0] := by
  have h := dialIds_distinct (fun i => if i then alice else bob) (fun _ => epoch) (by decide)
    [(true, bob), (false, alice), (true, bob)] rfl
  exact ⟨_, rfl, h.1, (h.2.2.2 true bob).1, (h.2.2.2 false alice).1⟩

end Sample

end DialTrace

end IrohWebRtc
