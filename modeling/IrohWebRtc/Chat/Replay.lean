import IrohWebRtc.Chat.Room
import IrohWebRtc.Lib.Runs
import IrohWebRtc.Lib.Window
import Mathlib.Data.Finset.Card

/-!
# Replayed messages of a chat room

`ReplayLru` remembers the last nonces of every signer, where a signer is the text that a message
was signed under.  A key has more than one text, so what is remembered of one key can be spread
over several entries, and a message that is remembered in one of them is new to the others.

The signature is checked under the key that the text parses to, and the payload contains the key,
not its text.  So a message may be sent again under another spelling of its signer without a new
signature.

The task is followed together with a log of what it has accepted.  Each entry of the map is the
window of the last nonces in the log under its text; `Protected` reads the log and the map by key,
which is how the comment in the source speaks of it.  Both are windows over the same log, and they
agree as long as every key keeps to one text.

* `rememberedFor_insert`: the nonces of a key, after one of its entries has changed.
* `wellLogged_step`: the entries are windows of the log.
* `protected_step_iff`: a step keeps the replay protection of keys exactly when it is `Spare`.
* `replay_protected_iff`: so does a run; and frames of other signers change nothing.
* `respelled_message_replayed`: a message is accepted twice under two spellings of its signer.
-/

namespace IrohWebRtc

open Bytes Runs Window

/-! ## The nonces of a key -/

namespace ReplayLru

theorem push_eq_slide (entry : List (FixedBytes 16)) (nonce : FixedBytes 16) :
    push entry nonce = slide 255 entry nonce := rfl

theorem push_rtake (nonces : List (FixedBytes 16)) (nonce : FixedBytes 16) :
    push (nonces.rtake replayCapPerSigner) nonce =
      (nonces ++ [nonce]).rtake replayCapPerSigner := by
  rw [push_eq_slide]
  exact slide_rtake 255 nonces nonce

variable [ChatLibraries]

/-- The nonces remembered for a key, under any of its spellings. -/
def rememberedFor (lru : ReplayLru) (key : FixedBytes 32) : List (FixedBytes 16) :=
  (lru.map.entries.filter fun e => signerPkBytes e.1 = some key).flatMap fun e => e.2

/-- The map without the entry of a signer. -/
def without (lru : ReplayLru) (signer : String) : ReplayLru := ⟨lru.map.erase signer⟩

variable {lru : ReplayLru} {key : FixedBytes 32}

/-- The nonces of a key after the entry of a signer was replaced. -/
theorem rememberedFor_insert (signer : String) (entry : List (FixedBytes 16)) :
    rememberedFor ⟨lru.map.insert signer entry⟩ key =
      (if signerPkBytes signer = some key then entry else []) ++
        (lru.without signer).rememberedFor key := by
  rw [rememberedFor, Table.entries_insert, List.filter_cons]
  simp only [decide_eq_true_eq]
  split_ifs with hkey
  · rw [List.flatMap_cons]
    rfl
  · rw [List.nil_append]
    rfl

/-- What is remembered for a key, with the entry of one signer in front. -/
theorem rememberedFor_perm (signer : String) :
    (lru.rememberedFor key).Perm
      ((if signerPkBytes signer = some key then lru.seen signer else []) ++
        (lru.without signer).rememberedFor key) := by
  cases hlookup : lru.map.lookup signer with
  | none =>
    have hseen : lru.seen signer = [] := by rw [seen, hlookup, Option.getD_none]
    rw [hseen, ite_self, List.nil_append, without, Table.erase_eq_self hlookup]
  | some entry =>
    have hseen : lru.seen signer = entry := by rw [seen, hlookup, Option.getD_some]
    have hperm := ((Table.perm_cons_erase hlookup).filter
      fun e => decide (signerPkBytes e.1 = some key)).flatMap_right fun e => e.2
    rw [List.filter_cons] at hperm
    simp only [decide_eq_true_eq] at hperm
    rw [hseen]
    split_ifs at hperm ⊢ with hkey
    · rwa [List.flatMap_cons] at hperm
    · rwa [List.nil_append]

theorem mem_rememberedFor {nonce : FixedBytes 16} :
    nonce ∈ lru.rememberedFor key ↔
      ∃ signer, signerPkBytes signer = some key ∧ nonce ∈ lru.seen signer := by
  rw [rememberedFor, List.mem_flatMap]
  constructor
  · rintro ⟨⟨signer, entry⟩, hmem, hnonce⟩
    obtain ⟨hentry, hkey⟩ := List.mem_filter.mp hmem
    have hlookup : lru.map.lookup signer = some entry := AList.mem_lookup_iff.mpr hentry
    refine ⟨signer, by simpa using hkey, ?_⟩
    rw [seen, hlookup]
    exact hnonce
  · rintro ⟨signer, hkey, hnonce⟩
    cases hlookup : lru.map.lookup signer with
    | none =>
      rw [seen, hlookup] at hnonce
      exact absurd hnonce List.not_mem_nil
    | some entry =>
      rw [seen, hlookup] at hnonce
      refine ⟨⟨signer, entry⟩, List.mem_filter.mpr ⟨?_, by simpa using hkey⟩, hnonce⟩
      exact AList.mem_lookup_iff.mp hlookup

omit [ChatLibraries] in
theorem seen_without {signer signer' : String} (h : signer' ≠ signer) :
    (lru.without signer).seen signer' = lru.seen signer' := by
  rw [seen, seen, without, AList.lookup_erase_ne h]

end ReplayLru

/-! ## What a task has accepted -/

/-- A message that was displayed: the spelling and the key of its signer, its nonce, and the
event. -/
structure Acceptance where
  signer : String
  key : FixedBytes 32
  nonce : FixedBytes 16
  event : ChatGossipEvent

/-- The nonces of the same key other than that of `first`. -/
def Acceptance.otherNonces (first : Acceptance) (log : List Acceptance) :
    Finset (FixedBytes 16) :=
  ((log.filter fun a => a.key = first.key ∧ a.nonce ≠ first.nonce).map fun a => a.nonce).toFinset

/-- Two messages with the same key and the same nonce are separated by a window full of other nonces
of that key. -/
def OncePerWindow (log : List Acceptance) : Prop :=
  ∀ pre first mid second post, log = pre ++ first :: (mid ++ second :: post) →
    second.key = first.key → second.nonce = first.nonce →
      replayCapPerSigner ≤ (first.otherNonces mid).card

theorem OncePerWindow.concat {log : List Acceptance} (h : OncePerWindow log) {a : Acceptance}
    (ha : ∀ pre first mid, log = pre ++ first :: mid → a.key = first.key →
      a.nonce = first.nonce → replayCapPerSigner ≤ (first.otherNonces mid).card) :
    OncePerWindow (log ++ [a]) := by
  intro pre first mid second post heq hkey hnonce
  rcases List.eq_nil_or_concat post with rfl | ⟨post', last, rfl⟩
  · have heq' : log ++ [a] = (pre ++ first :: mid) ++ [second] := by simpa using heq
    obtain ⟨hlog, ha'⟩ := List.append_inj' heq' rfl
    obtain rfl : a = second := List.singleton_inj.mp ha'
    exact ha pre first mid hlog hkey hnonce
  · have heq' : log ++ [a] = (pre ++ first :: (mid ++ second :: post')) ++ [last] := by
      simpa using heq
    obtain ⟨hlog, -⟩ := List.append_inj' heq' rfl
    exact h pre first mid second post' hlog hkey hnonce

namespace RoomTask

variable [ChatLibraries]

/-- An input whose message passes all the checks. -/
def Delivers (task : RoomTask) (input : RoomInput) (signer : String) (key : FixedBytes 32)
    (nonce : FixedBytes 16) : Prop :=
  task.ended = false ∧ ∃ content wire, input = .received content ∧
    task.keys.wireOf content = some wire ∧ task.Accepts wire signer key nonce

/-- The messages among the events of a step. -/
def accepted (task : RoomTask) : RoomInput → List Acceptance
  | .received content =>
    match (task.keys.wireOf content).bind ChatWireMessage.credentials with
    | none => []
    | some (signer, nonce, _) =>
      match signerPkBytes signer with
      | none => []
      | some key =>
        (task.step (.received content)).2.map fun event => ⟨signer, key, nonce, event⟩
  | _ => []

variable {task : RoomTask} {input : RoomInput} {signer signer' : String} {key key' : FixedBytes 32}
  {nonce nonce' : FixedBytes 16}

/-- An input has at most one signer and one nonce. -/
theorem Delivers.unique (h : task.Delivers input signer key nonce)
    (h' : task.Delivers input signer' key' nonce') :
    signer' = signer ∧ key' = key ∧ nonce' = nonce := by
  obtain ⟨-, content, wire, rfl, hwire, hkey, ⟨sig, hcredentials, -⟩, -⟩ := h
  obtain ⟨-, content', wire', hinput, hwire', hkey', ⟨sig', hcredentials', -⟩, -⟩ := h'
  obtain rfl := RoomInput.received.inj hinput
  obtain rfl := Option.some.inj (hwire.symm.trans hwire')
  obtain ⟨rfl, hrest⟩ := Prod.mk.inj (Option.some.inj (hcredentials.symm.trans hcredentials'))
  obtain ⟨rfl, -⟩ := Prod.mk.inj hrest
  exact ⟨rfl, Option.some.inj (hkey'.symm.trans hkey), rfl⟩

/-- What a step does to the nonces, and what it accepts. -/
theorem step_accepted (task : RoomTask) (input : RoomInput) :
    (∃ signer key nonce event, task.Delivers input signer key nonce ∧
        (∀ content, input = .received content →
          (task.keys.wireOf content).bind (ChatWireMessage.display task.topic) = some event) ∧
        (task.step input).1 = task.remember signer nonce ∧
        (task.step input).2 = [event] ∧
        task.accepted input = [⟨signer, key, nonce, event⟩]) ∨
      (∀ signer key nonce, ¬ task.Delivers input signer key nonce) ∧
        (task.step input).1.replay = task.replay ∧ task.accepted input = [] := by
  have hnot : task.ended = true → ∀ signer key nonce, ¬ task.Delivers input signer key nonce := by
    rintro hended signer key nonce ⟨hended', -⟩
    exact absurd (hended.symm.trans hended') (by simp)
  cases hended : task.ended with
  | true =>
    have hstep : task.step input = (task, []) := by
      unfold step
      rw [if_pos hended]
    refine Or.inr ⟨hnot hended, by rw [hstep], ?_⟩
    cases input with
    | received content =>
      simp only [accepted, hstep, List.map_nil]
      split
      · rfl
      · split <;> rfl
    | _ => rfl
  | false =>
    cases input with
    | received content =>
      rcases task.receive_cases content with
        ⟨wire, signer, key, nonce, event, hwire, haccepts, hdisplay, heq⟩ | ⟨hno, _, heq⟩
      · refine Or.inl ⟨signer, key, nonce, event, ⟨hended, content, wire, rfl, hwire, haccepts⟩,
          ?_, ?_⟩
        · rintro _ ⟨⟩
          rw [hwire, Option.bind_some, hdisplay]
        obtain ⟨hkey, ⟨sig, hcredentials, -⟩, -⟩ := haccepts
        rw [← step_received hended] at heq
        refine ⟨by rw [heq], by rw [heq], ?_⟩
        simp only [accepted, hwire, Option.bind_some, hcredentials, hkey, heq, List.map_cons,
          List.map_nil]
      · rw [← step_received hended] at heq
        refine Or.inr ⟨?_, by rw [heq], ?_⟩
        · rintro signer key nonce ⟨-, content', wire, hinput, hwire, haccepts⟩
          obtain rfl := RoomInput.received.inj hinput
          exact hno wire signer key nonce hwire haccepts
        · simp only [accepted, heq, List.map_nil]
          split
          · rfl
          · split <;> rfl
    | neighborUp _ _ | neighborDown _ | lagged | error _ | announced =>
      refine Or.inr ⟨?_, ?_, rfl⟩
      · rintro signer key nonce ⟨-, content, wire, hinput, -⟩
        exact absurd hinput (by simp)
      · unfold step
        rw [if_neg (by simp [hended])]

end RoomTask

/-- A task together with the messages it has accepted, oldest first. -/
structure RoomTrace where
  task : RoomTask
  log : List Acceptance

namespace RoomTrace

/-- A task that was just started. -/
def new (topic : String) (keys : RoomKeys) : RoomTrace := ⟨RoomTask.new topic keys, []⟩

/-- The nonces accepted under one spelling. -/
def noncesOf (signer : String) (log : List Acceptance) : List (FixedBytes 16) :=
  (log.filter fun a => a.signer = signer).map fun a => a.nonce

section

variable [ChatLibraries]

def step (t : RoomTrace) (input : RoomInput) : RoomTrace :=
  ⟨(t.task.step input).1, t.log ++ t.task.accepted input⟩

/-- **Replay protection by key.**  A nonce of a key is accepted again only after a window full of
others, and the nonces remembered for a key are distinct and fit into one window. -/
structure Protected (t : RoomTrace) : Prop where
  once : OncePerWindow t.log
  distinct : ∀ key, (t.task.replay.rememberedFor key).Nodup
  bounded : ∀ key, (t.task.replay.rememberedFor key).length ≤ replayCapPerSigner

/-- A message that passes all the checks finds its nonce under no other spelling of its key, and
room next to the nonces remembered under the other spellings. -/
def Spare (t : RoomTrace) (input : RoomInput) : Prop :=
  ∀ signer key nonce, t.task.Delivers input signer key nonce →
    nonce ∉ (t.task.replay.without signer).rememberedFor key ∧
      (ReplayLru.push (t.task.replay.seen signer) nonce).length +
        ((t.task.replay.without signer).rememberedFor key).length ≤ replayCapPerSigner

/-- Each entry of the map is the window of the last nonces that were accepted under its spelling. -/
structure WellLogged (t : RoomTrace) : Prop where
  window : ∀ signer, t.task.replay.seen signer = (noncesOf signer t.log).rtake replayCapPerSigner
  distinct : ∀ signer, (t.task.replay.seen signer).Nodup
  keys : ∀ a ∈ t.log, signerPkBytes a.signer = some a.key

variable {t : RoomTrace} {input : RoomInput}

/-! ## The windows of the log -/

omit [ChatLibraries] in
theorem seen_remember (task : RoomTask) (signer signer' : String) (nonce : FixedBytes 16) :
    (task.remember signer nonce).replay.seen signer' =
      if signer' = signer then ReplayLru.push (task.replay.seen signer) nonce
      else task.replay.seen signer' :=
  ReplayLru.seen_insert task.replay signer signer' _

omit [ChatLibraries] in
theorem noncesOf_concat (signer : String) (log : List Acceptance) (a : Acceptance) :
    noncesOf signer (log ++ [a]) =
      if a.signer = signer then noncesOf signer log ++ [a.nonce] else noncesOf signer log := by
  rw [noncesOf, List.filter_append, List.map_append]
  split_ifs with hsigner
  · rw [List.filter_cons_of_pos (by simpa using hsigner)]
    rfl
  · rw [List.filter_cons_of_neg (by simpa using hsigner), List.filter_nil, List.map_nil,
      List.append_nil]
    rfl

/-- What a step does to the nonces and the log. -/
theorem step_cases (t : RoomTrace) (input : RoomInput) :
    (∃ signer key nonce event, t.task.Delivers input signer key nonce ∧
        t.step input = ⟨t.task.remember signer nonce, t.log ++ [⟨signer, key, nonce, event⟩]⟩) ∨
      (∀ signer key nonce, ¬ t.task.Delivers input signer key nonce) ∧
        (t.step input).task.replay = t.task.replay ∧ (t.step input).log = t.log := by
  rcases t.task.step_accepted input with
    ⟨signer, key, nonce, event, hdelivers, -, htask, -, hlog⟩ | ⟨hno, hreplay, hlog⟩
  · exact Or.inl ⟨signer, key, nonce, event, hdelivers, by rw [step, htask, hlog]⟩
  · exact Or.inr ⟨hno, hreplay, by rw [step, hlog, List.append_nil]⟩

theorem step_of_delivers {signer : String} {key : FixedBytes 32} {nonce : FixedBytes 16}
    (h : t.task.Delivers input signer key nonce) :
    ∃ event, t.step input =
      ⟨t.task.remember signer nonce, t.log ++ [⟨signer, key, nonce, event⟩]⟩ := by
  rcases t.step_cases input with ⟨signer', key', nonce', event, hdelivers, heq⟩ | ⟨hno, -⟩
  · obtain ⟨rfl, rfl, rfl⟩ := h.unique hdelivers
    exact ⟨event, heq⟩
  · exact absurd h (hno _ _ _)

theorem wellLogged_new (topic : String) (keys : RoomKeys) : (new topic keys).WellLogged where
  window _ := (List.rtake_nil replayCapPerSigner).symm
  distinct _ := List.nodup_nil
  keys _ h := absurd h List.not_mem_nil

theorem wellLogged_step (h : t.WellLogged) (input : RoomInput) : (t.step input).WellLogged := by
  rcases t.step_cases input with ⟨signer, key, nonce, event, hdelivers, heq⟩ | ⟨-, hreplay, hlog⟩
  · obtain ⟨-, content, wire, -, -, hkey, -, hfresh⟩ := hdelivers
    rw [heq]
    refine ⟨fun signer' => ?_, fun signer' => ?_, fun a ha => ?_⟩
    · show (t.task.remember signer nonce).replay.seen signer' = _
      rw [seen_remember, noncesOf_concat]
      by_cases hsigner : signer' = signer
      · rw [if_pos hsigner, if_pos hsigner.symm, h.window signer, ReplayLru.push_rtake, hsigner]
      · rw [if_neg hsigner, if_neg (Ne.symm hsigner)]
        exact h.window signer'
    · show ((t.task.remember signer nonce).replay.seen signer').Nodup
      rw [seen_remember]
      split_ifs with hsigner
      · rw [ReplayLru.push_eq_slide]
        exact nodup_slide (h.distinct signer) hfresh
      · exact h.distinct signer'
    · rcases List.mem_append.mp ha with ha | ha
      · exact h.keys a ha
      · obtain rfl := List.mem_singleton.mp ha
        exact hkey
  · refine ⟨fun signer' => ?_, fun signer' => ?_, fun a ha => ?_⟩
    · rw [hreplay, hlog]
      exact h.window signer'
    · rw [hreplay]
      exact h.distinct signer'
    · rw [hlog] at ha
      exact h.keys a ha

/-! ## One step -/

omit [ChatLibraries] in
theorem mem_otherNonces {first : Acceptance} {log : List Acceptance} {nonce : FixedBytes 16} :
    nonce ∈ first.otherNonces log ↔
      ∃ a ∈ log, a.key = first.key ∧ a.nonce ≠ first.nonce ∧ a.nonce = nonce := by
  rw [Acceptance.otherNonces, List.mem_toFinset, List.mem_map]
  constructor
  · rintro ⟨a, ha, rfl⟩
    obtain ⟨hmem, ha'⟩ := List.mem_filter.mp ha
    obtain ⟨hkey, hnonce⟩ := of_decide_eq_true ha'
    exact ⟨a, hmem, hkey, hnonce, rfl⟩
  · rintro ⟨a, hmem, hkey, hnonce, rfl⟩
    exact ⟨a, List.mem_filter.mpr ⟨hmem, decide_eq_true ⟨hkey, hnonce⟩⟩, rfl⟩

/-- A nonce that its own entry has forgotten was followed by a window full of others. -/
theorem WellLogged.window_full (h : t.WellLogged) {pre mid : List Acceptance} {first : Acceptance}
    (hlog : t.log = pre ++ first :: mid)
    (hforgotten : first.nonce ∉ t.task.replay.seen first.signer) :
    replayCapPerSigner ≤ (first.otherNonces mid).card := by
  have hnonces : noncesOf first.signer t.log =
      noncesOf first.signer pre ++ first.nonce :: noncesOf first.signer mid := by
    rw [hlog, noncesOf, List.filter_append, List.filter_cons_of_pos (by simp), List.map_append,
      List.map_cons]
    rfl
  have hwindow := h.window first.signer
  rw [hnonces] at hwindow
  rcases mem_rtake_append_cons replayCapPerSigner (noncesOf first.signer pre)
    (noncesOf first.signer mid) first.nonce with hmem | ⟨hlength, hlast⟩
  · rw [← hwindow] at hmem
    exact absurd hmem hforgotten
  · rw [hlast] at hwindow
    have hcard : (t.task.replay.seen first.signer).toFinset.card = replayCapPerSigner := by
      rw [List.toFinset_card_of_nodup (h.distinct first.signer), hwindow, length_rtake]
      omega
    rw [← hcard]
    refine Finset.card_le_card fun nonce hnonce => ?_
    rw [List.mem_toFinset] at hnonce
    have hmid : nonce ∈ noncesOf first.signer mid := by
      rw [hwindow] at hnonce
      exact List.mem_of_mem_drop hnonce
    obtain ⟨a, ha, rfl⟩ := List.mem_map.mp hmid
    obtain ⟨hmem, hsigner⟩ := List.mem_filter.mp ha
    have hmem' : a ∈ t.log := by
      rw [hlog]
      exact List.mem_append_right _ (List.mem_cons_of_mem _ hmem)
    have hfirst : first ∈ t.log := by
      rw [hlog]
      exact List.mem_append_right _ List.mem_cons_self
    have hkey : some a.key = some first.key := by
      rw [← h.keys a hmem', ← h.keys first hfirst, of_decide_eq_true hsigner]
    refine mem_otherNonces.mpr ⟨a, hmem, Option.some.inj hkey, fun heq => ?_, rfl⟩
    exact hforgotten (heq ▸ hnonce)

/-- **A step keeps the replay protection exactly when** the message it accepts is neither remembered
nor crowded out under the other spellings of its key. -/
theorem protected_step_iff (h : t.WellLogged) (hprotected : t.Protected) :
    (t.step input).Protected ↔ t.Spare input := by
  rcases t.step_cases input with ⟨signer, key, nonce, event, hdelivers, heq⟩ | ⟨hno, hreplay, hlog⟩
  · have hkey : signerPkBytes signer = some key := by
      obtain ⟨-, content, wire, -, -, hkey, -⟩ := hdelivers
      exact hkey
    have hfresh : nonce ∉ t.task.replay.seen signer := by
      obtain ⟨-, content, wire, -, -, -, -, hfresh⟩ := hdelivers
      exact hfresh
    have hremembered : ∀ key', (t.task.remember signer nonce).replay.rememberedFor key' =
        (if signerPkBytes signer = some key' then ReplayLru.push (t.task.replay.seen signer) nonce
          else []) ++ (t.task.replay.without signer).rememberedFor key' := fun key' =>
      ReplayLru.rememberedFor_insert signer _
    rw [heq]
    constructor
    · rintro ⟨-, hdistinct, hbounded⟩ signer' key' nonce' hdelivers'
      obtain ⟨rfl, rfl, rfl⟩ := hdelivers.unique hdelivers'
      have hnodup := hdistinct key'
      have hlength := hbounded key'
      rw [hremembered, if_pos hkey] at hnodup hlength
      rw [List.length_append] at hlength
      refine ⟨fun hmem => ?_, hlength⟩
      have hpushed : nonce' ∈ ReplayLru.push (t.task.replay.seen signer') nonce' :=
        List.mem_append_right _ (List.mem_singleton_self nonce')
      exact (List.nodup_append.mp hnodup).2.2 nonce' hpushed nonce' hmem rfl
    · intro hspare
      obtain ⟨hothers, hroom⟩ := hspare signer key nonce hdelivers
      refine ⟨hprotected.once.concat ?_, fun key' => ?_, fun key' => ?_⟩
      · intro pre first mid hlog hkey' hnonce'
        refine h.window_full hlog fun hmem => ?_
        -- the nonce is remembered under the spelling of its first acceptance
        by_cases hsigner : first.signer = signer
        · rw [hsigner, ← hnonce'] at hmem
          exact hfresh hmem
        · have hfirst : signerPkBytes first.signer = some key := by
            rw [show key = first.key from hkey']
            exact h.keys first (by rw [hlog]; exact List.mem_append_right _ List.mem_cons_self)
          refine hothers (ReplayLru.mem_rememberedFor.mpr ⟨first.signer, hfirst, ?_⟩)
          rw [ReplayLru.seen_without hsigner, show nonce = first.nonce from hnonce']
          exact hmem
      · show ((t.task.remember signer nonce).replay.rememberedFor key').Nodup
        have hold := (ReplayLru.rememberedFor_perm signer).nodup_iff.mp (hprotected.distinct key')
        obtain ⟨-, hwithout, hdisjoint⟩ := List.nodup_append.mp hold
        rw [hremembered, List.nodup_append]
        refine ⟨?_, hwithout, ?_⟩
        · split_ifs
          · rw [ReplayLru.push_eq_slide]
            exact nodup_slide (h.distinct signer) hfresh
          · exact List.nodup_nil
        · intro n hn m hm heq'
          subst heq'
          split_ifs at hn hdisjoint with hkey'
          · obtain rfl := Option.some.inj (hkey.symm.trans hkey')
            rw [ReplayLru.push_eq_slide] at hn
            rcases List.mem_cons.mp (slide_subset _ _ _ hn) with rfl | hn
            · exact hothers hm
            · exact hdisjoint n hn n hm rfl
          · exact absurd hn List.not_mem_nil
      · show ((t.task.remember signer nonce).replay.rememberedFor key').length ≤ _
        rw [hremembered, List.length_append]
        split_ifs with hkey'
        · obtain rfl := Option.some.inj (hkey.symm.trans hkey')
          exact hroom
        · have hold := (ReplayLru.rememberedFor_perm signer).length_eq.symm.trans_le
            (hprotected.bounded key')
          rw [if_neg hkey'] at hold
          simpa using hold
  · refine iff_of_true ⟨?_, fun key => ?_, fun key => ?_⟩ fun signer key nonce hdelivers =>
      absurd hdelivers (hno signer key nonce)
    · rw [hlog]
      exact hprotected.once
    · rw [hreplay]
      exact hprotected.distinct key
    · rw [hreplay]
      exact hprotected.bounded key

/-! ## Other signers -/

/-- A message of a signer whose text is not a spelling of the key. -/
def fromOther (keys : RoomKeys) (key : FixedBytes 32) : RoomInput → Bool
  | .received content =>
    match (keys.wireOf content).bind ChatWireMessage.credentials with
    | none => false
    | some (signer, _, _) => signerPkBytes signer ≠ some key
  | _ => false

/-- What was accepted from a key. -/
def fromKey (key : FixedBytes 32) (log : List Acceptance) : List Acceptance :=
  log.filter fun a => a.key = key

/-- Two tasks that look alike to the holder of a key. -/
structure Agrees (key : FixedBytes 32) (s t : RoomTask) : Prop where
  topic : s.topic = t.topic
  keys : s.keys = t.keys
  ended : s.ended = t.ended
  seen : ∀ signer, signerPkBytes signer = some key → s.replay.seen signer = t.replay.seen signer

variable {key : FixedBytes 32} {s u : RoomTask}

theorem fromOther_iff {keys : RoomKeys} :
    fromOther keys key input = true ↔ ∃ content signer nonce sig, input = .received content ∧
      (keys.wireOf content).bind ChatWireMessage.credentials = some (signer, nonce, sig) ∧
        signerPkBytes signer ≠ some key := by
  cases input with
  | received content =>
    cases hcredentials : (keys.wireOf content).bind ChatWireMessage.credentials with
    | none => simp [fromOther, hcredentials]
    | some credentials =>
      obtain ⟨signer, nonce, sig⟩ := credentials
      simp [fromOther, hcredentials]
  | _ => simp [fromOther]

theorem Agrees.symm (h : Agrees key s u) : Agrees key u s :=
  ⟨h.topic.symm, h.keys.symm, h.ended.symm, fun signer hkey => (h.seen signer hkey).symm⟩

/-- The key has the same messages accepted by both tasks. -/
theorem Agrees.delivers (h : Agrees key s u) {signer : String} {nonce : FixedBytes 16}
    (hdelivers : s.Delivers input signer key nonce) : u.Delivers input signer key nonce := by
  obtain ⟨hended, content, wire, hinput, hwire, hkey, hsignature, hfresh⟩ := hdelivers
  refine ⟨h.ended ▸ hended, content, wire, hinput, h.keys ▸ hwire, hkey, h.keys ▸ hsignature, ?_⟩
  rw [← h.seen signer hkey]
  exact hfresh

/-- A message is that of the key or of another signer. -/
theorem key_of_not_fromOther {signer : String} {key' : FixedBytes 32} {nonce : FixedBytes 16}
    (hown : fromOther s.keys key input = false) (hdelivers : s.Delivers input signer key' nonce) :
    key' = key := by
  obtain ⟨-, content, wire, hinput, hwire, hkey, ⟨sig, hcredentials, -⟩, -⟩ := hdelivers
  by_contra hne
  have hother : fromOther s.keys key input = true := by
    refine fromOther_iff.mpr ⟨content, signer, nonce, sig, hinput, ?_, fun hsame => ?_⟩
    · rw [hwire, Option.bind_some, hcredentials]
    · exact hne (Option.some.inj (hkey.symm.trans hsame))
  exact absurd (hother.symm.trans hown) (by simp)

/-- A message of another signer is accepted as one of another key. -/
theorem ne_of_fromOther {signer : String} {key' : FixedBytes 32} {nonce : FixedBytes 16}
    (hother : fromOther s.keys key input = true) (hdelivers : s.Delivers input signer key' nonce) :
    key' ≠ key := by
  obtain ⟨-, content, wire, rfl, hwire, hkey, ⟨sig, hcredentials, -⟩, -⟩ := hdelivers
  obtain ⟨content', signer', nonce', sig', hinput, hcredentials', hne⟩ :=
    fromOther_iff.mp hother
  obtain rfl := RoomInput.received.inj hinput
  rw [hwire, Option.bind_some, hcredentials] at hcredentials'
  obtain ⟨rfl, -⟩ := Prod.mk.inj (Option.some.inj hcredentials')
  rintro rfl
  exact hne hkey

/-- A message of another signer changes nothing for the key. -/
theorem Agrees.step_other (hother : fromOther s.keys key input = true) :
    Agrees key (s.step input).1 s ∧ fromKey key (s.accepted input) = [] := by
  obtain ⟨htopic, hkeys, hended⟩ := s.step_frame input
  have hnoerror : input.isError = false := by
    obtain ⟨content, _, _, _, rfl, -⟩ := fromOther_iff.mp hother
    rfl
  rw [hnoerror, Bool.or_false] at hended
  rcases s.step_accepted input with
    ⟨signer, key', nonce, event, hdelivers, -, htask, -, hlog⟩ | ⟨-, hreplay, hlog⟩
  · have hne := ne_of_fromOther hother hdelivers
    refine ⟨⟨htopic, hkeys, hended, fun signer' hkey' => ?_⟩, ?_⟩
    · rw [htask, seen_remember, if_neg]
      rintro rfl
      obtain ⟨-, content, wire, -, -, hkey, -⟩ := hdelivers
      exact hne (Option.some.inj (hkey.symm.trans hkey'))
    · rw [hlog, fromKey, List.filter_cons_of_neg (by simpa using hne), List.filter_nil]
  · refine ⟨⟨htopic, hkeys, hended, fun signer' _ => by rw [hreplay]⟩, ?_⟩
    rw [hlog]
    rfl

/-- Two tasks that look alike treat every other input alike. -/
theorem Agrees.step_own (h : Agrees key s u) (hown : fromOther s.keys key input = false) :
    Agrees key (s.step input).1 (u.step input).1 ∧ s.accepted input = u.accepted input := by
  obtain ⟨htopic, hkeys, hended⟩ := s.step_frame input
  obtain ⟨htopic', hkeys', hended'⟩ := u.step_frame input
  have htopics : (s.step input).1.topic = (u.step input).1.topic := by
    rw [htopic, htopic', h.topic]
  have hroom : (s.step input).1.keys = (u.step input).1.keys := by
    rw [hkeys, hkeys', h.keys]
  have hends : (s.step input).1.ended = (u.step input).1.ended := by
    rw [hended, hended', h.ended]
  rcases s.step_accepted input with
    ⟨signer, key', nonce, event, hdelivers, hevent, htask, -, hlog⟩ | ⟨hno, hreplay, hlog⟩
  · obtain rfl := key_of_not_fromOther hown hdelivers
    rcases u.step_accepted input with
      ⟨signer', key'', nonce', event', hdelivers', hevent', htask', -, hlog'⟩ | ⟨hno', -, -⟩
    · obtain ⟨rfl, rfl, rfl⟩ := (h.delivers hdelivers).unique hdelivers'
      have heq : event = event' := by
        obtain ⟨-, content, -, hinput, -⟩ := hdelivers
        have hsome := hevent content hinput
        rw [h.keys, h.topic, hevent' content hinput] at hsome
        exact (Option.some.inj hsome).symm
      refine ⟨⟨htopics, hroom, hends, fun signer'' hkey => ?_⟩, by rw [hlog, hlog', heq]⟩
      have hsigner : signerPkBytes signer' = some key'' := by
        obtain ⟨-, content, wire, -, -, hsigner, -⟩ := hdelivers
        exact hsigner
      rw [htask, htask', seen_remember, seen_remember, h.seen signer' hsigner, h.seen signer'' hkey]
    · exact absurd (h.delivers hdelivers) (hno' _ _ _)
  · rcases u.step_accepted input with
      ⟨signer', key'', nonce', event', hdelivers', -⟩ | ⟨-, hreplay', hlog'⟩
    · obtain rfl := key_of_not_fromOther (h.keys ▸ hown) hdelivers'
      exact absurd (h.symm.delivers hdelivers') (hno _ _ _)
    · refine ⟨⟨htopics, hroom, hends, fun signer'' hkey => ?_⟩, by rw [hlog, hlog']⟩
      rw [hreplay, hreplay', h.seen signer'' hkey]

/-- **Other signers do not interfere.**  What is accepted from a key is the same when the messages
of other signers are left out. -/
theorem fromKey_foldl (key : FixedBytes 32) (keys : RoomKeys)
    {t u : RoomTrace} (inputs : List RoomInput) (h : Agrees key t.task u.task)
    (hkeys : t.task.keys = keys) (hlog : fromKey key t.log = fromKey key u.log) :
    fromKey key (inputs.foldl step t).log =
      fromKey key ((inputs.filter fun input => !fromOther keys key input).foldl step u).log := by
  induction inputs generalizing t u with
  | nil => exact hlog
  | cons input inputs ih =>
    have hkeys' : (t.step input).task.keys = keys := by
      rw [← hkeys]
      exact (t.task.step_frame input).2.1
    cases hother : fromOther keys key input with
    | true =>
      obtain ⟨hagrees, hnone⟩ := Agrees.step_other (s := t.task) (hkeys ▸ hother)
      rw [List.foldl_cons, List.filter_cons_of_neg (by simp [hother])]
      refine ih ⟨hagrees.topic.trans h.topic, hagrees.keys.trans h.keys,
        hagrees.ended.trans h.ended, fun signer hkey => ?_⟩ hkeys' ?_
      · exact (hagrees.seen signer hkey).trans (h.seen signer hkey)
      · rw [← hlog, step, fromKey, List.filter_append]
        rw [fromKey] at hnone
        rw [hnone, List.append_nil]
        rfl
    | false =>
      obtain ⟨hagrees, hsame⟩ := h.step_own (hkeys ▸ hother)
      rw [List.foldl_cons, List.filter_cons_of_pos (by simp [hother]), List.foldl_cons]
      refine ih hagrees hkeys' ?_
      rw [step, step, fromKey, fromKey, List.filter_append, List.filter_append, hsame]
      exact congrArg (· ++ _) hlog

/-! ## Runs -/

/-- **Replay protection.**  The nonces remembered under each spelling of a signer are distinct and
fit into one window, and what is accepted from a key does not depend on the messages of other
signers.  The same holds of keys, in every state of a run, if and only if no message passes the
checks whose nonce is remembered under another spelling of its key, or whose key has no room left
under this one. -/
theorem replay_protected_iff (topic : String) (keys : RoomKeys) (inputs : List RoomInput) :
    (∀ signer, ((inputs.foldl step (new topic keys)).task.replay.seen signer).Nodup ∧
        ((inputs.foldl step (new topic keys)).task.replay.seen signer).length ≤
          replayCapPerSigner) ∧
      (∀ key, fromKey key (inputs.foldl step (new topic keys)).log =
        fromKey key ((inputs.filter fun input => !fromOther keys key input).foldl step
          (new topic keys)).log) ∧
      ((∀ pre post, inputs = pre ++ post → (pre.foldl step (new topic keys)).Protected) ↔
        Guarded (total step) Spare (new topic keys) inputs) := by
  refine ⟨fun signer => ?_, fun key => ?_, ?_⟩
  · have hlogged : (inputs.foldl step (new topic keys)).WellLogged :=
      List.foldlRecOn inputs step (wellLogged_new topic keys) fun t h input _ =>
        wellLogged_step h input
    refine ⟨hlogged.distinct signer, ?_⟩
    rw [hlogged.window signer, length_rtake]
    exact min_le_left _ _
  · exact fromKey_foldl key keys inputs ⟨rfl, rfl, rfl, fun _ _ => rfl⟩ rfl rfl
  · have hnew : (new topic keys).Protected := by
      refine ⟨?_, fun key => List.nodup_nil, fun key => Nat.zero_le _⟩
      intro pre first mid second post heq
      exact absurd heq (by simp [new])
    rw [foldl_forall_prefix_iff_guarded (fun t input h => wellLogged_step h input)
      (fun t input h hprotected => protected_step_iff h hprotected) inputs
      (wellLogged_new topic keys)]
    exact and_iff_right hnew

end

/-! ## A replay -/

section Sample

open scoped Sample
open Sample

/-- The frames pass the checks as long as the nonce is not remembered under their spelling. -/
theorem delivers_sample {task : RoomTask} {content : List UInt8} {signer fromName : String}
    (hended : task.ended = false) (hkeys : task.keys = roomKeys)
    (hwire : roomKeys.wireOf content = some (hiWire signer fromName))
    (hkey : signerPkBytes signer = some carol) (hfresh : hiNonce ∉ task.replay.seen signer) :
    task.Delivers (.received content) signer carol hiNonce := by
  refine ⟨hended, content, _, rfl, hkeys ▸ hwire, hkey, ⟨hiSig.toList, rfl, ?_⟩, hfresh⟩
  rw [hkeys]
  refine (verifyMsg_eq_true hkey).mpr ⟨hiSig, rfl, ?_⟩
  simp [ChatLibraries.verify, hiWire, ChatWireMessage.payload]

/-- **A message is replayed under another spelling of its signer.**  Both frames carry the same
signature of the same key over the same nonce, and both are displayed. -/
theorem respelled_message_replayed :
    ¬ ([.received honestFrame, .received respelledFrame].foldl step
      (new "room" roomKeys)).Protected := by
  intro h
  have hfirst :
      (new "room" roomKeys).task.Delivers (.received honestFrame) carolHex carol hiNonce :=
    delivers_sample rfl rfl wireOf_honestFrame (by decide) List.not_mem_nil
  obtain ⟨event, hstep⟩ := step_of_delivers hfirst
  have hsecond : ((new "room" roomKeys).task.remember carolHex hiNonce).Delivers
      (.received respelledFrame) carolBase32 carol hiNonce := by
    refine delivers_sample rfl rfl wireOf_respelledFrame (by decide) ?_
    rw [seen_remember, if_neg (by decide)]
    exact List.not_mem_nil
  obtain ⟨event', hstep'⟩ := step_of_delivers
    (t := ⟨(new "room" roomKeys).task.remember carolHex hiNonce,
      [⟨carolHex, carol, hiNonce, event⟩]⟩) hsecond
  rw [List.foldl_cons, hstep, List.foldl_cons] at h
  have honce := (hstep' ▸ h).once [] ⟨carolHex, carol, hiNonce, event⟩ []
    ⟨carolBase32, carol, hiNonce, event'⟩ [] rfl rfl rfl
  exact absurd honce (by simp [Acceptance.otherNonces, replayCapPerSigner])

end Sample

end RoomTrace

end IrohWebRtc
