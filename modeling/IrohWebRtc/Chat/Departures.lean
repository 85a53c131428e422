import IrohWebRtc.Chat.ChatTasks

/-!
# Leaving a topic for good

After a `Leave` nothing more should be said on the topic but the farewell, until it is joined
again; and iroh-gossip should be told that the subscription is over.  `Leave` removes the topic
from the maps and aborts the receiver.  What it does not reach are the tasks that were started
before, each with a clone of the sender: an announcement that sleeps after a `Sync`, one that a
`Join` has started, a message that is on its way.  They speak after the farewell, and the
subscription lives until the last of them has ended.

The promise is about everything that may come, so it is not seen on one state of a run.
`silenced_iff` turns it into a property of the state: no continuation speaks on the topic exactly
when no task of the topic is left and none is about to be granted.

* `parted_step`: which steps keep to the promise of `Leave`.
* `silenced_iff`: what may still speak on a topic.
* `leave_final_iff`: the promise is kept exactly in the runs in which no task of a topic is left
  over when the topic is left, and no subscription is granted while one is.
* `announces_after_leave`: a run in which it is broken.
-/

namespace IrohWebRtc

open Bytes Runs

namespace ChatTasks

section Libraries

variable [JoinLibraries]

/-! ## What `Leave` promises -/

/-- Until a `Join` of the topic, nothing but a `Leave` is broadcast on it, whatever happens. -/
def Silenced (s : ChatTasks) (topic : String) : Prop :=
  ∀ events t ev sender kind, (∀ e ∈ events, ¬ Joins topic e) → run step s events = some t →
    t.speech ev = some (sender, kind) → sender.topic = topic → kind = .leave

/-- When the task that broadcasts a `Leave` ends, its subscription is released. -/
def Released (s : ChatTasks) : Prop :=
  ∀ n speaker sent t, s.speakers[n]? = some speaker → speaker.rest = [.leave] →
    s.step (.speaks n sent) = some t → ¬ t.Holds speaker.sender

/-- No two subscriptions to one topic are held. -/
def OneEach (s : ChatTasks) : Prop :=
  ∀ sender sender', s.Holds sender → s.Holds sender' → sender.topic = sender'.topic →
    sender = sender'

/-- What `Leave` promises of a state. -/
structure Final (s : ChatTasks) : Prop where
  silenced : ∀ topic, s.Left topic → s.Silenced topic
  released : s.Released
  oneEach : s.OneEach

/-- When a topic is left, no `Join` of it waits, and all of its tasks have ended but those of
earlier `Leave`s; when a subscription is granted, all tasks of its topic have ended. -/
def NoneLeftOver (s : ChatTasks) : ChatTaskEvent → Prop
  | .command (.leave topic) =>
    ¬ s.Joining topic ∧
      ∀ speaker ∈ s.speakers, speaker.sender.topic = topic → speaker.rest = [.leave]
  | .subscribed n (.ok ()) =>
    ∀ call, s.calls[n]? = some call →
      ∀ speaker ∈ s.speakers, speaker.sender.topic ≠ call.command.topic
  | _ => True

instance (s : ChatTasks) (topic : String) : Decidable (s.Joining topic) :=
  inferInstanceAs (Decidable (∃ call ∈ s.calls, _))

instance (s : ChatTasks) : ∀ ev, Decidable (s.NoneLeftOver ev)
  | .command (.leave _) => inferInstanceAs (Decidable (_ ∧ ∀ speaker ∈ s.speakers, _))
  | .subscribed n (.ok ()) =>
    inferInstanceAs (Decidable (∀ call ∈ s.calls[n]?, ∀ speaker ∈ s.speakers, _))
  | .handler | .command (.join ..) | .command (.send ..) | .subscribed _ (.error _) | .speaks _ _
  | .greets _ | .syncReceived _ | .nextEvent => .isTrue trivial

variable {s t : ChatTasks} {ev : ChatTaskEvent}

/-! ## What is left over -/

/-- Nothing can speak on the topic any more but a `Leave`. -/
structure Finalized (s : ChatTasks) (topic : String) : Prop where
  topics : s.protocol.topics.lookup topic = none
  calls : ¬ s.Joining topic
  speakers : ∀ speaker ∈ s.speakers, speaker.sender.topic = topic → speaker.rest = [.leave]

/-- If one of two tasks broadcasts a `Leave`, they have different senders. -/
def Apart (a b : Speaker) : Prop :=
  a.rest = [.leave] ∨ b.rest = [.leave] → a.sender ≠ b.sender

omit [JoinLibraries] in
theorem Apart.symm {a b : Speaker} (h : Apart a b) : Apart b a := fun hleave => (h hleave.symm).symm

/-- `Final`, as the state shows it. -/
structure Parted (s : ChatTasks) : Prop where
  finalized : ∀ topic, s.Left topic → s.Finalized topic
  alone : s.speakers.Pairwise Apart
  oneEach : s.OneEach

omit [JoinLibraries] in
theorem parted_new : new.Parted where
  finalized topic := by
    rintro ⟨pre, post, hsplit, -⟩
    exact absurd hsplit (by simp [new])
  alone := List.Pairwise.nil
  oneEach sender := by
    rintro _ (⟨name, h⟩ | ⟨name, h⟩ | ⟨_, h, -⟩)
    · exact absurd h (by simp [new, ChatGossipProtocol.new])
    · exact absurd h (by simp [new, ChatGossipProtocol.new])
    · exact absurd h List.not_mem_nil

omit [JoinLibraries] in
/-- What is held after a step was held before. -/
theorem OneEach.mono (hs : s.OneEach) (h : ∀ sender, t.Holds sender → s.Holds sender) :
    t.OneEach :=
  fun sender sender' hheld hheld' => hs sender sender' (h sender hheld) (h sender' hheld')

omit [JoinLibraries] in
theorem Spreads.tracked (h : Spreads s ev t) (hs : s.Tracked) : t.Tracked := by
  obtain ⟨fresh, hspeakers, hfresh⟩ := h.speakers
  have hmem : ∀ {speaker}, speaker ∈ t.speakers → speaker ∈ s.speakers ∨ speaker ∈ fresh := by
    intro speaker hmem
    rwa [hspeakers, List.mem_append] at hmem
  refine ⟨fun topic => ?_, fun topic sender hlookup => ?_, fun speaker hspeaker => ?_,
    fun speaker hspeaker => ?_, fun speaker hspeaker hleave => ?_⟩
  · rw [h.tasks, h.topics]
    exact hs.tasks topic
  · rw [h.topics] at hlookup
    exact (hs.names topic sender hlookup).imp_right fun hlt => Nat.lt_of_lt_of_le hlt h.granted
  · refine Nat.lt_of_lt_of_le ?_ h.granted
    rcases hmem hspeaker with hspeaker | hspeaker
    · exact hs.numbers speaker hspeaker
    · exact (hs.names _ _ (hfresh speaker hspeaker).1).2
  · rcases hmem hspeaker with hspeaker | hspeaker
    · exact hs.rests speaker hspeaker
    · exact Or.inr (hfresh speaker hspeaker).2
  · rw [h.topics]
    rcases hmem hspeaker with hspeaker | hspeaker
    · exact hs.erased speaker hspeaker hleave
    · exact absurd (by rw [hleave]; exact List.mem_singleton.mpr rfl) (hfresh speaker hspeaker).2.2

omit [JoinLibraries] in
theorem Spreads.finalized {topic : String} (h : Spreads s ev t) (hs : s.Finalized topic)
    (hnot : ¬ Joins topic ev) : t.Finalized topic := by
  obtain ⟨fresh, hspeakers, hfresh⟩ := h.speakers
  refine ⟨by rw [h.topics]; exact hs.topics, fun hjoining => ?_, fun speaker hmem htopic => ?_⟩
  · exact (h.joining topic hjoining).elim hs.calls hnot
  · rw [hspeakers] at hmem
    rcases List.mem_append.mp hmem with hmem | hmem
    · exact hs.speakers speaker hmem htopic
    · have hlookup := (hfresh speaker hmem).1
      rw [htopic, hs.topics] at hlookup
      cases hlookup

omit [JoinLibraries] in
theorem Spreads.parted (h : Spreads s ev t) (htracked : s.Tracked) (hs : s.Parted) : t.Parted := by
  obtain ⟨fresh, hspeakers, hfresh⟩ := h.speakers
  have hspeaks : ∀ speaker ∈ fresh, speaker.rest ≠ [.leave] := by
    intro speaker hmem hleave
    exact (hfresh speaker hmem).2.2 (by rw [hleave]; exact List.mem_singleton.mpr rfl)
  refine ⟨fun topic hleft => ?_, ?_, hs.oneEach.mono fun sender hheld => ?_⟩
  · obtain ⟨hleft, hnot⟩ := h.left topic hleft
    exact h.finalized (hs.finalized topic hleft) hnot
  · rw [hspeakers, List.pairwise_append]
    refine ⟨hs.alone, List.pairwise_of_forall_mem_list fun a ha b hb hleave => ?_,
      fun a ha b hb hleave heq => ?_⟩
    · exact absurd hleave (not_or.mpr ⟨hspeaks a ha, hspeaks b hb⟩)
    · -- the sender of a `Leave` is not in the maps
      refine htracked.erased a ha (hleave.resolve_right (hspeaks b hb)) ?_
      rw [heq]
      exact (hfresh b hb).1
  · rcases hheld with hlookup | hlookup | ⟨speaker, hmem, rfl⟩
    · exact Or.inl (h.topics ▸ hlookup)
    · exact Or.inr (Or.inl (h.tasks ▸ hlookup))
    · rw [hspeakers] at hmem
      rcases List.mem_append.mp hmem with hmem | hmem
      · exact Or.inr (Or.inr ⟨speaker, hmem, rfl⟩)
      · exact Or.inl ⟨_, (hfresh speaker hmem).1⟩

/-! ## A topic is left -/

/-- A `Leave` is broadcast with the sender that the topic has, if at all. -/
theorem handleCommand_leave_broadcasts (protocol : ChatGossipProtocol) (topic : String) :
    (protocol.handleCommand (.leave topic)).broadcasts.length ≤ 1 ∧
      ∀ sender ∈ (protocol.handleCommand (.leave topic)).broadcasts,
        protocol.topics.lookup topic = some sender := by
  cases htopic : protocol.topics.lookup topic with
  | none => simp [ChatGossipProtocol.handleCommand, htopic]
  | some sender =>
    cases hkeys : protocol.keys.lookup topic with
    | none => simp [ChatGossipProtocol.handleCommand, htopic, hkeys]
    | some keys => simp [ChatGossipProtocol.handleCommand, htopic, hkeys]

/-- What a `Leave` does: the entries of its topic are erased, and a task with the sender they held,
if any, is to broadcast it. -/
theorem step_leave {topic : String} (h : s.step (.command (.leave topic)) = some t) :
    t.protocol.topics = s.protocol.topics.erase topic ∧
      t.protocol.tasks = s.protocol.tasks.erase topic ∧ t.granted = s.granted ∧
      t.calls = s.calls ++ [⟨.leave topic, false⟩] ∧
      ∃ broadcasts : List Subscription,
        t.speakers = s.speakers ++ broadcasts.map (fun sender => ⟨sender, false, [.leave]⟩) ∧
        broadcasts.length ≤ 1 ∧
        ∀ sender ∈ broadcasts, s.protocol.topics.lookup topic = some sender := by
  obtain rfl := Option.some.inj h
  exact ⟨rfl, rfl, rfl, rfl, _, rfl, handleCommand_leave_broadcasts s.protocol topic⟩

theorem tracked_leave {topic : String} (hs : s.Tracked)
    (h : s.step (.command (.leave topic)) = some t) : t.Tracked := by
  obtain ⟨htopics, htasks, hgranted, -, broadcasts, hspeakers, -, hsenders⟩ := step_leave h
  have hfresh : ∀ {speaker}, speaker ∈ t.speakers → speaker ∈ s.speakers ∨
      s.protocol.topics.lookup topic = some speaker.sender ∧ speaker.rest = [.leave] := by
    intro speaker hmem
    rw [hspeakers] at hmem
    refine (List.mem_append.mp hmem).imp_right fun hmem => ?_
    obtain ⟨sender, hsender, rfl⟩ := List.mem_map.mp hmem
    exact ⟨hsenders sender hsender, rfl⟩
  refine ⟨fun topic' => ?_, fun topic' sender hlookup => ?_, fun speaker hmem => ?_,
    fun speaker hmem => ?_, fun speaker hmem hleave hlookup => ?_⟩
  · rw [htopics, htasks]
    by_cases hne : topic' = topic
    · rw [hne, AList.lookup_erase, AList.lookup_erase]
    · rw [AList.lookup_erase_ne hne, AList.lookup_erase_ne hne]
      exact hs.tasks topic'
  · rw [htopics] at hlookup
    rw [hgranted]
    exact hs.names topic' sender (Table.lookup_erase_eq_some.mp hlookup).2
  · rw [hgranted]
    rcases hfresh hmem with hmem | ⟨hlookup, -⟩
    · exact hs.numbers speaker hmem
    · exact (hs.names _ _ hlookup).2
  · rcases hfresh hmem with hmem | ⟨-, hleave⟩
    · exact hs.rests speaker hmem
    · exact Or.inl hleave
  · rw [htopics] at hlookup
    obtain ⟨hne, hlookup⟩ := Table.lookup_erase_eq_some.mp hlookup
    rcases hfresh hmem with hmem | ⟨hfrom, -⟩
    · exact hs.erased speaker hmem hleave hlookup
    · exact hne (hs.names _ _ hfrom).1

theorem joining_leave {topic topic' : String} (h : s.step (.command (.leave topic)) = some t) :
    t.Joining topic' ↔ s.Joining topic' := by
  obtain ⟨-, -, -, hcalls, -⟩ := step_leave h
  rw [Joining, hcalls]
  refine exists_congr fun call => and_congr_left fun hwaits => ?_
  rw [List.mem_append, List.mem_singleton]
  refine or_iff_left ?_
  rintro rfl
  cases hwaits.1

/-- A topic is left, or stays left, with nothing but `Leave`s left over. -/
theorem finalized_leave {topic topic' : String}
    (h : s.step (.command (.leave topic)) = some t)
    (hs : topic' = topic ∨ s.protocol.topics.lookup topic' = none) (hnot : ¬ s.Joining topic')
    (hrest : ∀ speaker ∈ s.speakers, speaker.sender.topic = topic' → speaker.rest = [.leave]) :
    t.Finalized topic' := by
  obtain ⟨htopics, -, -, -, broadcasts, hspeakers, -, -⟩ := step_leave h
  refine ⟨?_, fun hwaits => hnot ((joining_leave h).mp hwaits), fun speaker hmem htopic => ?_⟩
  · rw [htopics]
    by_cases hne : topic' = topic
    · rw [hne, AList.lookup_erase]
    · rw [AList.lookup_erase_ne hne]
      exact hs.resolve_left hne
  · rw [hspeakers] at hmem
    rcases List.mem_append.mp hmem with hmem | hmem
    · exact hrest speaker hmem htopic
    · obtain ⟨_, -, rfl⟩ := List.mem_map.mp hmem
      rfl

/-- **A `Leave` keeps its promise when nothing of the topic is left over**, and only then. -/
theorem parted_leave {topic : String} (htracked : s.Tracked) (hs : s.Parted)
    (h : s.step (.command (.leave topic)) = some t) :
    t.Parted ↔ s.NoneLeftOver (.command (.leave topic)) := by
  obtain ⟨htopics, htasks, -, hcalls, broadcasts, hspeakers, hmost, hsenders⟩ := step_leave h
  have hleft : ∀ topic', t.Left topic' ↔ topic' = topic ∨ s.Left topic' := by
    intro topic'
    rw [Left, hcalls, List.map_append, List.map_singleton, leftBy_concat]
    refine or_congr ?_ (and_iff_left fun hjoin => by cases hjoin.1)
    rw [ChatGossipCommand.leave.injEq]
    exact eq_comm
  constructor
  · intro ht
    have hfinal := ht.finalized topic ((hleft topic).mpr (Or.inl rfl))
    refine ⟨fun hwaits => hfinal.calls ((joining_leave h).mpr hwaits), fun speaker hmem => ?_⟩
    exact hfinal.speakers speaker (hspeakers ▸ List.mem_append_left _ hmem)
  · rintro ⟨hnot, hrest⟩
    refine ⟨fun topic' hleft' => ?_, ?_, hs.oneEach.mono fun sender hheld => ?_⟩
    · rcases (hleft topic').mp hleft' with rfl | hold
      · exact finalized_leave h (Or.inl rfl) hnot hrest
      · have hfinal := hs.finalized topic' hold
        exact finalized_leave h (Or.inr hfinal.topics) hfinal.calls hfinal.speakers
    · rw [hspeakers, List.pairwise_append]
      refine ⟨hs.alone, ?_, fun a ha b hb _ heq => ?_⟩
      · rcases broadcasts with _ | ⟨sender, _ | _⟩
        · exact List.Pairwise.nil
        · exact List.pairwise_singleton _ _
        · exact absurd hmost (by simp)
      · -- every task of the topic broadcasts an earlier `Leave`
        obtain ⟨sender, hsender, rfl⟩ := List.mem_map.mp hb
        have hlookup := hsenders sender hsender
        have htopic : a.sender.topic = topic := by
          rw [heq]
          exact (htracked.names topic sender hlookup).1
        refine htracked.erased a ha (hrest a ha htopic) ?_
        rw [htopic, heq]
        exact hlookup
    · rcases hheld with ⟨name, hlookup⟩ | ⟨name, hlookup⟩ | ⟨speaker, hmem, rfl⟩
      · rw [htopics] at hlookup
        exact Or.inl ⟨name, (Table.lookup_erase_eq_some.mp hlookup).2⟩
      · rw [htasks] at hlookup
        exact Or.inr (Or.inl ⟨name, (Table.lookup_erase_eq_some.mp hlookup).2⟩)
      · rw [hspeakers] at hmem
        rcases List.mem_append.mp hmem with hmem | hmem
        · exact Or.inr (Or.inr ⟨speaker, hmem, rfl⟩)
        · obtain ⟨sender, hsender, rfl⟩ := List.mem_map.mp hmem
          exact Or.inl ⟨topic, hsenders sender hsender⟩

/-! ## A subscription is granted -/

/-- What a granted subscription does: it enters both maps, with a task that announces it. -/
theorem step_granted {n : ℕ} (h : s.step (.subscribed n (.ok ())) = some t) :
    ∃ call, s.calls[n]? = some call ∧ s.Joining call.command.topic ∧
      t.protocol.topics = s.protocol.topics.insert call.command.topic
        ⟨call.command.topic, s.granted⟩ ∧
      t.protocol.tasks = s.protocol.tasks.insert call.command.topic
        ⟨call.command.topic, s.granted⟩ ∧
      t.speakers = s.speakers ++
        [⟨⟨call.command.topic, s.granted⟩, false, [.aboutMe, .sync]⟩] ∧
      t.calls = s.calls.set n { call with waits := false } ∧ t.granted = s.granted + 1 := by
  obtain ⟨call, hget, hwaits, rfl⟩ := step_subscribed h
  exact ⟨call, hget, ⟨call, List.mem_of_getElem? hget, hwaits, rfl⟩, rfl, rfl, rfl, rfl, rfl⟩

theorem tracked_granted {n : ℕ} (hs : s.Tracked)
    (h : s.step (.subscribed n (.ok ())) = some t) : t.Tracked := by
  obtain ⟨call, -, -, htopics, htasks, hspeakers, -, hgranted⟩ := step_granted h
  have hmem : ∀ {speaker}, speaker ∈ t.speakers → speaker ∈ s.speakers ∨
      speaker = ⟨⟨call.command.topic, s.granted⟩, false, [.aboutMe, .sync]⟩ := by
    intro speaker hmem
    rwa [hspeakers, List.mem_append, List.mem_singleton] at hmem
  refine ⟨fun topic => ?_, fun topic sender hlookup => ?_, fun speaker hspeaker => ?_,
    fun speaker hspeaker => ?_, fun speaker hspeaker hleave hlookup => ?_⟩
  · rw [htopics, htasks, Table.lookup_insert_eq, Table.lookup_insert_eq, hs.tasks]
  · rw [htopics, Table.lookup_insert_eq] at hlookup
    rw [hgranted]
    split_ifs at hlookup with heq
    · obtain rfl := Option.some.inj hlookup
      exact ⟨heq.symm, Nat.lt_succ_self _⟩
    · exact (hs.names topic sender hlookup).imp_right Nat.lt_succ_of_lt
  · rw [hgranted]
    rcases hmem hspeaker with hspeaker | rfl
    · exact Nat.lt_succ_of_lt (hs.numbers speaker hspeaker)
    · exact Nat.lt_succ_self _
  · rcases hmem hspeaker with hspeaker | rfl
    · exact hs.rests speaker hspeaker
    · exact Or.inr ⟨by simp, by simp⟩
  · rcases hmem hspeaker with hspeaker | rfl
    · rw [htopics, Table.lookup_insert_eq] at hlookup
      split_ifs at hlookup with heq
      · have hlt := hs.numbers speaker hspeaker
        rw [← Option.some.inj hlookup] at hlt
        exact Nat.lt_irrefl _ hlt
      · exact hs.erased speaker hspeaker hleave hlookup
    · cases hleave

/-- A topic that is left stays as it is when another one is granted a subscription. -/
theorem finalized_granted {n : ℕ} {topic : String}
    (h : s.step (.subscribed n (.ok ())) = some t) (hs : s.Finalized topic) :
    t.Finalized topic := by
  obtain ⟨call, hget, hjoining, htopics, -, hspeakers, hcalls, -⟩ := step_granted h
  have hne : topic ≠ call.command.topic := by
    rintro rfl
    exact hs.calls hjoining
  refine ⟨?_, fun hwaits => ?_, fun speaker hmem htopic => ?_⟩
  · rw [htopics, Table.lookup_insert_eq, if_neg hne]
    exact hs.topics
  · rw [Joining, hcalls] at hwaits
    exact hs.calls (joining_set hwaits)
  · rw [hspeakers, List.mem_append, List.mem_singleton] at hmem
    rcases hmem with hmem | rfl
    · exact hs.speakers speaker hmem htopic
    · exact absurd htopic.symm hne

/-- What is held when a subscription is granted: that one, what the tasks hold, and what was held
before of other topics. -/
theorem holds_of_granted {n : ℕ} {call : TopicCall} {sender : Subscription} (htracked : s.Tracked)
    (h : s.step (.subscribed n (.ok ())) = some t) (hget : s.calls[n]? = some call)
    (hheld : t.Holds sender) :
    sender = ⟨call.command.topic, s.granted⟩ ∨ (∃ speaker ∈ s.speakers, speaker.sender = sender) ∨
      sender.topic ≠ call.command.topic ∧ s.Holds sender := by
  have htracked' := tracked_granted htracked h
  obtain ⟨call', hget', -, htopics, -, hspeakers, -, -⟩ := step_granted h
  obtain rfl := Option.some.inj (hget.symm.trans hget')
  rcases htracked'.holds_iff.mp hheld with hfrom | ⟨speaker, hmem, rfl⟩
  · rw [htopics, Table.lookup_insert_eq] at hfrom
    split_ifs at hfrom with htopic
    · exact Or.inl (Option.some.inj hfrom).symm
    · exact Or.inr (Or.inr ⟨htopic, htracked.holds_iff.mpr (Or.inl hfrom)⟩)
  · rw [hspeakers, List.mem_append, List.mem_singleton] at hmem
    rcases hmem with hmem | rfl
    · exact Or.inr (Or.inl ⟨speaker, hmem, rfl⟩)
    · exact Or.inl rfl

/-- **A granted subscription is the only one of its topic when all tasks of the topic have ended**,
and only then. -/
theorem parted_granted {n : ℕ} (htracked : s.Tracked) (hs : s.Parted)
    (h : s.step (.subscribed n (.ok ())) = some t) :
    t.Parted ↔ s.NoneLeftOver (.subscribed n (.ok ())) := by
  have htracked' := tracked_granted htracked h
  obtain ⟨call, hget, -, htopics, -, hspeakers, hcalls, -⟩ := step_granted h
  constructor
  · intro ht call' hget' speaker hmem htopic
    obtain rfl := Option.some.inj (hget.symm.trans hget')
    have hnew : t.Holds ⟨call.command.topic, s.granted⟩ :=
      htracked'.holds_iff.mpr (Or.inl (by rw [htopics, AList.lookup_insert]))
    have hold : t.Holds speaker.sender :=
      Or.inr (Or.inr ⟨speaker, hspeakers ▸ List.mem_append_left _ hmem, rfl⟩)
    have hsame := ht.oneEach _ _ hold hnew htopic
    have hlt := htracked.numbers speaker hmem
    rw [hsame] at hlt
    exact Nat.lt_irrefl _ hlt
  · intro hguard
    have hnone : ∀ speaker ∈ s.speakers, speaker.sender.topic ≠ call.command.topic :=
      hguard call hget
    refine ⟨fun topic hleft => ?_, ?_, ?_⟩
    · rw [Left, hcalls, calls_set hget] at hleft
      exact finalized_granted h (hs.finalized topic hleft)
    · rw [hspeakers, List.pairwise_append]
      refine ⟨hs.alone, List.pairwise_singleton _ _, fun a ha b hb _ heq => ?_⟩
      obtain rfl := List.mem_singleton.mp hb
      have hlt := htracked.numbers a ha
      rw [heq] at hlt
      exact Nat.lt_irrefl _ hlt
    · -- of its topic only the new subscription is held
      have hheld : ∀ {sender}, t.Holds sender → sender = ⟨call.command.topic, s.granted⟩ ∨
          sender.topic ≠ call.command.topic ∧ s.Holds sender := by
        intro sender hheld
        rcases holds_of_granted htracked h hget hheld with hnew | ⟨speaker, hmem, rfl⟩ | hold
        · exact Or.inl hnew
        · exact Or.inr ⟨hnone speaker hmem, Or.inr (Or.inr ⟨speaker, hmem, rfl⟩)⟩
        · exact Or.inr hold
      intro sender sender' hsender hsender' hsame
      rcases hheld hsender with rfl | ⟨hne, hold⟩
      · rcases hheld hsender' with rfl | ⟨hne, -⟩
        · rfl
        · exact absurd hsame.symm hne
      · rcases hheld hsender' with rfl | ⟨-, hold'⟩
        · exact absurd hsame hne
        · exact hs.oneEach sender sender' hold hold' hsame

/-! ## A task speaks -/

theorem step_speaks {n : ℕ} {sent : Bool} (h : s.step (.speaks n sent) = some t) :
    ∃ speaker kind rest, s.speakers[n]? = some speaker ∧ speaker.rest = kind :: rest ∧
      t = { s with
        speakers := s.speakers.eraseIdx n ++
          if rest = [] then [] else [⟨speaker.sender, speaker.answers, rest⟩] } := by
  rw [step] at h
  rcases hget : s.speakers[n]? with _ | ⟨sender, answers, rest⟩
  · rw [hget] at h
    cases h
  · rw [hget] at h
    cases rest with
    | nil => cases h
    | cons kind rest => exact ⟨_, kind, rest, rfl, rfl, (Option.some.inj h).symm⟩

omit [JoinLibraries] in
/-- The entries of a list at other places than one of them. -/
theorem rel_of_pairwise {a b : Speaker} {n : ℕ} (halone : s.speakers.Pairwise Apart)
    (hget : s.speakers[n]? = some a) (hmem : b ∈ s.speakers.eraseIdx n) : Apart a b := by
  obtain ⟨m, hne, hm⟩ := List.mem_eraseIdx_iff_getElem?.mp hmem
  obtain ⟨hn, rfl⟩ := List.getElem?_eq_some_iff.mp hget
  obtain ⟨hm', rfl⟩ := List.getElem?_eq_some_iff.mp hm
  rcases Nat.lt_or_gt_of_ne hne with hlt | hlt
  · exact (List.pairwise_iff_getElem.mp halone m n hm' hn hlt).symm
  · exact List.pairwise_iff_getElem.mp halone n m hn hm' hlt

omit [JoinLibraries] in
/-- A task that goes on to its next message broadcasts no `Leave`. -/
theorem rest_of_speaks (hs : s.Tracked) {speaker : Speaker} {kind : WireKind}
    {rest : List WireKind} (hmem : speaker ∈ s.speakers) (hrest : speaker.rest = kind :: rest)
    (hne : rest ≠ []) : speaker.rest ≠ [.leave] ∧ .leave ∉ rest := by
  have hnot : speaker.rest ≠ [.leave] := by
    intro hleave
    rw [hrest] at hleave
    exact hne (List.cons.inj hleave).2
  refine ⟨hnot, fun hleave => ?_⟩
  refine ((hs.rests speaker hmem).resolve_left hnot).2 ?_
  rw [hrest]
  exact List.mem_cons_of_mem kind hleave

omit [JoinLibraries] in
/-- The tasks after one has spoken: the others, and the one itself unless it has ended. -/
theorem mem_speakers_of_speaks {speaker : Speaker} {n : ℕ} {rest : List WireKind} {b : Speaker}
    (h : b ∈ s.speakers.eraseIdx n ++
      if rest = [] then [] else [⟨speaker.sender, speaker.answers, rest⟩]) :
    b ∈ s.speakers.eraseIdx n ∨
      rest ≠ [] ∧ b = ⟨speaker.sender, speaker.answers, rest⟩ := by
  refine (List.mem_append.mp h).imp_right fun hmem => ?_
  split_ifs at hmem with hnil
  · exact absurd hmem List.not_mem_nil
  · exact ⟨hnil, List.mem_singleton.mp hmem⟩

theorem tracked_speaks {n : ℕ} {sent : Bool} (hs : s.Tracked)
    (h : s.step (.speaks n sent) = some t) : t.Tracked := by
  obtain ⟨speaker, kind, rest, hget, hrest, rfl⟩ := step_speaks h
  have hspeaker : speaker ∈ s.speakers := List.mem_of_getElem? hget
  refine ⟨hs.tasks, hs.names, fun b hb => ?_, fun b hb => ?_, fun b hb hleave => ?_⟩
  · rcases mem_speakers_of_speaks hb with hb | ⟨-, rfl⟩
    · exact hs.numbers b (List.mem_of_mem_eraseIdx hb)
    · exact hs.numbers speaker hspeaker
  · rcases mem_speakers_of_speaks hb with hb | ⟨hne, rfl⟩
    · exact hs.rests b (List.mem_of_mem_eraseIdx hb)
    · exact Or.inr ⟨hne, (rest_of_speaks hs hspeaker hrest hne).2⟩
  · rcases mem_speakers_of_speaks hb with hb | ⟨hne, rfl⟩
    · exact hs.erased b (List.mem_of_mem_eraseIdx hb) hleave
    · refine absurd ?_ (rest_of_speaks hs hspeaker hrest hne).2
      rw [show rest = [WireKind.leave] from hleave]
      exact List.mem_singleton.mpr rfl

theorem finalized_speaks {n : ℕ} {sent : Bool} {topic : String} (htracked : s.Tracked)
    (h : s.step (.speaks n sent) = some t) (hs : s.Finalized topic) : t.Finalized topic := by
  obtain ⟨speaker, kind, rest, hget, hrest, rfl⟩ := step_speaks h
  have hspeaker : speaker ∈ s.speakers := List.mem_of_getElem? hget
  refine ⟨hs.topics, hs.calls, fun b hb htopic => ?_⟩
  rcases mem_speakers_of_speaks hb with hb | ⟨hne, rfl⟩
  · exact hs.speakers b (List.mem_of_mem_eraseIdx hb) htopic
  · exact absurd (hs.speakers speaker hspeaker htopic)
      (rest_of_speaks htracked hspeaker hrest hne).1

theorem parted_speaks {n : ℕ} {sent : Bool} (htracked : s.Tracked) (hs : s.Parted)
    (h : s.step (.speaks n sent) = some t) : t.Parted := by
  have hfinalized : ∀ topic, s.Finalized topic → t.Finalized topic := fun _ =>
    finalized_speaks htracked h
  obtain ⟨speaker, kind, rest, hget, hrest, rfl⟩ := step_speaks h
  have hspeaker : speaker ∈ s.speakers := List.mem_of_getElem? hget
  refine ⟨fun topic hleft => hfinalized topic (hs.finalized topic hleft), ?_,
    hs.oneEach.mono fun sender hheld => ?_⟩
  · show (s.speakers.eraseIdx n ++ _).Pairwise Apart
    rw [List.pairwise_append]
    refine ⟨hs.alone.sublist (List.eraseIdx_sublist _ _), ?_, fun a ha b hb => ?_⟩
    · split_ifs
      · exact List.Pairwise.nil
      · exact List.pairwise_singleton _ _
    · split_ifs at hb with hnil
      · exact absurd hb List.not_mem_nil
      · -- the task has the sender it had, and broadcast no `Leave` before
        obtain rfl := List.mem_singleton.mp hb
        obtain ⟨hnot, hnew⟩ := rest_of_speaks htracked hspeaker hrest hnil
        rintro (hleave | hleave)
        · exact (rel_of_pairwise hs.alone hget ha (Or.inr hleave)).symm
        · refine absurd ?_ hnew
          rw [show rest = [WireKind.leave] from hleave]
          exact List.mem_singleton.mpr rfl
  · rcases hheld with hlookup | hlookup | ⟨b, hb, rfl⟩
    · exact Or.inl hlookup
    · exact Or.inr (Or.inl hlookup)
    · rcases mem_speakers_of_speaks hb with hb | ⟨-, rfl⟩
      · exact Or.inr (Or.inr ⟨b, List.mem_of_mem_eraseIdx hb, rfl⟩)
      · exact Or.inr (Or.inr ⟨speaker, hspeaker, rfl⟩)

/-! ## All steps -/

/-- Every step either spreads, or is one of the three above. -/
theorem step_tracked (hs : s.Tracked) (h : s.step ev = some t) : t.Tracked := by
  cases ev with
  | handler => exact (spreads_handler h).tracked hs
  | command command =>
    cases command with
    | join => exact (spreads_join hs h).tracked hs
    | send => exact (spreads_send hs h).tracked hs
    | leave topic => exact tracked_leave hs h
  | subscribed n result =>
    cases result with
    | error e => exact (spreads_refused h).tracked hs
    | ok => exact tracked_granted hs h
  | speaks n sent => exact tracked_speaks hs h
  | greets topic => exact (spreads_greets h).tracked hs
  | syncReceived topic => exact (spreads_syncReceived hs h).tracked hs
  | nextEvent => exact (spreads_nextEvent h).tracked hs

/-- **Which steps keep to the promise of `Leave`.** -/
theorem parted_step (htracked : s.Tracked) (hs : s.Parted) (h : s.step ev = some t) :
    t.Parted ↔ s.NoneLeftOver ev := by
  cases ev with
  | handler => exact iff_of_true ((spreads_handler h).parted htracked hs) trivial
  | command command =>
    cases command with
    | join => exact iff_of_true ((spreads_join htracked h).parted htracked hs) trivial
    | send => exact iff_of_true ((spreads_send htracked h).parted htracked hs) trivial
    | leave topic => exact parted_leave htracked hs h
  | subscribed n result =>
    cases result with
    | error e => exact iff_of_true ((spreads_refused h).parted htracked hs) trivial
    | ok => exact parted_granted htracked hs h
  | speaks n sent => exact iff_of_true (parted_speaks htracked hs h) trivial
  | greets topic => exact iff_of_true ((spreads_greets h).parted htracked hs) trivial
  | syncReceived topic =>
    exact iff_of_true ((spreads_syncReceived htracked h).parted htracked hs) trivial
  | nextEvent => exact iff_of_true ((spreads_nextEvent h).parted htracked hs) trivial

/-- A topic stays silent until it is joined again. -/
theorem finalized_step {topic : String} (htracked : s.Tracked) (hs : s.Finalized topic)
    (hnot : ¬ Joins topic ev) (h : s.step ev = some t) : t.Finalized topic := by
  cases ev with
  | handler => exact (spreads_handler h).finalized hs hnot
  | command command =>
    cases command with
    | join => exact (spreads_join htracked h).finalized hs hnot
    | send => exact (spreads_send htracked h).finalized hs hnot
    | leave topic' => exact finalized_leave h (Or.inr hs.topics) hs.calls hs.speakers
  | subscribed n result =>
    cases result with
    | error e => exact (spreads_refused h).finalized hs hnot
    | ok => exact finalized_granted h hs
  | speaks n sent => exact finalized_speaks htracked h hs
  | greets topic' => exact (spreads_greets h).finalized hs hnot
  | syncReceived topic' => exact (spreads_syncReceived htracked h).finalized hs hnot
  | nextEvent => exact (spreads_nextEvent h).finalized hs hnot

/-! ## The promise and what the state shows -/

omit [JoinLibraries] in
/-- What is broadcast is the next message of a task, or the greeting of a receiver. -/
theorem speech_cases {sender : Subscription} {kind : WireKind}
    (h : s.speech ev = some (sender, kind)) :
    (∃ speaker ∈ s.speakers, ∃ rest, speaker.sender = sender ∧ speaker.rest = kind :: rest) ∨
      ∃ topic, s.protocol.tasks.lookup topic = some sender := by
  cases ev with
  | speaks n sent =>
    cases sent with
    | false => cases h
    | true =>
      obtain ⟨speaker, hget, h⟩ := Option.bind_eq_some_iff.mp h
      obtain ⟨kind', hhead, heq⟩ := Option.map_eq_some_iff.mp h
      obtain ⟨rfl, rfl⟩ := Prod.mk.inj heq
      obtain ⟨rest, hrest⟩ := List.head?_eq_some_iff.mp hhead
      exact Or.inl ⟨speaker, List.mem_of_getElem? hget, rest, rfl, hrest⟩
  | greets topic =>
    obtain ⟨sender', hlookup, heq⟩ := Option.map_eq_some_iff.mp h
    obtain ⟨rfl, -⟩ := Prod.mk.inj heq
    exact Or.inr ⟨topic, hlookup⟩
  | _ => cases h

omit [JoinLibraries] in
theorem Finalized.speech {topic : String} (hs : s.Finalized topic) (htracked : s.Tracked)
    {sender : Subscription} {kind : WireKind} (h : s.speech ev = some (sender, kind))
    (htopic : sender.topic = topic) : kind = .leave := by
  rcases speech_cases h with ⟨speaker, hmem, rest, rfl, hrest⟩ | ⟨name, hlookup⟩
  · have hleave := hs.speakers speaker hmem htopic
    rw [hrest] at hleave
    exact (List.cons.inj hleave).1
  · rw [htracked.tasks] at hlookup
    obtain ⟨hname, -⟩ := htracked.names name sender hlookup
    rw [← hname, htopic, hs.topics] at hlookup
    cases hlookup

/-- **What may still speak on a topic**: its receiver, a `Join` that waits, and the tasks that are
not yet done with it. -/
theorem silenced_iff {topic : String} (hs : s.Tracked) : s.Silenced topic ↔ s.Finalized topic := by
  constructor
  · intro h
    refine ⟨?_, ?_, fun speaker hmem htopic => ?_⟩
    · cases hlookup : s.protocol.topics.lookup topic with
      | none => rfl
      | some sender =>
        have hspeech : s.speech (.greets topic) = some (sender, .aboutMe) := by
          rw [ChatTasks.speech, hs.tasks, hlookup]
          rfl
        exact absurd (h [] s _ sender .aboutMe (by simp) rfl hspeech
          (hs.names topic sender hlookup).1) (by decide)
    · rintro ⟨call, hmem, hwaits, rfl⟩
      obtain ⟨n, hget⟩ := List.mem_iff_getElem?.mp hmem
      have hstep : ∃ t, s.step (.subscribed n (.ok ())) = some t := by
        rw [step, hget]
        simp only [if_pos hwaits]
        exact ⟨_, rfl⟩
      obtain ⟨t, ht⟩ := hstep
      obtain ⟨call', hget', -, -, htasks, -⟩ := step_granted ht
      obtain rfl := Option.some.inj (hget.symm.trans hget')
      -- the receiver of the new subscription may greet a neighbour
      have hspeech : t.speech (.greets call.command.topic) =
          some (⟨call.command.topic, s.granted⟩, .aboutMe) := by
        rw [ChatTasks.speech, htasks, AList.lookup_insert]
        rfl
      refine absurd (h [.subscribed n (.ok ())] t _ _ .aboutMe ?_ ?_ hspeech rfl) (by decide)
      · intro e he
        rw [List.mem_singleton.mp he]
        exact id
      · exact run_cons.mpr ⟨t, ht, rfl⟩
    · refine (hs.rests speaker hmem).resolve_right ?_
      rintro ⟨hne, hnot⟩
      obtain ⟨kind, rest, hrest⟩ := List.exists_cons_of_ne_nil hne
      obtain ⟨n, hget⟩ := List.mem_iff_getElem?.mp hmem
      have hspeech : s.speech (.speaks n true) = some (speaker.sender, kind) := by
        rw [ChatTasks.speech, hget, Option.bind_some, hrest]
        rfl
      obtain rfl := h [] s _ _ kind (by simp) rfl hspeech htopic
      exact hnot (by rw [hrest]; exact List.mem_cons_self)
  · intro hfinal events t ev sender kind hnot hrun hspeech htopic
    have hend : t.Tracked ∧ t.Finalized topic :=
      run_invariant_of_guarded (g := fun _ e => ¬ Joins topic e)
        (I := fun s => s.Tracked ∧ s.Finalized topic)
        (fun s e t h hg hstep => ⟨step_tracked h.1 hstep, finalized_step h.1 h.2 hg hstep⟩)
        ⟨hs, hfinal⟩ (Guarded.of_forall fun e he _ => hnot e he) hrun
    exact hend.2.speech hend.1 hspeech htopic

/-- The task of a `Leave` is the last holder of its sender. -/
theorem released_iff (hs : s.Tracked) : s.Released ↔ s.speakers.Pairwise Apart := by
  constructor
  · intro h
    have hother : ∀ {n m : ℕ} {a b : Speaker}, s.speakers[n]? = some a → s.speakers[m]? = some b →
        n ≠ m → a.rest = [.leave] → a.sender ≠ b.sender := by
      intro n m a b hn hm hne hleave heq
      have hstep : s.step (.speaks n true) = some { s with speakers := s.speakers.eraseIdx n } := by
        rcases a with ⟨sender, answers, rest⟩
        obtain rfl : rest = [.leave] := hleave
        rw [step, hn]
        simp
      refine h n a true _ hn hleave hstep (Or.inr (Or.inr ⟨b, ?_, heq.symm⟩))
      exact List.mem_eraseIdx_iff_getElem?.mpr ⟨m, hne.symm, hm⟩
    refine List.pairwise_iff_getElem.mpr fun n m hn hm hlt hleave => ?_
    have hgetn := List.getElem?_eq_getElem hn
    have hgetm := List.getElem?_eq_getElem hm
    rcases hleave with hleave | hleave
    · exact hother hgetn hgetm (Nat.ne_of_lt hlt) hleave
    · exact (hother hgetm hgetn (Nat.ne_of_gt hlt) hleave).symm
  · intro halone n speaker sent t hget hleave hstep
    obtain ⟨speaker', kind, rest, hget', hrest, rfl⟩ := step_speaks hstep
    obtain rfl := Option.some.inj (hget.symm.trans hget')
    rw [hleave] at hrest
    obtain ⟨-, rfl⟩ := List.cons.inj hrest
    intro hheld
    rcases (tracked_speaks hs hstep).holds_iff.mp hheld with hlookup | ⟨b, hb, heq⟩
    · exact hs.erased speaker (List.mem_of_getElem? hget) hleave hlookup
    · rcases mem_speakers_of_speaks hb with hb | ⟨hne, -⟩
      · exact rel_of_pairwise halone hget hb (Or.inl hleave) heq.symm
      · exact hne rfl

theorem final_iff_parted (hs : s.Tracked) : s.Final ↔ s.Parted := by
  constructor
  · intro h
    exact ⟨fun topic hleft => (silenced_iff hs).mp (h.silenced topic hleft),
      (released_iff hs).mp h.released, h.oneEach⟩
  · intro h
    exact ⟨fun topic hleft => (silenced_iff hs).mpr (h.finalized topic hleft),
      (released_iff hs).mpr h.alone, h.oneEach⟩

/-- **When leaving is final**: in all states of a run a topic that was left stays silent but for its
`Leave`, the end of that broadcast releases the subscription, and no two subscriptions to one topic
are held, exactly when no task of a topic is left over when it is left or granted a subscription. -/
theorem leave_final_iff {events : List ChatTaskEvent} (hrun : run step new events = some s) :
    (∀ pre post t, events = pre ++ post → run step new pre = some t → t.Final) ↔
      Guarded step NoneLeftOver new events := by
  have hstep : ∀ s ev t, s.Tracked → s.Final → step s ev = some t →
      (t.Final ↔ s.NoneLeftOver ev) := by
    intro s ev t htracked hfinal h
    rw [final_iff_parted (step_tracked htracked h)]
    exact parted_step htracked ((final_iff_parted htracked).mp hfinal) h
  rw [forall_prefix_iff_guarded (fun _ _ _ => step_tracked) hstep tracked_new hrun]
  exact and_iff_right ((final_iff_parted tracked_new).mpr parted_new)

end Libraries

section Sample

open scoped Sample
open Sample

def joinRoom : ChatGossipCommand := .join "room" (.replicate 32 7) [carolHex] carolHex "alice"

/-- The room is left when its announcement is done. -/
theorem leave_final_iff_sample :
    ∃ s, run step new [.handler, .command joinRoom, .subscribed 0 (.ok ()), .speaks 0 true,
        .speaks 0 true, .command (.leave "room"), .speaks 0 true] = some s ∧ s.Final := by
  have hsome : (run step new [.handler, .command joinRoom, .subscribed 0 (.ok ()), .speaks 0 true,
      .speaks 0 true, .command (.leave "room"), .speaks 0 true]).isSome = true := by
    decide +kernel
  obtain ⟨s, hs⟩ := Option.isSome_iff_exists.mp hsome
  exact ⟨s, hs, (leave_final_iff hs).mpr (by decide +kernel) _ [] s (by simp) hs⟩

/-- The room is left before its announcement has started: the announcement may speak after the
`Leave` was called, and holds the sender when the broadcast of the `Leave` is over. -/
theorem announces_after_leave :
    ∃ s t, run step new [.handler, .command joinRoom, .subscribed 0 (.ok ()),
        .command (.leave "room")] = some s ∧ s.Left "room" ∧
      s.speech (.speaks 0 true) = some (⟨"room", 0⟩, .aboutMe) ∧
      s.speakers[1]? = some ⟨⟨"room", 0⟩, false, [.leave]⟩ ∧
      s.step (.speaks 1 true) = some t ∧ t.Holds ⟨"room", 0⟩ := by
  have hend : (run step new [.handler, .command joinRoom, .subscribed 0 (.ok ()),
      .command (.leave "room")]).map (fun s => (s.speakers, s.calls.map TopicCall.command)) =
      some ([⟨⟨"room", 0⟩, false, [.aboutMe, .sync]⟩, ⟨⟨"room", 0⟩, false, [.leave]⟩],
        [joinRoom, .leave "room"]) := by
    decide +kernel
  obtain ⟨s, hs, hfields⟩ := Option.map_eq_some_iff.mp hend
  obtain ⟨hspeakers, hcalls⟩ := Prod.mk.inj hfields
  refine ⟨s, { s with speakers := [⟨⟨"room", 0⟩, false, [.aboutMe, .sync]⟩] }, hs,
    ⟨[joinRoom], [], hcalls, by simp⟩, ?_, ?_, ?_, ?_⟩
  · rw [speech, hspeakers]
    rfl
  · rw [hspeakers]
    rfl
  · rw [step, hspeakers]
    rfl
  · exact Or.inr (Or.inr ⟨_, List.mem_singleton.mpr rfl, rfl⟩)

end Sample

end ChatTasks

end IrohWebRtc
