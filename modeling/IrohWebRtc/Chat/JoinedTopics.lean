import IrohWebRtc.Chat.Gossip

/-!
# The topics that are joined

A `Join` inserts the keys of its topic before it knows whether it can subscribe, and looks for a
subscription before it waits for its own.  So the three maps agree, and no topic is subscribed to
twice, only in runs that are `Orderly`: no `Join` of a topic that is not joined fails, none starts
while another one of its topic waits or a broadcast still holds the former subscription, and no
`Leave` comes in between.

Calls for different topics do not disturb each other, however they are interleaved.  The invariant
says so: it speaks of one topic at a time, and lets each be joined, be waited for, or be neither.

* `Settled`: this invariant, and `Settled.coherent`: when no call waits, the maps agree.
* `handleCommand_join_joined`, `handleCommand_join_subscribing`: what the first turn of a `Join`
  does.
* `settled_step`: what an orderly step preserves.
* `joins_coherent`: the maps agree in every orderly run.
* `joins_incoherent`: each way in which they come apart.

Whether a run is orderly is decidable, and is decided along the run.
-/

namespace IrohWebRtc

open Bytes Runs

namespace ChatGossip

/-! ## What is claimed of the maps -/

/-- The three maps have the same topics. -/
def Coherent (protocol : ChatGossipProtocol) : Prop :=
  ∀ topic, (topic ∈ protocol.keys ↔ topic ∈ protocol.topics) ∧
    (topic ∈ protocol.tasks ↔ topic ∈ protocol.topics)

/-- All calls have returned. -/
def Quiet (s : ChatGossip) : Prop := ∀ call ∈ s.calls, call.result ≠ none

/-- A `Join` that has returned an error has left the entries of its topic as they were. -/
def FailuresUndone (s : ChatGossip) : Prop :=
  ∀ call ∈ s.calls, call.command.isJoin = true → ∀ e, call.result = some (.error e) →
    call.changed = false

section

variable [JoinLibraries]

/-- The event requests a subscription of a topic or is granted one. -/
def Subscribes (s : ChatGossip) (ev : GossipEvent) (topic : String) : Prop :=
  (∃ command topicId peers, ev = .command command ∧ command.topic = topic ∧
      (s.protocol.handleCommand command).outcome = .subscribing topicId peers) ∨
    ∃ n call, ev = .subscribed n (.ok ()) ∧ s.calls[n]? = some call ∧ call.result = none ∧
      call.command.topic = topic

/-- No subscription is requested or granted while one of its topic is held. -/
def SubscribesOnce (s : ChatGossip) (ev : GossipEvent) : Prop :=
  ∀ topic, s.Subscribes ev topic → ¬ s.Held topic

/-- A `Join` of a topic that is not joined comes alone, after everything of its former subscription
is gone, and does not fail; a `Leave` does not come while a `Join` waits. -/
def Orderly (s : ChatGossip) : GossipEvent → Prop
  | .command (.join topic _ peers _ _) =>
    topic ∈ s.protocol.topics ∨
      ¬ s.Joining topic ∧ ¬ s.Held topic ∧ (∃ endpoints, parsePeers peers = .ok endpoints) ∧
        s.protocol.gossip = true
  | .command (.leave topic) => ¬ s.Joining topic
  | .subscribed _ (.error _) => False
  | _ => True

omit [JoinLibraries] in
/-- Whether a subscription is held is seen on the entries of the maps. -/
theorem held_iff_exists_entry (s : ChatGossip) (topic : String) :
    s.Held topic ↔ (∃ e ∈ s.protocol.topics.entries, e.2.topic = topic) ∨
      (∃ e ∈ s.protocol.tasks.entries, e.2.topic = topic) ∨
        ∃ subscription ∈ s.broadcasts, subscription.topic = topic := by
  constructor
  · rintro ⟨subscription, rfl, ⟨name, hlookup⟩ | ⟨name, hlookup⟩ | hmem⟩
    · exact Or.inl ⟨⟨name, subscription⟩, AList.mem_lookup_iff.mp hlookup, rfl⟩
    · exact Or.inr (Or.inl ⟨⟨name, subscription⟩, AList.mem_lookup_iff.mp hlookup, rfl⟩)
    · exact Or.inr (Or.inr ⟨subscription, hmem, rfl⟩)
  · rintro (⟨e, he, rfl⟩ | ⟨e, he, rfl⟩ | ⟨subscription, hmem, rfl⟩)
    · exact ⟨e.2, rfl, Or.inl ⟨e.1, AList.mem_lookup_iff.mpr he⟩⟩
    · exact ⟨e.2, rfl, Or.inr (Or.inl ⟨e.1, AList.mem_lookup_iff.mpr he⟩)⟩
    · exact ⟨subscription, rfl, Or.inr (Or.inr hmem)⟩

instance (s : ChatGossip) (topic : String) : Decidable (s.Held topic) :=
  decidable_of_iff _ (s.held_iff_exists_entry topic).symm

instance (peers : List String) : Decidable (∃ endpoints, parsePeers peers = .ok endpoints) :=
  match h : parsePeers peers with
  | .ok endpoints => .isTrue ⟨endpoints, rfl⟩
  | .error _ => .isFalse fun ⟨_, h'⟩ => by cases h'

instance (s : ChatGossip) (topic : String) : Decidable (s.Joining topic) :=
  inferInstanceAs (Decidable (topic ∈ waiting s.calls))

instance (s : ChatGossip) : ∀ ev, Decidable (s.Orderly ev)
  | .command (.join topic _ peers _ _) =>
    inferInstanceAs (Decidable (topic ∈ s.protocol.topics ∨
      ¬ s.Joining topic ∧ ¬ s.Held topic ∧ (∃ endpoints, parsePeers peers = .ok endpoints) ∧
        s.protocol.gossip = true))
  | .command (.leave topic) => inferInstanceAs (Decidable (¬ s.Joining topic))
  | .subscribed _ (.error _) => .isFalse id
  | .command (.send ..) | .handler | .subscribed _ (.ok _) | .broadcastDone _ | .announces _
  | .nextEvent => .isTrue trivial

end

/-! ## The calls that wait -/

theorem waiting_append_returned (calls : List CommandCall) {call : CommandCall}
    (h : call.result ≠ none) : waiting (calls ++ [call]) = waiting calls := by
  rw [waiting, List.filter_append, List.filter_cons_of_neg (by simpa using h), List.filter_nil,
    List.append_nil]
  rfl

theorem waiting_append_waiting (calls : List CommandCall) {call : CommandCall}
    (h : call.result = none) :
    waiting (calls ++ [call]) = waiting calls ++ [call.command.topic] := by
  rw [waiting, List.filter_append, List.filter_cons_of_pos (by simpa using h), List.map_append]
  rfl

/-- A call that returns is no longer among those that wait. -/
theorem waiting_set {calls : List CommandCall} {n : ℕ} {call call' : CommandCall}
    (hget : calls[n]? = some call) (hwaits : call.result = none) (hreturns : call'.result ≠ none) :
    (waiting calls).Perm (call.command.topic :: waiting (calls.set n call')) := by
  induction calls generalizing n with
  | nil => exact absurd hget (by simp)
  | cons first calls ih =>
    cases n with
    | zero =>
      obtain rfl : first = call := Option.some.inj hget
      rw [List.set_cons_zero, waiting, waiting, List.filter_cons_of_pos (by simpa using hwaits),
        List.filter_cons_of_neg (by simpa using hreturns), List.map_cons]
    | succ n =>
      have hperm := ih (by simpa using hget)
      rw [List.set_cons_succ, waiting, waiting, List.filter_cons, List.filter_cons]
      split_ifs
      · exact (hperm.cons _).trans (List.Perm.swap _ _ _)
      · exact hperm

theorem quiet_iff {s : ChatGossip} : s.Quiet ↔ waiting s.calls = [] := by
  rw [waiting, List.map_eq_nil_iff, List.filter_eq_nil_iff]
  refine forall₂_congr fun call _ => ?_
  rw [Option.isNone_iff_eq_none]

/-! ## The invariant -/

/-- No `Join` has failed. -/
def NoFailures (s : ChatGossip) : Prop :=
  ∀ call ∈ s.calls, call.command.isJoin = true → ∀ e, call.result ≠ some (.error e)

/-- The maps in an orderly run: the keys run ahead of the other two by the calls that wait, and
these wait for topics that nothing holds. -/
structure Settled (s : ChatGossip) : Prop where
  tasks : ∀ topic, s.protocol.tasks.lookup topic = s.protocol.topics.lookup topic
  names : ∀ topic sender, s.protocol.topics.lookup topic = some sender → sender.topic = topic
  keys : ∀ topic, topic ∈ s.protocol.keys ↔ topic ∈ s.protocol.topics ∨ s.Joining topic
  apart : ∀ topic, s.Joining topic → ¬ s.Held topic
  once : (waiting s.calls).Nodup
  failures : s.NoFailures

variable {s t : ChatGossip}

/-- What is held is in the map of senders or has a broadcast under way. -/
theorem Settled.held_iff (h : s.Settled) {topic : String} :
    s.Held topic ↔ topic ∈ s.protocol.topics ∨ ∃ sender ∈ s.broadcasts, sender.topic = topic := by
  have hmap : ∀ {name sender}, s.protocol.topics.lookup name = some sender →
      sender.topic = topic → topic ∈ s.protocol.topics := by
    rintro name sender hlookup rfl
    rw [h.names name sender hlookup]
    exact AList.lookup_isSome.mp (by rw [hlookup]; rfl)
  constructor
  · rintro ⟨sender, htopic, ⟨name, hlookup⟩ | ⟨name, hlookup⟩ | hmem⟩
    · exact Or.inl (hmap hlookup htopic)
    · exact Or.inl (hmap ((h.tasks name).symm.trans hlookup) htopic)
    · exact Or.inr ⟨sender, hmem, htopic⟩
  · rintro (hmem | ⟨sender, hmem, htopic⟩)
    · obtain ⟨sender, hlookup⟩ := Option.isSome_iff_exists.mp (AList.lookup_isSome.mpr hmem)
      exact ⟨sender, h.names topic sender hlookup, Or.inl ⟨topic, hlookup⟩⟩
    · exact ⟨sender, htopic, Or.inr (Or.inr hmem)⟩

theorem Settled.coherent (h : s.Settled) (hquiet : s.Quiet) : Coherent s.protocol := by
  intro topic
  constructor
  · rw [h.keys topic, Joining, quiet_iff.mp hquiet]
    simp
  · rw [← AList.lookup_isSome, ← AList.lookup_isSome, h.tasks topic]

/-- New broadcasts of joined topics and calls that return change nothing. -/
theorem Settled.frame (h : s.Settled) (htopics : t.protocol.topics = s.protocol.topics)
    (htasks : t.protocol.tasks = s.protocol.tasks)
    (hkeys : ∀ topic, topic ∈ t.protocol.keys ↔ topic ∈ s.protocol.keys)
    (hwaiting : waiting t.calls = waiting s.calls)
    (hbroadcasts : ∀ sender ∈ t.broadcasts,
      sender ∈ s.broadcasts ∨ sender.topic ∈ s.protocol.topics)
    (hfailures : t.NoFailures) : t.Settled := by
  refine ⟨?_, ?_, ?_, ?_, ?_, hfailures⟩
  · rw [htopics, htasks]
    exact h.tasks
  · rw [htopics]
    exact h.names
  · intro topic
    rw [hkeys, htopics, Joining, hwaiting]
    exact h.keys topic
  · rintro topic hjoining ⟨sender, htopic, hheld⟩
    rw [Joining, hwaiting] at hjoining
    refine h.apart topic hjoining (h.held_iff.mpr ?_)
    rw [htopics, htasks] at hheld
    rcases hheld with hlookup | hlookup | hmem
    · exact h.held_iff.mp ⟨sender, htopic, Or.inl hlookup⟩
    · exact h.held_iff.mp ⟨sender, htopic, Or.inr (Or.inl hlookup)⟩
    · rcases hbroadcasts sender hmem with hmem | hmem
      · exact Or.inr ⟨sender, hmem, htopic⟩
      · exact Or.inl (htopic ▸ hmem)
  · rw [hwaiting]
    exact h.once

theorem settled_new : new.Settled where
  tasks _ := rfl
  names _ _ h := absurd h (by simp [new, ChatGossipProtocol.new])
  keys topic := by simp [new, ChatGossipProtocol.new, Joining, waiting]
  apart topic h := absurd h (by simp [new, Joining, waiting])
  once := List.nodup_nil
  failures call h := absurd h (by simp [new])

/-! ## The turns -/

section

variable [JoinLibraries]

/-- The first turn of a `Join` of a topic that is joined. -/
theorem handleCommand_join_joined {protocol : ChatGossipProtocol} {topic : String}
    {sender : Subscription} (h : protocol.topics.lookup topic = some sender)
    (roomSecret : FixedBytes 32) (peers : List String) (endpoint name : String) :
    protocol.handleCommand (.join topic roomSecret peers endpoint name) =
      { protocol := { protocol with
          keys := protocol.keys.insert topic (deriveRoomKeys roomSecret)
          events := protocol.events ++ [.joined topic] }
        broadcasts := [sender]
        outcome := .returned (.ok ()) } := by
  simp only [ChatGossipProtocol.handleCommand, h]

/-- The first turn of a `Join` of a topic that is not joined, when it gets to `subscribe`. -/
theorem handleCommand_join_subscribing {protocol : ChatGossipProtocol} {topic : String}
    (h : protocol.topics.lookup topic = none) {peers : List String}
    {endpoints : List (FixedBytes 32)} (hpeers : parsePeers peers = .ok endpoints)
    (hgossip : protocol.gossip = true) (roomSecret : FixedBytes 32) (endpoint name : String) :
    protocol.handleCommand (.join topic roomSecret peers endpoint name) =
      { protocol := { protocol with
          keys := protocol.keys.insert topic (deriveRoomKeys roomSecret) }
        broadcasts := []
        outcome := .subscribing (deriveRoomKeys roomSecret).topicId endpoints } := by
  simp [ChatGossipProtocol.handleCommand, h, hpeers, ChatGossipProtocol.existingGossip, hgossip]

/-- A `Send` leaves the maps alone, and has its message sent on a joined topic. -/
theorem handleCommand_send (protocol : ChatGossipProtocol)
    (topic fromEndpoint fromName text : String) :
    ∃ broadcasts result,
      protocol.handleCommand (.send topic fromEndpoint fromName text) =
          ⟨protocol, broadcasts, .returned result⟩ ∧
        ∀ sender ∈ broadcasts, protocol.topics.lookup topic = some sender := by
  cases htopic : protocol.topics.lookup topic with
  | none =>
    refine ⟨[], .error (.webRtc ("not joined to " ++ topic)), ?_, by simp⟩
    simp only [ChatGossipProtocol.handleCommand, htopic]
  | some sender =>
    cases hkey : protocol.keys.lookup topic with
    | none =>
      refine ⟨[], .error (.webRtc ("no key for " ++ topic)), ?_, by simp⟩
      simp only [ChatGossipProtocol.handleCommand, htopic, hkey]
    | some roomKeys =>
      refine ⟨[sender], .ok (), ?_, fun sender' hmem => by rw [List.mem_singleton.mp hmem]⟩
      simp only [ChatGossipProtocol.handleCommand, htopic, hkey]

/-- A `Leave` removes its topic, and has its message sent on the topic it leaves. -/
theorem handleCommand_leave (protocol : ChatGossipProtocol) (topic : String) :
    ∃ broadcasts,
      protocol.handleCommand (.leave topic) =
          ⟨{ protocol with
              topics := protocol.topics.erase topic
              keys := protocol.keys.erase topic
              tasks := protocol.tasks.erase topic }, broadcasts, .returned (.ok ())⟩ ∧
        ∀ sender ∈ broadcasts, protocol.topics.lookup topic = some sender := by
  refine ⟨_, rfl, fun sender hmem => ?_⟩
  split at hmem
  · rename_i sender' roomKeys htopic hkey
    rw [List.mem_singleton.mp hmem, htopic]
  · exact absurd hmem List.not_mem_nil

/-! ## Orderly steps -/

omit [JoinLibraries] in
/-- A call that does not fail is added. -/
theorem NoFailures.append (h : s.NoFailures) {call : CommandCall}
    (hcalls : t.calls = s.calls ++ [call])
    (hcall : call.command.isJoin = true → ∀ e, call.result ≠ some (.error e)) : t.NoFailures := by
  intro call' hmem
  rw [hcalls, List.mem_append, List.mem_singleton] at hmem
  rcases hmem with hmem | rfl
  · exact h call' hmem
  · exact hcall

omit [JoinLibraries] in
theorem lookup_eq_none_of_not_held (h : s.Settled) {topic : String} (hheld : ¬ s.Held topic) :
    s.protocol.topics.lookup topic = none := by
  rw [AList.lookup_eq_none]
  exact fun hmem => hheld (h.held_iff.mpr (Or.inl hmem))

/-- A `Join` keeps the invariant, whether its topic is joined or it has to wait. -/
theorem Settled.step_join (h : s.Settled) {topic : String} {roomSecret : FixedBytes 32}
    {peers : List String} {endpoint name : String}
    (horderly : s.Orderly (.command (.join topic roomSecret peers endpoint name)))
    (hstep : s.step (.command (.join topic roomSecret peers endpoint name)) = some t) :
    t.Settled := by
  obtain rfl := Option.some.inj hstep
  rcases horderly with hjoined | ⟨halone, hnotheld, ⟨endpoints, hpeers⟩, hgossip⟩
  · obtain ⟨sender, hsender⟩ := Option.isSome_iff_exists.mp (AList.lookup_isSome.mpr hjoined)
    rw [handleCommand_join_joined hsender]
    refine h.frame rfl rfl (fun topic' => ?_)
      (waiting_append_returned _ (by simp [CommandOutcome.result])) (fun sender' hmem => ?_)
      (h.failures.append rfl (by simp [CommandOutcome.result]))
    · rw [AList.mem_insert]
      refine or_iff_right_of_imp ?_
      rintro rfl
      exact (h.keys topic').mpr (Or.inl hjoined)
    · rw [List.mem_append, List.mem_singleton] at hmem
      rcases hmem with hmem | rfl
      · exact Or.inl hmem
      · exact Or.inr (h.names topic sender' hsender ▸ hjoined)
  · rw [handleCommand_join_subscribing (lookup_eq_none_of_not_held h hnotheld) hpeers hgossip]
    refine ⟨h.tasks, h.names, fun topic' => ?_, fun topic' hjoining => ?_, ?_,
      h.failures.append rfl (by simp [CommandOutcome.result])⟩
    · rw [AList.mem_insert, h.keys topic', Joining, Joining, waiting_append_waiting _ rfl,
        List.mem_append, List.mem_singleton]
      exact or_comm.trans or_assoc
    · rw [Joining, waiting_append_waiting _ rfl, List.mem_append, List.mem_singleton] at hjoining
      rintro ⟨sender, htopic, hheld⟩
      rw [List.append_nil] at hheld
      rcases hjoining with hjoining | rfl
      · exact h.apart topic' hjoining ⟨sender, htopic, hheld⟩
      · exact hnotheld ⟨sender, htopic, hheld⟩
    · rw [waiting_append_waiting _ rfl, List.nodup_append]
      refine ⟨h.once, List.nodup_singleton _, ?_⟩
      intro topic' hwaiting topic'' hmem heq
      rw [List.mem_singleton] at hmem
      subst hmem heq
      exact halone hwaiting

theorem Settled.step_send (h : s.Settled) {topic fromEndpoint fromName text : String}
    (hstep : s.step (.command (.send topic fromEndpoint fromName text)) = some t) :
    t.Settled := by
  obtain rfl := Option.some.inj hstep
  obtain ⟨broadcasts, result, heq, hsenders⟩ :=
    handleCommand_send s.protocol topic fromEndpoint fromName text
  rw [heq]
  refine h.frame rfl rfl (fun _ => Iff.rfl) (waiting_append_returned _ (by
    simp [CommandOutcome.result])) (fun sender hmem => ?_) (h.failures.append rfl (by
    simp [ChatGossipCommand.isJoin]))
  rcases List.mem_append.mp hmem with hmem | hmem
  · exact Or.inl hmem
  · have hsender := hsenders sender hmem
    rw [h.names topic sender hsender]
    exact Or.inr (AList.lookup_isSome.mp (by rw [hsender]; rfl))

/-- A `Leave` takes its topic out of all maps, where no call waits for it. -/
theorem Settled.step_leave (h : s.Settled) {topic : String} (hnot : ¬ s.Joining topic)
    (hstep : s.step (.command (.leave topic)) = some t) : t.Settled := by
  obtain rfl := Option.some.inj hstep
  obtain ⟨broadcasts, heq, hsenders⟩ := handleCommand_leave s.protocol topic
  rw [heq]
  refine ⟨fun topic' => ?_, fun topic' sender hlookup => ?_, fun topic' => ?_,
    fun topic' hjoining => ?_, ?_, h.failures.append rfl (by simp [ChatGossipCommand.isJoin])⟩
  · by_cases hne : topic' = topic
    · rw [hne, AList.lookup_erase, AList.lookup_erase]
    · rw [AList.lookup_erase_ne hne, AList.lookup_erase_ne hne]
      exact h.tasks topic'
  · by_cases hne : topic' = topic
    · rw [hne, AList.lookup_erase] at hlookup
      exact absurd hlookup (by simp)
    · rw [AList.lookup_erase_ne hne] at hlookup
      exact h.names topic' sender hlookup
  · rw [AList.mem_erase, AList.mem_erase, h.keys topic', Joining, Joining,
      waiting_append_returned _ (by simp [CommandOutcome.result]), and_or_left]
    refine or_congr_right (and_iff_right_of_imp ?_)
    rintro hjoining rfl
    exact hnot hjoining
  · rw [Joining, waiting_append_returned _ (by simp [CommandOutcome.result])] at hjoining
    have hne : topic' ≠ topic := by
      rintro rfl
      exact hnot hjoining
    rintro ⟨sender, rfl, hheld⟩
    refine h.apart sender.topic hjoining (h.held_iff.mpr ?_)
    rcases hheld with ⟨name, hlookup⟩ | ⟨name, hlookup⟩ | hmem
    · by_cases hname : name = topic
      · rw [hname, AList.lookup_erase] at hlookup
        exact absurd hlookup (by simp)
      · rw [AList.lookup_erase_ne hname] at hlookup
        exact h.held_iff.mp ⟨sender, rfl, Or.inl ⟨name, hlookup⟩⟩
    · by_cases hname : name = topic
      · rw [hname, AList.lookup_erase] at hlookup
        exact absurd hlookup (by simp)
      · rw [AList.lookup_erase_ne hname] at hlookup
        exact h.held_iff.mp ⟨sender, rfl, Or.inr (Or.inl ⟨name, hlookup⟩)⟩
    · rcases List.mem_append.mp hmem with hmem | hmem
      · exact Or.inr ⟨sender, hmem, rfl⟩
      · exact absurd (h.names topic sender (hsenders sender hmem)) hne
  · rw [waiting_append_returned _ (by simp [CommandOutcome.result])]
    exact h.once

/-- A subscription is granted to a call that waits. -/
theorem step_granted {n : ℕ} (hstep : s.step (.subscribed n (.ok ())) = some t) :
    ∃ call changed, s.calls[n]? = some call ∧ call.result = none ∧
      t = { protocol := { s.protocol with
              topics := s.protocol.topics.insert call.command.topic ⟨call.command.topic, s.granted⟩
              tasks := s.protocol.tasks.insert call.command.topic ⟨call.command.topic, s.granted⟩
              events := s.protocol.events ++ [.joined call.command.topic] }
            broadcasts := s.broadcasts ++ [⟨call.command.topic, s.granted⟩]
            calls := s.calls.set n ⟨call.command, some (.ok ()), changed⟩
            granted := s.granted + 1 } := by
  rw [step] at hstep
  cases hget : s.calls[n]? with
  | none =>
    rw [hget] at hstep
    exact absurd hstep (by simp)
  | some call =>
    rw [hget] at hstep
    simp only at hstep
    split_ifs at hstep with hreturned
    exact ⟨call, _, rfl, by simpa using hreturned, (Option.some.inj hstep).symm⟩

/-- A subscription that is granted enters both maps under its topic. -/
theorem Settled.step_granted (h : s.Settled) {n : ℕ}
    (hstep : s.step (.subscribed n (.ok ())) = some t) : t.Settled := by
  obtain ⟨call, changed, hget, hwaits, rfl⟩ := ChatGossip.step_granted hstep
  obtain ⟨topic, htopic⟩ : ∃ topic, call.command.topic = topic := ⟨_, rfl⟩
  have hperm : (waiting s.calls).Perm
      (topic :: waiting (s.calls.set n ⟨call.command, some (.ok ()), changed⟩)) := by
    rw [← htopic]
    exact waiting_set hget hwaits (by simp)
  rw [htopic]
  have hjoining : s.Joining topic := hperm.mem_iff.mpr List.mem_cons_self
  have hnodup := hperm.nodup_iff.mp h.once
  rw [List.nodup_cons] at hnodup
  refine ⟨fun topic' => ?_, fun topic' sender hlookup => ?_, fun topic' => ?_,
    fun topic' hjoining' => ?_, hnodup.2, ?_⟩
  · rw [Table.lookup_insert_eq, Table.lookup_insert_eq, h.tasks topic']
  · rw [Table.lookup_insert_eq] at hlookup
    split_ifs at hlookup with heq
    · rw [← Option.some.inj hlookup, heq]
    · exact h.names topic' sender hlookup
  · rw [h.keys topic', Joining, Joining, hperm.mem_iff, List.mem_cons, AList.mem_insert]
    exact or_left_comm.trans or_assoc.symm
  · have hne : topic' ≠ topic := by
      rintro rfl
      exact hnodup.1 hjoining'
    rintro ⟨sender, rfl, hheld⟩
    refine h.apart sender.topic (hperm.mem_iff.mpr (List.mem_cons_of_mem _ hjoining')) ?_
    rcases hheld with ⟨name, hlookup⟩ | ⟨name, hlookup⟩ | hmem
    · rw [Table.lookup_insert_eq] at hlookup
      split_ifs at hlookup with hname
      · exact absurd (congrArg Subscription.topic (Option.some.inj hlookup)).symm hne
      · exact ⟨sender, rfl, Or.inl ⟨name, hlookup⟩⟩
    · rw [Table.lookup_insert_eq] at hlookup
      split_ifs at hlookup with hname
      · exact absurd (congrArg Subscription.topic (Option.some.inj hlookup)).symm hne
      · exact ⟨sender, rfl, Or.inr (Or.inl ⟨name, hlookup⟩)⟩
    · rw [List.mem_append, List.mem_singleton] at hmem
      rcases hmem with hmem | hmem
      · exact ⟨sender, rfl, Or.inr (Or.inr hmem)⟩
      · exact absurd (congrArg Subscription.topic hmem) hne
  · intro call' hmem hjoin e
    rcases List.mem_or_eq_of_mem_set hmem with hmem | rfl
    · exact h.failures call' hmem hjoin e
    · simp

/-- **What an orderly step preserves.** -/
theorem settled_step {ev : GossipEvent} (h : s.Settled) (horderly : s.Orderly ev)
    (hstep : s.step ev = some t) : t.Settled := by
  cases ev with
  | handler =>
    obtain rfl := Option.some.inj hstep
    exact h.frame rfl rfl (fun _ => Iff.rfl) rfl (fun _ hmem => Or.inl hmem) h.failures
  | command command =>
    cases command with
    | join topic roomSecret peers endpoint name => exact h.step_join horderly hstep
    | send topic fromEndpoint fromName text => exact h.step_send hstep
    | leave topic => exact h.step_leave horderly hstep
  | subscribed n result =>
    cases result with
    | error e => exact absurd horderly id
    | ok _ => exact h.step_granted hstep
  | broadcastDone n =>
    rw [step] at hstep
    split_ifs at hstep
    obtain rfl := Option.some.inj hstep
    exact h.frame rfl rfl (fun _ => Iff.rfl) rfl
      (fun _ hmem => Or.inl (List.mem_of_mem_eraseIdx hmem)) h.failures
  | announces topic =>
    rw [step] at hstep
    cases hlookup : s.protocol.tasks.lookup topic with
    | none =>
      rw [hlookup] at hstep
      exact absurd hstep (by simp)
    | some sender =>
      rw [hlookup] at hstep
      obtain rfl := Option.some.inj hstep
      refine h.frame rfl rfl (fun _ => Iff.rfl) rfl (fun sender' hmem => ?_) h.failures
      rw [List.mem_append, List.mem_singleton] at hmem
      rcases hmem with hmem | rfl
      · exact Or.inl hmem
      · rw [h.tasks topic] at hlookup
        rw [h.names topic sender' hlookup]
        exact Or.inr (AList.lookup_isSome.mp (by rw [hlookup]; rfl))
  | nextEvent =>
    rw [step] at hstep
    cases hevents : s.protocol.events with
    | nil =>
      rw [hevents] at hstep
      exact absurd hstep (by simp)
    | cons event rest =>
      rw [hevents] at hstep
      obtain rfl := Option.some.inj hstep
      exact h.frame rfl rfl (fun _ => Iff.rfl) rfl (fun _ hmem => Or.inl hmem) h.failures

/-- An orderly step subscribes to nothing that is held. -/
theorem subscribesOnce_of_orderly {ev : GossipEvent} (h : s.Settled) (horderly : s.Orderly ev) :
    s.SubscribesOnce ev := by
  rintro topic (⟨command, topicId, endpoints, rfl, rfl, houtcome⟩ |
    ⟨n, call, rfl, hget, hwaits, rfl⟩)
  · cases command with
    | join topic roomSecret peers endpoint name =>
      rcases horderly with hjoined | ⟨-, hnotheld, -⟩
      · obtain ⟨sender, hsender⟩ := Option.isSome_iff_exists.mp (AList.lookup_isSome.mpr hjoined)
        rw [handleCommand_join_joined hsender] at houtcome
        exact absurd houtcome (by simp)
      · exact hnotheld
    | send topic fromEndpoint fromName text =>
      obtain ⟨broadcasts, result, heq, -⟩ :=
        handleCommand_send s.protocol topic fromEndpoint fromName text
      rw [heq] at houtcome
      exact absurd houtcome (by simp)
    | leave topic =>
      obtain ⟨broadcasts, heq, -⟩ := handleCommand_leave s.protocol topic
      rw [heq] at houtcome
      exact absurd houtcome (by simp)
  · refine h.apart call.command.topic ?_
    rw [Joining, waiting, List.mem_map]
    exact ⟨call, List.mem_filter.mpr ⟨List.mem_of_getElem? hget, by simpa using hwaits⟩, rfl⟩

/-! ## Runs -/

/-- **Joins, sends and leaves are coherent in orderly runs.**  Whenever all calls have returned the
three maps have the same topics, a `Join` that returns an error leaves no trace in them, and no
topic is subscribed to while a subscription of it is held. -/
theorem joins_coherent {events : List GossipEvent}
    (horderly : Guarded step Orderly new events) :
    (∀ pre post u, events = pre ++ post → Runs.run step new pre = some u →
        (u.Quiet → Coherent u.protocol) ∧ u.FailuresUndone) ∧
      ∀ pre ev post u, events = pre ++ ev :: post → Runs.run step new pre = some u →
        u.SubscribesOnce ev := by
  have hsettled : ∀ pre post u, events = pre ++ post → Runs.run step new pre = some u →
      u.Settled := by
    rintro pre post u rfl hpre
    exact run_invariant_of_guarded (fun s ev t h hg hst => settled_step h hg hst) settled_new
      horderly.append_left hpre
  refine ⟨fun pre post u hevents hpre => ?_, fun pre ev post u hevents hpre => ?_⟩
  · have h := hsettled pre post u hevents hpre
    refine ⟨h.coherent, fun call hmem hjoin e hresult => ?_⟩
    exact absurd hresult (h.failures call hmem hjoin e)
  · exact subscribesOnce_of_orderly (hsettled pre (ev :: post) u hevents hpre)
      (guarded_iff_forall_split.mp horderly pre ev post u hevents hpre)

end

/-! ## Concrete runs -/

section Sample

open scoped Sample
open Sample

/-- A `Join` of the room of the secret `[7; 32]`. -/
def joinRoom (peers : List String) : GossipEvent :=
  .command (.join "room" (.replicate 32 7) peers carolHex "carol")

/-- A `Join` of the room of the secret `[8; 32]`. -/
def joinDen : GossipEvent := .command (.join "den" (.replicate 32 8) [] carolHex "carol")

/-- Two `Join`s wait at once, and the second one is granted first. -/
def waitingJoins : List GossipEvent := [.handler, joinRoom [carolHex], joinDen]

/-- While the first `Join` still waits something is sent to the other room.  Then that room is left,
and joined again once the last of its broadcasts is done; the first room is joined twice. -/
def concurrentCalls : List GossipEvent :=
  waitingJoins ++
    [.subscribed 1 (.ok ()), .command (.send "den" carolHex "carol" "hi"), .subscribed 0 (.ok ()),
      .announces "den", .broadcastDone 0, .broadcastDone 0, .broadcastDone 1,
      .command (.leave "den"), joinRoom [], .broadcastDone 1, joinDen, .nextEvent,
      .subscribed 5 (.ok ())]

theorem concurrentCalls_orderly : Guarded step Orderly new concurrentCalls := by
  decide +kernel

theorem joins_coherent_sample :
    (∃ s, Runs.run step new waitingJoins = some s ∧ waiting s.calls = ["room", "den"]) ∧
      ∃ t, Runs.run step new concurrentCalls = some t ∧ t.Quiet ∧ t.calls.length = 6 ∧
        t.protocol.topics.keys = ["den", "room"] ∧ Coherent t.protocol := by
  refine ⟨⟨_, rfl, rfl⟩, _, rfl, quiet_iff.mpr rfl, rfl, rfl, ?_⟩
  exact ((joins_coherent concurrentCalls_orderly).1 concurrentCalls [] _ rfl rfl).1
    (quiet_iff.mpr rfl)

/-- **The maps come apart.**  A `Join` that fails leaves keys behind; two at once subscribe twice;
and a `Leave` during a `Join` leaves a subscription without keys. -/
theorem joins_incoherent :
    (∃ t, Runs.run step new [.handler, joinRoom ["carol"]] = some t ∧ t.Quiet ∧
        ¬ Coherent t.protocol ∧ ¬ t.FailuresUndone) ∧
      (∃ t, Runs.run step new [.handler, joinRoom [carolHex], joinRoom [carolHex],
          .subscribed 0 (.ok ())] = some t ∧ ¬ t.SubscribesOnce (.subscribed 1 (.ok ()))) ∧
      ∃ t, Runs.run step new [.handler, joinRoom [carolHex], .command (.leave "room"),
          .subscribed 0 (.ok ())] = some t ∧ t.Quiet ∧ ¬ Coherent t.protocol := by
  refine ⟨⟨_, rfl, quiet_iff.mpr rfl, ?_, ?_⟩, ⟨_, rfl, ?_⟩, ⟨_, rfl, quiet_iff.mpr rfl, ?_⟩⟩
  · intro h
    exact absurd ((h "room").1.mp (by decide)) (by decide)
  · intro h
    exact absurd (h _ (List.mem_singleton_self _) rfl _ rfl) (by decide)
  · intro h
    refine h "room" (Or.inr ⟨1, _, rfl, rfl, rfl, rfl⟩) ⟨⟨"room", 0⟩, rfl, Or.inl ⟨"room", rfl⟩⟩
  · intro h
    exact absurd ((h "room").1.mpr (by decide)) (by decide)

end Sample

end ChatGossip

end IrohWebRtc
