import IrohWebRtc.Chat.JoinedTopics

/-!
# The tasks that broadcast for the protocol

`ChatGossipProtocol` with the tasks that broadcast for it.  A `Join` has its announcement sent by
a task of its own, and so have a `Send` and a `Leave`; the receiver of a topic announces itself to
new neighbours, and after a `Sync` has a task sleep and announce itself again.  Each such task
holds a clone of the sender until it ends, and `Leave` aborts none but the receiver.

A task is given by the topic and the subscription whose sender it holds, and by what it is about
to say.  A subscription is over when nobody holds its sender, so what a topic may still say after
it was left can be read off the list of the tasks.

The errors that failed broadcasts report are not followed.

* `ChatTasks.step`: the calls, the tasks and the maps together.
* `ChatTasks.Tracked`: what every step keeps.
* `ChatTasks.Spreads`: the steps that change neither map, and start tasks of joined topics only.
-/

namespace IrohWebRtc

open Bytes Runs

/-- The variants of `ChatWireMessage` that are broadcast. -/
inductive WireKind where
  | aboutMe
  | chat
  | leave
  | sync
  deriving DecidableEq, Repr

/-- A task with a clone of a sender, and what it has yet to broadcast. -/
structure Speaker where
  sender : Subscription
  /-- It announces itself after a `Sync`. -/
  answers : Bool
  rest : List WireKind
  deriving DecidableEq

/-- What the task that a command starts broadcasts. -/
def ChatGossipCommand.speech : ChatGossipCommand → List WireKind
  | .join _ _ _ _ _ => [.aboutMe, .sync]
  | .send _ _ _ _ => [.chat]
  | .leave _ => [.leave]

/-- A call of `handle_command`, and whether it waits for `subscribe`. -/
structure TopicCall where
  command : ChatGossipCommand
  waits : Bool

structure ChatTasks where
  protocol : ChatGossipProtocol
  speakers : List Speaker
  calls : List TopicCall
  granted : ℕ

inductive ChatTaskEvent where
  /-- The router asks for the protocol handler. -/
  | handler
  | command (command : ChatGossipCommand)
  /-- `subscribe` answers a call. -/
  | subscribed (call : ℕ) (result : Except String Unit)
  /-- A task broadcasts its next message, or fails to. -/
  | speaks (speaker : ℕ) (sent : Bool)
  /-- The receiver of a topic announces itself to a new neighbour. -/
  | greets (topic : String)
  /-- The receiver of a topic handles a `Sync`. -/
  | syncReceived (topic : String)
  /-- `next_event`. -/
  | nextEvent

namespace ChatTasks

def new : ChatTasks := ⟨.new, [], [], 0⟩

/-- A `Join` of the topic waits for `subscribe`. -/
def Joining (s : ChatTasks) (topic : String) : Prop :=
  ∃ call ∈ s.calls, call.waits = true ∧ call.command.topic = topic

/-- A `Leave` of the topic was called, and no `Join` since. -/
def LeftBy (commands : List ChatGossipCommand) (topic : String) : Prop :=
  ∃ pre post, commands = pre ++ .leave topic :: post ∧
    ∀ later ∈ post, later.isJoin = true → later.topic ≠ topic

def Left (s : ChatTasks) (topic : String) : Prop := LeftBy (s.calls.map TopicCall.command) topic

/-- A sender or a task of the subscription has not been dropped. -/
def Holds (s : ChatTasks) (sender : Subscription) : Prop :=
  (∃ name, s.protocol.topics.lookup name = some sender) ∨
    (∃ name, s.protocol.tasks.lookup name = some sender) ∨
      ∃ speaker ∈ s.speakers, speaker.sender = sender

/-- What an event broadcasts. -/
def speech (s : ChatTasks) : ChatTaskEvent → Option (Subscription × WireKind)
  | .speaks n true =>
    (s.speakers[n]?).bind fun speaker => speaker.rest.head?.map fun kind => (speaker.sender, kind)
  | .greets topic => (s.protocol.tasks.lookup topic).map fun sender => (sender, .aboutMe)
  | _ => none

section Libraries

variable [JoinLibraries]

def step (s : ChatTasks) : ChatTaskEvent → Option ChatTasks
  | .handler => some { s with protocol := s.protocol.handler }
  | .command command =>
    let turn := s.protocol.handleCommand command
    some { s with
      protocol := turn.protocol
      speakers := s.speakers ++ turn.broadcasts.map fun sender => ⟨sender, false, command.speech⟩
      calls := s.calls ++ [⟨command, turn.outcome.result.isNone⟩] }
  | .subscribed n result =>
    match s.calls[n]? with
    | none => none
    | some call =>
      if call.waits then
        let topic := call.command.topic
        let turn := s.protocol.afterSubscribe topic ⟨topic, s.granted⟩ result
        some
          { protocol := turn.protocol
            speakers := s.speakers ++
              turn.broadcasts.map fun sender => ⟨sender, false, [.aboutMe, .sync]⟩
            calls := s.calls.set n { call with waits := false }
            granted := s.granted + 1 }
      else none
  | .speaks n _ =>
    match s.speakers[n]? with
    | some ⟨sender, answers, _ :: rest⟩ =>
      -- the task goes on to its next message, or ends
      some { s with
        speakers := s.speakers.eraseIdx n ++ if rest = [] then [] else [⟨sender, answers, rest⟩] }
    | _ => none
  | .greets topic => if (s.protocol.tasks.lookup topic).isSome then some s else none
  | .syncReceived topic =>
    match s.protocol.tasks.lookup topic with
    | none => none
    | some sender =>
      -- `pending_announce` of this receiver
      if s.speakers.any fun speaker => speaker.answers && speaker.sender = sender then some s
      else some { s with speakers := s.speakers ++ [⟨sender, true, [.aboutMe]⟩] }
  | .nextEvent =>
    match s.protocol.events with
    | [] => none
    | _ :: rest => some { s with protocol := { s.protocol with events := rest } }

/-- The event is a `Join` of the topic. -/
def Joins (topic : String) : ChatTaskEvent → Prop
  | .command command => command.isJoin = true ∧ command.topic = topic
  | _ => False

/-! ## What every step keeps -/

/-- The two maps have the same senders, each under its topic; the numbers of senders are used up;
and the sender of a task that broadcasts a `Leave` is not in the maps. -/
structure Tracked (s : ChatTasks) : Prop where
  tasks : ∀ topic, s.protocol.tasks.lookup topic = s.protocol.topics.lookup topic
  names : ∀ topic sender, s.protocol.topics.lookup topic = some sender →
    sender.topic = topic ∧ sender.number < s.granted
  numbers : ∀ speaker ∈ s.speakers, speaker.sender.number < s.granted
  rests : ∀ speaker ∈ s.speakers,
    speaker.rest = [.leave] ∨ speaker.rest ≠ [] ∧ .leave ∉ speaker.rest
  erased : ∀ speaker ∈ s.speakers, speaker.rest = [.leave] →
    s.protocol.topics.lookup speaker.sender.topic ≠ some speaker.sender

omit [JoinLibraries] in
theorem tracked_new : new.Tracked where
  tasks _ := rfl
  names _ _ h := absurd h (by simp [new, ChatGossipProtocol.new])
  numbers _ h := absurd h List.not_mem_nil
  rests _ h := absurd h List.not_mem_nil
  erased _ h := absurd h List.not_mem_nil

variable {s t : ChatTasks} {ev : ChatTaskEvent}

omit [JoinLibraries] in
/-- A sender is held by the maps, under its topic, or by a task. -/
theorem Tracked.holds_iff (hs : s.Tracked) {sender : Subscription} :
    s.Holds sender ↔ s.protocol.topics.lookup sender.topic = some sender ∨
      ∃ speaker ∈ s.speakers, speaker.sender = sender := by
  have hname : ∀ {name}, s.protocol.topics.lookup name = some sender →
      s.protocol.topics.lookup sender.topic = some sender := by
    intro name hlookup
    rwa [(hs.names name sender hlookup).1]
  constructor
  · rintro (⟨name, hlookup⟩ | ⟨name, hlookup⟩ | hspeaker)
    · exact Or.inl (hname hlookup)
    · exact Or.inl (hname ((hs.tasks name).symm.trans hlookup))
    · exact Or.inr hspeaker
  · rintro (hlookup | hspeaker)
    · exact Or.inl ⟨_, hlookup⟩
    · exact Or.inr (Or.inr hspeaker)

/-! ## Steps that start tasks of joined topics -/

/-- A step that changes neither map, and starts tasks with senders from them that broadcast no
`Leave`. -/
structure Spreads (s : ChatTasks) (ev : ChatTaskEvent) (t : ChatTasks) : Prop where
  topics : t.protocol.topics = s.protocol.topics
  tasks : t.protocol.tasks = s.protocol.tasks
  granted : s.granted ≤ t.granted
  speakers : ∃ fresh, t.speakers = s.speakers ++ fresh ∧ ∀ speaker ∈ fresh,
    s.protocol.topics.lookup speaker.sender.topic = some speaker.sender ∧
      speaker.rest ≠ [] ∧ .leave ∉ speaker.rest
  left : ∀ topic, t.Left topic → s.Left topic ∧ ¬ Joins topic ev
  joining : ∀ topic, t.Joining topic → s.Joining topic ∨ Joins topic ev

omit [JoinLibraries] in
theorem Spreads.of_same (htopics : t.protocol.topics = s.protocol.topics)
    (htasks : t.protocol.tasks = s.protocol.tasks) (hspeakers : t.speakers = s.speakers)
    (hcalls : t.calls = s.calls) (hgranted : t.granted = s.granted)
    (hnot : ∀ topic, ¬ Joins topic ev) : Spreads s ev t where
  topics := htopics
  tasks := htasks
  granted := hgranted.ge
  speakers := ⟨[], by rw [hspeakers, List.append_nil], fun _ h => absurd h List.not_mem_nil⟩
  left topic h := ⟨by rwa [Left, hcalls] at h, hnot topic⟩
  joining topic h := Or.inl (by rwa [Joining, hcalls] at h)

omit [JoinLibraries] in
theorem leftBy_concat {commands : List ChatGossipCommand} {command : ChatGossipCommand}
    {topic : String} :
    LeftBy (commands ++ [command]) topic ↔
      command = .leave topic ∨
        LeftBy commands topic ∧ ¬ (command.isJoin = true ∧ command.topic = topic) := by
  constructor
  · rintro ⟨pre, post, hsplit, hpost⟩
    rcases append_singleton_eq_append_cons hsplit with ⟨rfl, -, hcommand⟩ | ⟨post', rfl, hold⟩
    · exact Or.inl hcommand
    · refine Or.inr ⟨⟨pre, post', hold, fun later hmem => hpost later ?_⟩, ?_⟩
      · exact List.mem_append_left _ hmem
      · rintro ⟨hjoin, htopic⟩
        exact hpost command (List.mem_append_right _ (List.mem_singleton.mpr rfl)) hjoin htopic
  · rintro (rfl | ⟨⟨pre, post, rfl, hpost⟩, hnot⟩)
    · exact ⟨commands, [], rfl, fun later h => absurd h List.not_mem_nil⟩
    · refine ⟨pre, post ++ [command], by simp, fun later hmem hjoin htopic => ?_⟩
      rcases List.mem_append.mp hmem with hmem | hmem
      · exact hpost later hmem hjoin htopic
      · exact hnot (List.mem_singleton.mp hmem ▸ ⟨hjoin, htopic⟩)

omit [JoinLibraries] in
/-- A turn of a call that leaves the maps alone. -/
theorem Spreads.of_command {command : ChatGossipCommand} {protocol : ChatGossipProtocol}
    {broadcasts : List Subscription} {waits : Bool} (hs : s.Tracked)
    (htopics : protocol.topics = s.protocol.topics) (htasks : protocol.tasks = s.protocol.tasks)
    (hsenders : ∀ sender ∈ broadcasts, s.protocol.topics.lookup command.topic = some sender)
    (hleave : ∀ topic, command ≠ .leave topic) (hwaits : waits = true → command.isJoin = true) :
    Spreads s (.command command)
      { s with
        protocol := protocol
        speakers := s.speakers ++ broadcasts.map fun sender => ⟨sender, false, command.speech⟩
        calls := s.calls ++ [⟨command, waits⟩] } where
  topics := htopics
  tasks := htasks
  granted := Nat.le_refl _
  speakers := by
    refine ⟨_, rfl, fun speaker hmem => ?_⟩
    obtain ⟨sender, hsender, rfl⟩ := List.mem_map.mp hmem
    have hlookup := hsenders sender hsender
    refine ⟨?_, ?_⟩
    · show s.protocol.topics.lookup sender.topic = some sender
      rwa [(hs.names _ _ hlookup).1]
    · cases command with
      | join => exact ⟨by simp [ChatGossipCommand.speech], by simp [ChatGossipCommand.speech]⟩
      | send => exact ⟨by simp [ChatGossipCommand.speech], by simp [ChatGossipCommand.speech]⟩
      | leave topic => exact absurd rfl (hleave topic)
  left topic h := by
    rw [Left, List.map_append] at h
    exact (leftBy_concat.mp h).resolve_left (hleave topic)
  joining topic := by
    rintro ⟨call, hmem, hwaiting, htopic⟩
    rcases List.mem_append.mp hmem with hmem | hmem
    · exact Or.inl ⟨call, hmem, hwaiting, htopic⟩
    · obtain rfl := List.mem_singleton.mp hmem
      exact Or.inr ⟨hwaits hwaiting, htopic⟩

/-- The first turn of a `Join`. -/
theorem handleCommand_join_cases (protocol : ChatGossipProtocol) (topic : String)
    (roomSecret : FixedBytes 32) (peers : List String) (endpoint name : String) :
    let turn := protocol.handleCommand (.join topic roomSecret peers endpoint name)
    turn.protocol.topics = protocol.topics ∧ turn.protocol.tasks = protocol.tasks ∧
      ∀ sender ∈ turn.broadcasts, protocol.topics.lookup topic = some sender := by
  cases htopic : protocol.topics.lookup topic with
  | some sender =>
    rw [ChatGossip.handleCommand_join_joined htopic]
    exact ⟨rfl, rfl, fun sender' hmem => by rw [List.mem_singleton.mp hmem]⟩
  | none =>
    simp only [ChatGossipProtocol.handleCommand, htopic]
    split
    · exact ⟨rfl, rfl, fun _ h => absurd h List.not_mem_nil⟩
    · split
      · exact ⟨rfl, rfl, fun _ h => absurd h List.not_mem_nil⟩
      · exact ⟨rfl, rfl, fun _ h => absurd h List.not_mem_nil⟩

theorem spreads_join (hs : s.Tracked) {topic : String} {roomSecret : FixedBytes 32}
    {peers : List String} {endpoint name : String}
    (h : s.step (.command (.join topic roomSecret peers endpoint name)) = some t) :
    Spreads s (.command (.join topic roomSecret peers endpoint name)) t := by
  obtain rfl := Option.some.inj h
  obtain ⟨htopics, htasks, hsenders⟩ :=
    handleCommand_join_cases s.protocol topic roomSecret peers endpoint name
  exact .of_command hs htopics htasks hsenders (fun _ h => by cases h) fun _ => rfl

theorem spreads_send (hs : s.Tracked) {topic fromEndpoint fromName text : String}
    (h : s.step (.command (.send topic fromEndpoint fromName text)) = some t) :
    Spreads s (.command (.send topic fromEndpoint fromName text)) t := by
  obtain rfl := Option.some.inj h
  obtain ⟨broadcasts, result, heq, hsenders⟩ :=
    ChatGossip.handleCommand_send s.protocol topic fromEndpoint fromName text
  rw [heq]
  exact .of_command hs rfl rfl hsenders (fun _ h => by cases h) fun h => by cases h

omit [JoinLibraries] in
/-- A call returns, which keeps the commands as they are. -/
theorem calls_set {n : ℕ} {call : TopicCall} (hget : s.calls[n]? = some call) :
    (s.calls.set n { call with waits := false }).map TopicCall.command =
      s.calls.map TopicCall.command := by
  have hcommand : (s.calls.map TopicCall.command)[n]? = some call.command := by
    rw [List.getElem?_map, hget, Option.map_some]
  obtain ⟨hlt, heq⟩ := List.getElem?_eq_some_iff.mp hcommand
  rw [List.map_set]
  show (s.calls.map TopicCall.command).set n call.command = _
  rw [← heq, List.set_getElem_self]

omit [JoinLibraries] in
theorem joining_set {n : ℕ} {call : TopicCall} {topic : String}
    (h : ∃ call' ∈ s.calls.set n { call with waits := false },
      call'.waits = true ∧ call'.command.topic = topic) : s.Joining topic := by
  obtain ⟨call', hmem, hwaits, htopic⟩ := h
  rcases List.mem_or_eq_of_mem_set hmem with hmem | rfl
  · exact ⟨call', hmem, hwaits, htopic⟩
  · cases hwaits

/-- A subscription is the answer to a call that waits for it. -/
theorem step_subscribed {n : ℕ} {result : Except String Unit}
    (h : s.step (.subscribed n result) = some t) :
    ∃ call, s.calls[n]? = some call ∧ call.waits = true ∧
      let turn := s.protocol.afterSubscribe call.command.topic
        ⟨call.command.topic, s.granted⟩ result
      t =
        { protocol := turn.protocol
          speakers := s.speakers ++
            turn.broadcasts.map fun sender => ⟨sender, false, [.aboutMe, .sync]⟩
          calls := s.calls.set n { call with waits := false }
          granted := s.granted + 1 } := by
  rw [step] at h
  cases hget : s.calls[n]? with
  | none =>
    rw [hget] at h
    cases h
  | some call =>
    rw [hget] at h
    by_cases hwaits : call.waits = true
    · simp only [if_pos hwaits] at h
      exact ⟨call, rfl, hwaits, (Option.some.inj h).symm⟩
    · simp only [if_neg hwaits] at h
      cases h

theorem spreads_refused {n : ℕ} {e : String}
    (h : s.step (.subscribed n (.error e)) = some t) : Spreads s (.subscribed n (.error e)) t := by
  obtain ⟨call, hget, -, rfl⟩ := step_subscribed h
  refine ⟨rfl, rfl, Nat.le_succ _, ⟨[], rfl, fun _ h => absurd h List.not_mem_nil⟩,
    fun topic hleft => ⟨?_, id⟩, fun topic hjoining => Or.inl (joining_set hjoining)⟩
  rwa [Left, calls_set hget] at hleft

theorem spreads_syncReceived (hs : s.Tracked) {topic : String}
    (h : s.step (.syncReceived topic) = some t) : Spreads s (.syncReceived topic) t := by
  rw [step] at h
  cases hlookup : s.protocol.tasks.lookup topic with
  | none =>
    rw [hlookup] at h
    cases h
  | some sender =>
    rw [hlookup] at h
    have htopics := (hs.tasks topic).symm.trans hlookup
    by_cases hpending :
        (s.speakers.any fun speaker => speaker.answers && speaker.sender = sender) = true
    · simp only [if_pos hpending] at h
      obtain rfl := Option.some.inj h
      exact .of_same rfl rfl rfl rfl rfl fun _ => id
    · simp only [if_neg hpending] at h
      obtain rfl := Option.some.inj h
      refine ⟨rfl, rfl, Nat.le_refl _, ⟨_, rfl, fun speaker hmem => ?_⟩, fun _ hleft => ⟨hleft, id⟩,
        fun _ => Or.inl⟩
      obtain rfl := List.mem_singleton.mp hmem
      refine ⟨?_, by simp, by simp⟩
      show s.protocol.topics.lookup sender.topic = some sender
      rwa [(hs.names topic sender htopics).1]

theorem spreads_greets {topic : String} (h : s.step (.greets topic) = some t) :
    Spreads s (.greets topic) t := by
  rw [step] at h
  by_cases hsome : (s.protocol.tasks.lookup topic).isSome = true
  · rw [if_pos hsome] at h
    obtain rfl := Option.some.inj h
    exact .of_same rfl rfl rfl rfl rfl fun _ => id
  · rw [if_neg hsome] at h
    cases h

theorem spreads_nextEvent (h : s.step .nextEvent = some t) : Spreads s .nextEvent t := by
  rw [step] at h
  cases hevents : s.protocol.events with
  | nil =>
    rw [hevents] at h
    cases h
  | cons event rest =>
    rw [hevents] at h
    obtain rfl := Option.some.inj h
    exact .of_same rfl rfl rfl rfl rfl fun _ => id

theorem spreads_handler (h : s.step .handler = some t) : Spreads s .handler t := by
  obtain rfl := Option.some.inj h
  exact .of_same rfl rfl rfl rfl rfl fun _ => id

end Libraries

end ChatTasks

end IrohWebRtc
