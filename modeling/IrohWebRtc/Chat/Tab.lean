import IrohWebRtc.Chat.Authenticity
import IrohWebRtc.Chat.Gossip
import IrohWebRtc.Chat.Invite
import IrohWebRtc.Chat.JoinedTopics
import IrohWebRtc.Chat.Profile
import IrohWebRtc.Chat.Reducer

/-!
# A tab of the chat room

The commands of the user (`commands.rs`), the protocol with its receivers, and the state that is
shown, put together as `app.rs` does.  A call of the user dispatches to the state at once and
sends its command, which is taken up later, in any order; receivers emit events into one queue,
and `gossip_event_loop` turns them into actions one after the other.

So the state that is shown and the protocol are two views of the same rooms, and neither follows
the other at once: a room may be shown that is not joined yet, and a receiver may run in a room
that is not shown any more.  What ties them together is the user, who asked for both.

A tab keeps an account of what its user did and of what it signed.  It is written and never read
by the functions of the tab, and all that is proved of a tab is said in terms of it.

* `doHost`, `doJoin`, `eventAction`: what a call dispatches and sends, and what an event
  dispatches.
* `Tab.step`: the calls, the commands, the receivers, the tasks that broadcast and the event loop.
* `Tab.Keeps`: what is signed, waits or runs in a tab was asked for by its user.
* `Tab.step_events`, `Tab.step_app`: what a step can emit, and what it can show.

The user interface itself is left out: what the user can do in it is an operation, at any time and
with any texts.
-/

namespace IrohWebRtc

open Bytes Runs

/-! ## Commands -/

/-- A command that was sent, and what is dispatched when it has returned. -/
structure SentCommand where
  command : ChatGossipCommand
  after : Option Action

section Commands

variable [JoinLibraries] [TopicText]

/-- The room that a call adds. -/
def newRoom (roomSecret : FixedBytes 32) (roomName message : String) (mode : RoomMode)
    (peers : List String) : RoomState where
  topicId := topicOf roomSecret
  roomSecret := roomSecret
  name := roomName
  mode := mode
  messages := [sysMsg message]
  participants := []
  names := ∅
  joined := false
  bootstrapPeers := peers
  leftSigners := ∅

/-- `do_host`: the room it adds, and the command it sends. -/
def doHost (endpoint secretB64 roomName name : String) : Option (RoomState × ChatGossipCommand) :=
  (decodeTopicB64 secretB64).map fun roomSecret =>
    (newRoom roomSecret roomName ("*** Hosting #" ++ roomName ++ ". Share the invite link.")
      .hosting [], .join (topicOf roomSecret) roomSecret [] endpoint name)

/-- `do_join`: the room it adds, and the command it sends. -/
def doJoin (endpoint invite roomName name : String) :
    Except String (RoomState × ChatGossipCommand) :=
  match parseInvite invite with
  | none => .error "Invalid invite link"
  | some (roomSecret, host, _) =>
    if host = endpoint then .error "That's your own invite link."
    else
      .ok (newRoom roomSecret roomName ("*** Joining #" ++ roomName ++ "…") .joined [host],
        .join (topicOf roomSecret) roomSecret [host] endpoint name)

end Commands

/-- The message that `do_send` shows at once. -/
def localEcho (endpoint name text : String) : ChatMsg where
  fromEndpoint := endpoint
  fromName := truncateChars name maxNameChars
  text := truncateChars text maxTextChars
  isSystem := false

/-- `gossip_event_loop`: what an event dispatches. -/
def eventAction (localEp : String) : ChatGossipEvent → Option Action
  | .joined topic => some (.joined topic)
  | .neighborUp topic endpoint => some (.neighborUp topic endpoint)
  | .neighborDown topic endpoint => some (.neighborDown topic endpoint)
  | .chat topic fromEndpoint fromName text =>
    if fromEndpoint ≠ localEp then some (.recvChat topic fromEndpoint fromName text) else none
  | .system topic text => some (.system topic text)
  | .identify topic endpoint name =>
    if endpoint ≠ localEp then some (.identify topic endpoint name) else none
  | .peerLeft topic endpoint =>
    if endpoint ≠ localEp then some (.peerLeft topic endpoint) else none

/-! ## The state of a tab -/

/-- A receiver task, with its subscription and the name that it announces. -/
structure Receiver where
  task : RoomTask
  sender : Subscription
  name : String

/-- The task that answers a `Sync`: it sleeps, and then broadcasts. -/
structure Answer where
  sender : Subscription
  keys : RoomKeys
  name : String
  spoken : Bool

/-- A `Join` that waits for `subscribe`. -/
structure WaitingJoin where
  topic : String
  keys : RoomKeys
  name : String

/-- A task that broadcasts for a command: how it reports that each of its messages has failed. -/
structure Speech where
  topic : String
  failures : List String

/-- What the user did in a tab, and what the tab signed. -/
structure TabLog where
  signed : List SignedMessage
  /-- Topic, name and text of the messages sent. -/
  sent : List (String × String × String)
  /-- Topic and name of the joins. -/
  joined : List (String × String)
  left : List String

structure Tab where
  secretKey : FixedBytes 32
  protocol : ChatGossipProtocol
  /-- The tasks of `protocol.tasks`. -/
  receivers : Table String Receiver
  answers : List Answer
  speeches : List Speech
  sentCommands : List SentCommand
  joining : List WaitingJoin
  granted : ℕ
  app : AppState
  log : TabLog

inductive TabOp where
  | host (secretB64 roomName name : String)
  | join (invite roomName name : String)
  | send (name text topic : String)
  | leave (topic : String)
  /-- The handler for `pagehide`. -/
  | pageHide
  | setActive (topic : String)
  | clearError
  /-- The router asks for the protocol handler. -/
  | handler
  /-- A command is taken up. -/
  | command (n : ℕ) (nonce : FixedBytes 16)
  /-- `subscribe` answers a `Join`. -/
  | subscribed (n : ℕ) (result : Except String Unit) (nonce : FixedBytes 16)
  /-- A receiver takes an event of its subscription. -/
  | receive (topic : String) (input : RoomInput) (nonce : FixedBytes 16)
  /-- The sleep of an answer ends. -/
  | answer (n : ℕ) (nonce : FixedBytes 16)
  /-- The broadcast of an answer ends. -/
  | answered (n : ℕ)
  /-- A message of a broadcasting task is sent, or fails. -/
  | speaks (n : ℕ) (error : Option String)
  /-- The event loop takes an event. -/
  | nextEvent

namespace Tab

section Log

variable (tab : Tab)

def dispatch (a : Action) : Tab := { tab with app := tab.app.reduce a }

def emit (events : List ChatGossipEvent) : Tab :=
  { tab with protocol := { tab.protocol with events := tab.protocol.events ++ events } }

/-- A command is sent. -/
def push (command : ChatGossipCommand) (after : Option Action) : Tab :=
  { tab with sentCommands := tab.sentCommands ++ [⟨command, after⟩] }

def logSigned (signed : List SignedMessage) : Tab :=
  { tab with log := { tab.log with signed := tab.log.signed ++ signed } }

def logSent (topic name text : String) : Tab :=
  { tab with log := { tab.log with sent := tab.log.sent ++ [(topic, name, text)] } }

def logJoined (topic name : String) : Tab :=
  { tab with log := { tab.log with joined := tab.log.joined ++ [(topic, name)] } }

def logLeft (topics : List String) : Tab :=
  { tab with log := { tab.log with left := tab.log.left ++ topics } }

end Log

/-- The `Join` that a restored room sends. -/
def rejoin [SendLibraries] (secretKey : FixedBytes 32) (name : String) (r : RoomState) :
    SentCommand :=
  ⟨.join r.topicId r.roomSecret r.bootstrapPeers (publicKeyString secretKey) name, none⟩

/-- A tab that has just spawned its node, with the state it restores. -/
def start [SendLibraries] (secretKey : FixedBytes 32) (state : AppState) : Tab where
  secretKey := secretKey
  protocol := .new
  receivers := ∅
  answers := []
  speeches := []
  sentCommands := state.rooms.map (rejoin secretKey state.name)
  joining := []
  granted := 0
  app := state
  log := ⟨[], [], state.rooms.map fun r => (r.topicId, state.name), []⟩

variable [SendLibraries]

/-- `public_key_bytes`. -/
def publicKey (tab : Tab) : FixedBytes 32 := SendLibraries.publicKey tab.secretKey

/-- The endpoint id of the node. -/
def localEp (tab : Tab) : String := publicKeyString tab.secretKey

/-- A message signed for a room. -/
def sign (tab : Tab) (keys : RoomKeys) (nonce : FixedBytes 16) (body : ChatBody) : SignedMessage :=
  ⟨tab.publicKey, keys.topicId, nonce, body⟩

/-! ### Events -/

/-- What a receiver signs, and the answer it starts: it announces itself to a new neighbour, and has
a `Sync` answered unless an answer is under way. -/
def receiverTask (tab : Tab) (r : Receiver) (task : RoomTask) (nonce : FixedBytes 16) :
    RoomInput → List SignedMessage × List Answer
  | .neighborUp _ _ => ([tab.sign r.task.keys nonce (.aboutMe r.name)], [])
  | .received _ =>
    ([], if !r.task.pendingAnnounce && task.pendingAnnounce
      then [⟨r.sender, r.task.keys, r.name, false⟩] else [])
  | _ => ([], [])

/-- A receiver takes an event of its subscription. -/
def receive [ChatLibraries] (tab : Tab) (topic : String) (input : RoomInput)
    (nonce : FixedBytes 16) : Option Tab :=
  match tab.receivers.lookup topic with
  | none => none
  | some r =>
    if r.task.ended then none
    else
      let (task, events) := r.task.step input
      let (signed, answers) := tab.receiverTask r task nonce input
      some (({ tab with
        receivers := tab.receivers.insert topic { r with task := task }
        answers := tab.answers ++ answers }.emit events).logSigned signed)

/-- The sleep of an answer ends: it announces the name. -/
def answer (tab : Tab) (n : ℕ) (nonce : FixedBytes 16) : Option Tab :=
  match tab.answers[n]? with
  | none => none
  | some a =>
    if a.spoken then none
    else
      some ({ tab with answers := tab.answers.set n { a with spoken := true } }.logSigned
        [tab.sign a.keys nonce (.aboutMe a.name)])

/-- The flag of the receiver whose answer has ended is cleared. -/
def announced [ChatLibraries] (tab : Tab) (sender : Subscription) : Tab :=
  match tab.receivers.lookup sender.topic with
  | none => tab
  | some r =>
    if r.sender = sender then
      { tab with
        receivers := tab.receivers.insert sender.topic
          { r with task := (r.task.step .announced).1 } }
    else tab

def answered [ChatLibraries] (tab : Tab) (n : ℕ) : Option Tab :=
  match tab.answers[n]? with
  | none => none
  | some a =>
    if a.spoken then some ({ tab with answers := tab.answers.eraseIdx n }.announced a.sender)
    else none

omit [SendLibraries] in
/-- A task broadcasts its next message; if this fails, it says so. -/
def speaks (tab : Tab) (n : ℕ) (error : Option String) : Option Tab :=
  match tab.speeches[n]? with
  | some ⟨topic, failure :: failures⟩ =>
    some (({ tab with
      speeches := tab.speeches.eraseIdx n ++
        if failures = [] then [] else [⟨topic, failures⟩] } : Tab).emit
      (error.map fun e => .system topic (failure ++ e)).toList)
  | _ => none

/-! ### Commands -/

section Commands

variable [JoinLibraries]

/-- What a command signs before it broadcasts. -/
def commandSigns (tab : Tab) (nonce : FixedBytes 16) : ChatGossipCommand → List SignedMessage
  | .join topic roomSecret _ _ name =>
    match tab.protocol.topics.lookup topic with
    | some _ => [tab.sign (deriveRoomKeys roomSecret) nonce (.aboutMe name)]
    | none => []
  | .send topic _ fromName text =>
    match tab.protocol.topics.lookup topic, tab.protocol.keys.lookup topic with
    | some _, some keys => [tab.sign keys nonce (.chat fromName text)]
    | _, _ => []
  | .leave topic =>
    match tab.protocol.topics.lookup topic, tab.protocol.keys.lookup topic with
    | some _, some keys => [tab.sign keys nonce .leave]
    | _, _ => []

omit [SendLibraries] [JoinLibraries] in
/-- How the task that a command starts reports failures. -/
def commandFailures : ChatGossipCommand → List String
  | .join .. => ["rejoin announce failed: ", "rejoin sync failed: "]
  | .send .. => ["delivery failed: "]
  | .leave _ => ["leave announce failed: "]

omit [SendLibraries] in
/-- The `Join` that waits, when one does. -/
def waitingJoin (outcome : CommandOutcome) : ChatGossipCommand → List WaitingJoin
  | .join topic roomSecret _ _ name =>
    match outcome with
    | .subscribing _ _ => [⟨topic, deriveRoomKeys roomSecret, name⟩]
    | .returned _ => []
  | _ => []

/-- The state that `handle_command` leaves when it returns or waits. -/
def handled (tab : Tab) (n : ℕ) (command : ChatGossipCommand) : Tab :=
  let turn := tab.protocol.handleCommand command
  { tab with
    protocol := turn.protocol
    receivers :=
      match command with
      | .leave topic => tab.receivers.erase topic
      | _ => tab.receivers
    speeches := tab.speeches ++
      turn.broadcasts.map fun _ => ⟨command.topic, commandFailures command⟩
    sentCommands := tab.sentCommands.eraseIdx n
    joining := tab.joining ++ waitingJoin turn.outcome command }

/-- A command is taken up: `handle_command`, and what is dispatched when it has returned. -/
def takeCommand (tab : Tab) (n : ℕ) (nonce : FixedBytes 16) : Option Tab :=
  (tab.sentCommands[n]?).map fun sent =>
    let next := (tab.handled n sent.command).logSigned (tab.commandSigns nonce sent.command)
    match (tab.protocol.handleCommand sent.command).outcome.result, sent.after with
    | some _, some after => next.dispatch after
    | _, _ => next

/-- `subscribe` answers a `Join`. -/
def subscribed (tab : Tab) (n : ℕ) (result : Except String Unit) (nonce : FixedBytes 16) :
    Option Tab :=
  (tab.joining[n]?).map fun j =>
    let sender : Subscription := ⟨j.topic, tab.granted⟩
    let turn := tab.protocol.afterSubscribe j.topic sender result
    let next := { tab with
      protocol := turn.protocol
      joining := tab.joining.eraseIdx n
      granted := tab.granted + 1 }
    match result with
    | .error _ => next
    | .ok () =>
      { next with
        receivers := tab.receivers.insert j.topic (Receiver.mk (.new j.topic j.keys) sender j.name)
        speeches := tab.speeches ++
          [Speech.mk j.topic ["initial announce failed: ", "initial sync failed: "]] }.logSigned
        [tab.sign j.keys nonce (.aboutMe j.name)]

end Commands

/-- The event loop takes an event. -/
def nextEvent (tab : Tab) : Option Tab :=
  match tab.protocol.events with
  | [] => none
  | event :: events =>
    let next := { tab with protocol := { tab.protocol with events := events } }
    some ((eventAction tab.localEp event).elim next next.dispatch)

variable [JoinLibraries] [TopicText]

def step (tab : Tab) : TabOp → Option Tab
  | .host secretB64 roomName name =>
    (doHost tab.localEp secretB64 roomName name).map fun (room, command) =>
      ((tab.logJoined room.topicId name).dispatch (.addRoom room)).push command none
  | .join invite roomName name =>
    match doJoin tab.localEp invite roomName name with
    | .error msg => some (tab.dispatch (.setJoinError (some msg)))
    | .ok (room, command) =>
      some (((tab.logJoined room.topicId name).dispatch (.addRoom room)).push command none)
  | .send name text topic =>
    some (((tab.logSent topic (truncateChars name maxNameChars)
      (truncateChars text maxTextChars)).dispatch
        (.localSend topic (localEcho tab.localEp name text))).push
          (doSend tab.localEp name text topic) none)
  | .leave topic => some ((tab.logLeft [topic]).push (.leave topic) (some (.removeRoom topic)))
  | .pageHide =>
    let topics := (tab.app.rooms.filter fun r => r.joined).map RoomState.topicId
    some { tab.logLeft topics with
      sentCommands := tab.sentCommands ++ topics.map fun topic => ⟨.leave topic, none⟩ }
  | .setActive topic => some (tab.dispatch (.setActive topic))
  | .clearError => some (tab.dispatch (.setJoinError none))
  | .handler => some { tab with protocol := tab.protocol.handler }
  | .command n nonce => tab.takeCommand n nonce
  | .subscribed n result nonce => tab.subscribed n result nonce
  | .receive topic input nonce =>
    match input with
    | .announced => none
    | input => tab.receive topic input nonce
  | .answer n nonce => tab.answer n nonce
  | .answered n => tab.answered n
  | .speaks n error => tab.speaks n error
  | .nextEvent => tab.nextEvent

/-! ## What a tab keeps -/

end Tab

namespace TabLog

variable {log log' : TabLog}

/-- Everything in the log is in the other one. -/
structure Extends (log log' : TabLog) : Prop where
  signed : ∀ m ∈ log.signed, m ∈ log'.signed
  sent : ∀ s ∈ log.sent, s ∈ log'.sent
  joined : ∀ j ∈ log.joined, j ∈ log'.joined
  left : ∀ topic ∈ log.left, topic ∈ log'.left

theorem Extends.refl (log : TabLog) : log.Extends log :=
  ⟨fun _ => id, fun _ => id, fun _ => id, fun _ => id⟩

/-- The user asked for a message of a room. -/
def Signs (log : TabLog) (topic : String) : ChatBody → Prop
  | .aboutMe name => (topic, name) ∈ log.joined
  | .chat name text => (topic, name, text) ∈ log.sent
  | .leave => topic ∈ log.left

theorem Signs.mono {topic : String} {body : ChatBody} (h : log.Signs topic body)
    (hlog : log.Extends log') : log'.Signs topic body := by
  cases body with
  | aboutMe name => exact hlog.joined _ h
  | chat name text => exact hlog.sent _ h
  | leave => exact hlog.left _ h

variable [JoinLibraries] [TopicText]

/-- The user asked for a command. -/
def Backs (log : TabLog) : ChatGossipCommand → Prop
  | .join topic roomSecret _ _ name => topic = topicOf roomSecret ∧ (topic, name) ∈ log.joined
  | .send topic _ name text => (topic, name, text) ∈ log.sent
  | .leave topic => topic ∈ log.left

theorem Backs.mono {command : ChatGossipCommand} (h : log.Backs command)
    (hlog : log.Extends log') : log'.Backs command := by
  cases command with
  | join topic roomSecret peers endpoint name => exact ⟨h.1, hlog.joined _ h.2⟩
  | send topic fromEndpoint name text => exact hlog.sent _ h
  | leave topic => exact hlog.left _ h

end TabLog

namespace Tab

variable [SendLibraries] [JoinLibraries] [TopicText] {tab next : Tab}

/-- **What a tab keeps.**  Its rooms go under the topics of their keys, and all that it has signed,
and that waits, was asked for by the user. -/
structure Keeps (tab : Tab) : Prop where
  keys : ∀ topic keys, tab.protocol.keys.lookup topic = some keys →
    topic = TopicText.toText keys.topicId
  receivers : ∀ topic r, tab.receivers.lookup topic = some r → r.task.topic = topic ∧
    topic = TopicText.toText r.task.keys.topicId ∧ (topic, r.name) ∈ tab.log.joined
  answers : ∀ a ∈ tab.answers, (TopicText.toText a.keys.topicId, a.name) ∈ tab.log.joined
  joining : ∀ j ∈ tab.joining, j.topic = TopicText.toText j.keys.topicId ∧
    (j.topic, j.name) ∈ tab.log.joined
  sentCommands : ∀ c ∈ tab.sentCommands, tab.log.Backs c.command ∧
    ∀ a, c.after = some a → ∃ topic, a = .removeRoom topic
  signed : ∀ m ∈ tab.log.signed, m.key = tab.publicKey ∧
    tab.log.Signs (TopicText.toText m.topicId) m.body
  sent : ∀ s ∈ tab.log.sent, truncateChars s.2.2 maxTextChars = s.2.2

/-- A change of the state that is shown and of the queue of events, or of the log by what keeps to
the lists that it backs. -/
theorem Keeps.of_log (h : tab.Keeps) (hkeys : next.protocol.keys = tab.protocol.keys)
    (hreceivers : next.receivers = tab.receivers) (hanswers : next.answers = tab.answers)
    (hjoining : next.joining = tab.joining) (hcommands : next.sentCommands = tab.sentCommands)
    (hlog : tab.log.Extends next.log)
    (hsigned : ∀ m ∈ next.log.signed, m ∈ tab.log.signed ∨
      m.key = tab.publicKey ∧ next.log.Signs (TopicText.toText m.topicId) m.body)
    (hsecret : next.secretKey = tab.secretKey)
    (hsent : ∀ s ∈ next.log.sent, s ∈ tab.log.sent ∨
      truncateChars s.2.2 maxTextChars = s.2.2) : next.Keeps where
  keys := by
    rw [hkeys]
    exact h.keys
  receivers := by
    intro topic r hr
    rw [hreceivers] at hr
    obtain ⟨htask, htopic, hname⟩ := h.receivers topic r hr
    exact ⟨htask, htopic, hlog.joined _ hname⟩
  answers := by
    rw [hanswers]
    exact fun a ha => hlog.joined _ (h.answers a ha)
  joining := by
    rw [hjoining]
    exact fun j hj => ⟨(h.joining j hj).1, hlog.joined _ (h.joining j hj).2⟩
  sentCommands := by
    rw [hcommands]
    exact fun c hc => ⟨(h.sentCommands c hc).1.mono hlog, (h.sentCommands c hc).2⟩
  signed := by
    intro m hm
    have hkey : next.publicKey = tab.publicKey := by rw [publicKey, publicKey, hsecret]
    rw [hkey]
    rcases hsigned m hm with hm | hm
    · exact ⟨(h.signed m hm).1, (h.signed m hm).2.mono hlog⟩
    · exact hm
  sent := by
    intro s hs
    rcases hsent s hs with hs | hs
    · exact h.sent s hs
    · exact hs

/-- A tab that has just restored its rooms. -/
theorem keeps_start {secretKey : FixedBytes 32} {state : AppState}
    (h : ∀ r ∈ state.rooms, r.topicId = topicOf r.roomSecret) : (start secretKey state).Keeps := by
  refine ⟨fun topic keys h => ?_, fun topic r h => ?_, fun a ha => absurd ha List.not_mem_nil,
    fun j hj => absurd hj List.not_mem_nil, fun c hc => ?_,
    fun m hm => absurd hm List.not_mem_nil, fun s hs => absurd hs List.not_mem_nil⟩
  · cases h
  · cases h
  · obtain ⟨r, hr, rfl⟩ := List.mem_map.mp hc
    refine ⟨⟨h r hr, List.mem_map.mpr ⟨r, hr, rfl⟩⟩, fun a ha => ?_⟩
    cases ha

/-! ### Updates -/

theorem Keeps.dispatch (h : tab.Keeps) (a : Action) : (tab.dispatch a).Keeps :=
  h.of_log rfl rfl rfl rfl rfl (.refl _) (fun _ => Or.inl) rfl fun _ => Or.inl

theorem Keeps.emit (h : tab.Keeps) (events : List ChatGossipEvent) : (tab.emit events).Keeps :=
  h.of_log rfl rfl rfl rfl rfl (.refl _) (fun _ => Or.inl) rfl fun _ => Or.inl

theorem Keeps.logSigned (h : tab.Keeps) {signed : List SignedMessage}
    (hsigned : ∀ m ∈ signed, m.key = tab.publicKey ∧
      tab.log.Signs (TopicText.toText m.topicId) m.body) : (tab.logSigned signed).Keeps := by
  refine h.of_log rfl rfl rfl rfl rfl ⟨fun m hm => List.mem_append_left _ hm, fun _ => id,
    fun _ => id, fun _ => id⟩ (fun m hm => ?_) rfl fun _ => Or.inl
  exact (List.mem_append.mp hm).imp_right (hsigned m)

/-- The account of what the user asked for grows. -/
theorem Keeps.logUser (h : tab.Keeps) (sent : List (String × String × String))
    (joined : List (String × String)) (left : List String)
    (hsent : ∀ s ∈ sent, truncateChars s.2.2 maxTextChars = s.2.2) :
    { tab with
      log := ⟨tab.log.signed, tab.log.sent ++ sent, tab.log.joined ++ joined,
        tab.log.left ++ left⟩ }.Keeps := by
  refine h.of_log rfl rfl rfl rfl rfl ⟨fun _ => id, fun s hs => List.mem_append_left _ hs,
    fun j hj => List.mem_append_left _ hj, fun topic ht => List.mem_append_left _ ht⟩
    (fun _ => Or.inl) rfl fun s hs => ?_
  exact (List.mem_append.mp hs).imp_right (hsent s)

theorem Keeps.logSent (h : tab.Keeps) {topic name text : String}
    (htext : truncateChars text maxTextChars = text) : (tab.logSent topic name text).Keeps := by
  have hlog := h.logUser [(topic, name, text)] [] []
    fun s hs => by rwa [List.mem_singleton.mp hs]
  simp only [List.append_nil] at hlog
  exact hlog

theorem Keeps.logJoined (h : tab.Keeps) (topic name : String) :
    (tab.logJoined topic name).Keeps := by
  have hlog := h.logUser [] [(topic, name)] []
    fun s hs => absurd hs List.not_mem_nil
  simp only [List.append_nil] at hlog
  exact hlog

theorem Keeps.logLeft (h : tab.Keeps) (topics : List String) : (tab.logLeft topics).Keeps := by
  have hlog := h.logUser [] [] topics
    fun s hs => absurd hs List.not_mem_nil
  simp only [List.append_nil] at hlog
  exact hlog

/-- Commands that the user asked for are sent. -/
theorem Keeps.sends (h : tab.Keeps) {commands : List SentCommand}
    (hcommands : ∀ c ∈ commands, tab.log.Backs c.command ∧
      ∀ a, c.after = some a → ∃ topic, a = .removeRoom topic) :
    { tab with sentCommands := tab.sentCommands ++ commands }.Keeps := by
  refine ⟨h.keys, h.receivers, h.answers, h.joining, fun c hc => ?_, h.signed, h.sent⟩
  rcases List.mem_append.mp hc with hc | hc
  · exact h.sentCommands c hc
  · exact hcommands c hc

theorem Keeps.push (h : tab.Keeps) {command : ChatGossipCommand} {after : Option Action}
    (hbacks : tab.log.Backs command)
    (hafter : ∀ a, after = some a → ∃ topic, a = .removeRoom topic) :
    (tab.push command after).Keeps := by
  refine h.sends fun c hc => ?_
  rw [List.mem_singleton.mp hc]
  exact ⟨hbacks, hafter⟩

/-! ### Commands -/

omit [SendLibraries] [TopicText] in
/-- A `Join` inserts its keys, and may emit that the topic is joined. -/
theorem handleCommand_join (protocol : ChatGossipProtocol) (topic : String)
    (roomSecret : FixedBytes 32) (peers : List String) (endpoint name : String) :
    ∃ events broadcasts outcome,
      protocol.handleCommand (.join topic roomSecret peers endpoint name) =
          ⟨{ protocol with
              keys := protocol.keys.insert topic (deriveRoomKeys roomSecret)
              events := protocol.events ++ events }, broadcasts, outcome⟩ ∧
        ∀ e ∈ events, e = .joined topic := by
  cases htopic : protocol.topics.lookup topic with
  | some sender =>
    refine ⟨[.joined topic], [sender], .returned (.ok ()), ?_, fun e he => List.mem_singleton.mp he⟩
    exact ChatGossip.handleCommand_join_joined htopic roomSecret peers endpoint name
  | none =>
    refine ⟨[], ?_⟩
    rw [List.append_nil]
    cases hpeers : parsePeers peers with
    | error e =>
      refine ⟨[], .returned (.error e), ?_, fun e he => absurd he List.not_mem_nil⟩
      simp only [ChatGossipProtocol.handleCommand, htopic, hpeers]
    | ok endpoints =>
      by_cases hgossip : protocol.gossip = true
      · refine ⟨[], .subscribing (deriveRoomKeys roomSecret).topicId endpoints, ?_,
          fun e he => absurd he List.not_mem_nil⟩
        exact ChatGossip.handleCommand_join_subscribing htopic hpeers hgossip roomSecret endpoint
          name
      · refine ⟨[], .returned (.error (.webRtc "gossip not yet registered")), ?_,
          fun e he => absurd he List.not_mem_nil⟩
        simp [ChatGossipProtocol.handleCommand, htopic, hpeers, ChatGossipProtocol.existingGossip,
          hgossip]

omit [SendLibraries] [TopicText] in
/-- The keys after a command, and the events it emits. -/
theorem handleCommand_spec (protocol : ChatGossipProtocol) (command : ChatGossipCommand) :
    (∀ topic keys, (protocol.handleCommand command).protocol.keys.lookup topic = some keys →
      protocol.keys.lookup topic = some keys ∨ ∃ roomSecret peers endpoint name,
        command = .join topic roomSecret peers endpoint name ∧ keys = deriveRoomKeys roomSecret) ∧
    ∃ events, (protocol.handleCommand command).protocol.events = protocol.events ++ events ∧
      ∀ e ∈ events, ∃ topic, e = .joined topic := by
  cases command with
  | join topic roomSecret peers endpoint name =>
    obtain ⟨events, broadcasts, outcome, heq, hevents⟩ :=
      handleCommand_join protocol topic roomSecret peers endpoint name
    rw [heq]
    refine ⟨fun topic' keys hkeys => ?_, events, rfl, fun e he => ⟨topic, hevents e he⟩⟩
    rw [Table.lookup_insert_eq] at hkeys
    split_ifs at hkeys with hsame
    · subst hsame
      exact Or.inr ⟨roomSecret, peers, endpoint, name, rfl, (Option.some.inj hkeys).symm⟩
    · exact Or.inl hkeys
  | send topic fromEndpoint fromName text =>
    obtain ⟨broadcasts, result, heq, -⟩ :=
      ChatGossip.handleCommand_send protocol topic fromEndpoint fromName text
    rw [heq]
    exact ⟨fun _ _ => Or.inl, [], (List.append_nil _).symm, fun e he => absurd he List.not_mem_nil⟩
  | leave topic =>
    obtain ⟨broadcasts, heq, -⟩ := ChatGossip.handleCommand_leave protocol topic
    rw [heq]
    refine ⟨fun topic' keys hkeys => Or.inl (Table.lookup_erase_eq_some.mp hkeys).2, [],
      (List.append_nil _).symm, fun e he => absurd he List.not_mem_nil⟩

/-- What a command signs was asked for, as the command was. -/
theorem Keeps.commandSigns (h : tab.Keeps) {command : ChatGossipCommand}
    (hbacks : tab.log.Backs command) (nonce : FixedBytes 16) :
    ∀ m ∈ tab.commandSigns nonce command, m.key = tab.publicKey ∧
      tab.log.Signs (TopicText.toText m.topicId) m.body := by
  intro m hm
  cases command with
  | join topic roomSecret peers endpoint name =>
    obtain ⟨rfl, hjoined⟩ := hbacks
    rw [Tab.commandSigns] at hm
    split at hm
    · rw [List.mem_singleton.mp hm]
      exact ⟨rfl, hjoined⟩
    · exact absurd hm List.not_mem_nil
  | send topic fromEndpoint fromName text =>
    rw [Tab.commandSigns] at hm
    split at hm
    · rename_i sender keys htopic hkeys
      rw [List.mem_singleton.mp hm]
      refine ⟨rfl, ?_⟩
      show (TopicText.toText keys.topicId, fromName, text) ∈ tab.log.sent
      rw [← h.keys topic keys hkeys]
      exact hbacks
    · exact absurd hm List.not_mem_nil
  | leave topic =>
    rw [Tab.commandSigns] at hm
    split at hm
    · rename_i sender keys htopic hkeys
      rw [List.mem_singleton.mp hm]
      refine ⟨rfl, ?_⟩
      show TopicText.toText keys.topicId ∈ tab.log.left
      rw [← h.keys topic keys hkeys]
      exact hbacks
    · exact absurd hm List.not_mem_nil

omit [TopicText] in
/-- A command is handled, and its return may dispatch. -/
theorem takeCommand_cases {n : ℕ} {nonce : FixedBytes 16}
    (hstep : tab.takeCommand n nonce = some next) :
    ∃ sent, tab.sentCommands[n]? = some sent ∧
      (next = (tab.handled n sent.command).logSigned (tab.commandSigns nonce sent.command) ∨
        ∃ a, sent.after = some a ∧ next =
          ((tab.handled n sent.command).logSigned
            (tab.commandSigns nonce sent.command)).dispatch a) := by
  obtain ⟨sent, hsent, rfl⟩ := Option.map_eq_some_iff.mp hstep
  refine ⟨sent, hsent, ?_⟩
  dsimp only
  split
  · rename_i after _ hafter
    exact Or.inr ⟨after, hafter, rfl⟩
  · exact Or.inl rfl

omit [SendLibraries] [TopicText] in
/-- The receivers and the waiting calls after a command. -/
theorem handled_cases (n : ℕ) (command : ChatGossipCommand) :
    (∀ topic r, (tab.handled n command).receivers.lookup topic = some r →
      tab.receivers.lookup topic = some r) ∧
    ∀ j ∈ (tab.handled n command).joining, j ∈ tab.joining ∨
      ∃ topic roomSecret peers endpoint name,
        command = .join topic roomSecret peers endpoint name ∧
          j = ⟨topic, deriveRoomKeys roomSecret, name⟩ := by
  cases command with
  | join topic roomSecret peers endpoint name =>
    refine ⟨fun _ _ => id, fun j hj => (List.mem_append.mp hj).imp_right fun hj => ?_⟩
    cases houtcome :
        (tab.protocol.handleCommand (.join topic roomSecret peers endpoint name)).outcome with
    | subscribing topicId endpoints =>
      rw [houtcome] at hj
      exact ⟨topic, roomSecret, peers, endpoint, name, rfl, List.mem_singleton.mp hj⟩
    | returned result =>
      rw [houtcome] at hj
      exact absurd hj List.not_mem_nil
  | send topic fromEndpoint fromName text =>
    refine ⟨fun _ _ => id, fun j hj => (List.mem_append.mp hj).imp_right fun hj => ?_⟩
    exact absurd hj List.not_mem_nil
  | leave topic =>
    refine ⟨fun topic' r hr => (Table.lookup_erase_eq_some.mp hr).2,
      fun j hj => (List.mem_append.mp hj).imp_right fun hj => ?_⟩
    exact absurd hj List.not_mem_nil

theorem Keeps.handled (h : tab.Keeps) (n : ℕ) {command : ChatGossipCommand}
    (hbacks : tab.log.Backs command) : (tab.handled n command).Keeps := by
  obtain ⟨hreceivers, hjoining⟩ := tab.handled_cases n command
  refine ⟨fun topic keys hkeys => ?_, fun topic r hr => h.receivers topic r (hreceivers topic r hr),
    h.answers, fun j hj => ?_, fun c hc => h.sentCommands c (List.mem_of_mem_eraseIdx hc), h.signed,
    h.sent⟩
  · rcases (handleCommand_spec tab.protocol command).1 topic keys hkeys with
      hold | ⟨roomSecret, peers, endpoint, name, rfl, rfl⟩
    · exact h.keys topic keys hold
    · exact hbacks.1
  · rcases hjoining j hj with hj | ⟨topic, roomSecret, peers, endpoint, name, rfl, rfl⟩
    · exact h.joining j hj
    · exact hbacks

theorem Keeps.takeCommand (h : tab.Keeps) {n : ℕ} {nonce : FixedBytes 16}
    (hstep : tab.takeCommand n nonce = some next) : next.Keeps := by
  obtain ⟨sent, hsent, hnext⟩ := takeCommand_cases hstep
  have hbacks := (h.sentCommands sent (List.mem_of_getElem? hsent)).1
  have hsigned : ((tab.handled n sent.command).logSigned
      (tab.commandSigns nonce sent.command)).Keeps :=
    (h.handled n hbacks).logSigned (h.commandSigns hbacks nonce)
  rcases hnext with rfl | ⟨a, -, rfl⟩
  · exact hsigned
  · exact hsigned.dispatch a

/-! ### Receivers -/

/-- A receiver goes on with its topic and its keys. -/
theorem Keeps.setTask (h : tab.Keeps) {topic : String} {r : Receiver} {task : RoomTask}
    (hr : tab.receivers.lookup topic = some r) (htopic : task.topic = r.task.topic)
    (hkeys : task.keys = r.task.keys) :
    { tab with receivers := tab.receivers.insert topic { r with task := task } }.Keeps := by
  refine ⟨h.keys, fun topic' r' hr' => ?_, h.answers, h.joining, h.sentCommands, h.signed, h.sent⟩
  rw [Table.lookup_insert_eq] at hr'
  split_ifs at hr' with hsame
  · subst hsame
    obtain rfl := Option.some.inj hr'
    rw [htopic, hkeys]
    exact h.receivers _ r hr
  · exact h.receivers topic' r' hr'

/-- Answers are started for names that the user goes by. -/
theorem Keeps.addAnswers (h : tab.Keeps) {answers : List Answer}
    (hanswers : ∀ a ∈ answers, (TopicText.toText a.keys.topicId, a.name) ∈ tab.log.joined) :
    { tab with answers := tab.answers ++ answers }.Keeps := by
  refine ⟨h.keys, h.receivers, fun a ha => ?_, h.joining, h.sentCommands, h.signed, h.sent⟩
  rcases List.mem_append.mp ha with ha | ha
  · exact h.answers a ha
  · exact hanswers a ha

/-- What a receiver signs and starts goes under the name the user goes by. -/
theorem Keeps.receiverTask (h : tab.Keeps) {topic : String} {r : Receiver}
    (hr : tab.receivers.lookup topic = some r) (task : RoomTask) (nonce : FixedBytes 16)
    (input : RoomInput) :
    (∀ m ∈ (tab.receiverTask r task nonce input).1, m.key = tab.publicKey ∧
      tab.log.Signs (TopicText.toText m.topicId) m.body) ∧
    ∀ a ∈ (tab.receiverTask r task nonce input).2,
      (TopicText.toText a.keys.topicId, a.name) ∈ tab.log.joined := by
  obtain ⟨-, htopic, hname⟩ := h.receivers topic r hr
  rw [htopic] at hname
  cases input with
  | neighborUp endpoint announceError =>
    refine ⟨fun m hm => ?_, fun a ha => absurd ha List.not_mem_nil⟩
    rw [List.mem_singleton.mp hm]
    exact ⟨rfl, hname⟩
  | received content =>
    refine ⟨fun m hm => absurd hm List.not_mem_nil, fun a ha => ?_⟩
    rw [Tab.receiverTask] at ha
    split_ifs at ha
    · rw [List.mem_singleton.mp ha]
      exact hname
    · exact absurd ha List.not_mem_nil
  | neighborDown endpoint =>
    exact ⟨fun m hm => absurd hm List.not_mem_nil, fun a ha => absurd ha List.not_mem_nil⟩
  | lagged => exact ⟨fun m hm => absurd hm List.not_mem_nil, fun a ha => absurd ha List.not_mem_nil⟩
  | error message =>
    exact ⟨fun m hm => absurd hm List.not_mem_nil, fun a ha => absurd ha List.not_mem_nil⟩
  | announced =>
    exact ⟨fun m hm => absurd hm List.not_mem_nil, fun a ha => absurd ha List.not_mem_nil⟩

/-- The end of an announcement is no event of the subscription. -/
theorem receive_of_step {topic : String} {input : RoomInput} {nonce : FixedBytes 16}
    (hstep : tab.step (.receive topic input nonce) = some next) :
    tab.receive topic input nonce = some next := by
  cases input with
  | announced => cases hstep
  | neighborUp endpoint announceError => exact hstep
  | neighborDown endpoint => exact hstep
  | received content => exact hstep
  | lagged => exact hstep
  | error message => exact hstep

omit [TopicText] in
/-- What a receiver does with an event. -/
theorem receive_cases {topic : String} {input : RoomInput} {nonce : FixedBytes 16}
    (hstep : tab.receive topic input nonce = some next) :
    ∃ r, tab.receivers.lookup topic = some r ∧ r.task.ended = false ∧
      next = (({ tab with
        receivers := tab.receivers.insert topic { r with task := (r.task.step input).1 }
        answers := tab.answers ++
          (tab.receiverTask r (r.task.step input).1 nonce input).2 }.emit
            (r.task.step input).2).logSigned
              (tab.receiverTask r (r.task.step input).1 nonce input).1) := by
  rw [receive] at hstep
  split at hstep
  · cases hstep
  · rename_i r hr
    split_ifs at hstep with hended
    exact ⟨r, hr, by simpa using hended, (Option.some.inj hstep).symm⟩

theorem Keeps.receive (h : tab.Keeps) {topic : String} {input : RoomInput} {nonce : FixedBytes 16}
    (hstep : tab.receive topic input nonce = some next) : next.Keeps := by
  obtain ⟨r, hr, -, rfl⟩ := receive_cases hstep
  obtain ⟨htopic, hkeys, -⟩ := r.task.step_frame input
  obtain ⟨hsigned, hanswers⟩ := h.receiverTask hr (r.task.step input).1 nonce input
  exact (((h.setTask hr htopic hkeys).addAnswers hanswers).emit _).logSigned hsigned

theorem Keeps.answer (h : tab.Keeps) {n : ℕ} {nonce : FixedBytes 16}
    (hstep : tab.answer n nonce = some next) : next.Keeps := by
  rw [Tab.answer] at hstep
  split at hstep
  · cases hstep
  · rename_i a ha
    split_ifs at hstep
    obtain rfl := Option.some.inj hstep
    have hmem : a ∈ tab.answers := List.mem_of_getElem? ha
    have hset : { tab with answers := tab.answers.set n { a with spoken := true } }.Keeps := by
      refine ⟨h.keys, h.receivers, fun a' ha' => ?_, h.joining, h.sentCommands, h.signed, h.sent⟩
      rcases List.mem_or_eq_of_mem_set ha' with ha' | rfl
      · exact h.answers a' ha'
      · exact h.answers a hmem
    refine hset.logSigned fun m hm => ?_
    rw [List.mem_singleton.mp hm]
    exact ⟨rfl, h.answers a hmem⟩

theorem Keeps.answered (h : tab.Keeps) {n : ℕ} (hstep : tab.answered n = some next) :
    next.Keeps := by
  rw [Tab.answered] at hstep
  split at hstep
  · cases hstep
  · rename_i a ha
    split_ifs at hstep
    obtain rfl := Option.some.inj hstep
    have herased : { tab with answers := tab.answers.eraseIdx n }.Keeps :=
      ⟨h.keys, h.receivers, fun a ha => h.answers a (List.mem_of_mem_eraseIdx ha), h.joining,
        h.sentCommands, h.signed, h.sent⟩
    rw [announced]
    split
    · exact herased
    · rename_i r hr
      split_ifs
      · obtain ⟨htopic, hkeys, -⟩ := r.task.step_frame .announced
        exact herased.setTask hr htopic hkeys
      · exact herased

/-- Neither what is signed nor what waits depends on the tasks that broadcast and on the events. -/
theorem Keeps.of_queues (h : tab.Keeps) (hkeys : next.protocol.keys = tab.protocol.keys)
    (hreceivers : next.receivers = tab.receivers) (hanswers : next.answers = tab.answers)
    (hjoining : next.joining = tab.joining) (hcommands : next.sentCommands = tab.sentCommands)
    (hlog : next.log = tab.log) (hsecret : next.secretKey = tab.secretKey) : next.Keeps := by
  refine h.of_log hkeys hreceivers hanswers hjoining hcommands ?_ ?_ hsecret ?_
  · rw [hlog]
    exact .refl _
  · rw [hlog]
    exact fun _ => Or.inl
  · rw [hlog]
    exact fun _ => Or.inl

omit [SendLibraries] [JoinLibraries] [TopicText] in
/-- A broadcasting task goes on, and may report a failure. -/
theorem speaks_cases {n : ℕ} {error : Option String} (hstep : tab.speaks n error = some next) :
    ∃ speeches topic failure, next = ({ tab with speeches := speeches } : Tab).emit
      (error.map fun e => ChatGossipEvent.system topic (failure ++ e)).toList := by
  rw [speaks] at hstep
  split at hstep
  · obtain rfl := Option.some.inj hstep
    exact ⟨_, _, _, rfl⟩
  · cases hstep

omit [JoinLibraries] [TopicText] in
/-- The event loop takes the first event, and dispatches what it stands for. -/
theorem nextEvent_cases (hstep : tab.nextEvent = some next) :
    ∃ event events, tab.protocol.events = event :: events ∧
      (eventAction tab.localEp event = none ∧
          next = { tab with protocol := { tab.protocol with events := events } } ∨
        ∃ a, eventAction tab.localEp event = some a ∧
          next = ({ tab with
            protocol := { tab.protocol with events := events } } : Tab).dispatch a) := by
  rw [nextEvent] at hstep
  split at hstep
  · cases hstep
  · rename_i event events hevents
    refine ⟨event, events, hevents, ?_⟩
    obtain rfl := Option.some.inj hstep
    cases haction : eventAction tab.localEp event with
    | none => exact Or.inl ⟨rfl, rfl⟩
    | some a => exact Or.inr ⟨a, rfl, rfl⟩

theorem Keeps.subscribed (h : tab.Keeps) {n : ℕ} {result : Except String Unit}
    {nonce : FixedBytes 16} (hstep : tab.subscribed n result nonce = some next) : next.Keeps := by
  obtain ⟨j, hj, rfl⟩ := Option.map_eq_some_iff.mp hstep
  obtain ⟨htopic, hname⟩ := h.joining j (List.mem_of_getElem? hj)
  have herased : ∀ j' ∈ tab.joining.eraseIdx n, j'.topic = TopicText.toText j'.keys.topicId ∧
      (j'.topic, j'.name) ∈ tab.log.joined := fun j' hj' =>
    h.joining j' (List.mem_of_mem_eraseIdx hj')
  cases result with
  | error e => exact ⟨h.keys, h.receivers, h.answers, herased, h.sentCommands, h.signed, h.sent⟩
  | ok =>
    refine Keeps.logSigned ?_ fun m hm => ?_
    · refine ⟨h.keys, fun topic r hr => ?_, h.answers, herased, h.sentCommands, h.signed, h.sent⟩
      rw [Table.lookup_insert_eq] at hr
      split_ifs at hr with hsame
      · obtain rfl := Option.some.inj hr
        subst hsame
        exact ⟨rfl, htopic, hname⟩
      · exact h.receivers topic r hr
    · rw [List.mem_singleton.mp hm]
      refine ⟨rfl, ?_⟩
      show (TopicText.toText j.keys.topicId, j.name) ∈ tab.log.joined
      rw [← htopic]
      exact hname

omit [SendLibraries] in
/-- What `do_host` adds and sends. -/
theorem doHost_eq_some {endpoint secretB64 roomName name : String} {room : RoomState}
    {command : ChatGossipCommand}
    (h : doHost endpoint secretB64 roomName name = some (room, command)) :
    ∃ roomSecret message mode peers, peers.length ≤ 1 ∧
      room = newRoom roomSecret roomName message mode peers ∧
      command = .join (topicOf roomSecret) roomSecret peers endpoint name := by
  obtain ⟨roomSecret, -, heq⟩ := Option.map_eq_some_iff.mp h
  obtain ⟨rfl, rfl⟩ := Prod.mk.inj heq
  exact ⟨roomSecret, _, _, [], Nat.zero_le 1, rfl, rfl⟩

omit [SendLibraries] in
/-- What `do_join` adds and sends, when the invite is accepted. -/
theorem doJoin_eq_ok {endpoint invite roomName name : String} {room : RoomState}
    {command : ChatGossipCommand} (h : doJoin endpoint invite roomName name = .ok (room, command)) :
    ∃ roomSecret message mode peers, peers.length ≤ 1 ∧
      room = newRoom roomSecret roomName message mode peers ∧
      command = .join (topicOf roomSecret) roomSecret peers endpoint name := by
  rw [doJoin] at h
  split at h
  · cases h
  · rename_i roomSecret host proposed hinvite
    split_ifs at h
    obtain ⟨rfl, rfl⟩ := Prod.mk.inj (Except.ok.inj h)
    exact ⟨roomSecret, _, _, [host], Nat.le_refl 1, rfl, rfl⟩

omit [SendLibraries] [JoinLibraries] [TopicText] in
/-- A text that is cut is short. -/
theorem truncateChars_truncateChars (s : String) (max : ℕ) :
    truncateChars (truncateChars s max) max = truncateChars s max := by
  have hlength : (truncateChars s max).toList.length ≤ max := by
    rw [truncateChars]
    split_ifs with hlong
    · rw [String.toList_ofList, List.length_take]
      omega
    · omega
  rw [truncateChars, if_neg (Nat.not_lt.mpr hlength)]

/-- A room is added and its `Join` sent. -/
theorem Keeps.addRoom (h : tab.Keeps) {room : RoomState} {command : ChatGossipCommand}
    {name : String} (hroom : ∃ roomSecret message mode peers endpoint roomName,
      room = newRoom roomSecret roomName message mode peers ∧
        command = .join (topicOf roomSecret) roomSecret peers endpoint name) :
    (((tab.logJoined room.topicId name).dispatch (.addRoom room)).push command none).Keeps := by
  obtain ⟨roomSecret, message, mode, peers, endpoint, roomName, rfl, rfl⟩ := hroom
  refine ((h.logJoined _ name).dispatch _).push ⟨rfl, ?_⟩ fun a ha => by cases ha
  exact List.mem_append_right _ (List.mem_singleton_self _)

/-- **Every step keeps what a tab keeps.** -/
theorem Keeps.step (h : tab.Keeps) {op : TabOp} (hstep : tab.step op = some next) :
    next.Keeps := by
  cases op with
  | host secretB64 roomName name =>
    obtain ⟨⟨room, command⟩, hhost, rfl⟩ := Option.map_eq_some_iff.mp hstep
    obtain ⟨roomSecret, message, mode, peers, -, hroom, hcommand⟩ := doHost_eq_some hhost
    exact h.addRoom ⟨roomSecret, message, mode, peers, _, _, hroom, hcommand⟩
  | join invite roomName name =>
    simp only [Tab.step] at hstep
    split at hstep
    · obtain rfl := Option.some.inj hstep
      exact h.dispatch _
    · rename_i room command hjoin
      obtain rfl := Option.some.inj hstep
      obtain ⟨roomSecret, message, mode, peers, -, hroom, hcommand⟩ := doJoin_eq_ok hjoin
      exact h.addRoom ⟨roomSecret, message, mode, peers, _, _, hroom, hcommand⟩
  | send name text topic =>
    obtain rfl := Option.some.inj hstep
    refine ((h.logSent (truncateChars_truncateChars _ _)).dispatch _).push ?_ fun a ha => by
      cases ha
    exact List.mem_append_right _ (List.mem_singleton_self _)
  | leave topic =>
    obtain rfl := Option.some.inj hstep
    refine (h.logLeft [topic]).push ?_ fun a ha => ⟨topic, (Option.some.inj ha).symm⟩
    exact List.mem_append_right _ (List.mem_singleton_self _)
  | pageHide =>
    obtain rfl := Option.some.inj hstep
    refine (h.logLeft _).sends fun c hc => ?_
    obtain ⟨topic, htopic, rfl⟩ := List.mem_map.mp hc
    exact ⟨List.mem_append_right _ htopic, fun a ha => by cases ha⟩
  | setActive topic =>
    obtain rfl := Option.some.inj hstep
    exact h.dispatch _
  | clearError =>
    obtain rfl := Option.some.inj hstep
    exact h.dispatch _
  | handler =>
    obtain rfl := Option.some.inj hstep
    exact h.of_queues rfl rfl rfl rfl rfl rfl rfl
  | command n nonce => exact h.takeCommand hstep
  | subscribed n result nonce => exact h.subscribed hstep
  | receive topic input nonce => exact h.receive (receive_of_step hstep)
  | answer n nonce => exact h.answer hstep
  | answered n => exact h.answered hstep
  | speaks n error =>
    obtain ⟨speeches, topic, failure, rfl⟩ := speaks_cases hstep
    refine Keeps.emit ?_ _
    exact h.of_queues rfl rfl rfl rfl rfl rfl rfl
  | nextEvent =>
    obtain ⟨event, events, -, ⟨-, rfl⟩ | ⟨a, -, rfl⟩⟩ := nextEvent_cases hstep
    · exact h.of_queues rfl rfl rfl rfl rfl rfl rfl
    · refine Keeps.dispatch ?_ a
      exact h.of_queues rfl rfl rfl rfl rfl rfl rfl

/-! ## What a step emits and shows -/

end Tab

/-- The event carries nothing that was signed. -/
def ChatGossipEvent.IsPlain : ChatGossipEvent → Prop
  | .joined _ | .neighborUp _ _ | .neighborDown _ _ | .system _ _ => True
  | .chat _ _ _ _ | .identify _ _ _ | .peerLeft _ _ => False

namespace Tab

variable [SendLibraries] [JoinLibraries] [TopicText] {tab next : Tab}

omit [SendLibraries] [TopicText] in
/-- A receiver emits an event. -/
def EmittedBy (tab : Tab) (op : TabOp) (e : ChatGossipEvent) : Prop :=
  ∃ topic input nonce r, op = .receive topic input nonce ∧
    tab.receivers.lookup topic = some r ∧ r.task.ended = false ∧ e ∈ (r.task.step input).2

/-- The action stands for an event, or for something that the user does. -/
inductive Shows (tab next : Tab) : Action → Prop
  | event {e : ChatGossipEvent} {a : Action} (hmem : e ∈ tab.protocol.events)
      (haction : eventAction tab.localEp e = some a) : Shows tab next a
  | addRoom (roomSecret : FixedBytes 32) (roomName message : String) (mode : RoomMode)
      {peers : List String} (hpeers : peers.length ≤ 1) :
      Shows tab next (.addRoom (newRoom roomSecret roomName message mode peers))
  | localSend {topic name text : String} (hmem : (topic, truncateChars name maxNameChars,
      truncateChars text maxTextChars) ∈ next.log.sent) :
      Shows tab next (.localSend topic (localEcho tab.localEp name text))
  | removeRoom {topic : String} {sent : SentCommand} (hmem : sent ∈ tab.sentCommands)
      (hafter : sent.after = some (.removeRoom topic)) : Shows tab next (.removeRoom topic)
  | setActive (topic : String) : Shows tab next (.setActive topic)
  | setJoinError (error : Option String) : Shows tab next (.setJoinError error)

omit [SendLibraries] [JoinLibraries] [TopicText] in
/-- An event changes a room. -/
theorem change_of_eventAction {localEp : String} {e : ChatGossipEvent} {a : Action}
    (h : eventAction localEp e = some a) : a.change ≠ none := by
  cases e with
  | chat | identify | peerLeft =>
    rw [eventAction] at h
    split_ifs at h
    obtain rfl := Option.some.inj h
    exact Option.some_ne_none _
  | _ =>
    obtain rfl := Option.some.inj h
    exact Option.some_ne_none _

/-- A tab shows no other state, and adds no rooms but new ones. -/
theorem Shows.brings {a : Action} (h : tab.Shows next a) :
    (∀ state, a ≠ .setInitial state) ∧
      ∀ room, a = .addRoom room → ∃ roomSecret roomName message mode peers,
        peers.length ≤ 1 ∧ room = newRoom roomSecret roomName message mode peers := by
  cases h with
  | event hmem haction =>
    refine ⟨?_, ?_⟩
    · rintro state rfl
      exact absurd rfl (change_of_eventAction haction)
    · rintro room rfl
      exact absurd rfl (change_of_eventAction haction)
  | addRoom roomSecret roomName message mode hpeers =>
    refine ⟨fun state => by simp, fun room hroom => ?_⟩
    obtain rfl := Action.addRoom.inj hroom
    exact ⟨roomSecret, roomName, message, mode, _, hpeers, rfl⟩
  | _ => exact ⟨fun state => by simp, fun room => by simp⟩

/-- What a step can do to the account, to the queue of events and to what is shown. -/
structure StepsTo (tab : Tab) (op : TabOp) (next : Tab) : Prop where
  secretKey : next.secretKey = tab.secretKey
  log : tab.log.Extends next.log
  events : ∀ e ∈ next.protocol.events, e ∈ tab.protocol.events ∨ e.IsPlain ∨ tab.EmittedBy op e
  app : next.app = tab.app ∨ ∃ a, next.app = tab.app.reduce a ∧ tab.Shows next a

omit [SendLibraries] [JoinLibraries] [TopicText] in
/-- The log of what was signed grows. -/
theorem extends_logSigned (tab : Tab) (signed : List SignedMessage) :
    tab.log.Extends (tab.logSigned signed).log :=
  ⟨fun _ hm => List.mem_append_left _ hm, fun _ => id, fun _ => id, fun _ => id⟩

/-- A step that neither emits nor shows anything. -/
theorem StepsTo.of_quiet {op : TabOp} (hsecret : next.secretKey = tab.secretKey)
    (hlog : tab.log.Extends next.log) (hevents : next.protocol.events = tab.protocol.events)
    (happ : next.app = tab.app) : tab.StepsTo op next where
  secretKey := hsecret
  log := hlog
  events := by
    rw [hevents]
    exact fun _ => Or.inl
  app := Or.inl happ

/-- A step that shows something and emits nothing. -/
theorem StepsTo.of_action {op : TabOp} {a : Action} (hsecret : next.secretKey = tab.secretKey)
    (hlog : tab.log.Extends next.log) (hevents : next.protocol.events = tab.protocol.events)
    (happ : next.app = tab.app.reduce a) (hshows : tab.Shows next a) : tab.StepsTo op next where
  secretKey := hsecret
  log := hlog
  events := by
    rw [hevents]
    exact fun _ => Or.inl
  app := Or.inr ⟨a, happ, hshows⟩

theorem stepsTo_takeCommand (h : tab.Keeps) {n : ℕ} {nonce : FixedBytes 16}
    (hstep : tab.takeCommand n nonce = some next) : tab.StepsTo (.command n nonce) next := by
  obtain ⟨sent, hsent, hnext⟩ := takeCommand_cases hstep
  have hlog : tab.log.Extends ((tab.handled n sent.command).logSigned
      (tab.commandSigns nonce sent.command)).log := (tab.handled n sent.command).extends_logSigned _
  obtain ⟨-, events, hevents, hjoined⟩ := handleCommand_spec tab.protocol sent.command
  have hplain : ∀ e ∈ (tab.handled n sent.command).protocol.events,
      e ∈ tab.protocol.events ∨ e.IsPlain ∨ tab.EmittedBy (.command n nonce) e := by
    intro e he
    have hmem : e ∈ tab.protocol.events ++ events := by
      rw [← hevents]
      exact he
    refine (List.mem_append.mp hmem).imp_right fun he => Or.inl ?_
    obtain ⟨topic, rfl⟩ := hjoined e he
    trivial
  rcases hnext with rfl | ⟨a, ha, rfl⟩
  · exact ⟨rfl, hlog, hplain, Or.inl rfl⟩
  · refine ⟨rfl, hlog, hplain, Or.inr ⟨a, rfl, ?_⟩⟩
    obtain ⟨topic, rfl⟩ := (h.sentCommands sent (List.mem_of_getElem? hsent)).2 a ha
    exact .removeRoom (List.mem_of_getElem? hsent) ha

theorem stepsTo_receive {topic : String} {input : RoomInput} {nonce : FixedBytes 16}
    (hstep : tab.receive topic input nonce = some next) :
    tab.StepsTo (.receive topic input nonce) next := by
  obtain ⟨r, hr, hended, rfl⟩ := receive_cases hstep
  refine ⟨rfl, extends_logSigned _ _, fun e he => ?_, Or.inl rfl⟩
  refine (List.mem_append.mp he).imp_right fun he => Or.inr ?_
  exact ⟨topic, input, nonce, r, rfl, hr, hended, he⟩

theorem stepsTo_addRoom {op : TabOp} {room : RoomState} {command : ChatGossipCommand}
    {name : String} (hroom : ∃ roomSecret roomName message mode peers, peers.length ≤ 1 ∧
      room = newRoom roomSecret roomName message mode peers) :
    tab.StepsTo op
      (((tab.logJoined room.topicId name).dispatch (.addRoom room)).push command none) := by
  obtain ⟨roomSecret, roomName, message, mode, peers, hpeers, rfl⟩ := hroom
  refine .of_action rfl ?_ rfl rfl (.addRoom roomSecret roomName message mode hpeers)
  exact ⟨fun _ => id, fun _ => id, fun _ hj => List.mem_append_left _ hj, fun _ => id⟩

/-- **What a step can do** to the account of a tab, to its queue of events and to what it shows. -/
theorem stepsTo (h : tab.Keeps) {op : TabOp} (hstep : tab.step op = some next) :
    tab.StepsTo op next := by
  cases op with
  | host secretB64 roomName name =>
    obtain ⟨⟨room, command⟩, hhost, rfl⟩ := Option.map_eq_some_iff.mp hstep
    obtain ⟨roomSecret, message, mode, peers, hpeers, hroom, -⟩ := doHost_eq_some hhost
    exact stepsTo_addRoom ⟨roomSecret, roomName, message, mode, peers, hpeers, hroom⟩
  | join invite roomName name =>
    simp only [step] at hstep
    split at hstep
    · obtain rfl := Option.some.inj hstep
      exact .of_action rfl (.refl _) rfl rfl (.setJoinError _)
    · rename_i room command hjoin
      obtain rfl := Option.some.inj hstep
      obtain ⟨roomSecret, message, mode, peers, hpeers, hroom, -⟩ := doJoin_eq_ok hjoin
      exact stepsTo_addRoom ⟨roomSecret, roomName, message, mode, peers, hpeers, hroom⟩
  | send name text topic =>
    obtain rfl := Option.some.inj hstep
    refine .of_action rfl ⟨fun _ => id, fun _ hs => List.mem_append_left _ hs, fun _ => id,
      fun _ => id⟩ rfl rfl (.localSend ?_)
    exact List.mem_append_right _ (List.mem_singleton_self _)
  | leave topic =>
    obtain rfl := Option.some.inj hstep
    exact .of_quiet rfl ⟨fun _ => id, fun _ => id, fun _ => id,
      fun _ ht => List.mem_append_left _ ht⟩ rfl rfl
  | pageHide =>
    obtain rfl := Option.some.inj hstep
    exact .of_quiet rfl ⟨fun _ => id, fun _ => id, fun _ => id,
      fun _ ht => List.mem_append_left _ ht⟩ rfl rfl
  | setActive topic =>
    obtain rfl := Option.some.inj hstep
    exact .of_action rfl (.refl _) rfl rfl (.setActive topic)
  | clearError =>
    obtain rfl := Option.some.inj hstep
    exact .of_action rfl (.refl _) rfl rfl (.setJoinError none)
  | handler =>
    obtain rfl := Option.some.inj hstep
    exact .of_quiet rfl (.refl _) rfl rfl
  | command n nonce => exact stepsTo_takeCommand h hstep
  | subscribed n result nonce =>
    obtain ⟨j, -, rfl⟩ := Option.map_eq_some_iff.mp hstep
    cases result with
    | error e => exact .of_quiet rfl (.refl _) rfl rfl
    | ok =>
      refine ⟨rfl, extends_logSigned _ _, fun e he => ?_, Or.inl rfl⟩
      refine (List.mem_append.mp he).imp_right fun he => Or.inl ?_
      rw [List.mem_singleton.mp he]
      trivial
  | receive topic input nonce => exact stepsTo_receive (receive_of_step hstep)
  | answer n nonce =>
    simp only [step, answer] at hstep
    split at hstep
    · cases hstep
    · split_ifs at hstep
      obtain rfl := Option.some.inj hstep
      exact .of_quiet rfl (extends_logSigned _ _) rfl rfl
  | answered n =>
    simp only [step, answered] at hstep
    split at hstep
    · cases hstep
    · split_ifs at hstep
      obtain rfl := Option.some.inj hstep
      rw [announced]
      split
      · exact .of_quiet rfl (.refl _) rfl rfl
      · split_ifs
        · exact .of_quiet rfl (.refl _) rfl rfl
        · exact .of_quiet rfl (.refl _) rfl rfl
  | speaks n error =>
    obtain ⟨speeches, topic, failure, rfl⟩ := speaks_cases hstep
    refine ⟨rfl, .refl _, fun e he => ?_, Or.inl rfl⟩
    refine (List.mem_append.mp he).imp_right fun he => Or.inl ?_
    obtain ⟨message, -, rfl⟩ := Option.map_eq_some_iff.mp (Option.mem_toList.mp he)
    trivial
  | nextEvent =>
    obtain ⟨event, events, hevents, ⟨-, rfl⟩ | ⟨a, ha, rfl⟩⟩ := nextEvent_cases hstep
    · refine ⟨rfl, .refl _, fun e he => Or.inl ?_, Or.inl rfl⟩
      rw [hevents]
      exact List.mem_cons_of_mem _ he
    · refine ⟨rfl, .refl _, fun e he => Or.inl ?_, Or.inr ⟨a, rfl, ?_⟩⟩
      · rw [hevents]
        exact List.mem_cons_of_mem _ he
      · refine .event ?_ ha
        rw [hevents]
        exact List.mem_cons_self

/-- **What a step does to the rooms.**  A property of all rooms is kept, when the change of a room
keeps it and the rooms that a user adds have it. -/
theorem forall_mem_rooms_of_step {P : RoomState → Prop} (h : tab.Keeps) {op : TabOp}
    (hstep : tab.step op = some next) (hrooms : ∀ r ∈ tab.app.rooms, P r)
    (hadd : ∀ roomSecret roomName message mode peers, peers.length ≤ 1 →
      P (newRoom roomSecret roomName message mode peers))
    (hchange : ∀ (a : Action) topic f r, a.change = some (topic, f) → P r → P (f r)) :
    ∀ r ∈ next.app.rooms, P r := by
  rcases (stepsTo h hstep).app with happ | ⟨a, happ, hshows⟩
  · rw [happ]
    exact hrooms
  · obtain ⟨hinitial, hnew⟩ := hshows.brings
    rw [happ]
    refine AppState.forall_mem_rooms_reduce hrooms (fun state ha => absurd ha (hinitial state))
      (fun room ha => ?_) fun topic f r hact _ => hchange a topic f r hact
    obtain ⟨roomSecret, roomName, message, mode, peers, hpeers, rfl⟩ := hnew room ha
    exact hadd roomSecret roomName message mode peers hpeers

end Tab

end IrohWebRtc
