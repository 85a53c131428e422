import IrohWebRtc.Chat.WireFormat

/-!
# What is sent is shown

The way of a chat message through all parts of the chat room: `do_send` cuts it and the `Send` arm
signs, encodes and encrypts it; the receiver of another tab decrypts and decodes the frame, checks
it and emits an event; the event loop takes the event from its queue, and the reducer shows it.

Everything on this way may fail, and the theorem names what has to go well: the message fits the
wire, its frame reaches a receiver of the room whose task runs, its nonce is not one that the
receiver remembers of this signer, the user does not leave the room, and the event loop takes as
many events as were in the queue.  In between the tab does whatever it likes, and other messages
come and go.

* `receive_sendFrame`: a receiver in the room emits what was sent.
* `events_of_step`: the queue of events is first in, first out.
* `prefix_messages_reduce`: the messages of a room are only appended to.
* `chat_delivered`: what is sent is shown, as long as the user stays and the event loop runs.

What is shown is what the tab of the sender has shown to its own user when the message was sent,
with the name as it was sent along.
-/

namespace IrohWebRtc

open Bytes Runs

/-! ## From the sender to the event -/

section Receive

variable [ChatLibraries] [SendLibraries] [LawfulChat]

/-- **A receiver in the room emits what was sent**, if the frame fits and the nonce is new. -/
theorem RoomTask.receive_sendFrame {task : RoomTask} {secretKey : FixedBytes 32}
    {nonce : FixedBytes 16} {iv : FixedBytes 12} {name text : String} {frame : List UInt8}
    (hended : task.ended = false)
    (hframe : sendFrame secretKey task.keys nonce iv (truncateChars name maxNameChars)
      (truncateChars text maxTextChars) = .ok frame)
    (hfits : frame.length ≤ maxWireBytes)
    (hfresh : nonce ∉ task.replay.seen (publicKeyString secretKey)) :
    task.step (.received frame) = (task.remember (publicKeyString secretKey) nonce,
      [.chat task.topic (publicKeyString secretKey) (truncateChars name maxNameChars)
        (truncateChars text maxTextChars)]) := by
  let sig := signChat secretKey task.keys.topicId nonce (truncateChars text maxTextChars)
  let wire : ChatWireMessage := .chat (publicKeyString secretKey)
    (truncateChars name maxNameChars) (truncateChars text maxTextChars) nonce sig.toList
  have hencrypted : encryptData wire.toJson.toBytes task.keys.aesKey iv = .ok frame := by
    rw [sendFrame, encryptedFrame] at hframe
    split at hframe
    · cases hframe
    · rename_i encrypted hencrypted
      obtain rfl := Except.ok.inj hframe
      exact hencrypted
  have hwire : task.keys.wireOf frame = some wire := by
    rw [RoomKeys.wireOf_encryptData wire.plain_toJson hencrypted hfits,
      ChatWireMessage.ofJson_toJson]
  have hkey : signerPkBytes (publicKeyString secretKey) =
      some (SendLibraries.publicKey secretKey) :=
    LawfulChat.parsePublicKey_publicKeyString secretKey
  have haccepts : task.Accepts wire (publicKeyString secretKey)
      (SendLibraries.publicKey secretKey) nonce := by
    refine ⟨hkey, ⟨sig.toList, rfl, ?_⟩, hfresh⟩
    exact (verifyMsg_eq_true hkey).mpr ⟨sig, rfl, LawfulChat.verify_sign secretKey _⟩
  rw [RoomTask.step_received hended]
  rcases task.receive_cases frame with
    ⟨wire', signer, signerPk, nonce', event, hwire', haccepts', hdisplay, heq⟩ | ⟨hno, -⟩
  · obtain rfl := Option.some.inj (hwire.symm.trans hwire')
    obtain ⟨sig', hcredentials, -⟩ := haccepts'.signature
    obtain ⟨rfl, hrest⟩ := Prod.mk.inj (Option.some.inj hcredentials)
    obtain ⟨rfl, -⟩ := Prod.mk.inj hrest
    obtain rfl := Option.some.inj hdisplay
    rw [heq, Tab.truncateChars_truncateChars, Tab.truncateChars_truncateChars]
  · exact absurd haccepts (hno wire _ _ _ hwire)

end Receive

/-! ## The messages of a room -/

namespace AppState

variable {s : AppState} {a : Action} {topic : String}

/-- A change of a room appends to its messages. -/
theorem prefix_messages_of_change {topic' : String} {f : RoomState → RoomState}
    (h : a.change = some (topic', f)) (r : RoomState) : r.messages <+: (f r).messages := by
  cases a with
  | neighborDown =>
    cases h
    simp only [RoomState.neighborDown]
    split_ifs
    · exact List.prefix_refl _
    · exact List.prefix_append _ _
  | identify =>
    cases h
    simp only [RoomState.identify]
    split_ifs
    · exact List.prefix_refl _
    · exact List.prefix_append _ _
  | localSend | recvChat | system | peerLeft =>
    cases h
    exact List.prefix_append _ _
  | joined | neighborUp =>
    cases h
    exact List.prefix_refl _
  | setInitial | addRoom | removeRoom | setActive | setJoinError => cases h

/-- **A room that is not removed keeps its messages**, and may get more. -/
theorem prefix_messages_reduce {r : RoomState} (hr : s.room topic = some r)
    (hstays : ¬ a.Ends topic) :
    ∃ r', (s.reduce a).room topic = some r' ∧ r.messages <+: r'.messages := by
  have hchange : ∀ topic' f, a.change = some (topic', f) →
      ∃ r', (s.reduce a).room topic = some r' ∧ r.messages <+: r'.messages := by
    intro topic' f hf
    rw [room_of_change hf]
    split_ifs with htopic
    · subst htopic
      exact ⟨f r, by rw [hr, Option.map_some], prefix_messages_of_change hf r⟩
    · exact ⟨r, hr, List.prefix_refl _⟩
  cases a with
  | setInitial => exact absurd trivial hstays
  | addRoom room =>
    refine ⟨r, ?_, List.prefix_refl _⟩
    rw [room_addRoom, hr]
    split_ifs <;> rfl
  | removeRoom topic' =>
    refine ⟨r, ?_, List.prefix_refl _⟩
    rw [room_removeRoom, if_neg fun heq => hstays heq.symm, hr]
  | setActive | setJoinError => exact ⟨r, hr, List.prefix_refl _⟩
  | localSend | joined | neighborUp | neighborDown | recvChat | system | identify | peerLeft =>
    exact hchange _ _ rfl

end AppState

/-! ## The event loop -/

/-- The event loop takes an event. -/
def TabOp.isNextEvent : TabOp → Bool
  | .nextEvent => true
  | _ => false

namespace Tab

variable [SendLibraries] [JoinLibraries] [TopicText] {tab next later : Tab} {op : TabOp}
  {ops : List TabOp} {topic : String}

/-- **The queue is first in, first out**: only the event loop takes events, and the first one. -/
theorem events_of_step (hstep : tab.step op = some next) (hop : op.isNextEvent = false) :
    tab.protocol.events <+: next.protocol.events := by
  cases op with
  | host secretB64 roomName name =>
    obtain ⟨-, -, rfl⟩ := Option.map_eq_some_iff.mp hstep
    exact List.prefix_refl _
  | join invite roomName name =>
    simp only [step] at hstep
    split at hstep <;> obtain rfl := Option.some.inj hstep <;> exact List.prefix_refl _
  | send | leave | pageHide | setActive | clearError | handler =>
    obtain rfl := Option.some.inj hstep
    exact List.prefix_refl _
  | command n nonce =>
    obtain ⟨sent, -, hnext⟩ := takeCommand_cases hstep
    obtain ⟨-, events, hevents, -⟩ := handleCommand_spec tab.protocol sent.command
    have hprefix : tab.protocol.events <+: (tab.handled n sent.command).protocol.events := by
      show _ <+: (tab.protocol.handleCommand sent.command).protocol.events
      rw [hevents]
      exact List.prefix_append _ _
    rcases hnext with rfl | ⟨a, -, rfl⟩
    · exact hprefix
    · exact hprefix
  | subscribed n result nonce =>
    obtain ⟨j, -, rfl⟩ := Option.map_eq_some_iff.mp hstep
    cases result with
    | error e => exact List.prefix_refl _
    | ok => exact List.prefix_append _ _
  | receive topic input nonce =>
    obtain ⟨r, -, -, rfl⟩ := receive_cases (receive_of_step hstep)
    exact List.prefix_append _ _
  | answer n nonce =>
    simp only [step, answer] at hstep
    split at hstep
    · cases hstep
    · split_ifs at hstep
      obtain rfl := Option.some.inj hstep
      exact List.prefix_refl _
  | answered n =>
    simp only [step, answered] at hstep
    split at hstep
    · cases hstep
    · split_ifs at hstep
      obtain rfl := Option.some.inj hstep
      rw [announced]
      split
      · exact List.prefix_refl _
      · split_ifs <;> exact List.prefix_refl _
  | speaks n error =>
    obtain ⟨speeches, topic, failure, rfl⟩ := speaks_cases hstep
    exact List.prefix_append _ _
  | nextEvent => cases hop

/-- A receiver that runs takes what comes from its subscription. -/
theorem exists_receive {r : Receiver} (hr : tab.receivers.lookup topic = some r)
    (hended : r.task.ended = false) (content : List UInt8) (drawn : FixedBytes 16) :
    ∃ next, tab.step (.receive topic (.received content) drawn) = some next ∧
      next.protocol.events = tab.protocol.events ++ (r.task.step (.received content)).2 := by
  have hstep : tab.step (.receive topic (.received content) drawn) =
      tab.receive topic (.received content) drawn := rfl
  rw [hstep, receive, hr]
  simp only [hended, Bool.false_eq_true, if_false]
  exact ⟨_, rfl, rfl⟩

/-- The event loop takes an event when there is one. -/
theorem exists_nextEvent {event : ChatGossipEvent} {events : List ChatGossipEvent}
    (hevents : tab.protocol.events = event :: events) :
    ∃ next, tab.step .nextEvent = some next ∧ next.protocol.events = events := by
  rw [step, nextEvent, hevents]
  refine ⟨_, rfl, ?_⟩
  cases eventAction tab.localEp event <;> rfl

/-! ### The room stays -/

omit [SendLibraries] [JoinLibraries] [TopicText] in
/-- No call of `do_leave` for the room is under way. -/
def Stays (tab : Tab) (topic : String) : Prop :=
  ∀ sent ∈ tab.sentCommands, sent.after ≠ some (.removeRoom topic)

/-- Only `do_leave` removes the room after its command. -/
theorem mem_sentCommands_of_step (hstep : tab.step op = some next) {sent : SentCommand}
    (hsent : sent ∈ next.sentCommands) : sent ∈ tab.sentCommands ∨ sent.after = none ∨
      ∃ topic, op = .leave topic ∧ sent.after = some (.removeRoom topic) := by
  cases op with
  | host secretB64 roomName name =>
    obtain ⟨hosted, _, rfl⟩ := Option.map_eq_some_iff.mp hstep
    refine (List.mem_append.mp hsent).imp_right fun hmem => Or.inl ?_
    rw [List.mem_singleton.mp hmem]
  | join invite roomName name =>
    simp only [step] at hstep
    split at hstep
    · obtain rfl := Option.some.inj hstep
      exact Or.inl hsent
    · obtain rfl := Option.some.inj hstep
      refine (List.mem_append.mp hsent).imp_right fun hmem => Or.inl ?_
      rw [List.mem_singleton.mp hmem]
  | send name text topic =>
    obtain rfl := Option.some.inj hstep
    refine (List.mem_append.mp hsent).imp_right fun hmem => Or.inl ?_
    rw [List.mem_singleton.mp hmem]
  | leave topic =>
    obtain rfl := Option.some.inj hstep
    refine (List.mem_append.mp hsent).imp_right fun hmem => Or.inr ⟨topic, rfl, ?_⟩
    rw [List.mem_singleton.mp hmem]
  | pageHide =>
    obtain rfl := Option.some.inj hstep
    refine (List.mem_append.mp hsent).imp_right fun hmem => Or.inl ?_
    obtain ⟨topic, -, rfl⟩ := List.mem_map.mp hmem
    rfl
  | setActive | clearError | handler =>
    obtain rfl := Option.some.inj hstep
    exact Or.inl hsent
  | command n nonce =>
    obtain ⟨sent', -, rfl | ⟨a, -, rfl⟩⟩ := takeCommand_cases hstep
    · exact Or.inl (List.mem_of_mem_eraseIdx hsent)
    · exact Or.inl (List.mem_of_mem_eraseIdx hsent)
  | subscribed n result nonce =>
    obtain ⟨j, -, rfl⟩ := Option.map_eq_some_iff.mp hstep
    cases result with
    | error e => exact Or.inl hsent
    | ok => exact Or.inl hsent
  | receive topic input nonce =>
    obtain ⟨r, -, -, rfl⟩ := receive_cases (receive_of_step hstep)
    exact Or.inl hsent
  | answer n nonce =>
    simp only [step, answer] at hstep
    split at hstep
    · cases hstep
    · split_ifs at hstep
      obtain rfl := Option.some.inj hstep
      exact Or.inl hsent
  | answered n =>
    simp only [step, answered] at hstep
    split at hstep
    · cases hstep
    · split_ifs at hstep
      obtain rfl := Option.some.inj hstep
      rw [announced] at hsent
      split at hsent
      · exact Or.inl hsent
      · split_ifs at hsent <;> exact Or.inl hsent
  | speaks n error =>
    obtain ⟨speeches, topic, failure, rfl⟩ := speaks_cases hstep
    exact Or.inl hsent
  | nextEvent =>
    obtain ⟨event, events, -, ⟨-, rfl⟩ | ⟨a, -, rfl⟩⟩ := nextEvent_cases hstep
    · exact Or.inl hsent
    · exact Or.inl hsent

theorem Stays.step (h : tab.Stays topic) (hstep : tab.step op = some next)
    (hop : op ≠ .leave topic) : next.Stays topic := by
  intro sent hsent hafter
  rcases mem_sentCommands_of_step hstep hsent with hold | hnone | ⟨topic', rfl, hafter'⟩
  · exact h sent hold hafter
  · rw [hnone] at hafter
    cases hafter
  · obtain rfl := Action.removeRoom.inj (Option.some.inj (hafter.symm.trans hafter'))
    exact hop rfl

/-- What is shown in a tab that stays in a room does not end the room. -/
theorem Shows.not_ends {a : Action} (h : tab.Shows next a) (hstays : tab.Stays topic) :
    ¬ a.Ends topic := by
  cases h with
  | @event e a hmem haction =>
    intro hends
    cases e with
    | chat | identify | peerLeft =>
      simp only [eventAction] at haction
      split_ifs at haction
      obtain rfl := Option.some.inj haction
      exact hends
    | joined | neighborUp | neighborDown | system =>
      obtain rfl := Option.some.inj haction
      exact hends
  | removeRoom hmem hafter =>
    rintro rfl
    exact hstays _ hmem hafter
  | addRoom | localSend | setActive | setJoinError => exact id

/-- **A room keeps its messages** in every step, as long as the user stays. -/
theorem messages_step (hkeeps : tab.Keeps) (hstays : tab.Stays topic)
    (hstep : tab.step op = some next) {r : RoomState} (hr : tab.app.room topic = some r) :
    ∃ r', next.app.room topic = some r' ∧ r.messages <+: r'.messages := by
  rcases (stepsTo hkeeps hstep).app with happ | ⟨a, happ, hshows⟩
  · exact ⟨r, by rw [happ, hr], List.prefix_refl _⟩
  · rw [happ]
    exact AppState.prefix_messages_reduce hr (hshows.not_ends hstays)

theorem messages_run (hkeeps : tab.Keeps) (hstays : tab.Stays topic)
    (hrun : run step tab ops = some later) (hleave : .leave topic ∉ ops) {r : RoomState}
    (hr : tab.app.room topic = some r) :
    ∃ r', later.app.room topic = some r' ∧ r.messages <+: r'.messages := by
  induction ops generalizing tab r with
  | nil =>
    obtain rfl := Option.some.inj hrun
    exact ⟨r, hr, List.prefix_refl _⟩
  | cons op ops ih =>
    obtain ⟨next, hstep, hrun⟩ := run_cons.mp hrun
    obtain ⟨r', hr', hprefix⟩ := messages_step hkeeps hstays hstep hr
    have hop : op ≠ .leave topic := fun heq => hleave (heq ▸ List.mem_cons_self)
    obtain ⟨r'', hr'', hprefix'⟩ := ih (hkeeps.step hstep) (hstays.step hstep hop) hrun
      (fun hmem => hleave (List.mem_cons_of_mem op hmem)) hr'
    exact ⟨r'', hr'', hprefix.trans hprefix'⟩

/-- **A chat message in the queue is shown** once the event loop has come to it. -/
theorem chat_shown {fromEndpoint fromName text : String} {pre post : List ChatGossipEvent}
    (hkeeps : tab.Keeps) (hstays : tab.Stays topic)
    (hevents : tab.protocol.events = pre ++ .chat topic fromEndpoint fromName text :: post)
    (hother : fromEndpoint ≠ tab.localEp) (hrun : run step tab ops = some later)
    (hleave : .leave topic ∉ ops) (hpumped : pre.length < ops.countP TabOp.isNextEvent)
    {r : RoomState} (hr : tab.app.room topic = some r) :
    ∃ r', later.app.room topic = some r' ∧
      ⟨fromEndpoint, fromName, text, false⟩ ∈ r'.messages := by
  induction ops generalizing tab r pre post with
  | nil => exact absurd hpumped (Nat.not_lt_zero _)
  | cons op ops ih =>
    obtain ⟨next, hstep, hlater⟩ := run_cons.mp hrun
    have hnext := hkeeps.step hstep
    have hop : op ≠ .leave topic := fun heq => hleave (heq ▸ List.mem_cons_self)
    have hstays' := hstays.step hstep hop
    have hleave' : .leave topic ∉ ops := fun hmem => hleave (List.mem_cons_of_mem op hmem)
    have hlocal : next.localEp = tab.localEp := by
      rw [localEp, localEp, (stepsTo hkeeps hstep).secretKey]
    obtain ⟨r', hr', -⟩ := messages_step hkeeps hstays hstep hr
    cases hloop : op.isNextEvent with
    | false =>
      obtain ⟨events, hnew⟩ := events_of_step hstep hloop
      rw [hevents, List.append_assoc, List.cons_append] at hnew
      rw [List.countP_cons_of_neg (by simp [hloop])] at hpumped
      exact ih hnext hstays' hnew.symm (hlocal ▸ hother) hlater hleave' hpumped hr'
    | true =>
      obtain rfl : op = .nextEvent := by
        cases op <;> first | rfl | cases hloop
      rw [List.countP_cons_of_pos hloop] at hpumped
      obtain ⟨event, events, hqueue, hshown⟩ := nextEvent_cases hstep
      rw [hevents] at hqueue
      cases pre with
      | nil =>
        obtain ⟨rfl, rfl⟩ := List.cons.inj hqueue
        have happ : next.app = tab.app.reduce (.recvChat topic fromEndpoint fromName text) := by
          rcases hshown with ⟨hnone, -⟩ | ⟨a, ha, rfl⟩
          · rw [eventAction, if_pos hother] at hnone
            cases hnone
          · rw [eventAction, if_pos hother] at ha
            obtain rfl := Option.some.inj ha
            rfl
        have hroom : next.app.room topic = some (r.recvChat fromEndpoint fromName text) := by
          rw [happ, AppState.room_of_change rfl, if_pos rfl, hr]
          rfl
        obtain ⟨r'', hr'', hprefix⟩ := messages_run hnext hstays' hlater hleave' hroom
        refine ⟨r'', hr'', hprefix.subset ?_⟩
        exact List.mem_append_right _ (List.mem_singleton_self _)
      | cons event' pre =>
        obtain ⟨rfl, rfl⟩ := List.cons.inj hqueue
        have hrest : next.protocol.events =
            pre ++ .chat topic fromEndpoint fromName text :: post := by
          rcases hshown with ⟨-, rfl⟩ | ⟨a, -, rfl⟩
          · rfl
          · rfl
        refine ih hnext hstays' hrest (hlocal ▸ hother) hlater hleave' ?_ hr'
        rw [List.length_cons] at hpumped
        omega

/-- **What is sent is shown.**  A user sends a text that fits, and the frame of the message comes to
a receiver of another tab, in the room, for the first time.  If the user of that tab stays in the
room, then the tab shows the message as the sender's tab does, once the event loop has taken the
events that were in the queue; and nothing that was shown is lost. -/
theorem chat_delivered [LawfulChat] (session : Session) {before after : List TabOp}
    {r : Receiver} {room : RoomState} {secretKey : FixedBytes 32} {nonce drawn : FixedBytes 16}
    {iv : FixedBytes 12} {endpoint name text sentTo fromEndpoint fromName sentText : String}
    {frame : List UInt8}
    (hbefore : run step (Tab.start session.secretKey (restoredState session.access session.storage
      session.pending session.profile)) before = some tab)
    (hr : tab.receivers.lookup topic = some r) (hended : r.task.ended = false)
    (hroom : tab.app.room topic = some room) (hstays : tab.Stays topic)
    (hother : publicKeyString secretKey ≠ tab.localEp)
    (hcommand : doSend endpoint name text topic = .send sentTo fromEndpoint fromName sentText)
    (hframe : sendFrame secretKey r.task.keys nonce iv fromName sentText = .ok frame)
    (hfits : FitsWire name text (signChat secretKey r.task.keys.topicId nonce sentText))
    (hfresh : nonce ∉ r.task.replay.seen (publicKeyString secretKey))
    (hrun : run step tab (.receive topic (.received frame) drawn :: after) = some later)
    (hleave : .leave topic ∉ after)
    (hpumped : tab.protocol.events.length < after.countP TabOp.isNextEvent) :
    ∃ room', later.app.room topic = some room' ∧ room.messages <+: room'.messages ∧
      localEcho (publicKeyString secretKey) name text ∈ room'.messages := by
  obtain ⟨-, -, rfl, rfl⟩ := ChatGossipCommand.send.inj hcommand
  have hkeeps : tab.Keeps := run_invariant (fun _ _ _ h hstep => h.step hstep)
    (Tab.keeps_start fun r hr => (mem_restoredState hr).1) hbefore
  obtain ⟨received, hreceive, hafter⟩ := run_cons.mp hrun
  have hstays' := hstays.step hreceive (by simp)
  obtain ⟨room₁, hroom₁, hprefix⟩ := messages_step hkeeps hstays hreceive hroom
  obtain ⟨room', hroom', hprefix'⟩ :=
    messages_run (hkeeps.step hreceive) hstays' hafter hleave hroom₁
  have hlength : frame.length ≤ maxWireBytes := by
    rw [FitsWire] at hfits
    rw [sendFrame_length hframe, maxWireBytes]
    omega
  have htask := RoomTask.receive_sendFrame hended hframe hlength hfresh
  obtain ⟨r', hr', -, rfl⟩ := receive_cases (receive_of_step hreceive)
  obtain rfl := Option.some.inj (hr.symm.trans hr')
  have hevents : (tab.protocol.events ++ (r.task.step (.received frame)).2) =
      tab.protocol.events ++ .chat topic (publicKeyString secretKey)
        (truncateChars name maxNameChars) (truncateChars text maxTextChars) :: [] := by
    rw [htask, (hkeeps.receivers topic r hr).1]
  obtain ⟨room'', hroom'', hmem⟩ := chat_shown (hkeeps.step hreceive) hstays' hevents hother hafter
    hleave hpumped hroom₁
  obtain rfl := Option.some.inj (hroom'.symm.trans hroom'')
  exact ⟨room', hroom', hprefix.trans hprefix', hmem⟩

end Tab

/-! ## A message that is delivered -/

namespace Tab

section Sample

open scoped WireSample
open PairSample (receiverHex senderFrame senderHex sessions)
open Sample (hiNonce roomKeys senderCiphertext senderIv senderSecret senderWire)

/-- The receiver hosts the sample room, and its subscription is granted. -/
def sampleEnters : List TabOp :=
  [.host "BwcHBwcHBwcHBwcHBwcHBwcHBwcHBwcHBwcHBwcHBwc" "general" "bob", .handler,
    .command 0 (.replicate 16 2), .subscribed 0 (.ok ()) (.replicate 16 3)]

def sampleStart : Tab :=
  .start (sessions false).secretKey (restoredState (sessions false).access (sessions false).storage
    (sessions false).pending (sessions false).profile)

def sampleTopic : String := topicOf (.replicate 32 7)

theorem sample_entered :
    ((run step sampleStart sampleEnters).map fun tab =>
        ((tab.receivers.lookup sampleTopic).map fun r =>
          (r.task.ended, r.task.keys, (r.task.replay.seen senderHex).length),
        (tab.app.room sampleTopic).isSome, tab.sentCommands.length, tab.localEp,
        tab.protocol.events.length)) =
      some (some (false, roomKeys, 0), true, 0, receiverHex, 1) := by
  decide +kernel

theorem sendFrame_hi : sendFrame senderSecret roomKeys hiNonce senderIv "alice" "hi" =
    .ok senderFrame := by
  have hct : SendLibraries.aesGcmEncrypt roomKeys.aesKey senderIv senderWire.toJson.toBytes =
      .ok senderCiphertext := WireSample.knownEncrypt_known.1
  show encryptedFrame senderWire roomKeys.aesKey senderIv = _
  rw [encryptedFrame, encryptData, hct]
  rfl

/-- The text `hi` of the sender is shown in the tab of the receiver. -/
theorem chat_delivered_sample :
    ∃ tab later room, run step sampleStart sampleEnters = some tab ∧
      run step tab [.receive sampleTopic (.received senderFrame) (.replicate 16 4), .nextEvent,
        .nextEvent] = some later ∧
      later.app.room sampleTopic = some room ∧
      localEcho senderHex "alice" "hi" ∈ room.messages := by
  have hentered := sample_entered
  obtain ⟨tab, hbefore, hentered⟩ := Option.map_eq_some_iff.mp hentered
  obtain ⟨hreceiver, hrest⟩ := Prod.mk.inj hentered
  obtain ⟨hroom, hrest⟩ := Prod.mk.inj hrest
  obtain ⟨hcommands, hrest⟩ := Prod.mk.inj hrest
  obtain ⟨hlocal, hevents⟩ := Prod.mk.inj hrest
  obtain ⟨r, hr, htask⟩ := Option.map_eq_some_iff.mp hreceiver
  obtain ⟨hended, htask⟩ := Prod.mk.inj htask
  obtain ⟨hkeys, hseen⟩ := Prod.mk.inj htask
  obtain ⟨room, hroom⟩ := Option.isSome_iff_exists.mp hroom
  have hsender : publicKeyString senderSecret = senderHex := by decide +kernel
  have hstays : tab.Stays sampleTopic := by
    intro sent hsent
    rw [List.length_eq_zero_iff.mp hcommands] at hsent
    exact absurd hsent List.not_mem_nil
  have hcommand : doSend "" "alice" "hi" sampleTopic = .send sampleTopic "" "alice" "hi" := by
    decide +kernel
  have hframe : sendFrame senderSecret r.task.keys hiNonce senderIv "alice" "hi" =
      .ok senderFrame := by
    rw [hkeys]
    exact sendFrame_hi
  have hfits : FitsWire "alice" "hi"
      (signChat senderSecret r.task.keys.topicId hiNonce "hi") := by
    rw [hkeys]
    decide +kernel
  have hfresh : hiNonce ∉ r.task.replay.seen (publicKeyString senderSecret) := by
    rw [hsender, List.length_eq_zero_iff.mp hseen]
    exact List.not_mem_nil
  have hother : publicKeyString senderSecret ≠ tab.localEp := by
    rw [hlocal, hsender]
    decide +kernel
  obtain ⟨received, hreceive, hqueue⟩ :=
    exists_receive hr hended senderFrame (.replicate 16 4)
  obtain ⟨event, hevent⟩ := List.length_eq_one_iff.mp hevents
  have hcut : truncateChars "alice" maxNameChars = "alice" ∧
      truncateChars "hi" maxTextChars = "hi" := by
    decide +kernel
  have hsent : sendFrame senderSecret r.task.keys hiNonce senderIv
      (truncateChars "alice" maxNameChars) (truncateChars "hi" maxTextChars) =
        .ok senderFrame := by
    rw [hcut.1, hcut.2]
    exact hframe
  have htask := RoomTask.receive_sendFrame hended hsent (by decide +kernel) hfresh
  rw [htask, hevent] at hqueue
  obtain ⟨shown, hshown, hqueue⟩ := exists_nextEvent hqueue
  obtain ⟨later, hlater, -⟩ := exists_nextEvent hqueue
  have hrun : run step tab [.receive sampleTopic (.received senderFrame) (.replicate 16 4),
      .nextEvent, .nextEvent] = some later :=
    run_cons.mpr ⟨received, hreceive, run_cons.mpr ⟨shown, hshown,
      run_cons.mpr ⟨later, hlater, rfl⟩⟩⟩
  obtain ⟨room', hroom', -, hmem⟩ := chat_delivered (sessions false) hbefore hr hended hroom hstays
    hother hcommand hframe hfits hfresh hrun (by simp) (by rw [hevents]; decide)
  exact ⟨tab, later, room', hbefore, hrun, hroom', hsender ▸ hmem⟩

end Sample

end Tab

end IrohWebRtc
