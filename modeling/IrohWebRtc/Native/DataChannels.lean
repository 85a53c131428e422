import IrohWebRtc.Core.Outbound
import IrohWebRtc.Core.Signaling
import IrohWebRtc.Lib.Runs

/-!
# The data channels of a native session

`native.rs`: `attach_data_channel` registers an outbound route for the session and starts, when
the channel opens, a pump that sends the packets of that route.  An answerer attaches every
channel the remote opens.  The close callback of a channel and three of the exits of its pump take
the route of the session down, and they name it by its session id alone: the route they find may
have been registered by a newer channel.

The channels of a session are numbered in the order in which they were attached.  Attaching a
channel replaces the route, so the route belongs to the newest one, and an older channel that
takes it down leaves the newest without a way to send, although it is open.  Nothing registers the
route again, and a transmit finds that there is no such session.

Callbacks and pumps are tasks of their own, so their steps may come in any order.  What the WebRTC
library does to a channel, and which packets a pump receives, is left open: these are events.

* `Unregisters`: the steps that take the route of the session down.
* `routable_iff`: the newest channel keeps its route until it closes exactly when no step takes
  the route down before.
* `stale_close_unroutes`: the close of the first of two channels leaves the second without a
  route.
-/

namespace IrohWebRtc

open Bytes

/-- `RTCDataChannelState`; `closed` stands for `Closing` and `Closed`. -/
inductive ReadyState where
  | connecting
  | open
  | closed
  deriving DecidableEq, Repr

/-- Where the pump of a channel is in `pump_outbound_frames`. -/
inductive PumpState where
  | notStarted
  /-- At `outbound_rx.recv()`. -/
  | receiving
  /-- It has a packet and looks at the channel next. -/
  | holding
  /-- In the `select!` of `wait_for_native_data_channel_capacity`. -/
  | waiting
  /-- There, and `close_notify` has fired. -/
  | notified
  | sending
  | ended
  deriving DecidableEq, Repr

/-- A channel given to `attach_data_channel`. -/
structure AttachedChannel where
  readyState : ReadyState
  pumpStarted : Bool
  /-- The receiver of the route is still in its cell. -/
  outboundRx : Bool
  pump : PumpState
  deriving DecidableEq

namespace AttachedChannel

/-- The body of `on_open`, and of the branch for a channel that is open when it is attached. -/
def startPump (channel : AttachedChannel) : AttachedChannel :=
  if channel.pumpStarted then channel
  else if channel.outboundRx then
    { channel with pumpStarted := true, outboundRx := false, pump := .receiving }
  else { channel with pumpStarted := true }

/-- `close_notify.notify_waiters()`. -/
def notifyWaiters (channel : AttachedChannel) : AttachedChannel :=
  if channel.pump = .waiting then { channel with pump := .notified } else channel

@[simp] theorem readyState_startPump (channel : AttachedChannel) :
    channel.startPump.readyState = channel.readyState := by
  unfold startPump
  split_ifs <;> rfl

@[simp] theorem readyState_notifyWaiters (channel : AttachedChannel) :
    channel.notifyWaiters.readyState = channel.readyState := by
  unfold notifyWaiters
  split_ifs <;> rfl

end AttachedChannel

/-- The channels of a native session, oldest first, and the hub they share. -/
structure DataChannels (E S : Type*) where
  remote : E
  sessionId : FixedBytes 16
  hub : SessionState S
  channels : List AttachedChannel

/-- What happens to the channels of a session.  The number is that of the channel. -/
inductive ChannelEvent where
  /-- `attach_data_channel`, for a channel that may be open already. -/
  | attach (isOpen : Bool)
  | opens (n : ℕ)
  /-- The channel is not open any more. -/
  | closes (n : ℕ)
  /-- The `on_open` callback runs. -/
  | onOpen (n : ℕ)
  | onClose (n : ℕ)
  | onError (n : ℕ)
  /-- The pump receives a packet. -/
  | pumpReceives (n : ℕ)
  /-- The route the pump receives from is gone and empty. -/
  | pumpRouteClosed (n : ℕ)
  /-- The pump looks at the channel and at its buffered amount. -/
  | pumpChecks (n : ℕ) (hasRoom : Bool)
  /-- The buffered amount has fallen. -/
  | pumpHasCapacity (n : ℕ)
  /-- The wait ended because `close_notify` fired. -/
  | pumpGivesUp (n : ℕ)
  | pumpSends (n : ℕ) (sent : Bool)
  deriving DecidableEq, Repr

namespace DataChannels

variable {E S : Type*}

/-- A session without channels. -/
def new (remote : E) (sessionId : FixedBytes 16) (hub : SessionState S) : DataChannels E S :=
  ⟨remote, sessionId, hub, []⟩

/-- The channel that was attached last. -/
def newest (session : DataChannels E S) : Option AttachedChannel := session.channels.getLast?

/-- Packets for the session have a route. -/
def HasRoute (session : DataChannels E S) : Prop :=
  (session.hub.outbound.lookup session.sessionId).isSome

/-- Changes one channel. -/
def modify (session : DataChannels E S) (n : ℕ) (f : AttachedChannel → AttachedChannel) :
    DataChannels E S :=
  { session with channels := session.channels.modify n f }

/-- Puts the pump of one channel into a state. -/
def setPump (session : DataChannels E S) (n : ℕ) (pump : PumpState) : DataChannels E S :=
  session.modify n fun channel => { channel with pump := pump }

/-- `hub.unregister_outbound_session(session_id)`. -/
def unregisterSession (session : DataChannels E S) : DataChannels E S :=
  { session with hub := (session.hub.unregisterOutboundSession session.sessionId).1 }

section Address

variable [EndpointKey E]

/-- The destination a pump was given. -/
def destination (session : DataChannels E S) : CustomAddr :=
  (WebRtcAddr.session session.remote session.sessionId).toCustomAddr

/-- `hub.unregister_outbound_for(&destination)`. -/
def unregisterDestination (session : DataChannels E S) : DataChannels E S :=
  { session with hub := (session.hub.unregisterOutboundFor E session.destination).1 }

/-- A pump returns after it has taken the route down. -/
def stopPump (session : DataChannels E S) (n : ℕ) : DataChannels E S :=
  session.unregisterDestination.setPump n .ended

end Address

variable [PollSender S OutboundPacket]

/-- `attach_data_channel`. -/
def attachDataChannel (session : DataChannels E S) (isOpen : Bool) : DataChannels E S :=
  let channel : AttachedChannel := ⟨if isOpen then .open else .connecting, false, true, .notStarted⟩
  { session with
    hub := session.hub.registerOutboundSession session.sessionId
    channels := session.channels ++ [if isOpen then channel.startPump else channel] }

variable [EndpointKey E]

def step (session : DataChannels E S) (ev : ChannelEvent) : Option (DataChannels E S) :=
  match ev with
  | .attach isOpen => some (session.attachDataChannel isOpen)
  | .opens n =>
    match session.channels[n]? with
    | some ⟨.connecting, _, _, _⟩ =>
      some (session.modify n fun channel => { channel with readyState := .open })
    | _ => none
  | .closes n =>
    match session.channels[n]? with
    | some _ => some (session.modify n fun channel => { channel with readyState := .closed })
    | none => none
  | .onOpen n =>
    match session.channels[n]? with
    | some ⟨.connecting, _, _, _⟩ | none => none
    | some _ => some (session.modify n AttachedChannel.startPump)
  | .onClose n =>
    match session.channels[n]? with
    | some ⟨.closed, _, _, _⟩ =>
      some (session.unregisterSession.modify n AttachedChannel.notifyWaiters)
    | _ => none
  | .onError n =>
    match session.channels[n]? with
    | some _ => some (session.modify n AttachedChannel.notifyWaiters)
    | none => none
  | .pumpReceives n =>
    match session.channels[n]? with
    | some ⟨_, _, _, .receiving⟩ => some (session.setPump n .holding)
    | _ => none
  | .pumpRouteClosed n =>
    match session.channels[n]? with
    | some ⟨_, _, _, .receiving⟩ =>
      -- the route of the newest channel is open as long as the session has one
      if n + 1 = session.channels.length ∧
          (session.hub.outbound.lookup session.sessionId).isSome then none
      else some (session.setPump n .ended)
    | _ => none
  | .pumpChecks n hasRoom =>
    match session.channels[n]? with
    | some ⟨.open, _, _, .holding⟩ =>
      some (session.setPump n (if hasRoom then .sending else .waiting))
    | some ⟨_, _, _, .holding⟩ => some (session.stopPump n)
    | _ => none
  | .pumpHasCapacity n =>
    match session.channels[n]? with
    | some ⟨_, _, _, .waiting⟩ | some ⟨_, _, _, .notified⟩ => some (session.setPump n .sending)
    | _ => none
  | .pumpGivesUp n =>
    match session.channels[n]? with
    | some ⟨_, _, _, .notified⟩ => some (session.stopPump n)
    | _ => none
  | .pumpSends n sent =>
    match session.channels[n]? with
    | some ⟨_, _, _, .sending⟩ =>
      some (if sent then session.setPump n .receiving else session.stopPump n)
    | _ => none

/-- The steps that take the route of the session down. -/
def Unregisters (session : DataChannels E S) : ChannelEvent → Prop
  | .onClose _ | .pumpGivesUp _ => True
  | .pumpChecks n _ => ∀ channel, session.channels[n]? = some channel → channel.readyState ≠ .open
  | .pumpSends _ sent => sent = false
  | _ => False

/-- The newest channel has its route as long as it has not closed. -/
def Routable (session : DataChannels E S) : Prop :=
  ∀ channel, session.newest = some channel → channel.readyState ≠ .closed → session.HasRoute

/-- A step that takes no route of an unclosed channel down. -/
def KeepsRoute (session : DataChannels E S) (ev : ChannelEvent) : Prop :=
  session.Unregisters ev →
    ∀ channel, session.newest = some channel → channel.readyState = .closed

variable {session session' : DataChannels E S}

/-! ## The route -/

omit [PollSender S OutboundPacket] in
/-- A pump's destination names the session. -/
theorem unregisterDestination_eq (session : DataChannels E S) :
    session.unregisterDestination = session.unregisterSession := by
  have hid : sessionIdFromDestination E session.destination = some session.sessionId := by
    unfold sessionIdFromDestination destination
    rw [WebRtcAddr.fromCustomAddr_toCustomAddr]
    rfl
  simp only [unregisterDestination, unregisterSession, SessionState.unregisterOutboundFor, hid]

omit [PollSender S OutboundPacket] [EndpointKey E] in
theorem not_hasRoute_unregisterSession (session : DataChannels E S) :
    ¬ session.unregisterSession.HasRoute := by
  unfold HasRoute unregisterSession SessionState.unregisterOutboundSession
  cases hroute : session.hub.outbound.lookup session.sessionId with
  | none => simp [hroute]
  | some route => simp [AList.lookup_erase]

omit [PollSender S OutboundPacket] [EndpointKey E] in
theorem closed_unregisterSession (session : DataChannels E S) :
    session.unregisterSession.hub.closed = session.hub.closed := by
  unfold unregisterSession SessionState.unregisterOutboundSession
  split <;> rfl

omit [EndpointKey E] in
/-- The channel that is attached gets the route of the session. -/
theorem hasRoute_attachDataChannel (hopen : session.hub.closed = false) (isOpen : Bool) :
    (session.attachDataChannel isOpen).HasRoute := by
  simp [HasRoute, attachDataChannel, SessionState.registerOutboundSession, hopen]

/-! ## The newest channel -/

omit [PollSender S OutboundPacket] [EndpointKey E] in
/-- The newest channel after one channel has changed. -/
theorem newest_modify {n : ℕ} {f : AttachedChannel → AttachedChannel} {channel : AttachedChannel}
    (h : (session.modify n f).newest = some channel) :
    ∃ old, session.newest = some old ∧
      (channel = old ∨ session.channels[n]? = some old ∧ channel = f old) := by
  have hlast : ((session.channels.modify n f)[session.channels.length - 1]?) = some channel := by
    have hget : (session.channels.modify n f).getLast? = some channel := h
    rwa [List.getLast?_eq_getElem?, List.length_modify] at hget
  have hnewest : session.newest = session.channels[session.channels.length - 1]? :=
    List.getLast?_eq_getElem?
  rw [List.getElem?_modify] at hlast
  obtain ⟨old, hold, hchannel⟩ := Option.map_eq_some_iff.mp hlast
  refine ⟨old, hnewest.trans hold, ?_⟩
  split_ifs at hchannel with hn
  · exact Or.inr ⟨hn ▸ hold, hchannel.symm⟩
  · exact Or.inl hchannel.symm

omit [PollSender S OutboundPacket] [EndpointKey E] in
/-- A change that keeps the ready state of every channel keeps that of the newest one. -/
theorem readyState_newest_modify {n : ℕ} {f : AttachedChannel → AttachedChannel}
    (hf : ∀ channel, (f channel).readyState = channel.readyState) {channel : AttachedChannel}
    (h : session.newest = some channel) :
    ∃ new, (session.modify n f).newest = some new ∧ new.readyState = channel.readyState := by
  have hget : session.channels[session.channels.length - 1]? = some channel := by
    rw [← List.getLast?_eq_getElem?]
    exact h
  refine ⟨if n = session.channels.length - 1 then f channel else channel, ?_, ?_⟩
  · show (session.channels.modify n f).getLast? = _
    rw [List.getLast?_eq_getElem?, List.length_modify, List.getElem?_modify, hget]
    split_ifs <;> rfl
  · split_ifs
    · exact hf channel
    · rfl

/-! ## Steps -/

/-- What a step does to the channels and to the route. -/
inductive Effect (session : DataChannels E S) : ChannelEvent → DataChannels E S → Prop where
  | attached (isOpen : Bool) : Effect session (.attach isOpen) (session.attachDataChannel isOpen)
  | changes {ev} (n : ℕ) (f : AttachedChannel → AttachedChannel)
    (hquiet : ¬ session.Unregisters ev)
    (hclosed : ∀ channel, channel.readyState = .closed → (f channel).readyState = .closed ∨
      session.channels[n]? ≠ some channel) :
    Effect session ev (session.modify n f)
  | unregisters {ev} (n : ℕ) (f : AttachedChannel → AttachedChannel)
    (hunregisters : session.Unregisters ev)
    (hf : ∀ channel, (f channel).readyState = channel.readyState) :
    Effect session ev (session.unregisterSession.modify n f)

omit [PollSender S OutboundPacket] in
theorem stopPump_eq (session : DataChannels E S) (n : ℕ) :
    session.stopPump n =
      session.unregisterSession.modify n fun channel => { channel with pump := .ended } := by
  rw [stopPump, unregisterDestination_eq]
  rfl

theorem step_effect {ev : ChannelEvent} (hstep : session.step ev = some session') :
    Effect session ev session' := by
  cases ev with
  | attach isOpen =>
    obtain rfl := Option.some.inj hstep
    exact .attached isOpen
  | opens n =>
    simp only [step] at hstep
    split at hstep
    · rename_i hget
      obtain rfl := Option.some.inj hstep
      -- only a connecting channel opens
      refine .changes n _ id fun channel hclosed => Or.inr ?_
      rw [hget]
      rintro ⟨⟩
      exact absurd hclosed (by simp)
    · exact absurd hstep (by simp)
  | closes n =>
    simp only [step] at hstep
    split at hstep
    · obtain rfl := Option.some.inj hstep
      exact .changes n _ id fun channel _ => Or.inl rfl
    · exact absurd hstep (by simp)
  | onOpen n =>
    simp only [step] at hstep
    split at hstep
    · exact absurd hstep (by simp)
    · exact absurd hstep (by simp)
    · obtain rfl := Option.some.inj hstep
      exact .changes n _ id fun channel hclosed => Or.inl (by simpa using hclosed)
  | onClose n =>
    simp only [step] at hstep
    split at hstep
    · obtain rfl := Option.some.inj hstep
      exact .unregisters n _ trivial fun channel => by simp
    · exact absurd hstep (by simp)
  | onError n =>
    simp only [step] at hstep
    split at hstep
    · obtain rfl := Option.some.inj hstep
      exact .changes n _ id fun channel hclosed => Or.inl (by simpa using hclosed)
    · exact absurd hstep (by simp)
  | pumpReceives n =>
    simp only [step] at hstep
    split at hstep
    · obtain rfl := Option.some.inj hstep
      exact .changes n _ id fun channel hclosed => Or.inl hclosed
    · exact absurd hstep (by simp)
  | pumpRouteClosed n =>
    simp only [step] at hstep
    split at hstep
    · split_ifs at hstep with hopen
      obtain rfl := Option.some.inj hstep
      exact .changes n _ id fun channel hclosed => Or.inl hclosed
    · exact absurd hstep (by simp)
  | pumpChecks n hasRoom =>
    simp only [step] at hstep
    split at hstep
    · rename_i hget
      obtain rfl := Option.some.inj hstep
      exact .changes n _ (fun h => h _ hget rfl) fun channel hclosed => Or.inl hclosed
    · rename_i hne hget
      obtain rfl := Option.some.inj hstep
      rw [stopPump_eq]
      refine .unregisters n _ (fun channel hchannel hopen => ?_) fun channel => rfl
      obtain rfl := Option.some.inj (hget.symm.trans hchannel)
      exact hne hopen
    · exact absurd hstep (by simp)
  | pumpHasCapacity n =>
    simp only [step] at hstep
    split at hstep
    · obtain rfl := Option.some.inj hstep
      exact .changes n _ id fun channel hclosed => Or.inl hclosed
    · obtain rfl := Option.some.inj hstep
      exact .changes n _ id fun channel hclosed => Or.inl hclosed
    · exact absurd hstep (by simp)
  | pumpGivesUp n =>
    simp only [step] at hstep
    split at hstep
    · obtain rfl := Option.some.inj hstep
      rw [stopPump_eq]
      exact .unregisters n _ trivial fun channel => rfl
    · exact absurd hstep (by simp)
  | pumpSends n sent =>
    simp only [step] at hstep
    split at hstep
    · obtain rfl := Option.some.inj hstep
      split_ifs with hsent
      · exact .changes n _ (by simp [Unregisters, hsent]) fun channel hclosed => Or.inl hclosed
      · rw [stopPump_eq]
        exact .unregisters n _ (by simpa [Unregisters] using hsent) fun channel => rfl
    · exact absurd hstep (by simp)

omit [EndpointKey E] in
/-- The hub stays open. -/
theorem Effect.hub_open {ev : ChannelEvent} (heffect : Effect session ev session')
    (hopen : session.hub.closed = false) : session'.hub.closed = false := by
  cases heffect with
  | attached isOpen => simp [attachDataChannel, SessionState.registerOutboundSession, hopen]
  | changes n f hquiet hclosed => exact hopen
  | unregisters n f hunregisters hf => exact (closed_unregisterSession session).trans hopen

omit [EndpointKey E] in
/-- **A step keeps the newest channel routable exactly when** it takes the route down only after
that channel has closed. -/
theorem Effect.routable_step_iff {ev : ChannelEvent} (heffect : Effect session ev session')
    (hopen : session.hub.closed = false) (h : session.Routable) :
    session'.Routable ↔ session.KeepsRoute ev := by
  cases heffect with
  | attached isOpen =>
    exact iff_of_true (fun _ _ _ => hasRoute_attachDataChannel hopen isOpen) fun h => absurd h id
  | changes n f hquiet hclosed =>
    refine iff_of_true (fun channel hnewest halive => ?_) fun h => absurd h hquiet
    obtain ⟨old, hold, rfl | ⟨hget, rfl⟩⟩ := newest_modify hnewest
    · exact h channel hold halive
    · refine h old hold fun hclosed' => ?_
      rcases hclosed old hclosed' with hf | hf
      · exact halive hf
      · exact hf hget
  | unregisters n f hunregisters hf =>
    constructor
    · intro hroutable _ channel hnewest
      by_contra halive
      have hnewest' : session.unregisterSession.newest = some channel := hnewest
      obtain ⟨new, hnew, hstate⟩ := readyState_newest_modify hf hnewest'
      exact not_hasRoute_unregisterSession session (hroutable new hnew (hstate ▸ halive))
    · intro hkeeps channel hnewest halive
      obtain ⟨old, hold, hchannel⟩ := newest_modify hnewest
      have hclosed : old.readyState = .closed := hkeeps hunregisters old hold
      rcases hchannel with rfl | ⟨-, rfl⟩
      · exact absurd hclosed halive
      · exact absurd ((hf old).trans hclosed) halive

/-- **The newest channel of a session is routable.**  In every state of a run it has its route as
long as it has not closed, if and only if no step takes the route down while it has not closed: no
close callback and no pump that stops, of that channel or of an older one. -/
theorem routable_iff (remote : E) (sessionId : FixedBytes 16) {hub : SessionState S}
    (hopen : hub.closed = false) {events : List ChannelEvent}
    (hrun : Runs.run step (new remote sessionId hub) events = some session) :
    (∀ pre post u, events = pre ++ post → Runs.run step (new remote sessionId hub) pre = some u →
        u.Routable) ↔
      Runs.Guarded step KeepsRoute (new remote sessionId hub) events := by
  have hnew : (new remote sessionId hub).Routable :=
    fun channel hnewest => absurd hnewest (by simp [newest, new])
  rw [Runs.forall_prefix_iff_guarded (I := fun u => u.hub.closed = false) (g := KeepsRoute)
    (fun u ev v hu hstep => (step_effect hstep).hub_open hu)
    (fun u ev v hu hroutable hstep => (step_effect hstep).routable_step_iff hu hroutable)
    hopen hrun]
  exact and_iff_right hnew

/-! ## Concrete runs -/

section Sample

open scoped Sample
open Sample

/-- A session with an open hub. -/
def sampleChannels : DataChannels Key BoundedChannel :=
  new bob (.replicate 16 1) (.withCapacities 8 8)

/-- Two channels open, one after the other. -/
def twoChannels : List ChannelEvent :=
  [.attach false, .opens 0, .onOpen 0, .attach false, .opens 1, .onOpen 1]

theorem routable_iff_sample :
    ((∀ pre post u, twoChannels = pre ++ post → Runs.run step sampleChannels pre = some u →
        u.Routable) ↔
      Runs.Guarded step KeepsRoute sampleChannels twoChannels) :=
  routable_iff bob (.replicate 16 1) rfl rfl

/-- **A stale close unroutes the session.**  The second channel is open and has its route until the
first channel, which has closed, runs its close callback. -/
theorem stale_close_unroutes :
    ∃ before after, Runs.run step sampleChannels (twoChannels ++ [.closes 0]) = some before ∧
      before.HasRoute ∧ step before (.onClose 0) = some after ∧
      after.newest = some ⟨.open, true, false, .receiving⟩ ∧ ¬ after.HasRoute ∧
      ¬ after.Routable := by
  have hrun : ∃ before after,
      Runs.run step sampleChannels (twoChannels ++ [.closes 0]) = some before ∧
        before.HasRoute ∧ step before (.onClose 0) = some after ∧
        after.newest = some ⟨.open, true, false, .receiving⟩ ∧ ¬ after.HasRoute :=
    ⟨_, _, rfl, rfl, rfl, rfl, Bool.false_ne_true⟩
  obtain ⟨before, after, hbefore, hroute, hafter, hnewest, hgone⟩ := hrun
  exact ⟨before, after, hbefore, hroute, hafter, hnewest, hgone,
    fun h => hgone (h _ hnewest (by decide))⟩

end Sample

end DataChannels

end IrohWebRtc
