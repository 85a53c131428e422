import IrohWebRtc.Core.Endpoint
import IrohWebRtc.Facade.FrameLimits
import Mathlib.Data.Multiset.MapFold
import Mathlib.Algebra.Order.Group.Multiset
import Mathlib.Tactic.Abel

/-!
# From a transmit to the datagrams of the peer

A datagram crosses the modules `core/sender.rs`, `core/hub.rs`, `native.rs` (in the browser
`direct/data_channel.rs`) and `core/endpoint.rs`: a transmit puts one packet into the queue of its
session, the pump of a data channel takes it out and sends it, the channel, which is unordered and
does not retransmit, delivers it or loses it, the `on_message` callback of the peer decodes it and
pushes it into the hub, and a poll of the peer's endpoint hands its datagrams out.

Here any number of nodes are connected by any number of data channels, and all of this happens in
any order.

## Why a ledger

Nothing on the way keeps the order of the packets, and most of the parts may drop one, so the
output of a node is no function of what the others put in.  What there is instead is a
conservation law.  Each end of a channel keeps a ledger of the packets that were accepted for the
route it registered; and a packet can be in six places, of which five are fields of the end.  It
waits in the channel of the route, it is held by the pump, it is in flight, it was lost, it was
dropped by the other end, or it was pushed into the hub of the other end.  `DataPath.Ledger` says
that these six make up the ledger, counted with multiplicity.  Everything the development says of
the data path follows: what is handed out was accepted, and at most as often.

A route that is registered again takes the queue of the old one out of the table, but the pump of
the old one still has the receiver and goes on with what is in it (`Pump.detached`).  This is why
a ledger belongs to an end and not to a session.

## Contents

* `Wiring`: the nodes, the ends of the channels, and what each end was attached with.
* `DataPath.step`: one step of it, and `DataPath.Ledger`, with what keeps it on the sending side,
  up to the channel.  The receiving side is in `Facade.DataPathDelivery`.

## Limits

The two ends of a channel are attached with their sessions once and for all, and a closed end is
not attached again.  The channel does not duplicate, which SCTP guarantees; it may lose and
reorder as it likes, so a reliable channel is a special case.  The capacity waits of the pumps are
not here, since what a pump does while it waits changes no packet.
-/

namespace IrohWebRtc

open Bytes Segments SessionState PollSenderContents

/-- The datagrams that a transmit asks to be sent: its contents in segments. -/
def Transmit.segments (transmit : Transmit) : List (List UInt8) :=
  cut (transmit.segmentSize.getD transmit.contents.length) transmit.contents

namespace SessionState

variable {S : Type*}

theorem toSessionHub_unregisterOutboundSession (state : SessionState S)
    (sessionId : FixedBytes 16) :
    (state.unregisterOutboundSession sessionId).1.toSessionHub = state.toSessionHub := by
  rw [unregisterOutboundSession]
  split
  · rfl
  · rfl

variable [PollSender S OutboundPacket]

/-- The receive half of a hub is not touched by what happens to its routes. -/
theorem toSessionHub_pollSend {E : Type*} [EndpointKey E] {pw : PointerWidth} {maxPayloadLen : ℕ}
    {state state' : SessionState S} {cx : Waker} {dst : CustomAddr} {transmit : Transmit}
    {r : Poll (Except IoError Unit)}
    (h : pollSend E pw maxPayloadLen state cx dst transmit = some (r, state')) :
    state'.toSessionHub = state.toSessionHub := by
  rcases pollSend_cases h with ⟨err, -, rfl⟩ | ⟨sessionId, packet, pushed, -, -, hpush, -⟩
  · rfl
  rcases pollPushOutbound_steps hpush with ⟨err, -, rfl, -⟩ |
    ⟨_, _, _, _, -, -, -, -, ⟨-, -, rfl⟩ | ⟨-, -, rfl⟩ | ⟨-, _, _, -, rfl, -⟩⟩
  all_goals rfl

theorem toSessionHub_registerOutboundSession (state : SessionState S)
    (sessionId : FixedBytes 16) :
    (state.registerOutboundSession sessionId).toSessionHub = state.toSessionHub := by
  rw [registerOutboundSession]
  split_ifs
  · rfl
  · rfl

theorem toSessionHub_recvOutbound {state state' : SessionState S} {sessionId : FixedBytes 16}
    {packet : OutboundPacket} {woken : Option Waker}
    (h : state.recvOutbound sessionId = some (packet, state', woken)) :
    state'.toSessionHub = state.toSessionHub := by
  unfold recvOutbound at h
  split at h
  · cases h
  split at h
  · cases h
  · obtain ⟨-, rfl, -⟩ : _ ∧ _ = state' ∧ _ := by simpa using h
    rfl

end SessionState

/-- The nodes and the ends of the data channels between them, with what each end was attached
with. -/
structure Wiring (E H L : Type*) where
  host : L → H
  /-- The other end of the channel. -/
  peer : L → L
  peer_peer : Function.Involutive peer
  sessionId : L → FixedBytes 16
  remote : L → E
  frame : L → WebRtcFrameConfig
  /-- The limit of a node's sender. -/
  maxPayloadLen : H → ℕ
  pointerWidth : H → PointerWidth

/-- The address under which what arrives at an end is handed out. -/
def Wiring.remoteAddr {E H L : Type*} [EndpointKey E] (W : Wiring E H L) (l : L) : CustomAddr :=
  (WebRtcAddr.session (W.remote l) (W.sessionId l)).toCustomAddr

/-- What `on_message` pushes for a packet that it queues, with the end it was sent from. -/
def Wiring.queuedPacket {E H L : Type*} [EndpointKey E] (W : Wiring E H L)
    (a : L × OutboundPacket) : Option QueuedPacket :=
  match WebRtcPacketFrame.decode (W.pointerWidth (W.host (W.peer a.1))) a.2.bytes
    (W.frame (W.peer a.1)).maxPayloadLen with
  | .error _ => none
  | .ok frame => some ⟨W.remoteAddr (W.peer a.1), frame⟩

/-- The end that a packet was sent to decodes it, and finds its own session in it. -/
def Wiring.Opens {E H L : Type*} (W : Wiring E H L) (a : L × OutboundPacket) : Prop :=
  ∃ frame, WebRtcPacketFrame.decode (W.pointerWidth (W.host (W.peer a.1))) a.2.bytes
      (W.frame (W.peer a.1)).maxPayloadLen = .ok frame ∧
    frame.sessionId = W.sessionId (W.peer a.1)

/-- Both ends of a channel are attached for one session, and what the sender of the one accepts is
within the limit of the other. -/
structure Wiring.Agrees {E H L : Type*} (W : Wiring E H L) (l : L) : Prop where
  sessionId : W.sessionId (W.peer l) = W.sessionId l
  maxPayloadLen : W.maxPayloadLen (W.host l) ≤ (W.frame (W.peer l)).maxPayloadLen
  /-- As the configuration of a node requires. -/
  valid : W.maxPayloadLen (W.host l) ≤ 65535

/-- Where the receiver of the route is that an end registered. -/
inductive Pump (S : Type*) where
  | unattached
  /-- It is the receiver of the route that its session has. -/
  | routed
  /-- Its route was removed or replaced; what was in the channel can still be taken. -/
  | detached (channel : S)
  | stopped

namespace Pump

variable {S : Type*}

def isRouted : Pump S → Bool
  | .routed => true
  | _ => false

/-- The receiver after the hub dropped the route of its session. -/
def detach (pump : Pump S) (route : Option (OutboundRoute S)) : Pump S :=
  match pump with
  | .routed => (route.map fun route => .detached route.sender).getD .stopped
  | pump => pump

variable [PollSender S OutboundPacket] [PollSenderContents S]

/-- What waits for the pump, given what waits in the route of its session. -/
def queued (pump : Pump S) (queue : Option (List OutboundPacket)) : List OutboundPacket :=
  match pump with
  | .routed => queue.getD []
  | .detached channel => contents channel
  | .unattached | .stopped => []

/-- A receiver that loses its route keeps what is in the channel. -/
theorem queued_detach (pump : Pump S) (route : Option (OutboundRoute S))
    (queue : Option (List OutboundPacket)) :
    (pump.detach route).queued queue =
      pump.queued (route.map fun route => contents route.sender) := by
  cases pump with
  | routed =>
    cases route with
    | none => rfl
    | some route => rfl
  | unattached => rfl
  | detached channel => rfl
  | stopped => rfl

omit [PollSender S OutboundPacket] [PollSenderContents S] in
theorem isRouted_iff {pump : Pump S} : pump.isRouted = true ↔ pump = .routed := by
  cases pump with
  | routed => exact iff_of_true rfl rfl
  | unattached => exact iff_of_false Bool.false_ne_true nofun
  | detached channel => exact iff_of_false Bool.false_ne_true nofun
  | stopped => exact iff_of_false Bool.false_ne_true nofun

/-- Only the receiver of a route sees what is in the route. -/
theorem queued_of_ne_routed {pump : Pump S} (h : pump ≠ .routed)
    (queue queue' : Option (List OutboundPacket)) : pump.queued queue = pump.queued queue' := by
  cases pump with
  | routed => exact absurd rfl h
  | unattached => rfl
  | detached channel => rfl
  | stopped => rfl

omit [PollSender S OutboundPacket] [PollSenderContents S] in
theorem detach_ne_routed (pump : Pump S) (route : Option (OutboundRoute S)) :
    pump.detach route ≠ .routed := by
  cases pump with
  | routed =>
    cases route with
    | none => nofun
    | some route => nofun
  | unattached => nofun
  | detached channel => nofun
  | stopped => nofun

end Pump

/-- One end of a data channel, with the ledger of its outgoing packets. -/
structure ChannelEnd (S : Type*) where
  pump : Pump S
  /-- What the pump has taken out of the queue and not sent. -/
  held : Option OutboundPacket
  inFlight : Multiset OutboundPacket
  lost : Multiset OutboundPacket
  /-- What the other end dropped, and why. -/
  dropped : Multiset (OutboundPacket × MessageOutcome)
  /-- The transmits that were accepted for its route. -/
  accepted : Multiset (CustomAddr × Transmit)

/-- A node: its hub, what its endpoint keeps of a packet, the packets that were pushed into the hub
with the end they were sent from, and what the polls of the endpoint handed out. -/
structure PathHost (S L : Type*) where
  state : SessionState S
  pending : Option PendingPacket
  arrived : List (L × OutboundPacket)
  delivered : List Datagram

/-- The endpoint of a node with its history. -/
def PathHost.transcript {S E H L : Type*} [EndpointKey E] (W : Wiring E H L)
    (host : PathHost S L) : Transcript where
  endpoint := ⟨host.state.toSessionHub, host.pending⟩
  accepted := host.arrived.filterMap W.queuedPacket
  delivered := host.delivered

/-- What the node `h` received is what its endpoint delivered and what it owes, and it all came over
channels of the node, in packets for the sessions of these channels. -/
structure PathHost.Receives {S E H L : Type*} [EndpointKey E] (W : Wiring E H L) (h : H)
    (host : PathHost S L) : Prop where
  balanced : (host.transcript W).Balanced
  arrived : ∀ a ∈ host.arrived, W.host (W.peer a.1) = h ∧ W.Opens a

structure DataPath (S H L : Type*) where
  hosts : H → PathHost S L
  ends : L → ChannelEnd S

inductive DataPathOp (H L : Type*) where
  | attach (l : L)
  | transmit (h : H) (cx : Waker) (dst : CustomAddr) (transmit : Transmit)
  /-- The pump takes a packet. -/
  | pumpRecv (l : L)
  | pumpSend (l : L)
  /-- The pump stops at a closed or failed channel. -/
  | pumpStop (l : L)
  /-- The pump stops because its queue has ended. -/
  | pumpEnd (l : L)
  /-- The `on_close` callback. -/
  | channelClosed (l : L)
  | closeHub (h : H)
  /-- A packet from this end is lost on the way. -/
  | lose (l : L) (packet : OutboundPacket)
  /-- A packet from this end arrives at the other. -/
  | deliver (l : L) (packet : OutboundPacket)
  | poll (h : H) (cx : Waker) (bufs : List (List UInt8))

namespace DataPath

variable {S E H L : Type*}

def new (recvCapacity outboundCapacity : H → ℕ) : DataPath S H L where
  hosts h := ⟨.withCapacities (recvCapacity h) (outboundCapacity h), none, [], []⟩
  ends _ := ⟨.unattached, none, 0, 0, 0, 0⟩

/-- The receive halves of the nodes are as they were. -/
def SameReceive (t t' : DataPath S H L) : Prop :=
  ∀ h, (t'.hosts h).state.toSessionHub = (t.hosts h).state.toSessionHub ∧
    (t'.hosts h).pending = (t.hosts h).pending ∧ (t'.hosts h).arrived = (t.hosts h).arrived ∧
      (t'.hosts h).delivered = (t.hosts h).delivered

theorem SameReceive.receives [EndpointKey E] {W : Wiring E H L} {t t' : DataPath S H L}
    (hsame : t.SameReceive t') {h : H}
    (hreceives : (t.hosts h).Receives W h) : (t'.hosts h).Receives W h := by
  obtain ⟨hhub, hpending, harrived, hdelivered⟩ := hsame h
  refine ⟨?_, by rw [harrived]; exact hreceives.arrived⟩
  have htranscript : (t'.hosts h).transcript W = (t.hosts h).transcript W := by
    rw [PathHost.transcript, PathHost.transcript, hhub, hpending, harrived, hdelivered]
  rw [htranscript]
  exact hreceives.balanced

variable [DecidableEq H] [DecidableEq L]

/-- The node `h` with another state of its hub. -/
def setState (t : DataPath S H L) (h : H) (state : SessionState S) : DataPath S H L :=
  { t with hosts := Function.update t.hosts h { t.hosts h with state := state } }

/-- One end with other contents. -/
def setEnd (t : DataPath S H L) (l : L) (e : ChannelEnd S) : DataPath S H L :=
  { t with ends := Function.update t.ends l e }

/-- The ends after the hub of `h` has dropped the routes of the sessions `gone`. -/
def detach (W : Wiring E H L) (t : DataPath S H L) (h : H) (gone : FixedBytes 16 → Prop)
    [DecidablePred gone] (l : L) : ChannelEnd S :=
  if W.host l = h ∧ gone (W.sessionId l) then
    { t.ends l with
      pump := (t.ends l).pump.detach ((t.hosts h).state.outbound.lookup (W.sessionId l)) }
  else t.ends l

/-- The end after a transmit to `sessionId` was accepted at `h`. -/
def accept (W : Wiring E H L) (t : DataPath S H L) (h : H) (sessionId : FixedBytes 16)
    (transmit : CustomAddr × Transmit) (l : L) : ChannelEnd S :=
  if W.host l = h ∧ W.sessionId l = sessionId ∧ (t.ends l).pump.isRouted then
    { t.ends l with accepted := transmit ::ₘ (t.ends l).accepted }
  else t.ends l

/-- The hub of `h` removes the route of a session. -/
def unregister (W : Wiring E H L) (t : DataPath S H L) (h : H) (sessionId : FixedBytes 16) :
    DataPath S H L :=
  { t.setState h ((t.hosts h).state.unregisterOutboundSession sessionId).1 with
    ends := t.detach W h (· = sessionId) }

omit [DecidableEq H] in
@[simp] theorem hosts_setEnd (t : DataPath S H L) (l : L) (e : ChannelEnd S) :
    (t.setEnd l e).hosts = t.hosts := rfl

omit [DecidableEq H] in
@[simp] theorem ends_setEnd_self (t : DataPath S H L) (l : L) (e : ChannelEnd S) :
    (t.setEnd l e).ends l = e := Function.update_self ..

omit [DecidableEq H] in
theorem ends_setEnd_of_ne (t : DataPath S H L) {l l' : L} (e : ChannelEnd S) (hne : l' ≠ l) :
    (t.setEnd l e).ends l' = t.ends l' := Function.update_of_ne hne ..

omit [DecidableEq L] in
theorem hosts_setState (t : DataPath S H L) (h h' : H) (state : SessionState S) :
    (t.setState h state).hosts h' =
      if h' = h then { t.hosts h with state := state } else t.hosts h' :=
  Function.update_apply ..

omit [DecidableEq L] in
theorem state_setState (t : DataPath S H L) (h h' : H) (state : SessionState S) :
    ((t.setState h state).hosts h').state = if h' = h then state else (t.hosts h').state := by
  rw [hosts_setState, apply_ite PathHost.state]

omit [DecidableEq L] in
theorem arrived_setState (t : DataPath S H L) (h h' : H) (state : SessionState S) :
    ((t.setState h state).hosts h').arrived = (t.hosts h').arrived := by
  rw [hosts_setState]
  split_ifs with hh
  · rw [hh]
  · rfl

omit [DecidableEq L] in
theorem sameReceive_setState {t : DataPath S H L} {h : H} {state' : SessionState S}
    (hhub : state'.toSessionHub = (t.hosts h).state.toSessionHub) :
    t.SameReceive (t.setState h state') := by
  intro h'
  rw [hosts_setState]
  split_ifs with hh
  · subst hh
    exact ⟨hhub, rfl, rfl, rfl⟩
  · exact ⟨rfl, rfl, rfl, rfl⟩

section Channel

variable [PollSender S OutboundPacket] [PollSenderContents S]

/-- What waits for the pump of an end. -/
def queued (W : Wiring E H L) (t : DataPath S H L) (l : L) : List OutboundPacket :=
  (t.ends l).pump.queued ((t.hosts (W.host l)).state.outboundQueue (W.sessionId l))

/-- The pump of an end stops, and what it holds and what waits for it is lost. -/
def stop (W : Wiring E H L) (t : DataPath S H L) (l : L) : DataPath S H L :=
  t.setEnd l { t.ends l with
    pump := .stopped
    held := none
    lost := (t.ends l).lost + ((t.ends l).held.toList ++ t.queued W l : List OutboundPacket) }

variable [EndpointKey E]

/-- A packet from the end `l` arrives at the other end. -/
def receive (W : Wiring E H L) (t : DataPath S H L) (l : L) (packet : OutboundPacket) :
    DataPath S H L :=
  let h := W.host (W.peer l)
  let e := { t.ends l with inFlight := (t.ends l).inFlight.erase packet }
  match onMessage (W.pointerWidth h) (W.frame (W.peer l)) (W.sessionId (W.peer l))
    (W.remoteAddr (W.peer l)) (t.hosts h).state.toSessionHub false packet.bytes with
  | (.queued _, hub) =>
    { hosts := Function.update t.hosts h { t.hosts h with
        state := { (t.hosts h).state with toSessionHub := hub }
        arrived := (t.hosts h).arrived ++ [(l, packet)] }
      ends := Function.update t.ends l e }
  | (outcome, _) => t.setEnd l { e with dropped := (packet, outcome) ::ₘ e.dropped }

/-- One step.  `none` when there is nothing to do, or when it panics. -/
def step (W : Wiring E H L) (t : DataPath S H L) : DataPathOp H L → Option (DataPath S H L)
  | .attach l =>
    match (t.ends l).pump with
    | .unattached =>
      let state := (t.hosts (W.host l)).state
      if state.closed then
        -- the sending end of the new channel is dropped at once
        some (t.setEnd l
          { t.ends l with pump := .detached (PollSender.channel state.outboundCapacity) })
      else
        -- the route that the session had is replaced
        let registered := {
          t.setState (W.host l) (state.registerOutboundSession (W.sessionId l)) with
          ends := t.detach W (W.host l) (· = W.sessionId l) }
        some (registered.setEnd l { t.ends l with pump := .routed })
    | _ => none
  | .transmit h cx dst transmit =>
    match sentPacket E (W.pointerWidth h) (W.maxPayloadLen h) dst transmit,
      pollSend E (W.pointerWidth h) (W.maxPayloadLen h) (t.hosts h).state cx dst transmit with
    | _, none => none
    | some (sessionId, _), some (.ready (.ok ()), state) =>
      some { t.setState h state with ends := t.accept W h sessionId (dst, transmit) }
    | _, some (_, state) => some (t.setState h state)
  | .pumpRecv l =>
    match (t.ends l).held, (t.ends l).pump with
    | none, .routed =>
      ((t.hosts (W.host l)).state.recvOutbound (W.sessionId l)).map fun (packet, state, _) =>
        (t.setState (W.host l) state).setEnd l { t.ends l with held := some packet }
    | none, .detached channel =>
      (PollSender.recv channel).map fun (packet, _, channel) =>
        t.setEnd l { t.ends l with pump := .detached channel, held := some packet }
    | _, _ => none
  | .pumpSend l =>
    (t.ends l).held.map fun packet =>
      t.setEnd l { t.ends l with held := none, inFlight := packet ::ₘ (t.ends l).inFlight }
  | .pumpStop l =>
    match (t.ends l).pump with
    | .unattached | .stopped => none
    | .routed | .detached _ =>
      some ((t.unregister W (W.host l) (W.sessionId l)).stop W l)
  | .pumpEnd l =>
    match (t.ends l).held, (t.ends l).pump with
    | none, .detached channel =>
      if (PollSender.recv channel).isNone then some (t.stop W l) else none
    | _, _ => none
  | .channelClosed l =>
    match (t.ends l).pump with
    | .unattached => none
    | _ => some (t.unregister W (W.host l) (W.sessionId l))
  | .closeHub h =>
    some { t.setState h (t.hosts h).state.close.1 with ends := t.detach W h fun _ => True }
  | .lose l packet =>
    if packet ∈ (t.ends l).inFlight then
      some (t.setEnd l { t.ends l with
        inFlight := (t.ends l).inFlight.erase packet
        lost := packet ::ₘ (t.ends l).lost })
    else none
  | .deliver l packet =>
    match (t.ends (W.peer l)).pump with
    | .unattached => none
    | _ => if packet ∈ (t.ends l).inFlight then some (t.receive W l packet) else none
  | .poll h cx bufs =>
    let ep : WebRtcEndpoint := ⟨(t.hosts h).state.toSessionHub, (t.hosts h).pending⟩
    match ep.pollRecv cx bufs with
    | (r, ep) =>
      some { t with
        hosts := Function.update t.hosts h { t.hosts h with
          state := { (t.hosts h).state with toSessionHub := ep.hub }
          pending := ep.pending
          delivered := (t.hosts h).delivered ++ deliveredBy r } }

/-! ## The ledger -/

/-- What was pushed into the hub of the other end. -/
def received (W : Wiring E H L) (t : DataPath S H L) (l : L) : List OutboundPacket :=
  ((t.hosts (W.host (W.peer l))).arrived.filter fun a => a.1 = l).map Prod.snd

/-- Every place where a packet of the end `l` can be. -/
def places (W : Wiring E H L) (t : DataPath S H L) (l : L) : Multiset OutboundPacket :=
  ((t.queued W l : List OutboundPacket) : Multiset OutboundPacket) +
    ((t.ends l).held.toList : List OutboundPacket) + (t.ends l).inFlight + (t.ends l).lost +
      (t.ends l).dropped.map Prod.fst + (t.received W l : List OutboundPacket)

/-- The packet of a transmit, with the session it goes to. -/
def sent (W : Wiring E H L) (l : L) (transmit : CustomAddr × Transmit) :
    Option (FixedBytes 16 × OutboundPacket) :=
  sentPacket E (W.pointerWidth (W.host l)) (W.maxPayloadLen (W.host l)) transmit.1 transmit.2

/-- The packets of the accepted transmits are the packets there are, with their multiplicity. -/
def Ledger (W : Wiring E H L) (t : DataPath S H L) : Prop :=
  ∀ l, (t.ends l).accepted.map (sent W l) =
    (t.places W l).map fun packet => some (W.sessionId l, packet)

variable {W : Wiring E H L} {t t' : DataPath S H L}

omit [DecidableEq H] [DecidableEq L] [EndpointKey E] in
theorem queued_congr {l : L} (hpump : (t'.ends l).pump = (t.ends l).pump)
    (hqueue : (t'.hosts (W.host l)).state.outboundQueue (W.sessionId l) =
      (t.hosts (W.host l)).state.outboundQueue (W.sessionId l)) :
    t'.queued W l = t.queued W l := by
  rw [queued, queued, hpump, hqueue]

omit [DecidableEq L] [EndpointKey E] in
/-- What waits is the same after a hub has dropped routes. -/
theorem queued_detach {h : H} {gone : FixedBytes 16 → Prop} [DecidablePred gone]
    (hends : t'.ends = t.detach W h gone)
    (hkept : ∀ l, ¬ (W.host l = h ∧ gone (W.sessionId l)) →
      (t'.hosts (W.host l)).state.outboundQueue (W.sessionId l) =
        (t.hosts (W.host l)).state.outboundQueue (W.sessionId l)) (l : L) :
    t'.queued W l = t.queued W l := by
  by_cases hgone : W.host l = h ∧ gone (W.sessionId l)
  · rw [queued, queued, hends, detach, if_pos hgone, Pump.queued_detach, ← hgone.1]
    rfl
  · refine queued_congr ?_ (hkept l hgone)
    rw [hends, detach, if_neg hgone]

omit [DecidableEq H] in
/-- Two states in which a packet is in the same places. -/
theorem Ledger.congr (hledger : t.Ledger W) (haccepted : ∀ l,
    (t'.ends l).accepted = (t.ends l).accepted) (hplaces : ∀ l, t'.places W l = t.places W l) :
    t'.Ledger W := fun l => by rw [haccepted, hplaces, hledger l]

omit [DecidableEq H] [EndpointKey E] in
theorem places_congr {l : L} (hqueued : t'.queued W l = t.queued W l)
    (hheld : (t'.ends l).held = (t.ends l).held)
    (hflight : (t'.ends l).inFlight = (t.ends l).inFlight)
    (hlost : (t'.ends l).lost = (t.ends l).lost)
    (hdropped : (t'.ends l).dropped = (t.ends l).dropped)
    (harrived : (t'.hosts (W.host (W.peer l))).arrived =
      (t.hosts (W.host (W.peer l))).arrived) :
    t'.places W l = t.places W l := by
  rw [places, places, received, received, hqueued, hheld, hflight, hlost, hdropped, harrived]

/-- The hub of a node drops routes. -/
theorem Ledger.detach (hledger : t.Ledger W) (h : H) (gone : FixedBytes 16 → Prop)
    [DecidablePred gone] (hends : t'.ends = t.detach W h gone)
    (hkept : ∀ l, ¬ (W.host l = h ∧ gone (W.sessionId l)) →
      (t'.hosts (W.host l)).state.outboundQueue (W.sessionId l) =
        (t.hosts (W.host l)).state.outboundQueue (W.sessionId l))
    (harrived : ∀ h', (t'.hosts h').arrived = (t.hosts h').arrived) : t'.Ledger W := by
  have hend : ∀ l, ∃ pump, t'.ends l = { t.ends l with pump := pump } := by
    intro l
    rw [hends, DataPath.detach]
    split_ifs
    · exact ⟨_, rfl⟩
    · exact ⟨_, rfl⟩
  refine hledger.congr (fun l => ?_) fun l => ?_
  · obtain ⟨pump, hend⟩ := hend l
    rw [hend]
  · obtain ⟨pump, hend⟩ := hend l
    refine places_congr (queued_detach hends hkept l) ?_ ?_ ?_ ?_ (harrived _)
    all_goals rw [hend]


theorem Ledger.unregister (hledger : t.Ledger W) (h : H) (sessionId : FixedBytes 16) :
    (t.unregister W h sessionId).Ledger W := by
  refine hledger.detach h (· = sessionId) rfl (fun l hl => ?_) fun _ => arrived_setState ..
  show ((t.setState h _).hosts (W.host l)).state.outboundQueue _ = _
  rw [state_setState]
  split_ifs with hh
  · rw [outboundQueue_unregisterOutboundSession, if_neg fun hid => hl ⟨hh, hid⟩, hh]
  · rfl

theorem Ledger.closeHub (hledger : t.Ledger W) (h : H) :
    Ledger W { t.setState h (t.hosts h).state.close.1 with
      ends := t.detach W h fun _ => True } := by
  refine hledger.detach h (fun _ => True) rfl (fun l hl => ?_) fun _ => arrived_setState ..
  show ((t.setState h _).hosts (W.host l)).state.outboundQueue _ = _
  rw [state_setState, if_neg fun hh => hl ⟨hh, trivial⟩]

omit [EndpointKey E] [DecidableEq H] in
/-- An end with the same pump has the same packets waiting. -/
theorem queued_setEnd_of_ne {l l' : L} (e : ChannelEnd S) (hne : l' ≠ l) :
    (t.setEnd l e).queued W l' = t.queued W l' :=
  queued_congr (by rw [ends_setEnd_of_ne t e hne]) rfl

omit [EndpointKey E] [DecidableEq H] in
theorem queued_setEnd_self {l : L} (e : ChannelEnd S) :
    (t.setEnd l e).queued W l =
      e.pump.queued ((t.hosts (W.host l)).state.outboundQueue (W.sessionId l)) := by
  rw [queued, ends_setEnd_self, hosts_setEnd]

omit [DecidableEq H] in
/-- One end changes: its packets move from place to place. -/
theorem Ledger.setEnd (hledger : t.Ledger W) {l : L} {e : ChannelEnd S}
    (haccepted : e.accepted = (t.ends l).accepted)
    (hplaces : ((e.pump.queued ((t.hosts (W.host l)).state.outboundQueue (W.sessionId l)) :
        List OutboundPacket) : Multiset OutboundPacket) + (e.held.toList : List OutboundPacket) +
        e.inFlight + e.lost + e.dropped.map Prod.fst =
      ((t.queued W l : List OutboundPacket) : Multiset OutboundPacket) +
        ((t.ends l).held.toList : List OutboundPacket) + (t.ends l).inFlight + (t.ends l).lost +
        (t.ends l).dropped.map Prod.fst) : (t.setEnd l e).Ledger W := by
  refine hledger.congr (fun l' => ?_) fun l' => ?_
  · by_cases hne : l' = l
    · rw [hne, ends_setEnd_self, haccepted]
    · rw [ends_setEnd_of_ne t e hne]
  · by_cases hne : l' = l
    · rw [hne, places, places, queued_setEnd_self, ends_setEnd_self, hplaces]
      rfl
    · refine places_congr (queued_setEnd_of_ne e hne) ?_ ?_ ?_ ?_ rfl
      all_goals rw [ends_setEnd_of_ne t e hne]

omit [DecidableEq H] in
theorem Ledger.stop (hledger : t.Ledger W) (l : L) : (t.stop W l).Ledger W := by
  refine hledger.setEnd rfl ?_
  show (0 : Multiset OutboundPacket) + 0 + (t.ends l).inFlight + ((t.ends l).lost +
    ((t.ends l).held.toList ++ t.queued W l : List OutboundPacket)) +
      (t.ends l).dropped.map Prod.fst = _
  rw [← Multiset.coe_add, zero_add, zero_add]
  ac_rfl

omit [DecidableEq H] in
theorem Ledger.pumpSend (hledger : t.Ledger W) {l : L} {packet : OutboundPacket}
    (hheld : (t.ends l).held = some packet) : Ledger W (t.setEnd l
      { t.ends l with held := none, inFlight := packet ::ₘ (t.ends l).inFlight }) := by
  refine hledger.setEnd rfl ?_
  show (t.queued W l : Multiset OutboundPacket) + 0 + packet ::ₘ (t.ends l).inFlight +
    (t.ends l).lost + (t.ends l).dropped.map Prod.fst = _
  rw [hheld, Option.toList_some, Multiset.coe_singleton, add_zero, ← Multiset.singleton_add]
  ac_rfl

omit [DecidableEq H] in
theorem Ledger.lose (hledger : t.Ledger W) {l : L} {packet : OutboundPacket}
    (hmem : packet ∈ (t.ends l).inFlight) : Ledger W (t.setEnd l { t.ends l with
      inFlight := (t.ends l).inFlight.erase packet
      lost := packet ::ₘ (t.ends l).lost }) := by
  refine hledger.setEnd rfl ?_
  show (t.queued W l : Multiset OutboundPacket) + ((t.ends l).held.toList : List OutboundPacket) +
    (t.ends l).inFlight.erase packet + packet ::ₘ (t.ends l).lost +
      (t.ends l).dropped.map Prod.fst = _
  conv_rhs => rw [← Multiset.cons_erase hmem]
  rw [← Multiset.singleton_add, ← Multiset.singleton_add]
  ac_rfl

/-- At most one receiver goes with a route. -/
def Exclusive (W : Wiring E H L) (t : DataPath S H L) : Prop :=
  ∀ l l', (t.ends l).pump = .routed → (t.ends l').pump = .routed → W.host l' = W.host l →
    W.sessionId l' = W.sessionId l → l' = l

/-- The pump of a route takes the packet at the head of the queue. -/
theorem Ledger.pumpRecvRouted (hledger : t.Ledger W) (hexclusive : t.Exclusive W) {l : L}
    (hheld : (t.ends l).held = none) (hpump : (t.ends l).pump = .routed)
    {packet : OutboundPacket} {state' : SessionState S} {woken : Option Waker}
    (hrecv : (t.hosts (W.host l)).state.recvOutbound (W.sessionId l) =
      some (packet, state', woken)) :
    Ledger W ((t.setState (W.host l) state').setEnd l { t.ends l with held := some packet }) := by
  obtain ⟨queue, hqueue, hstate⟩ := outboundQueue_recvOutbound hrecv
  refine hledger.congr (fun l' => ?_) fun l' => ?_
  · by_cases hne : l' = l
    · rw [hne, ends_setEnd_self]
    · rw [ends_setEnd_of_ne _ _ hne]
      rfl
  by_cases hne : l' = l
  · subst hne
    have hbefore : t.queued W l' = packet :: queue := by
      rw [queued, hpump, hqueue]
      rfl
    have hafter : ((t.setState (W.host l') state').setEnd l'
        { t.ends l' with held := some packet }).queued W l' = queue := by
      rw [queued_setEnd_self, state_setState, if_pos rfl, hstate, if_pos rfl]
      show (t.ends l').pump.queued (some queue) = queue
      rw [hpump]
      rfl
    have harrived : ((t.setState (W.host l') state').setEnd l'
        { t.ends l' with held := some packet }).received W l' = t.received W l' := by
      rw [received, received, hosts_setEnd, arrived_setState]
    rw [places, places, hbefore, hafter, harrived, ends_setEnd_self, hheld, Option.toList_none,
      Option.toList_some, Multiset.coe_singleton, Multiset.coe_nil, ← Multiset.cons_coe,
      ← Multiset.singleton_add]
    ac_rfl
  · refine places_congr ?_ ?_ ?_ ?_ ?_ ?_
    · rw [queued, queued, ends_setEnd_of_ne _ _ hne, hosts_setEnd, state_setState]
      show (t.ends l').pump.queued _ = _
      by_cases hrouted : (t.ends l').pump = .routed
      · split_ifs with hh
        · rw [hstate, if_neg fun hid => hne (hexclusive l l' hpump hrouted hh hid), hh]
        · rfl
      · exact Pump.queued_of_ne_routed hrouted ..
    all_goals first
      | rw [ends_setEnd_of_ne _ _ hne]; rfl
      | rw [hosts_setEnd, arrived_setState]

omit [DecidableEq H] in
/-- The pump of a channel without a route takes the packet at its head. -/
theorem Ledger.pumpRecvDetached (hledger : t.Ledger W) {l : L} {channel channel' : S}
    (hheld : (t.ends l).held = none) (hpump : (t.ends l).pump = .detached channel)
    {packet : OutboundPacket} {woken : Option Waker}
    (hrecv : PollSender.recv channel = some (packet, woken, channel')) :
    Ledger W (t.setEnd l { t.ends l with pump := .detached channel', held := some packet }) := by
  refine hledger.setEnd rfl ?_
  have hbefore : t.queued W l = packet :: contents channel' := by
    rw [queued, hpump, ← contents_recv hrecv]
    rfl
  show (contents channel' : Multiset OutboundPacket) + ([packet] : List OutboundPacket) +
    (t.ends l).inFlight + (t.ends l).lost + (t.ends l).dropped.map Prod.fst = _
  rw [hbefore, hheld, Option.toList_none, Multiset.coe_singleton, Multiset.coe_nil,
    ← Multiset.cons_coe, ← Multiset.singleton_add]
  ac_rfl

omit [PollSender S OutboundPacket] [PollSenderContents S] [EndpointKey E] [DecidableEq L] in
theorem detach_of_unattached {h : H} {gone : FixedBytes 16 → Prop} [DecidablePred gone] {l : L}
    (hpump : (t.ends l).pump = .unattached) : t.detach W h gone l = t.ends l := by
  rw [detach]
  split_ifs
  · rw [hpump]
    show { t.ends l with pump := .unattached } = t.ends l
    rw [← hpump]
  · rfl

/-- An end registers its route, in the place of the one that its session had. -/
theorem Ledger.attach (hledger : t.Ledger W) {l : L} (hpump : (t.ends l).pump = .unattached)
    (hopen : (t.hosts (W.host l)).state.closed = false) :
    Ledger W (DataPath.setEnd
      { t.setState (W.host l)
          ((t.hosts (W.host l)).state.registerOutboundSession (W.sessionId l)) with
        ends := t.detach W (W.host l) (· = W.sessionId l) }
      l { t.ends l with pump := .routed }) := by
  have hregistered := outboundQueue_registerOutboundSession (t.hosts (W.host l)).state
    (W.sessionId l)
  have hdetached : Ledger W { t.setState (W.host l)
      ((t.hosts (W.host l)).state.registerOutboundSession (W.sessionId l)) with
    ends := t.detach W (W.host l) (· = W.sessionId l) } := by
    refine hledger.detach (W.host l) (· = W.sessionId l) rfl (fun l' hl' => ?_)
      fun _ => arrived_setState ..
    show ((t.setState (W.host l) _).hosts (W.host l')).state.outboundQueue _ = _
    rw [state_setState]
    split_ifs with hh
    · rw [hregistered, if_neg fun hid => hl' ⟨hh, hid.2⟩, hh]
    · rfl
  have hend : t.detach W (W.host l) (· = W.sessionId l) l = t.ends l :=
    detach_of_unattached hpump
  refine hdetached.setEnd ?_ ?_
  · show _ = (t.detach W (W.host l) (· = W.sessionId l) l).accepted
    rw [hend]
  · rw [queued]
    show ((Pump.queued .routed (((t.setState (W.host l) _).hosts
      (W.host l)).state.outboundQueue (W.sessionId l)) : List OutboundPacket) :
        Multiset OutboundPacket) + _ + _ + _ + _ = _
    rw [state_setState, if_pos rfl, hregistered, if_pos ⟨hopen, rfl⟩]
    show _ = (Pump.queued (t.detach W (W.host l) (· = W.sessionId l) l).pump _ :
      Multiset OutboundPacket) + ((t.detach W (W.host l) (· = W.sessionId l) l).held.toList :
        List OutboundPacket) + (t.detach W (W.host l) (· = W.sessionId l) l).inFlight +
      (t.detach W (W.host l) (· = W.sessionId l) l).lost +
      (t.detach W (W.host l) (· = W.sessionId l) l).dropped.map Prod.fst
    rw [hend, hpump]
    rfl

omit [PollSender S OutboundPacket] [PollSenderContents S] [EndpointKey E] [DecidableEq L] in
/-- The hubs have the queues that they had. -/
theorem outboundQueue_setState [PollSender S OutboundPacket] [PollSenderContents S] {h h' : H}
    {state' : SessionState S} (hsame : (t.hosts h).state.SameQueues state')
    (sessionId : FixedBytes 16) :
    ((t.setState h state').hosts h').state.outboundQueue sessionId =
      (t.hosts h').state.outboundQueue sessionId := by
  rw [state_setState]
  split_ifs with hh
  · rw [hsame, hh]
  · rfl

/-- A hub changes, its queues do not. -/
theorem Ledger.setState (hledger : t.Ledger W) {h : H} {state' : SessionState S}
    (hsame : (t.hosts h).state.SameQueues state') : (t.setState h state').Ledger W := by
  refine hledger.congr (fun _ => rfl) fun l => places_congr (queued_congr rfl ?_) rfl rfl rfl rfl ?_
  · exact outboundQueue_setState hsame _
  · exact arrived_setState ..

/-- A transmit puts its packet into the queue of its session. -/
theorem Ledger.transmit (hledger : t.Ledger W) {h : H} {state' : SessionState S}
    {sessionId : FixedBytes 16} {packet : OutboundPacket} {dst : CustomAddr} {transmit : Transmit}
    (hpacket : sentPacket E (W.pointerWidth h) (W.maxPayloadLen h) dst transmit =
      some (sessionId, packet))
    (happends : (t.hosts h).state.Appends state' sessionId packet) :
    Ledger W { t.setState h state' with ends := t.accept W h sessionId (dst, transmit) } := by
  obtain ⟨queue, hqueue, hstate⟩ := happends
  intro l
  generalize hnew : { t.setState h state' with ends := t.accept W h sessionId (dst, transmit) } = t'
  have hend : t'.ends l = t.accept W h sessionId (dst, transmit) l := by rw [← hnew]
  have harrived : ∀ h', (t'.hosts h').arrived = (t.hosts h').arrived := by
    rw [← hnew]
    exact fun _ => arrived_setState ..
  have hhosts : ∀ id, (t'.hosts (W.host l)).state.outboundQueue id =
      if W.host l = h ∧ id = sessionId then some (queue ++ [packet])
      else (t.hosts (W.host l)).state.outboundQueue id := by
    intro id
    rw [← hnew]
    show ((t.setState h state').hosts (W.host l)).state.outboundQueue id = _
    rw [state_setState]
    by_cases hh : W.host l = h
    · simp only [hh, hstate, if_true, true_and]
    · rw [if_neg hh, if_neg fun hboth => hh hboth.1]
  by_cases haccepts : W.host l = h ∧ W.sessionId l = sessionId ∧ (t.ends l).pump.isRouted
  · -- the route is that of this end
    rw [accept, if_pos haccepts] at hend
    obtain ⟨rfl, rfl, hrouted⟩ := haccepts
    have hpump := Pump.isRouted_iff.mp hrouted
    have hbefore : t.queued W l = queue := by
      rw [queued, hpump, hqueue]
      rfl
    have hafter : t'.queued W l = t.queued W l ++ [packet] := by
      rw [hbefore, queued, hhosts, if_pos ⟨rfl, rfl⟩, hend]
      show (t.ends l).pump.queued _ = _
      rw [hpump]
      rfl
    have hheld : (t'.ends l).held = (t.ends l).held := by rw [hend]
    have hflight : (t'.ends l).inFlight = (t.ends l).inFlight := by rw [hend]
    have hlost : (t'.ends l).lost = (t.ends l).lost := by rw [hend]
    have hdropped : (t'.ends l).dropped = (t.ends l).dropped := by rw [hend]
    have hplaces : t'.places W l = packet ::ₘ t.places W l := by
      rw [places, places, received, received, harrived, hafter, hheld, hflight, hlost, hdropped,
        ← Multiset.coe_add, Multiset.coe_singleton, ← Multiset.singleton_add]
      ac_rfl
    rw [hplaces, Multiset.map_cons, hend, Multiset.map_cons, hledger l]
    exact congrArg (· ::ₘ _) hpacket
  · rw [accept, if_neg haccepts] at hend
    have hplaces : t'.places W l = t.places W l := by
      refine places_congr ?_ (by rw [hend]) (by rw [hend]) (by rw [hend]) (by rw [hend])
        (harrived _)
      rw [queued, queued, hend]
      by_cases hrouted : (t.ends l).pump = .routed
      · rw [hhosts, if_neg fun hh => haccepts ⟨hh.1, hh.2, Pump.isRouted_iff.mpr hrouted⟩]
      · exact Pump.queued_of_ne_routed hrouted ..
    rw [hplaces, ← hledger l, hend]

end Channel

end DataPath

end IrohWebRtc
