import IrohWebRtc.Core.Outbound
import IrohWebRtc.Core.Signaling
import IrohWebRtc.Lib.Runs

/-!
# From a transmit to the queue of its session

`core/sender.rs` over `core/hub.rs`: what a transmit does to the outbound queues.  Parsing the
address, the size checks, the reservation, the encoding and the send each fail on their own, and
the route is looked up with the session id that is read back from the encoded bytes.

That a transmit goes to the session of its address is therefore a fact about the codec, not about
the lookup: the bytes that are encoded begin with a header, and the session id in it is the one of
the address.

What a channel holds is `PollSenderContents.contents`: tokio's bounded channel is a queue.  Its
receiver is taken by a pump, which may outlive the route, and a route may be registered again
under the same session; so each channel is followed for itself, from the registration that made it
to the last packet that left it.

* `pollPushOutbound_queues`, `pollSend_queues`: a push or a transmit that returns `Ready(Ok)`
  appends one packet to one queue, and any other leaves every queue as it is.
* `OutboundTrace.Accounted.step`: what left a channel is a prefix of what was accepted for it,
  over registrations, receivers that outlive their route, and the close of the hub.
* `pollSend_routes`: both together.
-/

namespace IrohWebRtc

open Bytes

/-- What a channel holds, in the order in which its receiver takes it. -/
class PollSenderContents (S : Type*) {Item : outParam Type*} [PollSender S Item] where
  contents : S → List Item
  contents_channel : ∀ capacity : ℕ, contents (PollSender.channel capacity) = []
  /-- A reservation takes capacity, not an item. -/
  contents_pollReserve : ∀ (s : S) (cx : Waker),
    contents (PollSender.pollReserve s cx).2 = contents s
  contents_sendItem_ok : ∀ {s s' : S} {item : Item}, PollSender.sendItem s item = (.ok (), s') →
    contents s' = contents s ++ [item]
  /-- A refused item goes back to the caller. -/
  contents_sendItem_error : ∀ {s s' : S} {item : Item},
    PollSender.sendItem s item = (.error (), s') → contents s' = contents s
  contents_recv : ∀ {s s' : S} {item : Item} {woken : Option Waker},
    PollSender.recv s = some (item, woken, s') → contents s = item :: contents s'

open PollSenderContents

namespace SessionState

variable {S : Type*} [PollSender S OutboundPacket] [PollSenderContents S]

/-- The packets that wait in the route of a session.  `none` when there is no route. -/
def outboundQueue (state : SessionState S) (sessionId : FixedBytes 16) :
    Option (List OutboundPacket) :=
  (state.outbound.lookup sessionId).map fun route => contents route.sender

/-- Every session has the queue it had, and the routes are those there were. -/
def SameQueues (state state' : SessionState S) : Prop :=
  ∀ sessionId, state'.outboundQueue sessionId = state.outboundQueue sessionId

/-- One packet was appended to the queue of one session. -/
def Appends (state state' : SessionState S) (sessionId : FixedBytes 16) (packet : OutboundPacket) :
    Prop :=
  ∃ queue, state.outboundQueue sessionId = some queue ∧
    ∀ id, state'.outboundQueue id =
      if id = sessionId then some (queue ++ [packet]) else state.outboundQueue id

theorem outboundQueue_eq_some {state : SessionState S} {sessionId : FixedBytes 16}
    {queue : List OutboundPacket} :
    state.outboundQueue sessionId = some queue ↔
      ∃ route, state.outbound.lookup sessionId = some route ∧ contents route.sender = queue :=
  Option.map_eq_some_iff

theorem outboundQueue_insert (state : SessionState S) (sessionId id : FixedBytes 16)
    (route : OutboundRoute S) :
    ({ state with outbound := state.outbound.insert sessionId route }).outboundQueue id =
      if id = sessionId then some (contents route.sender) else state.outboundQueue id := by
  rw [outboundQueue, outboundQueue, Table.lookup_insert_eq]
  split_ifs
  · rfl
  · rfl

/-- A route that keeps what it holds changes no queue. -/
theorem sameQueues_insert {state : SessionState S} {sessionId : FixedBytes 16}
    {route route' : OutboundRoute S} (hroute : state.outbound.lookup sessionId = some route)
    (hcontents : contents route'.sender = contents route.sender) :
    state.SameQueues { state with outbound := state.outbound.insert sessionId route' } := by
  intro id
  rw [outboundQueue_insert]
  split_ifs with hid
  · rw [hid, hcontents, outboundQueue, hroute]
    rfl
  · rfl

/-- A push appends its packet to the queue of the session in its bytes, or it changes no queue. -/
theorem pollPushOutbound_queues {state state' : SessionState S} {cx : Waker}
    {packet : OutboundPacket} {r : Poll (Except Error Unit)}
    (h : state.pollPushOutbound cx packet = (r, state')) :
    (r = .ready (.ok ()) ∧ ∃ sessionId,
        WebRtcPacketFrame.sessionIdOf packet.bytes = .ok sessionId ∧
          state.Appends state' sessionId packet) ∨
      r ≠ .ready (.ok ()) ∧ state.SameQueues state' := by
  rcases pollPushOutbound_steps h with ⟨err, rfl, rfl, -⟩ |
    ⟨sessionId, route, reserve, sender, hid, -, hroute, hreserve, hcases⟩
  · exact Or.inr ⟨nofun, fun _ => rfl⟩
  have hreserved := contents_pollReserve route.sender cx
  rw [hreserve] at hreserved
  rcases hcases with ⟨-, rfl, rfl⟩ | ⟨-, rfl, rfl⟩ | ⟨-, sent, sender', hsend, rfl, hresult⟩
  · exact Or.inr ⟨nofun, sameQueues_insert hroute hreserved⟩
  · -- the channel is closed
    exact Or.inr ⟨nofun, sameQueues_insert hroute hreserved⟩
  · rcases hresult with ⟨rfl, rfl⟩ | ⟨rfl, rfl⟩
    · have hrefused := contents_sendItem_error hsend
      exact Or.inr ⟨nofun, sameQueues_insert hroute (hrefused.trans hreserved)⟩
    · refine Or.inl ⟨rfl, sessionId, hid, contents route.sender, ?_, fun id => ?_⟩
      · rw [outboundQueue, hroute]
        rfl
      · rw [outboundQueue_insert, contents_sendItem_ok hsend, hreserved]

/-! ## A transmit -/

/-- The packet of a transmit and the session of its destination, when the address is that of a
session and the frame encodes. -/
def sentPacket (E : Type*) [EndpointKey E] (pw : PointerWidth) (maxPayloadLen : ℕ)
    (dst : CustomAddr) (transmit : Transmit) : Option (FixedBytes 16 × OutboundPacket) :=
  match sessionIdFromDestination E dst with
  | none => none
  | some sessionId =>
    match WebRtcPacketFrame.encode pw ⟨0, sessionId, transmit.segmentSize, transmit.contents⟩
      maxPayloadLen with
    | some (.ok bytes) => some (sessionId, ⟨dst, bytes⟩)
    | _ => none

variable {E : Type*} [EndpointKey E]

/-- The bytes of the packet of a transmit decode to the frame of the transmit. -/
theorem decode_sentPacket {pw : PointerWidth} {maxPayloadLen : ℕ} {dst : CustomAddr}
    {transmit : Transmit} {sessionId : FixedBytes 16} {packet : OutboundPacket}
    (h : sentPacket E pw maxPayloadLen dst transmit = some (sessionId, packet)) :
    sessionIdFromDestination E dst = some sessionId ∧ packet.destination = dst ∧
      WebRtcPacketFrame.decode pw packet.bytes maxPayloadLen =
        .ok (WebRtcPacketFrame.normalized
          ⟨0, sessionId, transmit.segmentSize, transmit.contents⟩) := by
  unfold sentPacket at h
  split at h
  · cases h
  rename_i id hdst
  split at h
  · rename_i bytes hencode
    obtain ⟨rfl, rfl⟩ := Prod.mk.inj (Option.some.inj h)
    refine ⟨hdst, rfl, ?_⟩
    obtain ⟨hne, hmax, hu32, h0, hfit, -⟩ := WebRtcPacketFrame.encode_eq_ok.mp hencode
    obtain ⟨bs, hbs, hdecode⟩ :=
      (WebRtcPacketFrame.decode_encode_exact pw maxPayloadLen).1 _ hne hmax hu32 hfit h0
    obtain rfl := Except.ok.inj (Option.some.inj (hbs.symm.trans hencode))
    exact hdecode
  · cases h

/-- A transmit appends its packet to the queue of the session of its destination, or it changes no
queue. -/
theorem pollSend_queues {pw : PointerWidth} {maxPayloadLen : ℕ} {state state' : SessionState S}
    {cx : Waker} {dst : CustomAddr} {transmit : Transmit} {r : Poll (Except IoError Unit)}
    (h : pollSend E pw maxPayloadLen state cx dst transmit = some (r, state')) :
    (r = .ready (.ok ()) ∧ ∃ sessionId packet,
        sentPacket E pw maxPayloadLen dst transmit = some (sessionId, packet) ∧
          state.Appends state' sessionId packet) ∨
      r ≠ .ready (.ok ()) ∧ state.SameQueues state' := by
  unfold pollSend at h
  split at h
  · obtain ⟨rfl, rfl⟩ := Prod.mk.inj (Option.some.inj h)
    exact Or.inr ⟨by simp, fun _ => rfl⟩
  · obtain ⟨rfl, rfl⟩ := Prod.mk.inj (Option.some.inj h)
    exact Or.inr ⟨by simp, fun _ => rfl⟩
  rename_i endpointId sessionId haddr
  have hdst : sessionIdFromDestination E dst = some sessionId := by
    simp only [sessionIdFromDestination, haddr]
  split at h
  · cases h
  · obtain ⟨rfl, rfl⟩ := Prod.mk.inj (Option.some.inj h)
    exact Or.inr ⟨by simp, fun _ => rfl⟩
  rename_i bytes hencode
  have hpacket : sentPacket E pw maxPayloadLen dst transmit = some (sessionId, ⟨dst, bytes⟩) := by
    simp only [sentPacket, hdst, hencode]
  have hid := WebRtcPacketFrame.sessionIdOf_encode hencode
  split at h <;> rename_i hpush <;> obtain ⟨rfl, rfl⟩ := Prod.mk.inj (Option.some.inj h)
  · -- the push waits
    rcases pollPushOutbound_queues hpush with ⟨habs, -⟩ | ⟨-, hsame⟩
    · cases habs
    · exact Or.inr ⟨by simp, hsame⟩
  · rcases pollPushOutbound_queues hpush with ⟨-, sessionId', hid', happends⟩ | ⟨hne, -⟩
    · -- the route is looked up with the id that the bytes carry
      obtain rfl := Except.ok.inj (hid.symm.trans hid')
      exact Or.inl ⟨rfl, _, _, hpacket, happends⟩
    · exact absurd rfl hne
  · rcases pollPushOutbound_queues hpush with ⟨habs, -⟩ | ⟨-, hsame⟩
    · cases habs
    · exact Or.inr ⟨by simp, hsame⟩

/-! ## The other operations -/

/-- A registration gives the session an empty queue, in the place of the one it had. -/
theorem outboundQueue_registerOutboundSession (state : SessionState S)
    (sessionId id : FixedBytes 16) :
    (state.registerOutboundSession sessionId).outboundQueue id =
      if state.closed = false ∧ id = sessionId then some [] else state.outboundQueue id := by
  rw [registerOutboundSession]
  split_ifs with hclosed h h
  · rw [hclosed] at h
    cases h.1
  · rfl
  · rw [outboundQueue_insert, if_pos h.2, contents_channel]
  · have hid : id ≠ sessionId := fun hid => h ⟨Bool.eq_false_iff.mpr hclosed, hid⟩
    rw [outboundQueue_insert, if_neg hid]

theorem outboundQueue_unregisterOutboundSession (state : SessionState S)
    (sessionId id : FixedBytes 16) :
    (state.unregisterOutboundSession sessionId).1.outboundQueue id =
      if id = sessionId then none else state.outboundQueue id := by
  rw [unregisterOutboundSession]
  cases hroute : state.outbound.lookup sessionId with
  | none =>
    split_ifs with hid
    · rw [hid, outboundQueue, hroute]
      rfl
    · rfl
  | some route =>
    rw [outboundQueue]
    split_ifs with hid
    · rw [hid, AList.lookup_erase]
      rfl
    · rw [AList.lookup_erase_ne hid]
      rfl

/-- The receiver takes the packet at the head of its queue. -/
theorem outboundQueue_recvOutbound {state state' : SessionState S} {sessionId : FixedBytes 16}
    {packet : OutboundPacket} {woken : Option Waker}
    (h : state.recvOutbound sessionId = some (packet, state', woken)) :
    ∃ queue, state.outboundQueue sessionId = some (packet :: queue) ∧
      ∀ id, state'.outboundQueue id =
        if id = sessionId then some queue else state.outboundQueue id := by
  unfold recvOutbound at h
  split at h
  · cases h
  rename_i route hroute
  split at h
  · cases h
  rename_i packet' woken' sender hrecv
  obtain ⟨rfl, rfl, rfl⟩ : packet' = packet ∧ _ = state' ∧ woken' = woken := by
    simpa using h
  refine ⟨contents sender, ?_, fun id => outboundQueue_insert _ _ _ _⟩
  rw [outboundQueue, hroute]
  exact congrArg some (contents_recv hrecv)

end SessionState

/-! ## Runs -/

/-- What was accepted for one route, what its receiver has taken, and whether the receiver is still
there. -/
structure RouteLog where
  accepted : List OutboundPacket
  left : List OutboundPacket
  hasReceiver : Bool
  deriving DecidableEq

namespace RouteLog

def new : RouteLog where
  accepted := []
  left := []
  hasReceiver := true

/-- What has left is a prefix of what was accepted; while the receiver is there, the rest is what
the channel holds. -/
def Accounts (log : RouteLog) (queue : List OutboundPacket) : Prop :=
  log.left <+: log.accepted ∧ (log.hasReceiver = true → log.accepted = log.left ++ queue)

theorem accounts_new : new.Accounts [] := ⟨List.prefix_rfl, fun _ => rfl⟩

theorem Accounts.accept {log : RouteLog} {queue : List OutboundPacket} (h : log.Accounts queue)
    (packet : OutboundPacket) :
    ({ log with accepted := log.accepted ++ [packet] }).Accounts (queue ++ [packet]) := by
  refine ⟨h.1.trans (List.prefix_append _ _), fun hreceiver => ?_⟩
  rw [h.2 hreceiver, List.append_assoc]

theorem Accounts.leave {log : RouteLog} {packet : OutboundPacket} {queue : List OutboundPacket}
    (h : log.Accounts (packet :: queue)) (hreceiver : log.hasReceiver = true) :
    ({ log with left := log.left ++ [packet] }).Accounts queue := by
  have haccepted : log.accepted = log.left ++ [packet] ++ queue := by
    rw [h.2 hreceiver, List.append_assoc]
    rfl
  exact ⟨⟨queue, haccepted.symm⟩, fun _ => haccepted⟩

theorem Accounts.dropReceiver {log : RouteLog} {queue : List OutboundPacket}
    (h : log.Accounts queue) (queue' : List OutboundPacket) :
    ({ log with hasReceiver := false }).Accounts queue' :=
  ⟨h.1, nofun⟩

end RouteLog

/-- What happens to the outbound half of a hub.  A receiver outlives its route when the route is
removed or replaced; `recvRetired i` is the receiver of the `i`th such route. -/
inductive OutboundQueueOp where
  | pollSend (cx : Waker) (dst : CustomAddr) (transmit : Transmit)
  | register (sessionId : FixedBytes 16)
  | unregister (sessionId : FixedBytes 16)
  | close
  | recv (sessionId : FixedBytes 16)
  | dropReceiver (sessionId : FixedBytes 16)
  | recvRetired (i : ℕ)

/-- A hub with the log of each of its routes, and the channels that lost their route. -/
structure OutboundTrace (S : Type*) where
  state : SessionState S
  logs : FixedBytes 16 → RouteLog
  retired : List (S × RouteLog)

namespace OutboundTrace

open SessionState RouteLog

variable {S : Type*}

def new (recvCapacity outboundCapacity : ℕ) : OutboundTrace S where
  state := .withCapacities recvCapacity outboundCapacity
  logs := fun _ => .new
  retired := []

/-- The channel of a session, when it loses its route. -/
def retire (t : OutboundTrace S) (sessionId : FixedBytes 16) : List (S × RouteLog) :=
  match t.state.outbound.lookup sessionId with
  | none => t.retired
  | some route => t.retired ++ [(route.sender, t.logs sessionId)]

section Channel

variable [PollSender S OutboundPacket]

/-- One operation.  `none` when it panics or there is nothing for it to do. -/
def step (E : Type*) [EndpointKey E] (pw : PointerWidth) (maxPayloadLen : ℕ)
    (t : OutboundTrace S) : OutboundQueueOp → Option (OutboundTrace S)
  | .pollSend cx dst transmit =>
    match SessionState.sentPacket E pw maxPayloadLen dst transmit,
      IrohWebRtc.pollSend E pw maxPayloadLen t.state cx dst transmit with
    | _, none => none
    | some (sessionId, packet), some (.ready (.ok ()), state) =>
      some { t with
        state := state
        logs := Function.update t.logs sessionId
          { t.logs sessionId with accepted := (t.logs sessionId).accepted ++ [packet] } }
    | _, some (_, state) => some { t with state := state }
  | .register sessionId =>
    if t.state.closed then some t
    else
      some {
        state := t.state.registerOutboundSession sessionId
        logs := Function.update t.logs sessionId .new
        retired := t.retire sessionId }
  | .unregister sessionId =>
    some { t with
      state := (t.state.unregisterOutboundSession sessionId).1
      retired := t.retire sessionId }
  | .close =>
    some { t with
      state := t.state.close.1
      retired := t.retired ++
        t.state.outbound.entries.map fun entry => (entry.2.sender, t.logs entry.1) }
  | .recv sessionId =>
    if (t.logs sessionId).hasReceiver then
      (t.state.recvOutbound sessionId).map fun (packet, state, _) =>
        { t with
          state := state
          logs := Function.update t.logs sessionId
            { t.logs sessionId with left := (t.logs sessionId).left ++ [packet] } }
    else none
  | .dropReceiver sessionId =>
    some { t with
      state := (t.state.dropOutboundReceiver sessionId).1
      logs := Function.update t.logs sessionId { t.logs sessionId with hasReceiver := false } }
  | .recvRetired i =>
    match t.retired[i]? with
    | none => none
    | some (sender, log) =>
      if log.hasReceiver then
        (PollSender.recv sender).map fun (packet, _, sender) =>
          { t with retired := t.retired.set i (sender, { log with left := log.left ++ [packet] }) }
      else none

variable [PollSenderContents S]

/-- The logs account for every channel, with a route or without. -/
structure Accounted (t : OutboundTrace S) : Prop where
  routes : ∀ sessionId queue, t.state.outboundQueue sessionId = some queue →
    (t.logs sessionId).Accounts queue
  retired : ∀ entry ∈ t.retired, entry.2.Accounts (contents entry.1)

theorem accounted_new (recvCapacity outboundCapacity : ℕ) :
    (new recvCapacity outboundCapacity : OutboundTrace S).Accounted :=
  ⟨fun sessionId queue h => absurd h (by simp [new, withCapacities, outboundQueue]), nofun⟩

/-- A channel that loses its route keeps its log. -/
theorem Accounted.retire {t : OutboundTrace S} (h : t.Accounted) (sessionId : FixedBytes 16) :
    ∀ entry ∈ t.retire sessionId, entry.2.Accounts (contents entry.1) := by
  intro entry hmem
  unfold OutboundTrace.retire at hmem
  split at hmem
  · exact h.retired entry hmem
  · rename_i route hroute
    rcases List.mem_append.mp hmem with hmem | hmem
    · exact h.retired entry hmem
    · obtain rfl := List.mem_singleton.mp hmem
      exact h.routes sessionId _ (outboundQueue_eq_some.mpr ⟨route, hroute, rfl⟩)

/-- A new log for one session, whose queue it accounts for. -/
theorem accounts_update {t : OutboundTrace S} (h : t.Accounted) {state' : SessionState S}
    {sessionId : FixedBytes 16} {log : RouteLog} {new : Option (List OutboundPacket)}
    (hstate : ∀ id, state'.outboundQueue id =
      if id = sessionId then new else t.state.outboundQueue id)
    (hlog : ∀ queue, new = some queue → log.Accounts queue) :
    ∀ id queue, state'.outboundQueue id = some queue →
      (Function.update t.logs sessionId log id).Accounts queue := by
  intro id queue hqueue
  rw [hstate] at hqueue
  by_cases hid : id = sessionId
  · rw [if_pos hid] at hqueue
    rw [hid, Function.update_self]
    exact hlog queue hqueue
  · rw [if_neg hid] at hqueue
    rw [Function.update_of_ne hid]
    exact h.routes id queue hqueue

variable {E : Type*} [EndpointKey E] {pw : PointerWidth} {maxPayloadLen : ℕ}

theorem Accounted.step {t t' : OutboundTrace S} (h : t.Accounted) {op : OutboundQueueOp}
    (hstep : step E pw maxPayloadLen t op = some t') : t'.Accounted := by
  cases op with
  | pollSend cx dst transmit =>
    simp only [OutboundTrace.step] at hstep
    split at hstep
    · cases hstep
    · rename_i sessionId packet state hpacket hsend
      obtain rfl := Option.some.inj hstep
      rcases pollSend_queues hsend with ⟨-, id, packet', hpacket', queue, hqueue, hstate⟩ | ⟨hne, -⟩
      · obtain ⟨rfl, rfl⟩ := Prod.mk.inj (Option.some.inj (hpacket.symm.trans hpacket'))
        refine ⟨accounts_update h hstate fun queue' hqueue' => ?_, h.retired⟩
        obtain rfl := Option.some.inj hqueue'
        exact (h.routes sessionId queue hqueue).accept packet
      · exact absurd rfl hne
    · rename_i r state hsend hnot
      obtain rfl := Option.some.inj hstep
      rcases pollSend_queues hsend with ⟨rfl, id, packet, hpacket, -⟩ | ⟨-, hsame⟩
      · exact (hnot id packet hpacket rfl).elim
      · refine ⟨fun id queue hqueue => h.routes id queue ?_, h.retired⟩
        rw [← hsame id]
        exact hqueue
  | register sessionId =>
    simp only [OutboundTrace.step] at hstep
    split_ifs at hstep with hclosed
    · obtain rfl := Option.some.inj hstep
      exact h
    · obtain rfl := Option.some.inj hstep
      have hstate : ∀ id, (t.state.registerOutboundSession sessionId).outboundQueue id =
          if id = sessionId then some [] else t.state.outboundQueue id := by
        intro id
        rw [outboundQueue_registerOutboundSession]
        simp only [Bool.eq_false_iff.mpr hclosed, true_and]
      refine ⟨accounts_update h hstate fun queue hqueue => ?_, h.retire sessionId⟩
      obtain rfl := Option.some.inj hqueue
      exact accounts_new
  | unregister sessionId =>
    obtain rfl := Option.some.inj hstep
    refine ⟨fun id queue hqueue => ?_, h.retire sessionId⟩
    simp only [outboundQueue_unregisterOutboundSession] at hqueue
    split_ifs at hqueue
    exact h.routes id queue hqueue
  | close =>
    obtain rfl := Option.some.inj hstep
    refine ⟨fun id queue hqueue => absurd hqueue ?_, fun entry hmem => ?_⟩
    · simp [SessionState.close, outboundQueue]
    · rcases List.mem_append.mp hmem with hmem | hmem
      · exact h.retired entry hmem
      · obtain ⟨⟨id, route⟩, hentry, rfl⟩ := List.mem_map.mp hmem
        have hroute := AList.mem_lookup_iff.mpr hentry
        exact h.routes id _ (outboundQueue_eq_some.mpr ⟨route, hroute, rfl⟩)
  | recv sessionId =>
    simp only [OutboundTrace.step] at hstep
    split_ifs at hstep with hreceiver
    obtain ⟨⟨packet, state, woken⟩, hrecv, rfl⟩ := Option.map_eq_some_iff.mp hstep
    obtain ⟨queue, hqueue, hstate⟩ := outboundQueue_recvOutbound hrecv
    refine ⟨accounts_update h hstate fun queue' hqueue' => ?_, h.retired⟩
    obtain rfl := Option.some.inj hqueue'
    exact (h.routes sessionId _ hqueue).leave hreceiver
  | dropReceiver sessionId =>
    obtain rfl := Option.some.inj hstep
    simp only [dropOutboundReceiver]
    cases hroute : t.state.outbound.lookup sessionId with
    | none =>
      refine ⟨fun id queue hqueue => ?_, h.retired⟩
      by_cases hid : id = sessionId
      · rw [hid, outboundQueue, hroute] at hqueue
        cases hqueue
      · simp only [Function.update_of_ne hid]
        exact h.routes id queue hqueue
    | some route =>
      refine ⟨accounts_update h (fun id => outboundQueue_insert _ _ _ _) fun queue _ => ?_,
        h.retired⟩
      exact (h.routes sessionId _ (outboundQueue_eq_some.mpr ⟨route, hroute, rfl⟩)).dropReceiver
        queue
  | recvRetired i =>
    simp only [OutboundTrace.step] at hstep
    split at hstep
    · cases hstep
    rename_i sender log hentry
    split_ifs at hstep with hreceiver
    obtain ⟨⟨packet, woken, sender'⟩, hrecv, rfl⟩ := Option.map_eq_some_iff.mp hstep
    refine ⟨h.routes, fun entry hmem => ?_⟩
    rcases List.mem_or_eq_of_mem_set hmem with hmem | rfl
    · exact h.retired entry hmem
    · have haccounts := h.retired (sender, log) (List.mem_of_getElem? hentry)
      simp only [contents_recv hrecv] at haccounts
      exact haccounts.leave hreceiver

end Channel

end OutboundTrace

/-! ## The law -/

/-- **From a transmit to the queue of its session.**  For any contents and segment size, any
destination and any state of the hub: a transmit that returns `Ready(Ok)` appends one packet, to the
queue of the route registered for the session of the destination, and its bytes decode to the
contents and the normalised segment size with that session id; any other result leaves every queue
and the set of routes as they were.  In any run, the packets that left a route are a prefix of the
packets accepted for it. -/
theorem pollSend_routes {S : Type*} [PollSender S OutboundPacket] [PollSenderContents S]
    (E : Type*) [EndpointKey E] (pw : PointerWidth) (maxPayloadLen : ℕ) :
    (∀ (state : SessionState S) (cx : Waker) (dst : CustomAddr) (transmit : Transmit)
        (r : Poll (Except IoError Unit)) (state' : SessionState S),
      pollSend E pw maxPayloadLen state cx dst transmit = some (r, state') →
        (r = .ready (.ok ()) → ∃ sessionId bytes,
          sessionIdFromDestination E dst = some sessionId ∧
          state.Appends state' sessionId ⟨dst, bytes⟩ ∧
          WebRtcPacketFrame.decode pw bytes maxPayloadLen =
            .ok (WebRtcPacketFrame.normalized
              ⟨0, sessionId, transmit.segmentSize, transmit.contents⟩)) ∧
        (r ≠ .ready (.ok ()) → state.SameQueues state')) ∧
    (∀ (recvCapacity outboundCapacity : ℕ) (ops : List OutboundQueueOp) (t : OutboundTrace S),
      Runs.run (OutboundTrace.step E pw maxPayloadLen) (.new recvCapacity outboundCapacity) ops =
          some t →
        (∀ sessionId queue, t.state.outboundQueue sessionId = some queue →
          (t.logs sessionId).left <+: (t.logs sessionId).accepted) ∧
        ∀ entry ∈ t.retired, entry.2.left <+: entry.2.accepted) := by
  constructor
  · intro state cx dst transmit r state' hsend
    rcases SessionState.pollSend_queues hsend with
      ⟨rfl, sessionId, ⟨_, bytes⟩, hpacket, happends⟩ | ⟨hne, hsame⟩
    · obtain ⟨hdst, rfl, hdecode⟩ := SessionState.decode_sentPacket hpacket
      exact ⟨fun _ => ⟨sessionId, bytes, hdst, happends, hdecode⟩, fun hne => absurd rfl hne⟩
    · exact ⟨fun hok => absurd hok hne, fun _ => hsame⟩
  · intro recvCapacity outboundCapacity ops t hrun
    have haccounted := Runs.run_invariant (fun _ _ _ h hstep => h.step hstep)
      (OutboundTrace.accounted_new recvCapacity outboundCapacity) hrun
    exact ⟨fun sessionId queue hqueue => (haccounted.routes sessionId queue hqueue).1,
      fun entry hmem => (haccounted.retired entry hmem).1⟩

/-! ## A channel -/

instance : PollSenderContents BoundedChannel where
  contents := BoundedChannel.queue
  contents_channel := fun _ => rfl
  contents_pollReserve := by
    intro s cx
    show (s.pollReserve cx).2.queue = s.queue
    unfold BoundedChannel.pollReserve
    split
    · rfl
    · rfl
    · rfl
    · rfl
    · split_ifs
      · rfl
      · rfl
  contents_sendItem_ok := by
    intro s s' item hsend
    have hsent : s.sendItem item = (.ok (), s') := hsend
    unfold BoundedChannel.sendItem at hsent
    split at hsent
    · obtain rfl := (Prod.mk.inj hsent).2
      rfl
    · cases (Prod.mk.inj hsent).1
  contents_sendItem_error := by
    intro s s' item hsend
    have hsent : s.sendItem item = (.error (), s') := hsend
    unfold BoundedChannel.sendItem at hsent
    split at hsent
    · cases (Prod.mk.inj hsent).1
    · obtain rfl := (Prod.mk.inj hsent).2
      rfl
  contents_recv := by
    intro s s' item woken hrecv
    have htaken : s.recv = some (item, woken, s') := hrecv
    show s.queue = item :: s'.queue
    unfold BoundedChannel.recv at htaken
    split at htaken
    · cases htaken
    · rename_i hqueue hreservation
      obtain ⟨rfl, -, rfl⟩ := by simpa using htaken
      exact hqueue
    · rename_i hqueue hidle
      obtain ⟨rfl, -, rfl⟩ := by simpa using htaken
      exact hqueue

section Sample

open scoped Sample
open Sample

/-- A hub with a route for the session of the frame `hello`. -/
def helloHub : SessionState BoundedChannel :=
  (SessionState.withCapacities 1 1).registerOutboundSession
    WebRtcPacketFrame.helloFrame.sessionId

/-- The address of the session of `hello` at a peer. -/
def helloAddr : CustomAddr :=
  (WebRtcAddr.session alice WebRtcPacketFrame.helloFrame.sessionId).toCustomAddr

def helloTransmit : Transmit :=
  ⟨WebRtcPacketFrame.helloFrame.payload, some 9⟩

/-- One registration, one transmit, and the receiver takes the packet after its route is gone. -/
def helloRun : List OutboundQueueOp :=
  [.register WebRtcPacketFrame.helloFrame.sessionId, .pollSend 0 helloAddr helloTransmit,
    .unregister WebRtcPacketFrame.helloFrame.sessionId, .recvRetired 0]

theorem pollSend_routes_sample :
    (∃ state', pollSend Key .w32 defaultMaxPayloadLen helloHub 0 helloAddr helloTransmit =
        some (.ready (.ok ()), state') ∧ ∃ sessionId bytes,
          sessionIdFromDestination Key helloAddr = some sessionId ∧
          helloHub.Appends state' sessionId ⟨helloAddr, bytes⟩ ∧
          WebRtcPacketFrame.decode .w32 bytes defaultMaxPayloadLen =
            .ok (WebRtcPacketFrame.normalized
              ⟨0, sessionId, helloTransmit.segmentSize, helloTransmit.contents⟩)) ∧
    ∃ t, Runs.run (OutboundTrace.step Key .w32 defaultMaxPayloadLen)
        (.new 1 1 : OutboundTrace BoundedChannel) helloRun = some t ∧
      ∀ entry ∈ t.retired, entry.2.left <+: entry.2.accepted := by
  obtain ⟨hsend, hruns⟩ := pollSend_routes (S := BoundedChannel) Key .w32 defaultMaxPayloadLen
  exact ⟨⟨_, rfl, (hsend helloHub 0 helloAddr helloTransmit _ _ rfl).1 rfl⟩,
    ⟨_, rfl, (hruns 1 1 helloRun _ rfl).2⟩⟩

end Sample

end IrohWebRtc
