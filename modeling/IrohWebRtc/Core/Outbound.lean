import IrohWebRtc.Core.Hub
import IrohWebRtc.Lib.Table

/-!
# The outbound half of the session hub

`core/hub.rs` and `core/sender.rs`: packets of one session leave through a bounded channel.  The hub
keeps the sending end in a route, together with the waker of a task that found the channel full; the
receiving end goes to the pump of the data channel that registered the route.

The channel is tokio's, behind a `PollSender`.  What the hub uses of it are the operations of the
class `PollSender`, and what it relies on is collected in `LawfulPollSender`: the sender keeps the
waker it was polled with last, and an item that is taken out, or a receiver that is dropped, wakes
that waker.

## Main results

* `pollPushOutbound_eq`: a push is a reservation followed by a send.
* `pollPushOutbound_steps`: what it does, with the answers of its channel.
* `pollPushOutbound_cases`: a push is refused, it waits with its waker in the route, or it is done.
* `pollPushOutbound_of_waker`: a push waits when another reservation of its route does.
* `pollSend_cases`: a transmit is refused, or it is a push of the frame for the session of its
  destination.
* `addrCodec_exact`: which addresses are decoded, and which ones a transmit can go to.
-/

namespace IrohWebRtc

open Bytes

/-- Tokio's bounded channel and the `PollSender` at its sending end. -/
class PollSender (S : Type*) (Item : outParam Type*) where
  /-- `mpsc::channel(capacity)` and `PollSender::new`. -/
  channel : ℕ → S
  pollReserve : S → Waker → Poll (Except Unit Unit) × S
  sendItem : S → Item → Except Unit Unit × S
  /-- The receiver takes an item, which frees capacity and wakes a sender that waits for it.
  `none` when there is no item. -/
  recv : S → Option (Item × Option Waker × S)
  /-- The receiver is dropped, which wakes a sender that waits. -/
  dropReceiver : S → Option Waker × S
  /-- The waker of the reservation under way. -/
  waker : S → Option Waker

/-- What the hub relies on. -/
class LawfulPollSender (S : Type*) {Item : outParam Type*} [PollSender S Item] : Prop where
  /-- A reservation that waits is granted by a wake only. -/
  pollReserve_of_waker : ∀ {s : S} {w : Waker} (cx : Waker), PollSender.waker s = some w →
    (PollSender.pollReserve s cx).1 = .pending
  /-- The sender keeps the waker it was polled with last. -/
  waker_of_pending : ∀ {s s' : S} {cx : Waker}, PollSender.pollReserve s cx = (.pending, s') →
    PollSender.waker s' = some cx
  woken_of_recv : ∀ {s s' : S} {item : Item} {woken : Option Waker},
    PollSender.recv s = some (item, woken, s') → woken = PollSender.waker s
  woken_of_dropReceiver : ∀ s : S, (PollSender.dropReceiver s).1 = PollSender.waker s

/-- A frame on its way out. -/
structure OutboundPacket where
  destination : CustomAddr
  bytes : List UInt8
  deriving DecidableEq

/-- The sending end of a session's channel. -/
structure OutboundRoute (S : Type*) where
  sender : S
  pendingWaker : Option Waker

/-- The state of a hub, with both halves. -/
structure SessionState (S : Type*) extends SessionHub where
  outbound : Table (FixedBytes 16) (OutboundRoute S)
  outboundCapacity : ℕ

/-- `session_id_from_destination`. -/
def sessionIdFromDestination (E : Type*) [EndpointKey E] (destination : CustomAddr) :
    Option (FixedBytes 16) :=
  match WebRtcAddr.fromCustomAddr (E := E) destination with
  | .ok ⟨_, .session sessionId⟩ => some sessionId
  | _ => none

namespace SessionState

variable {S : Type*}

/-- `SessionHub::with_capacities`. -/
def withCapacities (recvCapacity outboundCapacity : ℕ) : SessionState S where
  toSessionHub := .new recvCapacity
  outbound := ∅
  outboundCapacity := outboundCapacity

/-- Removes the route of a session.  The second component says whether there was one, the third is
the waker that was woken. -/
def unregisterOutboundSession (state : SessionState S) (sessionId : FixedBytes 16) :
    SessionState S × Bool × Option Waker :=
  match state.outbound.lookup sessionId with
  | none => (state, false, none)
  | some route =>
    ({ state with outbound := state.outbound.erase sessionId }, true, route.pendingWaker)

/-- `unregister_outbound_for`: the same for the session of an address. -/
def unregisterOutboundFor (E : Type*) [EndpointKey E] (state : SessionState S)
    (destination : CustomAddr) : SessionState S × Bool × Option Waker :=
  match sessionIdFromDestination E destination with
  | none => (state, false, none)
  | some sessionId => state.unregisterOutboundSession sessionId

/-- Closes the hub.  The second component lists the wakers that were woken. -/
def close (state : SessionState S) : SessionState S × List Waker :=
  ({ state with toSessionHub := state.toSessionHub.close.1, outbound := ∅ },
    state.toSessionHub.close.2.toList ++
      state.outbound.values.filterMap OutboundRoute.pendingWaker)

section Channel

variable [PollSender S OutboundPacket]

/-- Registers a new channel for a session, in the place of the one it had. -/
def registerOutboundSession (state : SessionState S) (sessionId : FixedBytes 16) :
    SessionState S :=
  if state.closed then state
  else
    { state with
      outbound := state.outbound.insert sessionId
        ⟨PollSender.channel state.outboundCapacity, none⟩ }

/-- Pushes a packet into the channel of its session. -/
def pollPushOutbound (state : SessionState S) (cx : Waker) (packet : OutboundPacket) :
    Poll (Except Error Unit) × SessionState S :=
  match WebRtcPacketFrame.sessionIdOf packet.bytes with
  | .error err => (.ready (.error err), state)
  | .ok sessionId =>
    if state.closed then (.ready (.error .sessionClosed), state)
    else
      match state.outbound.lookup sessionId with
      | none => (.ready (.error .sessionClosed), state)
      | some route =>
        let put (route : OutboundRoute S) : SessionState S :=
          { state with outbound := state.outbound.insert sessionId route }
        match PollSender.pollReserve route.sender cx with
        | (.pending, sender) =>
          -- a waker that would wake the same task is kept
          if route.pendingWaker = some cx then (.pending, put ⟨sender, route.pendingWaker⟩)
          else (.pending, put ⟨sender, some cx⟩)
        | (.ready (.error _), sender) => (.ready (.error .sessionClosed), put ⟨sender, none⟩)
        | (.ready (.ok _), sender) =>
          match PollSender.sendItem sender packet with
          | (.error _, sender) => (.ready (.error .sessionClosed), put ⟨sender, none⟩)
          | (.ok _, sender) => (.ready (.ok ()), put ⟨sender, none⟩)

/-- The receiver of a session's route takes a packet. -/
def recvOutbound (state : SessionState S) (sessionId : FixedBytes 16) :
    Option (OutboundPacket × SessionState S × Option Waker) :=
  match state.outbound.lookup sessionId with
  | none => none
  | some route =>
    match PollSender.recv route.sender with
    | none => none
    | some (packet, woken, sender) =>
      some (packet,
        { state with outbound := state.outbound.insert sessionId { route with sender := sender } },
        woken)

/-- The receiver of a session's route is dropped. -/
def dropOutboundReceiver (state : SessionState S) (sessionId : FixedBytes 16) :
    SessionState S × Option Waker :=
  match state.outbound.lookup sessionId with
  | none => (state, none)
  | some route =>
    let (woken, sender) := PollSender.dropReceiver route.sender
    ({ state with outbound := state.outbound.insert sessionId { route with sender := sender } },
      woken)

/-- `poll_push_outbound` up to its reservation, with the session it is for. -/
def reserveOutbound (state : SessionState S) (cx : Waker) (packet : OutboundPacket) :
    Poll (Except Error (FixedBytes 16)) × SessionState S :=
  match WebRtcPacketFrame.sessionIdOf packet.bytes with
  | .error err => (.ready (.error err), state)
  | .ok sessionId =>
    if state.closed then (.ready (.error .sessionClosed), state)
    else
      match state.outbound.lookup sessionId with
      | none => (.ready (.error .sessionClosed), state)
      | some route =>
        let put (route : OutboundRoute S) : SessionState S :=
          { state with outbound := state.outbound.insert sessionId route }
        match PollSender.pollReserve route.sender cx with
        | (.pending, sender) =>
          if route.pendingWaker = some cx then (.pending, put ⟨sender, route.pendingWaker⟩)
          else (.pending, put ⟨sender, some cx⟩)
        | (.ready (.error _), sender) => (.ready (.error .sessionClosed), put ⟨sender, none⟩)
        | (.ready (.ok _), sender) => (.ready (.ok sessionId), put ⟨sender, none⟩)

/-- `poll_push_outbound` from its send on. -/
def sendReserved (state : SessionState S) (sessionId : FixedBytes 16) (packet : OutboundPacket) :
    Except Error Unit × SessionState S :=
  match state.outbound.lookup sessionId with
  | none => (.error .sessionClosed, state)
  | some route =>
    let put (sender : S) : SessionState S :=
      { state with outbound := state.outbound.insert sessionId { route with sender := sender } }
    match PollSender.sendItem route.sender packet with
    | (.error _, sender) => (.error .sessionClosed, put sender)
    | (.ok _, sender) => (.ok (), put sender)

/-- A push that no receiver comes between. -/
theorem pollPushOutbound_eq (state : SessionState S) (cx : Waker) (packet : OutboundPacket) :
    state.pollPushOutbound cx packet =
      match state.reserveOutbound cx packet with
      | (.pending, state) => (.pending, state)
      | (.ready (.error err), state) => (.ready (.error err), state)
      | (.ready (.ok sessionId), state) =>
        (.ready (state.sendReserved sessionId packet).1,
          (state.sendReserved sessionId packet).2) := by
  unfold pollPushOutbound reserveOutbound
  cases hid : WebRtcPacketFrame.sessionIdOf packet.bytes with
  | error err => rfl
  | ok sessionId =>
    simp only
    by_cases hclosed : state.closed = true
    · rw [if_pos hclosed, if_pos hclosed]
    rw [if_neg hclosed, if_neg hclosed]
    cases hroute : state.outbound.lookup sessionId with
    | none => rfl
    | some route =>
      simp only
      rcases hreserve : PollSender.pollReserve route.sender cx with ⟨(_ | _) | _, sender⟩
      · rfl
      · simp only [sendReserved, AList.lookup_insert, AList.insert_insert]
        rcases hsend : PollSender.sendItem sender packet with ⟨_ | _, sender'⟩
        · rfl
        · rfl
      · simp only
        split_ifs
        · rfl
        · rfl

/-- What a reservation does: it is refused before the channel is asked, it waits with its waker in
the route, the channel is closed, or it holds a permit. -/
theorem reserveOutbound_cases {state state' : SessionState S} {cx : Waker}
    {packet : OutboundPacket} {r : Poll (Except Error (FixedBytes 16))}
    (h : state.reserveOutbound cx packet = (r, state')) :
    (∃ err, r = .ready (.error err) ∧ state' = state ∧
        ∀ sessionId, WebRtcPacketFrame.sessionIdOf packet.bytes = .ok sessionId →
          err = .sessionClosed) ∨
      ∃ sessionId route reserved sender,
        WebRtcPacketFrame.sessionIdOf packet.bytes = .ok sessionId ∧ state.closed = false ∧
        state.outbound.lookup sessionId = some route ∧
        PollSender.pollReserve route.sender cx = (reserved, sender) ∧
        ((reserved = .pending ∧ r = .pending ∧
            state' = { state with
              outbound := state.outbound.insert sessionId ⟨sender, some cx⟩ }) ∨
          (reserved = .ready (.error ()) ∧ r = .ready (.error .sessionClosed) ∧
            state' = { state with
              outbound := state.outbound.insert sessionId ⟨sender, none⟩ }) ∨
          (reserved = .ready (.ok ()) ∧ r = .ready (.ok sessionId) ∧
            state' = { state with
              outbound := state.outbound.insert sessionId ⟨sender, none⟩ })) := by
  unfold reserveOutbound at h
  cases hid : WebRtcPacketFrame.sessionIdOf packet.bytes with
  | error err =>
    rw [hid] at h
    obtain ⟨rfl, rfl⟩ := Prod.mk.inj h
    refine Or.inl ⟨err, rfl, rfl, fun sessionId hok => ?_⟩
    cases hok
  | ok sessionId =>
    simp only [hid] at h
    by_cases hclosed : state.closed = true
    · rw [if_pos hclosed] at h
      obtain ⟨rfl, rfl⟩ := Prod.mk.inj h
      exact Or.inl ⟨_, rfl, rfl, fun _ _ => rfl⟩
    rw [if_neg hclosed] at h
    cases hroute : state.outbound.lookup sessionId with
    | none =>
      simp only [hroute] at h
      obtain ⟨rfl, rfl⟩ := Prod.mk.inj h
      exact Or.inl ⟨_, rfl, rfl, fun _ _ => rfl⟩
    | some route =>
      rcases hreserve : PollSender.pollReserve route.sender cx with ⟨reserved, sender⟩
      refine Or.inr ⟨sessionId, route, reserved, sender, rfl, by simpa using hclosed, hroute,
        hreserve, ?_⟩
      simp only [hroute, hreserve] at h
      rcases reserved with (_ | _) | _
      · obtain ⟨rfl, rfl⟩ := Prod.mk.inj h
        exact Or.inr (Or.inl ⟨rfl, rfl, rfl⟩)
      · obtain ⟨rfl, rfl⟩ := Prod.mk.inj h
        exact Or.inr (Or.inr ⟨rfl, rfl, rfl⟩)
      · simp only at h
        split_ifs at h with hwaker
        · obtain ⟨rfl, rfl⟩ := Prod.mk.inj h
          exact Or.inl ⟨rfl, rfl, by rw [hwaker]⟩
        · obtain ⟨rfl, rfl⟩ := Prod.mk.inj h
          exact Or.inl ⟨rfl, rfl, rfl⟩

/-- What a send does with the permit of its route. -/
theorem sendReserved_cases {state state' : SessionState S} {sessionId : FixedBytes 16}
    {packet : OutboundPacket} {route : OutboundRoute S} {r : Except Error Unit}
    (hroute : state.outbound.lookup sessionId = some route)
    (h : state.sendReserved sessionId packet = (r, state')) :
    ∃ sent sender, PollSender.sendItem route.sender packet = (sent, sender) ∧
      state' = { state with
        outbound := state.outbound.insert sessionId { route with sender := sender } } ∧
      (sent = .error () ∧ r = .error .sessionClosed ∨ sent = .ok () ∧ r = .ok ()) := by
  rcases hsend : PollSender.sendItem route.sender packet with ⟨sent, sender⟩
  refine ⟨sent, sender, rfl, ?_⟩
  simp only [sendReserved, hroute, hsend] at h
  cases sent with
  | error err =>
    obtain ⟨rfl, rfl⟩ := Prod.mk.inj h
    exact ⟨rfl, Or.inl ⟨rfl, rfl⟩⟩
  | ok sent =>
    obtain ⟨rfl, rfl⟩ := Prod.mk.inj h
    exact ⟨rfl, Or.inr ⟨rfl, rfl⟩⟩

/-- What a push does, with what its channel answers to the reservation and to the send. -/
theorem pollPushOutbound_steps {state state' : SessionState S} {cx : Waker}
    {packet : OutboundPacket} {r : Poll (Except Error Unit)}
    (h : state.pollPushOutbound cx packet = (r, state')) :
    (∃ err, r = .ready (.error err) ∧ state' = state ∧
        ∀ sessionId, WebRtcPacketFrame.sessionIdOf packet.bytes = .ok sessionId →
          err = .sessionClosed) ∨
      ∃ sessionId route reserved sender,
        WebRtcPacketFrame.sessionIdOf packet.bytes = .ok sessionId ∧ state.closed = false ∧
        state.outbound.lookup sessionId = some route ∧
        PollSender.pollReserve route.sender cx = (reserved, sender) ∧
        ((reserved = .pending ∧ r = .pending ∧
            state' = { state with
              outbound := state.outbound.insert sessionId ⟨sender, some cx⟩ }) ∨
          (reserved = .ready (.error ()) ∧ r = .ready (.error .sessionClosed) ∧
            state' = { state with
              outbound := state.outbound.insert sessionId ⟨sender, none⟩ }) ∨
          (reserved = .ready (.ok ()) ∧
            ∃ sent sender', PollSender.sendItem sender packet = (sent, sender') ∧
              state' = { state with
                outbound := state.outbound.insert sessionId ⟨sender', none⟩ } ∧
              (sent = .error () ∧ r = .ready (.error .sessionClosed) ∨
                sent = .ok () ∧ r = .ready (.ok ())))) := by
  rw [pollPushOutbound_eq] at h
  rcases hreserve : state.reserveOutbound cx packet with ⟨reserve, between⟩
  rw [hreserve] at h
  rcases reserveOutbound_cases hreserve with ⟨err, rfl, rfl, hclosed⟩ |
    ⟨sessionId, route, reserved, sender, hid, hopen, hroute, hpoll, hcases⟩
  · obtain ⟨rfl, rfl⟩ := Prod.mk.inj h
    exact Or.inl ⟨err, rfl, rfl, hclosed⟩
  refine Or.inr ⟨sessionId, route, reserved, sender, hid, hopen, hroute, hpoll, ?_⟩
  rcases hcases with ⟨hreserved, rfl, rfl⟩ | ⟨hreserved, rfl, rfl⟩ | ⟨hreserved, rfl, rfl⟩
  · obtain ⟨rfl, rfl⟩ := Prod.mk.inj h
    exact Or.inl ⟨hreserved, rfl, rfl⟩
  · obtain ⟨rfl, rfl⟩ := Prod.mk.inj h
    exact Or.inr (Or.inl ⟨hreserved, rfl, rfl⟩)
  · obtain ⟨rfl, rfl⟩ := Prod.mk.inj h
    have hroute' : ({ state with outbound := state.outbound.insert sessionId ⟨sender, none⟩ } :
        SessionState S).outbound.lookup sessionId = some ⟨sender, none⟩ := AList.lookup_insert _
    obtain ⟨sent, sender', hsend, hstate, hresult⟩ :=
      sendReserved_cases hroute' (Prod.mk.eta).symm
    rw [AList.insert_insert] at hstate
    refine Or.inr (Or.inr ⟨hreserved, sent, sender', hsend, hstate, ?_⟩)
    rcases hresult with ⟨hsent, herror⟩ | ⟨hsent, hok⟩
    · exact Or.inl ⟨hsent, congrArg Poll.ready herror⟩
    · exact Or.inr ⟨hsent, congrArg Poll.ready hok⟩

/-- A push is refused because there is no open route, it waits with its waker in both places, or it
is done and leaves no waker with the route. -/
theorem pollPushOutbound_cases {state state' : SessionState S} {cx : Waker}
    {packet : OutboundPacket} {r : Poll (Except Error Unit)}
    (h : state.pollPushOutbound cx packet = (r, state')) :
    (∃ err, r = .ready (.error err) ∧ state' = state) ∨
      ∃ sessionId route, WebRtcPacketFrame.sessionIdOf packet.bytes = .ok sessionId ∧
        state.closed = false ∧ state.outbound.lookup sessionId = some route ∧
        ((∃ sender, PollSender.pollReserve route.sender cx = (.pending, sender) ∧ r = .pending ∧
            state' = { state with
              outbound := state.outbound.insert sessionId ⟨sender, some cx⟩ }) ∨
          ∃ result sender, (PollSender.pollReserve route.sender cx).1 ≠ .pending ∧
            r = .ready result ∧
            state' =
              { state with outbound := state.outbound.insert sessionId ⟨sender, none⟩ }) := by
  rcases pollPushOutbound_steps h with ⟨err, hr, hstate, -⟩ |
    ⟨sessionId, route, reserved, sender, hid, hopen, hroute, hpoll, hcases⟩
  · exact Or.inl ⟨err, hr, hstate⟩
  refine Or.inr ⟨sessionId, route, hid, hopen, hroute, ?_⟩
  rcases hcases with ⟨rfl, hr, hstate⟩ | ⟨rfl, hr, hstate⟩ |
    ⟨rfl, sent, sender', -, hstate, hresult⟩
  · exact Or.inl ⟨sender, hpoll, hr, hstate⟩
  · exact Or.inr ⟨_, sender, by simp [hpoll], hr, hstate⟩
  · rcases hresult with ⟨-, hr⟩ | ⟨-, hr⟩
    · exact Or.inr ⟨_, sender', by simp [hpoll], hr, hstate⟩
    · exact Or.inr ⟨_, sender', by simp [hpoll], hr, hstate⟩

/-- A push waits when another reservation waits for capacity. -/
theorem pollPushOutbound_of_waker [LawfulPollSender S] {state : SessionState S} (cx : Waker)
    {packet : OutboundPacket} {sessionId : FixedBytes 16} {route : OutboundRoute S} {w : Waker}
    (hid : WebRtcPacketFrame.sessionIdOf packet.bytes = .ok sessionId)
    (hclosed : state.closed = false) (hroute : state.outbound.lookup sessionId = some route)
    (hwaker : PollSender.waker route.sender = some w) :
    ∃ sender, state.pollPushOutbound cx packet = (.pending, { state with
      outbound := state.outbound.insert sessionId ⟨sender, some cx⟩ }) := by
  have hpending := LawfulPollSender.pollReserve_of_waker cx hwaker
  rcases hreserve : PollSender.pollReserve route.sender cx with ⟨r, sender⟩
  rw [hreserve] at hpending
  obtain rfl : r = .pending := hpending
  refine ⟨sender, ?_⟩
  unfold pollPushOutbound
  simp only [hid, hclosed, hroute, hreserve, Bool.false_eq_true, if_false]
  split_ifs with hkept
  · rw [hkept]
  · rfl

end Channel

end SessionState

/-! ## The sender of the endpoint -/

/-- What iroh asks to be sent: datagrams of `segmentSize` bytes, back to back. -/
structure Transmit where
  contents : List UInt8
  segmentSize : Option ℕ

/-- `WebRtcSender::poll_send`.  `none` is the panic of `encode`. -/
def pollSend {S : Type*} [PollSender S OutboundPacket] (E : Type*) [EndpointKey E]
    (pw : PointerWidth) (maxPayloadLen : ℕ) (state : SessionState S) (cx : Waker)
    (dst : CustomAddr) (transmit : Transmit) :
    Option (Poll (Except IoError Unit) × SessionState S) :=
  match WebRtcAddr.fromCustomAddr (E := E) dst with
  | .error err => some (.ready (.error err.toIoError), state)
  | .ok ⟨_, .capability⟩ =>
    some (.ready (.error (Error.invalidAddr "cannot send to capability address").toIoError), state)
  | .ok ⟨_, .session sessionId⟩ =>
    match WebRtcPacketFrame.encode pw ⟨0, sessionId, transmit.segmentSize, transmit.contents⟩
      maxPayloadLen with
    | none => none
    | some (.error err) => some (.ready (.error err.toIoError), state)
    | some (.ok bytes) =>
      match state.pollPushOutbound cx ⟨dst, bytes⟩ with
      | (.pending, state) => some (.pending, state)
      | (.ready (.ok ()), state) => some (.ready (.ok ()), state)
      | (.ready (.error err), state) => some (.ready (.error err.toIoError), state)

/-- The session id in the encoding of a frame. -/
theorem WebRtcPacketFrame.sessionIdOf_encode {pw : PointerWidth} {f : WebRtcPacketFrame}
    {maxPayloadLen : ℕ} {bs : List UInt8} (h : encode pw f maxPayloadLen = some (.ok bs)) :
    sessionIdOf bs = .ok f.sessionId := by
  obtain ⟨hne, -, hu32, h0, -, rfl⟩ := encode_eq_ok.mp h
  have hheader := decodeHeader_of_isNormalized (isNormalized_normalized hne h0) hu32
  rw [sessionIdOf]
  exact hheader ▸ rfl

/-- A transmit leaves the hub alone, or it pushes one packet for the session of its
destination. -/
theorem pollSend_cases {S : Type*} [PollSender S OutboundPacket] {E : Type*} [EndpointKey E]
    {pw : PointerWidth} {maxPayloadLen : ℕ} {state state' : SessionState S} {cx : Waker}
    {dst : CustomAddr} {transmit : Transmit} {r : Poll (Except IoError Unit)}
    (h : pollSend E pw maxPayloadLen state cx dst transmit = some (r, state')) :
    (∃ err, r = .ready (.error err) ∧ state' = state) ∨
      ∃ sessionId packet pushed, sessionIdFromDestination E dst = some sessionId ∧
        WebRtcPacketFrame.sessionIdOf packet.bytes = .ok sessionId ∧
        state.pollPushOutbound cx packet = (pushed, state') ∧
        (r = .pending ↔ pushed = .pending) := by
  unfold pollSend at h
  split at h
  · obtain ⟨rfl, rfl⟩ := Prod.mk.inj (Option.some.inj h)
    exact Or.inl ⟨_, rfl, rfl⟩
  · obtain ⟨rfl, rfl⟩ := Prod.mk.inj (Option.some.inj h)
    exact Or.inl ⟨_, rfl, rfl⟩
  · rename_i sessionId haddr
    split at h
    · exact absurd h (by simp)
    · obtain ⟨rfl, rfl⟩ := Prod.mk.inj (Option.some.inj h)
      exact Or.inl ⟨_, rfl, rfl⟩
    · rename_i bytes hencode
      have hid := WebRtcPacketFrame.sessionIdOf_encode hencode
      have hdst : sessionIdFromDestination E dst = some sessionId := by
        simp only [sessionIdFromDestination, haddr]
      refine Or.inr ⟨sessionId, ⟨dst, bytes⟩, ?_⟩
      split at h <;> rename_i hpush
      all_goals
        obtain ⟨rfl, rfl⟩ := Prod.mk.inj (Option.some.inj h)
        exact ⟨_, hdst, hid, hpush, by simp⟩

/-! ## Valid destinations -/

/-- `WebRtcSender::is_valid_send_addr`, by which iroh picks the transport of a path. -/
def isValidSendAddr (E : Type*) [EndpointKey E] (addr : CustomAddr) : Bool :=
  match WebRtcAddr.fromCustomAddr (E := E) addr with
  | .ok ⟨_, .session _⟩ => true
  | _ => false

/-- No transmit to `dst` is refused because of its address. -/
def PassesAddrCheck (E S : Type*) [EndpointKey E] [PollSender S OutboundPacket]
    (dst : CustomAddr) : Prop :=
  ∀ (pw : PointerWidth) (maxPayloadLen : ℕ) (state : SessionState S) (cx : Waker)
    (transmit : Transmit) (message : String),
    (pollSend E pw maxPayloadLen state cx dst transmit).map Prod.fst ≠
      some (.ready (.error (Error.invalidAddr message).toIoError))

/-- Every transmit to `dst` is refused because of its address, and the hub stays as it is. -/
def FailsAddrCheck (E S : Type*) [EndpointKey E] [PollSender S OutboundPacket]
    (dst : CustomAddr) : Prop :=
  ∃ message, ∀ (pw : PointerWidth) (maxPayloadLen : ℕ) (state : SessionState S) (cx : Waker)
    (transmit : Transmit),
    pollSend E pw maxPayloadLen state cx dst transmit =
      some (.ready (.error (Error.invalidAddr message).toIoError), state)

section AddrCheck

variable {E S : Type*} [EndpointKey E] [PollSender S OutboundPacket]

theorem WebRtcPacketFrame.not_invalidAddr_of_segmentSize {segmentSize : Option ℕ}
    {payloadLen : ℕ} {err : Error} (h : normalizedSegmentSize segmentSize payloadLen = .error err)
    (message : String) : err ≠ .invalidAddr message := by
  unfold normalizedSegmentSize at h
  rintro rfl
  split at h
  · exact absurd h (by simp)
  · split_ifs at h <;> simp at h

/-- An error of the encoder is about the frame. -/
theorem WebRtcPacketFrame.not_invalidAddr_of_encode {pw : PointerWidth} {f : WebRtcPacketFrame}
    {maxPayloadLen : ℕ} {err : Error} (h : encode pw f maxPayloadLen = some (.error err))
    (message : String) : err ≠ .invalidAddr message := by
  rintro rfl
  unfold encode at h
  split at h
  · simp at h
  · split at h
    · simp at h
    · split at h
      · simp at h
      · split at h
        · rename_i hsegment
          obtain rfl := Except.error.inj (Option.some.inj h)
          exact not_invalidAddr_of_segmentSize hsegment message rfl
        · split at h <;> simp at h

/-- A frame that has a session id is refused because its session is gone. -/
theorem SessionState.sessionClosed_of_pollPushOutbound {state state' : SessionState S} {cx : Waker}
    {packet : OutboundPacket} {sessionId : FixedBytes 16} {err : Error}
    (hid : WebRtcPacketFrame.sessionIdOf packet.bytes = .ok sessionId)
    (h : state.pollPushOutbound cx packet = (.ready (.error err), state')) :
    err = .sessionClosed := by
  rcases pollPushOutbound_steps h with ⟨err', hr, -, hclosed⟩ |
    ⟨_, _, _, _, -, -, -, -, ⟨-, hr, -⟩ | ⟨-, hr, -⟩ | ⟨-, _, _, -, -, ⟨-, hr⟩ | ⟨-, hr⟩⟩⟩
  · obtain rfl : err = err' := by simpa using hr
    exact hclosed sessionId hid
  all_goals simp_all

/-- The address check of `poll_send` and `is_valid_send_addr` agree on every address. -/
theorem passesAddrCheck_of_isValidSendAddr {dst : CustomAddr}
    (h : isValidSendAddr E dst = true) : PassesAddrCheck E S dst := by
  intro pw maxPayloadLen state cx transmit message hsend
  unfold isValidSendAddr at h
  split at h
  · rename_i endpointId sessionId haddr
    obtain ⟨⟨r, state'⟩, hsend, rfl⟩ := Option.map_eq_some_iff.mp hsend
    simp only [pollSend, haddr] at hsend
    split at hsend
    · exact absurd hsend (by simp)
    · rename_i err hencode
      have hio := (Prod.mk.inj (Option.some.inj hsend)).1
      cases err <;> simp [Error.toIoError] at hio
      exact WebRtcPacketFrame.not_invalidAddr_of_encode hencode _ rfl
    · rename_i bytes hencode
      have hid := WebRtcPacketFrame.sessionIdOf_encode hencode
      split at hsend
      · exact absurd (Prod.mk.inj (Option.some.inj hsend)).1 (by simp)
      · exact absurd (Prod.mk.inj (Option.some.inj hsend)).1 (by simp)
      · rename_i err hpush
        obtain rfl := SessionState.sessionClosed_of_pollPushOutbound hid hpush
        have hio := (Prod.mk.inj (Option.some.inj hsend)).1
        exact absurd hio (by simp [Error.toIoError])
  · exact absurd h (by simp)

theorem failsAddrCheck_of_not_isValidSendAddr {dst : CustomAddr}
    (h : isValidSendAddr E dst = false) : FailsAddrCheck E S dst := by
  cases haddr : WebRtcAddr.fromCustomAddr (E := E) dst with
  | error err =>
    obtain ⟨message, rfl⟩ := WebRtcAddr.exists_invalidAddr_of_error haddr
    exact ⟨message, fun pw maxPayloadLen state cx transmit => by simp only [pollSend, haddr]⟩
  | ok addr =>
    obtain ⟨endpointId, kind⟩ := addr
    cases kind with
    | capability =>
      exact ⟨_, fun pw maxPayloadLen state cx transmit => by simp only [pollSend, haddr]; rfl⟩
    | session sessionId =>
      simp [isValidSendAddr, haddr] at h

/-- An address that fails the check does not pass it. -/
theorem FailsAddrCheck.not_passes {dst : CustomAddr} (h : FailsAddrCheck E S dst) :
    ¬ PassesAddrCheck E S dst := by
  obtain ⟨message, hfails⟩ := h
  intro hpasses
  refine hpasses .w64 0 (.withCapacities 0 0) 0 ⟨[], none⟩ message ?_
  rw [hfails]
  rfl

/-- **The address codec.**  Decoding inverts encoding, and it accepts the encodings only, so that
distinct addresses never share one.  `is_valid_send_addr` holds of an address exactly when no
transmit to it is refused because of its address, and fails exactly when all of them are. -/
theorem addrCodec_exact :
    (∀ addr : WebRtcAddr E, WebRtcAddr.fromCustomAddr addr.toCustomAddr = .ok addr) ∧
      (∀ (c : CustomAddr) (addr : WebRtcAddr E),
        WebRtcAddr.fromCustomAddr c = .ok addr ↔ c = addr.toCustomAddr) ∧
      Function.Injective (WebRtcAddr.toCustomAddr : WebRtcAddr E → CustomAddr) ∧
      ∀ c : CustomAddr,
        (isValidSendAddr E c = true ↔ PassesAddrCheck E S c) ∧
          (isValidSendAddr E c = false ↔ FailsAddrCheck E S c) := by
  refine ⟨WebRtcAddr.fromCustomAddr_toCustomAddr, fun _ _ => WebRtcAddr.fromCustomAddr_eq_ok,
    WebRtcAddr.toCustomAddr_injective, fun c => ?_⟩
  cases hvalid : isValidSendAddr E c with
  | true =>
    have hpasses : PassesAddrCheck E S c := passesAddrCheck_of_isValidSendAddr hvalid
    exact ⟨iff_of_true rfl hpasses, iff_of_false (by simp) fun hfails => hfails.not_passes hpasses⟩
  | false =>
    have hfails : FailsAddrCheck E S c := failsAddrCheck_of_not_isValidSendAddr hvalid
    exact ⟨iff_of_false (by simp) hfails.not_passes, iff_of_true rfl hfails⟩

end AddrCheck

/-! ## A channel -/

/-- Where the reservation of a sender is. -/
inductive Reservation where
  | idle
  /-- It waits for capacity. -/
  | acquiring (cx : Waker)
  /-- Capacity was assigned to it, and its waker was woken. -/
  | granted
  | reserved
  | closed
  deriving DecidableEq

/-- A bounded channel that behaves as tokio's. -/
structure BoundedChannel where
  capacity : ℕ
  queue : List OutboundPacket
  reservation : Reservation
  deriving DecidableEq

namespace BoundedChannel

def pollReserve (s : BoundedChannel) (cx : Waker) : Poll (Except Unit Unit) × BoundedChannel :=
  match s.reservation with
  | .acquiring _ => (.pending, { s with reservation := .acquiring cx })
  | .granted | .reserved => (.ready (.ok ()), { s with reservation := .reserved })
  | .closed => (.ready (.error ()), s)
  | .idle =>
    if s.queue.length < s.capacity then (.ready (.ok ()), { s with reservation := .reserved })
    else (.pending, { s with reservation := .acquiring cx })

def sendItem (s : BoundedChannel) (item : OutboundPacket) : Except Unit Unit × BoundedChannel :=
  match s.reservation with
  | .reserved => (.ok (), { s with queue := s.queue ++ [item], reservation := .idle })
  | _ => (.error (), s)

def waker (s : BoundedChannel) : Option Waker :=
  match s.reservation with
  | .acquiring cx => some cx
  | _ => none

def recv (s : BoundedChannel) : Option (OutboundPacket × Option Waker × BoundedChannel) :=
  match s.queue, s.reservation with
  | [], _ => none
  | item :: queue, .acquiring cx =>
    some (item, some cx, { s with queue := queue, reservation := .granted })
  | item :: queue, _ => some (item, none, { s with queue := queue })

instance : PollSender BoundedChannel OutboundPacket where
  channel capacity := ⟨capacity, [], .idle⟩
  pollReserve := pollReserve
  sendItem := sendItem
  recv := recv
  dropReceiver s := (s.waker, { s with reservation := .closed })
  waker := waker

instance : LawfulPollSender BoundedChannel where
  pollReserve_of_waker := by
    intro s w cx hwaker
    have hwaiting : s.waker = some w := hwaker
    show (s.pollReserve cx).1 = .pending
    unfold waker at hwaiting
    unfold pollReserve
    split at hwaiting
    · rename_i hreservation
      rw [hreservation]
    · exact absurd hwaiting (by simp)
  waker_of_pending := by
    intro s s' cx hpending
    have hreserve : s.pollReserve cx = (.pending, s') := hpending
    show s'.waker = some cx
    unfold pollReserve at hreserve
    split at hreserve
    · obtain rfl := (Prod.mk.inj hreserve).2
      rfl
    · exact absurd hreserve (by simp)
    · exact absurd hreserve (by simp)
    · exact absurd hreserve (by simp)
    · split_ifs at hreserve with hfree
      · exact absurd hreserve (by simp)
      · obtain rfl := (Prod.mk.inj hreserve).2
        rfl
  woken_of_recv := by
    intro s s' item woken hrecv
    have htaken : s.recv = some (item, woken, s') := hrecv
    show woken = s.waker
    unfold recv at htaken
    split at htaken
    · exact absurd htaken (by simp)
    · rename_i hreservation
      obtain ⟨-, rfl, -⟩ := by simpa using htaken
      rw [waker, hreservation]
    · rename_i hidle
      obtain ⟨-, rfl, -⟩ := by simpa using htaken
      unfold waker
      split
      · rename_i cx hreservation
        exact absurd hreservation (hidle cx)
      · rfl
  woken_of_dropReceiver := fun s => rfl

end BoundedChannel

end IrohWebRtc
