import IrohWebRtc.Core.Config
import IrohWebRtc.Core.OutboundQueues

/-!
# The two frame limits of a node

A frame is encoded with the limit of the transport configuration and decoded with the limit of the
session configuration (`core/sender.rs`, `native.rs`).  Each limit is checked by itself, and
nothing compares them, so between two nodes of one configuration the senders may accept what the
receivers drop.

A dropped frame leaves no trace at the sender: the transmit has returned `Ok`, the channel has
delivered, and the callback of the receiver counts an invalid message and goes on.  So the
agreement is stated about pairs: every packet that the sender of a configuration accepts is queued
by a receiver of the same configuration whose session it is for and whose hub has room.

* `onMessage_of_sentPacket`: what the receiver does with a packet that a sender accepted.
* `framesAgree_iff`: no accepted packet is dropped as invalid exactly when the limit of the
  senders is within that of the receivers.
* `framesAgree_false`: a valid configuration and a packet of two bytes that is dropped.

The default configuration agrees with itself, since both limits have the same default.
-/

namespace IrohWebRtc

open Bytes

/-! ## The receiver -/

/-- What `on_message` does with a message. -/
inductive MessageOutcome where
  | droppedString
  | droppedInvalid (error : Error)
  | droppedWrongSession
  | droppedRefused (error : Error)
  | queued (woken : Option Waker)
  deriving DecidableEq

/-- The `on_message` callback of `attach_data_channel`. -/
def onMessage (pw : PointerWidth) (config : WebRtcFrameConfig) (sessionId : FixedBytes 16)
    (remoteAddr : CustomAddr) (hub : SessionHub) (isString : Bool) (data : List UInt8) :
    MessageOutcome × SessionHub :=
  if isString then (.droppedString, hub)
  else
    match WebRtcPacketFrame.decode pw data config.maxPayloadLen with
    | .error err => (.droppedInvalid err, hub)
    | .ok frame =>
      if frame.sessionId ≠ sessionId then (.droppedWrongSession, hub)
      else
        match hub.pushReceived ⟨remoteAddr, frame⟩ with
        | (.error err, hub) => (.droppedRefused err, hub)
        | (.ok woken, hub) => (.queued woken, hub)

/-- The decoder refuses the encoding of a frame that is larger than its own maximum. -/
theorem WebRtcPacketFrame.decode_of_payloadTooLarge {pw peer : PointerWidth}
    {f : WebRtcPacketFrame} {maxPayloadLen limit : ℕ} {bs : List UInt8}
    (h : encode pw f maxPayloadLen = some (.ok bs))
    (hfit : headerLen + f.payload.length < 2 ^ peer.bits) (hlarge : limit < f.payload.length) :
    decode peer bs limit = .error (.payloadTooLarge f.payload.length limit) := by
  obtain ⟨hne, -, hu32, h0, -, rfl⟩ := encode_eq_ok.mp h
  have hpos : f.payload.length ≠ 0 := fun hzero => hne (List.length_eq_zero_iff.mp hzero)
  have hwrap : peer.wrap (headerLen + f.payload.length) = headerLen + f.payload.length :=
    Nat.mod_eq_of_lt hfit
  have hheader := decodeHeader_of_isNormalized (isNormalized_normalized hne h0) hu32
  simp only [normalized] at hheader ⊢
  rw [decode, hheader]
  simp only [List.length_append, length_headerBytes, hwrap, not_true_eq_false, if_false,
    if_neg hpos, if_pos hlarge, ne_eq]

variable {E : Type*} [EndpointKey E]

/-- What a sender accepts is within its maximum. -/
theorem length_of_sentPacket {pw : PointerWidth} {maxPayloadLen : ℕ} {dst : CustomAddr}
    {transmit : Transmit} {sessionId : FixedBytes 16} {packet : OutboundPacket}
    (h : SessionState.sentPacket E pw maxPayloadLen dst transmit = some (sessionId, packet)) :
    transmit.contents.length ≤ maxPayloadLen := by
  unfold SessionState.sentPacket at h
  split at h
  · cases h
  split at h
  · rename_i hencode
    exact (WebRtcPacketFrame.encode_eq_ok.mp hencode).2.1
  · cases h

/-- What the sender of one node accepts, the receiver of its peer queues, unless its hub refuses it;
what is larger than the limit of the receiver is dropped. -/
theorem onMessage_of_sentPacket {pw peer : PointerWidth} {maxPayloadLen : ℕ} {dst : CustomAddr}
    {transmit : Transmit} {sessionId : FixedBytes 16} {packet : OutboundPacket}
    (h : SessionState.sentPacket E pw maxPayloadLen dst transmit = some (sessionId, packet))
    (hmax : maxPayloadLen ≤ 65535) (config : WebRtcFrameConfig) (remoteAddr : CustomAddr)
    (hub : SessionHub) :
    onMessage peer config sessionId remoteAddr hub false packet.bytes =
      if config.maxPayloadLen < transmit.contents.length then
        (.droppedInvalid (.payloadTooLarge transmit.contents.length config.maxPayloadLen), hub)
      else
        match hub.pushReceived ⟨remoteAddr, WebRtcPacketFrame.normalized
          ⟨0, sessionId, transmit.segmentSize, transmit.contents⟩⟩ with
        | (.error err, hub) => (.droppedRefused err, hub)
        | (.ok woken, hub) => (.queued woken, hub) := by
  unfold SessionState.sentPacket at h
  split at h
  · cases h
  split at h
  · rename_i bytes hencode
    obtain ⟨rfl, rfl⟩ := Prod.mk.inj (Option.some.inj h)
    obtain ⟨hne, hlen, hu32, h0, -, hbytes⟩ := WebRtcPacketFrame.encode_eq_ok.mp hencode
    have hfit : headerLen + transmit.contents.length < 2 ^ peer.bits := by
      have hlen' : transmit.contents.length ≤ maxPayloadLen := hlen
      cases peer <;> simp only [headerLen, PointerWidth.bits] <;> omega
    rw [onMessage, if_neg Bool.false_ne_true]
    split_ifs with hlarge
    · rw [WebRtcPacketFrame.decode_of_payloadTooLarge hencode hfit hlarge]
    · have hdecode : WebRtcPacketFrame.decode peer bytes config.maxPayloadLen =
          .ok (WebRtcPacketFrame.normalized
            ⟨0, _, transmit.segmentSize, transmit.contents⟩) :=
        WebRtcPacketFrame.decode_eq_ok.mpr
          ⟨WebRtcPacketFrame.isNormalized_normalized hne h0, not_lt.mp hlarge, hu32, hfit, hbytes⟩
      rw [hdecode]
      exact if_neg (not_not.mpr rfl)
  · cases h

/-- What a push appended is determined by the hub before and after it. -/
theorem SessionState.Appends.unique {S : Type*} [PollSender S OutboundPacket]
    [PollSenderContents S] {state state' : SessionState S} {id id' : FixedBytes 16}
    {packet packet' : OutboundPacket} (h : state.Appends state' id packet)
    (h' : state.Appends state' id' packet') : id = id' ∧ packet = packet' := by
  obtain ⟨queue, hqueue, hafter⟩ := h
  obtain ⟨queue', hqueue', hafter'⟩ := h'
  have hid := hafter id
  rw [if_pos rfl, hafter' id] at hid
  split_ifs at hid with heq
  · subst heq
    obtain rfl := Option.some.inj (hqueue.symm.trans hqueue')
    obtain ⟨-, hpacket⟩ := List.append_inj' (Option.some.inj hid) rfl
    exact ⟨rfl, (List.cons.inj hpacket).1.symm⟩
  · rw [hqueue] at hid
    have hlength := congrArg List.length (Option.some.inj hid)
    rw [List.length_append] at hlength
    exact absurd hlength (by simp)

/-! ## The configuration -/

namespace WebRtcNodeConfig

/-- A packet that `poll_send` accepts from a node of this configuration is not dropped as invalid by
a peer of the same configuration, whatever the two platforms are. -/
def FramesAgree (E : Type*) [EndpointKey E] (config : WebRtcNodeConfig) : Prop :=
  ∀ (pw peer : PointerWidth) (state state' : SessionState BoundedChannel) (cx : Waker)
    (dst : CustomAddr) (transmit : Transmit) (sessionId : FixedBytes 16) (packet : OutboundPacket)
    (remoteAddr : CustomAddr) (hub : SessionHub) (err : Error),
    pollSend E pw config.transport.frame.maxPayloadLen state cx dst transmit =
        some (.ready (.ok ()), state') →
      state.Appends state' sessionId packet →
        (onMessage peer config.session.frame sessionId remoteAddr hub false packet.bytes).1 ≠
          .droppedInvalid err

/-- A hub with room accepts every transmit to its session that encodes. -/
theorem exists_pollSend {pw : PointerWidth} {maxPayloadLen sendCapacity : ℕ}
    (hroom : 0 < sendCapacity) (recvCapacity : ℕ) (cx : Waker) (remote : E)
    (sessionId : FixedBytes 16) (transmit : Transmit) {bytes : List UInt8}
    (hencode : WebRtcPacketFrame.encode pw ⟨0, sessionId, transmit.segmentSize, transmit.contents⟩
      maxPayloadLen = some (.ok bytes)) :
    ∃ state', pollSend E pw maxPayloadLen
      ((SessionState.withCapacities recvCapacity sendCapacity :
        SessionState BoundedChannel).registerOutboundSession sessionId) cx
      (WebRtcAddr.session remote sessionId).toCustomAddr transmit =
        some (.ready (.ok ()), state') := by
  have hid := WebRtcPacketFrame.sessionIdOf_encode hencode
  generalize hstate : (SessionState.withCapacities recvCapacity sendCapacity :
    SessionState BoundedChannel).registerOutboundSession sessionId = state
  have hopen : state.closed = false := by
    rw [← hstate]
    rfl
  have hroute : state.outbound.lookup sessionId = some ⟨⟨sendCapacity, [], .idle⟩, none⟩ := by
    rw [← hstate]
    exact AList.lookup_insert _
  have hreserve : PollSender.pollReserve (⟨sendCapacity, [], .idle⟩ : BoundedChannel) cx =
      (.ready (.ok ()), ⟨sendCapacity, [], .reserved⟩) := if_pos hroom
  have hpush : ∃ state', state.pollPushOutbound cx
      ⟨(WebRtcAddr.session remote sessionId).toCustomAddr, bytes⟩ = (.ready (.ok ()), state') := by
    simp only [SessionState.pollPushOutbound, hid, hopen, hroute, hreserve, Bool.false_eq_true,
      if_false]
    exact ⟨_, rfl⟩
  obtain ⟨state', hpush⟩ := hpush
  refine ⟨state', ?_⟩
  rw [pollSend, WebRtcAddr.fromCustomAddr_toCustomAddr]
  simp only [WebRtcAddr.session, hencode] at hpush ⊢
  rw [hpush]

/-- **The two limits.**  In a valid configuration, no packet that a sender accepts is dropped as
invalid by a peer of the same configuration, if and only if the limit of the senders is not larger
than the limit of the receivers. -/
theorem framesAgree_iff [Nonempty E] {config : WebRtcNodeConfig}
    (hvalid : config.validate = .ok ()) :
    config.FramesAgree E ↔
      config.transport.frame.maxPayloadLen ≤ config.session.frame.maxPayloadLen := by
  obtain ⟨-, hqueues, hframe⟩ := validate_eq_ok.mp hvalid
  obtain ⟨hpos, hmax⟩ := WebRtcFrameConfig.validate_eq_ok.mp hframe
  obtain ⟨-, hroom⟩ := WebRtcQueueConfig.validate_eq_ok.mp hqueues
  constructor
  · intro hagree
    by_contra hlimit
    rw [not_le] at hlimit
    -- a transmit of one byte more than the receivers accept
    obtain ⟨remote⟩ := ‹Nonempty E›
    have hlength : (List.replicate config.transport.frame.maxPayloadLen (0 : UInt8)).length =
        config.transport.frame.maxPayloadLen := List.length_replicate
    generalize List.replicate config.transport.frame.maxPayloadLen (0 : UInt8) = contents at hlength
    have hencode : ∃ bytes, WebRtcPacketFrame.encode .w64
        ⟨0, .replicate 16 0, none, contents⟩ config.transport.frame.maxPayloadLen =
          some (.ok bytes) := by
      refine ⟨_, WebRtcPacketFrame.encode_eq_ok.mpr ⟨?_, hlength.le, ?_, by simp, ?_, rfl⟩⟩
      · intro hnil
        have hempty : contents.length = 0 := congrArg List.length hnil
        omega
      · show contents.length ≤ u32Max
        rw [u32Max]
        omega
      · show headerLen + contents.length ≤ PointerWidth.isizeMax .w64
        simp only [headerLen, PointerWidth.isizeMax, PointerWidth.bits]
        omega
    obtain ⟨bytes, hencode⟩ := hencode
    obtain ⟨state', hsend⟩ :=
      exists_pollSend hroom 1 0 remote (.replicate 16 0) ⟨contents, none⟩ hencode
    rcases SessionState.pollSend_queues hsend with
      ⟨-, sessionId, packet, hpacket, happends⟩ | ⟨hne, -⟩
    · have hdrop : onMessage .w64 config.session.frame sessionId ⟨0, []⟩ (.new 1) false
          packet.bytes = (.droppedInvalid (.payloadTooLarge contents.length
            config.session.frame.maxPayloadLen), .new 1) := by
        have hlarge : config.session.frame.maxPayloadLen < contents.length := by omega
        rw [onMessage_of_sentPacket hpacket hmax, if_pos hlarge]
      exact hagree .w64 .w64 _ state' 0 _ _ sessionId packet ⟨0, []⟩ (.new 1) _ hsend happends
        (congrArg Prod.fst hdrop)
    · exact hne rfl
  · intro hlimit pw peer state state' cx dst transmit sessionId packet remoteAddr hub err hsend
      happends
    rcases SessionState.pollSend_queues hsend with ⟨-, id, sent, hpacket, hsent⟩ | ⟨hne, -⟩
    · obtain ⟨rfl, rfl⟩ := happends.unique hsent
      have hlength := length_of_sentPacket hpacket
      rw [onMessage_of_sentPacket hpacket hmax, if_neg (by omega)]
      cases hub.pushReceived ⟨remoteAddr, WebRtcPacketFrame.normalized
          ⟨0, sessionId, transmit.segmentSize, transmit.contents⟩⟩ with
      | mk result hub' =>
        cases result with
        | error refused =>
          intro hdrop
          cases hdrop
        | ok woken =>
          intro hdrop
          cases hdrop
    · exact absurd rfl hne

section Sample

open scoped Sample
open Sample

/-- A configuration whose receivers accept one byte only. -/
def sampleNarrow : WebRtcNodeConfig :=
  { default with session := { WebRtcSessionConfig.default with frame := ⟨1⟩ } }

theorem framesAgree_iff_sample :
    sampleNarrow.FramesAgree Key ↔
      sampleNarrow.transport.frame.maxPayloadLen ≤ sampleNarrow.session.frame.maxPayloadLen := by
  have : Nonempty Key := ⟨alice⟩
  exact framesAgree_iff (by decide)

/-- A hub with a route for one session. -/
def sampleHub : SessionState BoundedChannel :=
  (SessionState.withCapacities 1 1).registerOutboundSession (.replicate 16 1)

/-- **Accepted and dropped.**  The configuration is valid.  A transmit of two bytes is accepted by
the sender, and the receiver of the peer drops its packet as too large. -/
theorem framesAgree_false :
    sampleNarrow.validate = .ok () ∧
      (∃ state' packet,
        pollSend Key .w64 sampleNarrow.transport.frame.maxPayloadLen sampleHub 0
            (WebRtcAddr.session alice (.replicate 16 1)).toCustomAddr ⟨[7, 7], none⟩ =
          some (.ready (.ok ()), state') ∧
        sampleHub.Appends state' (.replicate 16 1) packet ∧
        onMessage .w64 sampleNarrow.session.frame (.replicate 16 1)
            (WebRtcAddr.session bob (.replicate 16 1)).toCustomAddr (.new 1) false packet.bytes =
          (.droppedInvalid (.payloadTooLarge 2 1), .new 1)) ∧
      ¬ sampleNarrow.FramesAgree Key := by
  have hlost : ∃ state' packet,
      pollSend Key .w64 sampleNarrow.transport.frame.maxPayloadLen sampleHub 0
          (WebRtcAddr.session alice (.replicate 16 1)).toCustomAddr ⟨[7, 7], none⟩ =
        some (.ready (.ok ()), state') ∧
      sampleHub.Appends state' (.replicate 16 1) packet ∧
      onMessage .w64 sampleNarrow.session.frame (.replicate 16 1)
          (WebRtcAddr.session bob (.replicate 16 1)).toCustomAddr (.new 1) false packet.bytes =
        (.droppedInvalid (.payloadTooLarge 2 1), .new 1) := by
    have hsend : ∃ state', pollSend Key .w64 sampleNarrow.transport.frame.maxPayloadLen sampleHub 0
        (WebRtcAddr.session alice (.replicate 16 1)).toCustomAddr ⟨[7, 7], none⟩ =
          some (.ready (.ok ()), state') := ⟨_, rfl⟩
    obtain ⟨state', hsend⟩ := hsend
    rcases SessionState.pollSend_queues hsend with ⟨-, id, packet, hpacket, happends⟩ | ⟨hne, -⟩
    · obtain rfl : FixedBytes.replicate 16 1 = id :=
        congrArg (fun sent => sent.1) (Option.some.inj hpacket)
      exact ⟨state', packet, hsend, happends, onMessage_of_sentPacket hpacket (by decide) _ _ _⟩
    · exact absurd rfl hne
  refine ⟨by decide, hlost, fun hagree => ?_⟩
  obtain ⟨state', packet, hsend, happends, hdrop⟩ := hlost
  exact hagree _ _ _ _ _ _ _ _ _ _ _ _ hsend happends (congrArg Prod.fst hdrop)

end Sample

end WebRtcNodeConfig

end IrohWebRtc
