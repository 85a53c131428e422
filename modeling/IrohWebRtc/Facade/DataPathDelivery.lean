import IrohWebRtc.Facade.DataPath

/-!
# What arrives at a node

The receiving side of `Facade/DataPath.lean`: the `on_message` callback, the hub and the endpoint
of a node, and what holds of every run.

A packet that arrives is decoded with the limit of the end it arrives at, its session id is
compared with the one that the end was attached for, and only then is it pushed, under the address
of this session.  The peer cannot choose the address: what it sends over a channel stands under
the session of the channel, or is dropped.  Where the two ends of a channel were attached for
different sessions every packet is dropped, so nothing ever arrives over such a channel, and the
session of an arrival is that of both ends.

From the hub on, the law of the endpoint takes over (`Core.Endpoint`): what was delivered and what
is owed are the datagrams of what arrived, in order.  The two laws meet in the list of arrivals,
which is recorded for this purpose and which no function reads.

* `DataPath.Valid.step`: every step keeps the ledgers, and the endpoint of a node delivers and
  owes what arrived at the node.
* `DataPath.delivered_of_accepted`: what a node is handed are the datagrams of transmits that the
  other end of one of its channels accepted, each transmit at most once, unchanged, in the order
  of its contents and under the address of that session.
* `DataPath.accepted_accounted`: a packet that was accepted is in one place, and in one only;
  between ends that agree, the receiver drops a packet only because its hub refuses it.

Neither theorem promises that a packet arrives.  That is not the business of a datagram transport;
what is promised is that the loss can be named.
-/

namespace IrohWebRtc

open Bytes Segments SessionState PollSenderContents

namespace DataPath

variable {S E H L : Type*} [DecidableEq H] [DecidableEq L]

section Channel

variable [PollSender S OutboundPacket] [PollSenderContents S] [EndpointKey E]
  {W : Wiring E H L} {t t' : DataPath S H L}

/-! ## Arrivals -/

omit [DecidableEq H] [DecidableEq L] [EndpointKey E] [PollSender S OutboundPacket]
  [PollSenderContents S] in
/-- A message for the session is pushed into the hub, or it is dropped and the hub is left alone. -/
theorem onMessage_cases {pw : PointerWidth} {config : WebRtcFrameConfig}
    {sessionId : FixedBytes 16} {remoteAddr : CustomAddr} {hub hub' : SessionHub}
    {data : List UInt8} {outcome : MessageOutcome}
    (h : onMessage pw config sessionId remoteAddr hub false data = (outcome, hub')) :
    (∃ woken frame, outcome = .queued woken ∧
        WebRtcPacketFrame.decode pw data config.maxPayloadLen = .ok frame ∧
        frame.sessionId = sessionId ∧
        hub.pushReceived ⟨remoteAddr, frame⟩ = (.ok woken, hub')) ∨
      (∀ woken, outcome ≠ .queued woken) ∧ hub' = hub := by
  rw [onMessage, if_neg Bool.false_ne_true] at h
  split at h
  · obtain ⟨rfl, rfl⟩ := Prod.mk.inj h
    exact Or.inr ⟨fun _ habs => (by cases habs), rfl⟩
  rename_i frame hdecode
  split_ifs at h with hsession
  · obtain ⟨rfl, rfl⟩ := Prod.mk.inj h
    exact Or.inr ⟨fun _ habs => (by cases habs), rfl⟩
  split at h
  · rename_i err hub₁ hpush
    obtain ⟨rfl, rfl⟩ := Prod.mk.inj h
    refine Or.inr ⟨fun _ habs => (by cases habs), ?_⟩
    rcases SessionHub.pushReceived_cases hpush with ⟨_, -, hsame⟩ | ⟨_, habs, -⟩
    · exact hsame
    · cases habs
  · rename_i woken hub₁ hpush
    obtain ⟨rfl, rfl⟩ := Prod.mk.inj h
    exact Or.inl ⟨woken, frame, rfl, hdecode, not_not.mp hsession, hpush⟩

/-- What `on_message` of the other end does with a packet. -/
def outcomeOf (W : Wiring E H L) (t : DataPath S H L) (l : L) (packet : OutboundPacket) :
    MessageOutcome × SessionHub :=
  onMessage (W.pointerWidth (W.host (W.peer l))) (W.frame (W.peer l)) (W.sessionId (W.peer l))
    (W.remoteAddr (W.peer l)) (t.hosts (W.host (W.peer l))).state.toSessionHub false packet.bytes

omit [PollSender S OutboundPacket] [PollSenderContents S] in
/-- What a packet that arrives does. -/
theorem receive_cases (W : Wiring E H L) (t : DataPath S H L) (l : L) (packet : OutboundPacket) :
    (∃ woken frame hub, WebRtcPacketFrame.decode (W.pointerWidth (W.host (W.peer l))) packet.bytes
          (W.frame (W.peer l)).maxPayloadLen = .ok frame ∧
        frame.sessionId = W.sessionId (W.peer l) ∧
        (t.hosts (W.host (W.peer l))).state.toSessionHub.pushReceived
          ⟨W.remoteAddr (W.peer l), frame⟩ = (.ok woken, hub) ∧
        t.receive W l packet =
          { hosts := Function.update t.hosts (W.host (W.peer l))
              { t.hosts (W.host (W.peer l)) with
                state := { (t.hosts (W.host (W.peer l))).state with toSessionHub := hub }
                arrived := (t.hosts (W.host (W.peer l))).arrived ++ [(l, packet)] }
            ends := Function.update t.ends l
              { t.ends l with inFlight := (t.ends l).inFlight.erase packet } }) ∨
      (∀ woken, (t.outcomeOf W l packet).1 ≠ .queued woken) ∧
        t.receive W l packet = t.setEnd l { t.ends l with
          inFlight := (t.ends l).inFlight.erase packet
          dropped := (packet, (t.outcomeOf W l packet).1) ::ₘ (t.ends l).dropped } := by
  rcases houtcome : t.outcomeOf W l packet with ⟨outcome, hub⟩
  have hmessage := houtcome
  rw [outcomeOf] at hmessage
  rcases onMessage_cases hmessage with ⟨woken, frame, rfl, hdecode, hid, hpush⟩ | ⟨hnot, -⟩
  · refine Or.inl ⟨woken, frame, hub, hdecode, hid, hpush, ?_⟩
    rw [receive, hmessage]
  · refine Or.inr ⟨hnot, ?_⟩
    rw [receive, hmessage]
    cases outcome with
    | queued woken => exact absurd rfl (hnot woken)
    | droppedString => rfl
    | droppedInvalid error => rfl
    | droppedWrongSession => rfl
    | droppedRefused error => rfl

/-- A packet that arrives is pushed or dropped. -/
theorem Ledger.receive (hledger : t.Ledger W) {l : L} {packet : OutboundPacket}
    (hmem : packet ∈ (t.ends l).inFlight) : Ledger W (t.receive W l packet) := by
  have hflight : (t.ends l).inFlight = packet ::ₘ (t.ends l).inFlight.erase packet :=
    (Multiset.cons_erase hmem).symm
  rcases receive_cases W t l packet with ⟨woken, frame, hub, -, -, -, hreceive⟩ | ⟨-, hreceive⟩
  · rw [hreceive]
    generalize hnew : ({ hosts := _, ends := _ } : DataPath S H L) = t'
    have hends : ∀ l', t'.ends l' = if l' = l then
        { t.ends l with inFlight := (t.ends l).inFlight.erase packet } else t.ends l' := by
      rw [← hnew]
      exact fun l' => Function.update_apply ..
    have hhosts : ∀ h, t'.hosts h = if h = W.host (W.peer l) then
        { t.hosts (W.host (W.peer l)) with
          state := { (t.hosts (W.host (W.peer l))).state with toSessionHub := hub }
          arrived := (t.hosts (W.host (W.peer l))).arrived ++ [(l, packet)] }
        else t.hosts h := by
      rw [← hnew]
      exact fun h => Function.update_apply ..
    have hqueue : ∀ h id, (t'.hosts h).state.outboundQueue id =
        (t.hosts h).state.outboundQueue id := by
      intro h id
      rw [hhosts]
      split_ifs with hh
      · rw [hh]
        rfl
      · rfl
    have hreceived : ∀ l', t'.received W l' =
        t.received W l' ++ if l' = l then [packet] else [] := by
      intro l'
      rw [received, hhosts]
      by_cases hne : l' = l
      · rw [if_pos (by rw [hne]), if_pos hne, hne, List.filter_append, List.map_append,
          List.filter_singleton]
        simp [received]
      · rw [if_neg hne, List.append_nil]
        split_ifs with hh
        · have hfilter : [(l, packet)].filter (fun a => decide (a.1 = l')) = [] := by
            simp [Ne.symm hne]
          rw [List.filter_append, hfilter, List.append_nil, received, hh]
        · rfl
    refine hledger.congr (fun l' => ?_) fun l' => ?_
    · rw [hends]
      split_ifs with hl
      · rw [hl]
      · rfl
    by_cases hne : l' = l
    · have hend := hends l'
      rw [if_pos hne, ← hne] at hend
      have hpump : (t'.ends l').pump = (t.ends l').pump := by rw [hend]
      have hheld : (t'.ends l').held = (t.ends l').held := by rw [hend]
      have herased : (t'.ends l').inFlight = (t.ends l').inFlight.erase packet := by rw [hend]
      have hlost : (t'.ends l').lost = (t.ends l').lost := by rw [hend]
      have hdropped : (t'.ends l').dropped = (t.ends l').dropped := by rw [hend]
      rw [← hne] at hflight
      rw [places, places, queued_congr hpump (hqueue _ _), hheld, herased, hlost, hdropped,
        hreceived, if_pos hne, hflight, Multiset.erase_cons_head, ← Multiset.coe_add,
        Multiset.coe_singleton, ← Multiset.singleton_add]
      ac_rfl
    · have hend := hends l'
      rw [if_neg hne] at hend
      rw [places, places, queued_congr (by rw [hend]) (hqueue _ _), hend, hreceived, if_neg hne,
        List.append_nil]
  · rw [hreceive]
    refine hledger.setEnd rfl ?_
    show (t.queued W l : Multiset OutboundPacket) +
      ((t.ends l).held.toList : List OutboundPacket) + (t.ends l).inFlight.erase packet +
      (t.ends l).lost + Multiset.map Prod.fst (_ ::ₘ (t.ends l).dropped) = _
    rw [Multiset.map_cons]
    conv_rhs => rw [hflight]
    rw [← Multiset.singleton_add, ← Multiset.singleton_add]
    ac_rfl

/-! ## The invariant -/

/-- What every step keeps. -/
structure Valid (W : Wiring E H L) (t : DataPath S H L) : Prop where
  ledger : t.Ledger W
  exclusive : t.Exclusive W
  receives : ∀ h, (t.hosts h).Receives W h
  refused : ∀ l, W.Agrees l → ∀ d ∈ (t.ends l).dropped, ∃ err, d.2 = .droppedRefused err

omit [DecidableEq H] in
/-- A step that touches no receive half and drops nothing on arrival. -/
theorem Valid.of_frame (h : t.Valid W) (hledger : t'.Ledger W)
    (hpump : ∀ l, (t'.ends l).pump = .routed → (t.ends l).pump = .routed)
    (hdropped : ∀ l, (t'.ends l).dropped = (t.ends l).dropped) (hsame : t.SameReceive t') :
    t'.Valid W where
  ledger := hledger
  exclusive := fun l l' hl hl' => h.exclusive l l' (hpump l hl) (hpump l' hl')
  receives := fun _ => hsame.receives (h.receives _)
  refused := fun l hagrees d hd => h.refused l hagrees d (by rwa [hdropped] at hd)

omit [DecidableEq H] in
theorem Valid.of_setEnd (h : t.Valid W) {l : L} {e : ChannelEnd S}
    (hledger : (t.setEnd l e).Ledger W) (hpump : e.pump = .routed → (t.ends l).pump = .routed)
    (hdropped : e.dropped = (t.ends l).dropped) : (t.setEnd l e).Valid W := by
  refine h.of_frame hledger (fun l' hl' => ?_) (fun l' => ?_) fun _ => ⟨rfl, rfl, rfl, rfl⟩
  · by_cases hne : l' = l
    · rw [hne, ends_setEnd_self] at hl'
      rw [hne]
      exact hpump hl'
    · rwa [ends_setEnd_of_ne _ _ hne] at hl'
  · by_cases hne : l' = l
    · rw [hne, ends_setEnd_self, hdropped]
    · rw [ends_setEnd_of_ne _ _ hne]

omit [DecidableEq L] [PollSender S OutboundPacket] [PollSenderContents S] [EndpointKey E] in
theorem routed_of_detach {h : H} {gone : FixedBytes 16 → Prop} [DecidablePred gone] {l : L}
    (hl : (t.detach W h gone l).pump = .routed) :
    (t.ends l).pump = .routed ∧ ¬ (W.host l = h ∧ gone (W.sessionId l)) := by
  rw [detach] at hl
  split_ifs at hl with hgone
  · exact absurd hl (Pump.detach_ne_routed _ _)
  · exact ⟨hl, hgone⟩

omit [DecidableEq L] [PollSender S OutboundPacket] [PollSenderContents S] [EndpointKey E] in
theorem dropped_detach (h : H) (gone : FixedBytes 16 → Prop) [DecidablePred gone] (l : L) :
    (t.detach W h gone l).dropped = (t.ends l).dropped := by
  rw [detach]
  split_ifs
  · rfl
  · rfl

theorem Valid.unregister (h : t.Valid W) (host : H) (sessionId : FixedBytes 16) :
    (t.unregister W host sessionId).Valid W :=
  h.of_frame (h.ledger.unregister host sessionId) (fun _ hl => (routed_of_detach hl).1)
    (dropped_detach host (· = sessionId))
    (sameReceive_setState (toSessionHub_unregisterOutboundSession ..))

omit [DecidableEq H] in
theorem Valid.stop (h : t.Valid W) (l : L) : (t.stop W l).Valid W :=
  h.of_setEnd (h.ledger.stop l) (fun habs => by cases habs) rfl

/-- The hub of a node closes. -/
theorem Valid.closeHub (h : t.Valid W) (host : H) :
    Valid W { t.setState host (t.hosts host).state.close.1 with
      ends := t.detach W host fun _ => True } := by
  refine ⟨h.ledger.closeHub host, fun l l' hl hl' => ?_, fun host' => ?_, fun l hagrees d hd => ?_⟩
  · exact h.exclusive l l' (routed_of_detach hl).1 (routed_of_detach hl').1
  · show ((t.setState host _).hosts host').Receives W host'
    rw [hosts_setState]
    split_ifs with hh
    · subst hh
      refine ⟨?_, (h.receives host').arrived⟩
      have hclose : Transcript.PushesDecoded .close := fun _ habs => by cases habs
      exact (h.receives host').balanced.step hclose
    · exact h.receives host'
  · refine h.refused l hagrees d ?_
    rwa [← dropped_detach host (fun _ => True) l]

/-- An end registers its route. -/
theorem Valid.attach (h : t.Valid W) {l : L} (hpump : (t.ends l).pump = .unattached)
    (hopen : (t.hosts (W.host l)).state.closed = false) :
    Valid W (DataPath.setEnd
      { t.setState (W.host l)
          ((t.hosts (W.host l)).state.registerOutboundSession (W.sessionId l)) with
        ends := t.detach W (W.host l) (· = W.sessionId l) }
      l { t.ends l with pump := .routed }) := by
  have hother : ∀ l', l' ≠ l → ∀ u : DataPath S H L, u = DataPath.setEnd
      { t.setState (W.host l)
          ((t.hosts (W.host l)).state.registerOutboundSession (W.sessionId l)) with
        ends := t.detach W (W.host l) (· = W.sessionId l) }
      l { t.ends l with pump := .routed } → (u.ends l').pump = .routed →
        (t.ends l').pump = .routed ∧ ¬ (W.host l' = W.host l ∧ W.sessionId l' = W.sessionId l) := by
    rintro l' hne u rfl hl'
    rw [ends_setEnd_of_ne _ _ hne] at hl'
    exact routed_of_detach hl'
  refine ⟨h.ledger.attach hpump hopen, fun l₁ l₂ h₁ h₂ hhost hid => ?_, fun host => ?_,
    fun l' hagrees d hd => ?_⟩
  · by_cases hne₁ : l₁ = l
    · by_cases hne₂ : l₂ = l
      · rw [hne₁, hne₂]
      · rw [hne₁] at hhost hid
        exact absurd ⟨hhost, hid⟩ (hother l₂ hne₂ _ rfl h₂).2
    · obtain ⟨hr₁, hn₁⟩ := hother l₁ hne₁ _ rfl h₁
      by_cases hne₂ : l₂ = l
      · rw [hne₂] at hhost hid
        exact absurd ⟨hhost.symm, hid.symm⟩ hn₁
      · exact h.exclusive l₁ l₂ hr₁ (hother l₂ hne₂ _ rfl h₂).1 hhost hid
  · have hsame := sameReceive_setState (toSessionHub_registerOutboundSession
      (t.hosts (W.host l)).state (W.sessionId l))
    exact hsame.receives (h.receives host)
  · refine h.refused l' hagrees d ?_
    by_cases hne : l' = l
    · rw [hne, ends_setEnd_self] at hd
      rwa [hne]
    · rw [ends_setEnd_of_ne _ _ hne] at hd
      rwa [← dropped_detach (W.host l) (· = W.sessionId l) l']

theorem Valid.transmit (h : t.Valid W) {host : H} {state' : SessionState S}
    {sessionId : FixedBytes 16} {packet : OutboundPacket} {dst : CustomAddr} {transmit : Transmit}
    (hpacket : sentPacket E (W.pointerWidth host) (W.maxPayloadLen host) dst transmit =
      some (sessionId, packet))
    (happends : (t.hosts host).state.Appends state' sessionId packet)
    (hhub : state'.toSessionHub = (t.hosts host).state.toSessionHub) :
    Valid W { t.setState host state' with ends := t.accept W host sessionId (dst, transmit) } := by
  refine h.of_frame (h.ledger.transmit hpacket happends) (fun l hl => ?_) (fun l => ?_)
    (sameReceive_setState hhub)
  · have hpump : (t.accept W host sessionId (dst, transmit) l).pump = .routed := hl
    rw [accept] at hpump
    split_ifs at hpump
    · exact hpump
    · exact hpump
  · show (t.accept W host sessionId (dst, transmit) l).dropped = _
    rw [accept]
    split_ifs
    · rfl
    · rfl

theorem Valid.setState (h : t.Valid W) {host : H} {state' : SessionState S}
    (hsame : (t.hosts host).state.SameQueues state')
    (hhub : state'.toSessionHub = (t.hosts host).state.toSessionHub) :
    (t.setState host state').Valid W :=
  h.of_frame (h.ledger.setState hsame) (fun _ hl => hl) (fun _ => rfl) (sameReceive_setState hhub)

theorem Valid.pumpRecvRouted (h : t.Valid W) {l : L} (hheld : (t.ends l).held = none)
    (hpump : (t.ends l).pump = .routed) {packet : OutboundPacket} {state' : SessionState S}
    {woken : Option Waker} (hrecv : (t.hosts (W.host l)).state.recvOutbound (W.sessionId l) =
      some (packet, state', woken)) :
    Valid W ((t.setState (W.host l) state').setEnd l { t.ends l with held := some packet }) := by
  refine h.of_frame (h.ledger.pumpRecvRouted h.exclusive hheld hpump hrecv) (fun l' hl' => ?_)
    (fun l' => ?_) (sameReceive_setState (toSessionHub_recvOutbound hrecv))
  · by_cases hne : l' = l
    · rw [hne]
      exact hpump
    · rw [ends_setEnd_of_ne _ _ hne] at hl'
      exact hl'
  · by_cases hne : l' = l
    · rw [hne, ends_setEnd_self]
    · rw [ends_setEnd_of_ne _ _ hne]
      rfl

omit [DecidableEq H] in
/-- A packet that is on its way comes from a transmit that was accepted. -/
theorem Ledger.exists_sent (hledger : t.Ledger W) {l : L} {packet : OutboundPacket}
    (hmem : packet ∈ t.places W l) : ∃ dst transmit, (dst, transmit) ∈ (t.ends l).accepted ∧
      sentPacket E (W.pointerWidth (W.host l)) (W.maxPayloadLen (W.host l)) dst transmit =
        some (W.sessionId l, packet) := by
  have hsent : some (W.sessionId l, packet) ∈ (t.ends l).accepted.map (sent W l) := by
    rw [hledger l]
    exact Multiset.mem_map_of_mem _ hmem
  obtain ⟨⟨dst, transmit⟩, haccepted, hpacket⟩ := Multiset.mem_map.mp hsent
  exact ⟨dst, transmit, haccepted, hpacket⟩

omit [EndpointKey E] [DecidableEq H] in
theorem mem_places_of_inFlight {l : L} {packet : OutboundPacket}
    (hmem : packet ∈ (t.ends l).inFlight) : packet ∈ t.places W l := by
  simp only [places, Multiset.mem_add]
  exact Or.inl (Or.inl (Or.inl (Or.inr hmem)))

omit [DecidableEq H] in
/-- Between ends that agree, a packet is dropped because the hub refuses it. -/
theorem Ledger.exists_refused (hledger : t.Ledger W) {l : L} (hagrees : W.Agrees l)
    {packet : OutboundPacket} (hmem : packet ∈ (t.ends l).inFlight)
    (hnot : ∀ woken, (t.outcomeOf W l packet).1 ≠ .queued woken) :
    ∃ err, (t.outcomeOf W l packet).1 = .droppedRefused err := by
  obtain ⟨dst, transmit, -, hpacket⟩ := hledger.exists_sent (mem_places_of_inFlight hmem)
  have hlength := length_of_sentPacket hpacket
  have hlimit := hagrees.maxPayloadLen
  rw [outcomeOf, hagrees.sessionId, onMessage_of_sentPacket hpacket hagrees.valid,
    if_neg (by omega)] at hnot ⊢
  split at hnot
  · rename_i err hub hpush
    exact ⟨err, rfl⟩
  · exact absurd rfl (hnot _)

omit [PollSender S OutboundPacket] [PollSenderContents S] in
/-- Of the ends, only the one that the packet is from changes. -/
theorem ends_receive (W : Wiring E H L) (t : DataPath S H L) (l : L) (packet : OutboundPacket) :
    ∃ dropped, (t.receive W l packet).ends = Function.update t.ends l { t.ends l with
        inFlight := (t.ends l).inFlight.erase packet, dropped := dropped } ∧
      (dropped = (t.ends l).dropped ∨ (∀ woken, (t.outcomeOf W l packet).1 ≠ .queued woken) ∧
        dropped = (packet, (t.outcomeOf W l packet).1) ::ₘ (t.ends l).dropped) := by
  rcases receive_cases W t l packet with ⟨_, _, _, -, -, -, hreceive⟩ | ⟨hnot, hreceive⟩
  · exact ⟨_, by rw [hreceive], Or.inl rfl⟩
  · exact ⟨_, by rw [hreceive]; rfl, Or.inr ⟨hnot, rfl⟩⟩

theorem Valid.receive (h : t.Valid W) {l : L} {packet : OutboundPacket}
    (hmem : packet ∈ (t.ends l).inFlight) : (t.receive W l packet).Valid W := by
  obtain ⟨dropped, hends, hdropped⟩ := ends_receive W t l packet
  have hpump : ∀ l', ((t.receive W l packet).ends l').pump = (t.ends l').pump := by
    intro l'
    rw [hends, Function.update_apply]
    split_ifs with hne
    · rw [hne]
    · rfl
  refine ⟨h.ledger.receive hmem, fun l₁ l₂ h₁ h₂ => ?_, fun host => ?_, fun l' hagrees d hd => ?_⟩
  · rw [hpump] at h₁ h₂
    exact h.exclusive l₁ l₂ h₁ h₂
  · rcases receive_cases W t l packet with ⟨woken, frame, hub, hdecode, hid, hpush, hreceive⟩ |
      ⟨-, hreceive⟩ <;> rw [hreceive]
    · show (Function.update t.hosts _ _ host).Receives W host
      rw [Function.update_apply]
      split_ifs with hh
      · subst hh
        have hqueued : W.queuedPacket (l, packet) = some ⟨W.remoteAddr (W.peer l), frame⟩ := by
          simp only [Wiring.queuedPacket, hdecode]
        have hpushes : Transcript.PushesDecoded (.push ⟨W.remoteAddr (W.peer l), frame⟩) := by
          rintro p hp
          obtain rfl := EndpointEvent.push.inj hp
          exact (WebRtcPacketFrame.decode_eq_ok.mp hdecode).1
        refine ⟨?_, fun a ha => ?_⟩
        · have hbalanced := (h.receives (W.host (W.peer l))).balanced.step hpushes
          simp only [Transcript.step, PathHost.transcript, hpush] at hbalanced
          have hsingle : [(l, packet)].filterMap W.queuedPacket =
              [⟨W.remoteAddr (W.peer l), frame⟩] := by
            rw [List.filterMap_cons_some hqueued, List.filterMap_nil]
          rw [PathHost.transcript, List.filterMap_append, hsingle]
          exact hbalanced
        · rcases List.mem_append.mp ha with ha | ha
          · exact (h.receives _).arrived a ha
          · obtain rfl := List.mem_singleton.mp ha
            exact ⟨rfl, frame, hdecode, hid⟩
      · exact h.receives host
    · exact h.receives host
  · rw [hends, Function.update_apply] at hd
    split_ifs at hd with hne
    · subst hne
      rcases hdropped with rfl | ⟨hnot, rfl⟩
      · exact h.refused l' hagrees d hd
      · rcases Multiset.mem_cons.mp hd with rfl | hd
        · exact h.ledger.exists_refused hagrees hmem hnot
        · exact h.refused l' hagrees d hd
    · exact h.refused l' hagrees d hd

/-- A poll hands out what the endpoint owes. -/
theorem Valid.poll (h : t.Valid W) (host : H) (cx : Waker) (bufs : List (List UInt8))
    {r : Poll (Except IoError (List Received))} {ep : WebRtcEndpoint}
    (hpoll : WebRtcEndpoint.pollRecv cx
      ⟨(t.hosts host).state.toSessionHub, (t.hosts host).pending⟩ bufs = (r, ep)) :
    Valid W { t with
      hosts := Function.update t.hosts host { t.hosts host with
        state := { (t.hosts host).state with toSessionHub := ep.hub }
        pending := ep.pending
        delivered := (t.hosts host).delivered ++ deliveredBy r } } := by
  generalize hnew : { t with hosts := _ } = t'
  have hends : t'.ends = t.ends := by rw [← hnew]
  have hhosts : ∀ host', t'.hosts host' = if host' = host then { t.hosts host with
        state := { (t.hosts host).state with toSessionHub := ep.hub }
        pending := ep.pending
        delivered := (t.hosts host).delivered ++ deliveredBy r } else t.hosts host' := by
    rw [← hnew]
    exact fun _ => Function.update_apply ..
  refine ⟨?_, fun l l' => ?_, fun host' => ?_, fun l => ?_⟩
  · refine h.ledger.congr (fun l => by rw [hends]) fun l => ?_
    refine places_congr (queued_congr (by rw [hends]) ?_) ?_ ?_ ?_ ?_ ?_
    · rw [hhosts]
      split_ifs with hh
      · rw [hh]
        rfl
      · rfl
    · rw [hends]
    · rw [hends]
    · rw [hends]
    · rw [hends]
    · rw [hhosts]
      split_ifs with hh
      · rw [hh]
      · rfl
  · rw [hends]
    exact h.exclusive l l'
  · rw [hhosts]
    split_ifs with hh
    · subst hh
      have hpolls : Transcript.PushesDecoded (.poll cx bufs) := fun _ habs => by cases habs
      have hbalanced := (h.receives host').balanced.step hpolls
      simp only [Transcript.step, PathHost.transcript, hpoll] at hbalanced
      exact ⟨hbalanced, (h.receives host').arrived⟩
    · exact h.receives host'
  · rw [hends]
    exact h.refused l

theorem Valid.step (h : t.Valid W) {op : DataPathOp H L} (hstep : t.step W op = some t') :
    t'.Valid W := by
  cases op with
  | attach l =>
    simp only [DataPath.step] at hstep
    split at hstep
    · rename_i hpump
      split_ifs at hstep with hclosed
      · obtain rfl := Option.some.inj hstep
        refine h.of_setEnd (h.ledger.setEnd rfl ?_) (fun habs => by cases habs) rfl
        rw [queued, hpump]
        show (contents (PollSender.channel _ : S) : Multiset OutboundPacket) + _ + _ + _ + _ = _
        rw [contents_channel]
        rfl
      · obtain rfl := Option.some.inj hstep
        exact h.attach hpump (Bool.eq_false_iff.mpr hclosed)
    · cases hstep
  | transmit host cx dst transmit =>
    simp only [DataPath.step] at hstep
    split at hstep
    · cases hstep
    · rename_i sessionId packet state hpacket hsend
      obtain rfl := Option.some.inj hstep
      rcases pollSend_queues hsend with ⟨-, id, packet', hpacket', happends⟩ | ⟨hne, -⟩
      · obtain ⟨rfl, rfl⟩ := Prod.mk.inj (Option.some.inj (hpacket.symm.trans hpacket'))
        exact h.transmit hpacket happends (toSessionHub_pollSend hsend)
      · exact absurd rfl hne
    · rename_i r state hsend hnot
      obtain rfl := Option.some.inj hstep
      rcases pollSend_queues hsend with ⟨rfl, id, packet, hpacket, -⟩ | ⟨-, hsame⟩
      · exact (hnot id packet hpacket rfl).elim
      · exact h.setState hsame (toSessionHub_pollSend hsend)
  | pumpRecv l =>
    simp only [DataPath.step] at hstep
    split at hstep
    · rename_i hheld hpump
      obtain ⟨⟨packet, state, woken⟩, hrecv, rfl⟩ := Option.map_eq_some_iff.mp hstep
      exact h.pumpRecvRouted hheld hpump hrecv
    · rename_i channel hheld hpump
      obtain ⟨⟨packet, woken, channel'⟩, hrecv, rfl⟩ := Option.map_eq_some_iff.mp hstep
      exact h.of_setEnd (h.ledger.pumpRecvDetached hheld hpump hrecv)
        (fun habs => by cases habs) rfl
    · cases hstep
  | pumpSend l =>
    obtain ⟨packet, hheld, rfl⟩ := Option.map_eq_some_iff.mp hstep
    exact h.of_setEnd (h.ledger.pumpSend hheld) id rfl
  | pumpStop l =>
    simp only [DataPath.step] at hstep
    split at hstep
    · cases hstep
    · cases hstep
    · obtain rfl := Option.some.inj hstep
      exact (h.unregister _ _).stop l
    · obtain rfl := Option.some.inj hstep
      exact (h.unregister _ _).stop l
  | pumpEnd l =>
    simp only [DataPath.step] at hstep
    split at hstep
    · split_ifs at hstep
      obtain rfl := Option.some.inj hstep
      exact h.stop l
    · cases hstep
  | channelClosed l =>
    simp only [DataPath.step] at hstep
    split at hstep
    · cases hstep
    · obtain rfl := Option.some.inj hstep
      exact h.unregister _ _
  | closeHub host =>
    obtain rfl := Option.some.inj hstep
    exact h.closeHub host
  | lose l packet =>
    simp only [DataPath.step] at hstep
    split_ifs at hstep with hmem
    obtain rfl := Option.some.inj hstep
    exact h.of_setEnd (h.ledger.lose hmem) id rfl
  | deliver l packet =>
    simp only [DataPath.step] at hstep
    split at hstep
    · cases hstep
    · split_ifs at hstep with hmem
      obtain rfl := Option.some.inj hstep
      exact h.receive hmem
  | poll host cx bufs =>
    simp only [DataPath.step] at hstep
    obtain rfl := Option.some.inj hstep
    exact h.poll host cx bufs (Prod.mk.eta).symm

omit [DecidableEq H] in
theorem valid_new (recvCapacity outboundCapacity : H → ℕ) :
    Valid W (new recvCapacity outboundCapacity : DataPath S H L) where
  ledger := fun _ => rfl
  exclusive := fun _ _ h _ => by cases h
  receives := fun h => ⟨Transcript.balanced_new (recvCapacity h), nofun⟩
  refused := fun _ _ _ hd => absurd hd (Multiset.notMem_zero _)

/-! ## What a node is handed -/

omit [DecidableEq H] [DecidableEq L] [EndpointKey E] [PollSender S OutboundPacket]
  [PollSenderContents S] in
/-- What the bytes decode to does not depend on the limits of the decoder. -/
theorem decode_unique {pw pw' : PointerWidth} {bytes : List UInt8} {limit limit' : ℕ}
    {frame frame' : WebRtcPacketFrame} (h : WebRtcPacketFrame.decode pw bytes limit = .ok frame)
    (h' : WebRtcPacketFrame.decode pw' bytes limit' = .ok frame') : frame = frame' := by
  rw [WebRtcPacketFrame.decode] at h h'
  cases hheader : decodeHeader bytes with
  | error err =>
    rw [hheader] at h
    cases h
  | ok header =>
    rw [hheader] at h h'
    simp only at h h'
    split_ifs at h h'
    exact (Except.ok.inj h).symm.trans (Except.ok.inj h')

omit [DecidableEq H] [DecidableEq L] [EndpointKey E] [PollSender S OutboundPacket]
  [PollSenderContents S] in
/-- The segments of a transmit are those of its frame. -/
theorem cut_normalized {transmit : Transmit} (flags : UInt8) (sessionId : FixedBytes 16)
    (hne : transmit.contents ≠ []) (h0 : transmit.segmentSize ≠ some 0) :
    cut ((WebRtcPacketFrame.normalized
        ⟨flags, sessionId, transmit.segmentSize, transmit.contents⟩).segmentSize.getD
          transmit.contents.length) transmit.contents = transmit.segments := by
  rw [Transmit.segments]
  cases hsize : transmit.segmentSize with
  | none => rfl
  | some size =>
    have hpos : 0 < size := Nat.pos_of_ne_zero fun hzero => h0 (by rw [hsize, hzero])
    by_cases hlt : size < transmit.contents.length
    · simp [WebRtcPacketFrame.normalized, Option.filter, hlt]
    · have hlen := List.length_pos_iff.mpr hne
      simp only [WebRtcPacketFrame.normalized, Option.filter, hlt, decide_false,
        Bool.false_eq_true, if_false, Option.getD_none, Option.getD_some]
      rw [cut_of_le hlen hne le_rfl, cut_of_le hpos hne (not_lt.mp hlt)]

/-- The datagrams in a packet, in the order of its contents. -/
def burst (maxPayloadLen : ℕ) (pw : PointerWidth) (packet : OutboundPacket) : List (List UInt8) :=
  match WebRtcPacketFrame.decode pw packet.bytes maxPayloadLen with
  | .error _ => []
  | .ok frame => cut (frame.segmentSize.getD frame.payload.length) frame.payload

omit [DecidableEq H] [DecidableEq L] [PollSender S OutboundPacket] [PollSenderContents S] in
/-- The packet of a transmit carries the segments of the transmit. -/
theorem burst_of_sentPacket {pw : PointerWidth} {maxPayloadLen : ℕ} {dst : CustomAddr}
    {transmit : Transmit} {sessionId : FixedBytes 16} {packet : OutboundPacket}
    (h : sentPacket E pw maxPayloadLen dst transmit = some (sessionId, packet)) :
    burst maxPayloadLen pw packet = transmit.segments := by
  obtain ⟨-, -, hdecode⟩ := decode_sentPacket h
  have hencode : transmit.contents ≠ [] ∧ transmit.segmentSize ≠ some 0 := by
    unfold sentPacket at h
    split at h
    · cases h
    split at h
    · rename_i hencode
      obtain ⟨hne, -, -, h0, -⟩ := WebRtcPacketFrame.encode_eq_ok.mp hencode
      exact ⟨hne, h0⟩
    · cases h
  simp only [burst, hdecode]
  exact cut_normalized 0 sessionId hencode.1 hencode.2

omit [DecidableEq H] in
/-- What an end has accepted, by what its packets carry. -/
theorem Ledger.segments_accepted (hledger : t.Ledger W) (l : L) :
    (t.ends l).accepted.map (fun s => s.2.segments) =
      (t.places W l).map (burst (W.maxPayloadLen (W.host l)) (W.pointerWidth (W.host l))) := by
  let read (o : Option (FixedBytes 16 × OutboundPacket)) : List (List UInt8) :=
    (o.map fun p => burst (W.maxPayloadLen (W.host l)) (W.pointerWidth (W.host l)) p.2).getD []
  have hread : ∀ s ∈ (t.ends l).accepted, s.2.segments = read (sent W l s) := by
    intro s hs
    have hmem : sent W l s ∈ (t.places W l).map fun packet => some (W.sessionId l, packet) := by
      rw [← hledger l]
      exact Multiset.mem_map_of_mem _ hs
    obtain ⟨packet, -, hpacket⟩ := Multiset.mem_map.mp hmem
    rw [← hpacket]
    exact (burst_of_sentPacket hpacket.symm).symm
  calc (t.ends l).accepted.map (fun s => s.2.segments)
      = (t.ends l).accepted.map (fun s => read (sent W l s)) := Multiset.map_congr rfl hread
    _ = ((t.ends l).accepted.map (sent W l)).map read := (Multiset.map_map read (sent W l) _).symm
    _ = ((t.places W l).map fun packet => some (W.sessionId l, packet)).map read := by
      rw [hledger l]
    _ = (t.places W l).map
        (burst (W.maxPayloadLen (W.host l)) (W.pointerWidth (W.host l))) := Multiset.map_map ..

omit [DecidableEq H] in
/-- What the other end reads in a packet that it queued is what the packet carries. -/
theorem Valid.burst_of_received (h : t.Valid W) {l : L} {packet : OutboundPacket}
    (hmem : packet ∈ t.received W l) :
    burst (W.frame (W.peer l)).maxPayloadLen (W.pointerWidth (W.host (W.peer l))) packet =
      burst (W.maxPayloadLen (W.host l)) (W.pointerWidth (W.host l)) packet := by
  have hplace : packet ∈ t.places W l := by
    simp only [places, Multiset.mem_add]
    exact Or.inr hmem
  obtain ⟨dst, transmit, -, hpacket⟩ := h.ledger.exists_sent hplace
  obtain ⟨-, -, hdecode⟩ := decode_sentPacket hpacket
  obtain ⟨⟨l', packet'⟩, ha, rfl⟩ := List.mem_map.mp hmem
  obtain ⟨harrived, hl⟩ := List.mem_filter.mp ha
  obtain rfl : l' = l := of_decide_eq_true hl
  obtain ⟨frame, hother, -⟩ := ((h.receives _).arrived _ harrived).2
  simp only [burst, hother, hdecode]
  rw [decode_unique hother hdecode]

omit [DecidableEq H] in
/-- What arrives was sent between ends of one session: the sender puts its own into the header, and
the other end compares it with its own. -/
theorem Valid.sessionId_of_arrived (h : t.Valid W) {host : H} {a : L × OutboundPacket}
    (ha : a ∈ (t.hosts host).arrived) : W.sessionId (W.peer a.1) = W.sessionId a.1 := by
  obtain ⟨rfl, frame, hopen, hid⟩ := (h.receives host).arrived a ha
  have hreceived : a.2 ∈ t.received W a.1 := by
    rw [received]
    exact List.mem_map_of_mem (List.mem_filter.mpr ⟨ha, decide_eq_true rfl⟩)
  have hplace : a.2 ∈ t.places W a.1 := by
    simp only [places, Multiset.mem_add]
    exact Or.inr hreceived
  obtain ⟨dst, transmit, -, hpacket⟩ := h.ledger.exists_sent hplace
  obtain ⟨-, -, hdecode⟩ := decode_sentPacket hpacket
  rw [← hid, decode_unique hopen hdecode]
  rfl

/-- What a packet carries, as the end reads it that it was sent to. -/
def readBurst (W : Wiring E H L) (a : L × OutboundPacket) : List (List UInt8) :=
  burst (W.frame (W.peer a.1)).maxPayloadLen (W.pointerWidth (W.host (W.peer a.1))) a.2

omit [DecidableEq H] [EndpointKey E] [PollSender S OutboundPacket] [PollSenderContents S] in
theorem filter_readBurst (arrived : List (L × OutboundPacket)) (l : L) :
    ((arrived.map fun a => (a.1, readBurst W a)).filter fun a => a.1 = l).map Prod.snd =
      (arrived.filter fun a => a.1 = l).map (readBurst W) := by
  rw [List.filter_map, List.map_map]
  rfl

/-- Of what arrives over the channel of an end, no more comes than the end accepted. -/
theorem Valid.readBurst_le (h : t.Valid W) (host : H) (l : L) :
    ((((t.hosts host).arrived.filter fun a => a.1 = l).map (readBurst W) :
        List (List (List UInt8))) : Multiset (List (List UInt8))) ≤
      (t.ends l).accepted.map (fun s => s.2.segments) := by
  by_cases hh : W.host (W.peer l) = host
  · have hreceived : ((t.hosts host).arrived.filter fun a => a.1 = l).map (readBurst W) =
        (t.received W l).map (burst (W.maxPayloadLen (W.host l)) (W.pointerWidth (W.host l))) := by
      rw [received, List.map_map, hh]
      refine List.map_congr_left fun a ha => ?_
      obtain rfl : a.1 = l := of_decide_eq_true (List.mem_filter.mp ha).2
      refine h.burst_of_received ?_
      rw [received, hh]
      exact List.mem_map_of_mem ha
    rw [hreceived, h.ledger.segments_accepted l, ← Multiset.map_coe]
    exact Multiset.map_le_map (Multiset.le_add_left _ _)
  · have hnone : ((t.hosts host).arrived.filter fun a => a.1 = l) = [] := by
      refine List.filter_eq_nil_iff.mpr fun a ha hl => hh ?_
      rw [← ((h.receives host).arrived a ha).1, of_decide_eq_true hl]
    rw [hnone]
    exact Multiset.zero_le _

/-- **From a transmit to the peer.**  Let any number of nodes be connected by any number of data
channels, and let transmits, pumps, deliveries, losses, polls, and channels and hubs that close
interleave in any way.  Then what the polls of a node have handed out, followed by what its endpoint
still owes, are the datagrams of a list of arrivals.  Each arrival comes over a channel of the node
whose two ends are attached for one session, and stands under the address of that session; its
datagrams are the segments, whole and in order, of a transmit that the other end accepted for that
session, and no transmit is used more often than it was accepted.

Over a channel whose ends are attached for different sessions nothing arrives: `on_message` drops
what is not for its own. -/
theorem delivered_of_accepted (W : Wiring E H L) (recvCapacity outboundCapacity : H → ℕ)
    {ops : List (DataPathOp H L)} {t : DataPath S H L}
    (hrun : Runs.run (step W) (new recvCapacity outboundCapacity) ops = some t) (h : H) :
    ∃ arrivals : List (L × List (List UInt8)),
      (t.hosts h).delivered ++
          WebRtcEndpoint.owed ⟨(t.hosts h).state.toSessionHub, (t.hosts h).pending⟩ =
        arrivals.flatMap (fun a => a.2.map (Prod.mk (W.remoteAddr (W.peer a.1)))) ∧
      (∀ a ∈ arrivals, W.host (W.peer a.1) = h ∧ W.sessionId (W.peer a.1) = W.sessionId a.1) ∧
      ∀ l, (((arrivals.filter fun a => a.1 = l).map Prod.snd : List (List (List UInt8))) :
          Multiset (List (List UInt8))) ≤ (t.ends l).accepted.map (fun s => s.2.segments) ∧
        ∀ s ∈ (t.ends l).accepted,
          sessionIdFromDestination E s.1 = some (W.sessionId l) := by
  have hvalid : Valid W t :=
    Runs.run_invariant (fun _ _ _ h hstep => h.step hstep)
      (valid_new recvCapacity outboundCapacity) hrun
  have hreceives := hvalid.receives h
  refine ⟨(t.hosts h).arrived.map fun a => (a.1, readBurst W a), ?_, ?_, fun l =>
    ⟨?_, fun s hs => ?_⟩⟩
  · have hbalance := hreceives.balanced.balance
    rw [PathHost.transcript] at hbalance
    rw [hbalance, List.flatMap_map, List.filterMap_eq_flatMap_toList, List.flatMap_assoc]
    refine List.flatMap_congr fun a _ => ?_
    simp only [Wiring.queuedPacket, readBurst, burst]
    cases WebRtcPacketFrame.decode (W.pointerWidth (W.host (W.peer a.1))) a.2.bytes
        (W.frame (W.peer a.1)).maxPayloadLen with
    | error err => rfl
    | ok frame => exact List.flatMap_singleton ..
  · intro a ha
    obtain ⟨b, hb, rfl⟩ := List.mem_map.mp ha
    exact ⟨(hreceives.arrived b hb).1, hvalid.sessionId_of_arrived hb⟩
  · rw [filter_readBurst]
    exact hvalid.readBurst_le h l
  · have hmem : sent W l s ∈ (t.places W l).map fun packet => some (W.sessionId l, packet) := by
      rw [← hvalid.ledger l]
      exact Multiset.mem_map_of_mem _ hs
    obtain ⟨packet, -, hpacket⟩ := Multiset.mem_map.mp hmem
    exact (decode_sentPacket hpacket.symm).1

/-- **Where a packet is.**  In every such run, the packets of the transmits that an end accepted
are, with their multiplicity, those that wait for its pump, that the pump holds, that are in flight,
that were lost with the channel or the pump, that the other end dropped, and that the other end
pushed into its hub.  When the two ends agree on the session and on the size of a frame, every one
that was dropped was refused by the hub. -/
theorem accepted_accounted (W : Wiring E H L) (recvCapacity outboundCapacity : H → ℕ)
    {ops : List (DataPathOp H L)} {t : DataPath S H L}
    (hrun : Runs.run (step W) (new recvCapacity outboundCapacity) ops = some t) (l : L) :
    ((t.ends l).accepted.map fun s => sentPacket E (W.pointerWidth (W.host l))
        (W.maxPayloadLen (W.host l)) s.1 s.2) =
      (((t.queued W l : List OutboundPacket) : Multiset OutboundPacket) +
        ((t.ends l).held.toList : List OutboundPacket) + (t.ends l).inFlight + (t.ends l).lost +
        (t.ends l).dropped.map Prod.fst + (t.received W l : List OutboundPacket)).map
          (fun packet => some (W.sessionId l, packet)) ∧
      (W.Agrees l → ∀ d ∈ (t.ends l).dropped, ∃ err, d.2 = .droppedRefused err) := by
  have hvalid : Valid W t :=
    Runs.run_invariant (fun _ _ _ h hstep => h.step hstep)
      (valid_new recvCapacity outboundCapacity) hrun
  exact ⟨hvalid.ledger l, hvalid.refused l⟩

end Channel

section Sample

open scoped Sample
open Sample

/-- One channel between two nodes. -/
def sampleWiring : Wiring Key Bool Bool where
  host := id
  peer := not
  peer_peer := Bool.not_not
  sessionId := fun _ => WebRtcPacketFrame.helloFrame.sessionId
  remote := fun l => if l then bob else alice
  frame := fun _ => ⟨defaultMaxPayloadLen⟩
  maxPayloadLen := fun _ => defaultMaxPayloadLen
  pointerWidth := fun _ => .w32

/-- The packet of `helloTransmit`. -/
def helloPacket : OutboundPacket :=
  ((sentPacket Key .w32 defaultMaxPayloadLen helloAddr helloTransmit).map Prod.snd).getD
    ⟨helloAddr, []⟩

/-- The transmit of one node is polled by the other. -/
def sampleOps : List (DataPathOp Bool Bool) :=
  [.attach false, .attach true, .transmit false 0 helloAddr helloTransmit, .pumpRecv false,
    .pumpSend false, .deliver false helloPacket, .poll true 0 [.replicate 20 0, .replicate 20 0]]

theorem delivered_of_accepted_sample :
    ∃ t : DataPath BoundedChannel Bool Bool,
      Runs.run (step sampleWiring) (new (fun _ => 1) fun _ => 1) sampleOps = some t ∧
      ∃ arrivals : List (Bool × List (List UInt8)),
        (t.hosts true).delivered ++
            WebRtcEndpoint.owed ⟨(t.hosts true).state.toSessionHub, (t.hosts true).pending⟩ =
          arrivals.flatMap (fun a =>
            a.2.map (Prod.mk (sampleWiring.remoteAddr (sampleWiring.peer a.1)))) ∧
        (∀ a ∈ arrivals, sampleWiring.host (sampleWiring.peer a.1) = true ∧
          sampleWiring.sessionId (sampleWiring.peer a.1) = sampleWiring.sessionId a.1) ∧
        ∀ l, (((arrivals.filter fun a => a.1 = l).map Prod.snd : List (List (List UInt8))) :
            Multiset (List (List UInt8))) ≤ (t.ends l).accepted.map (fun s => s.2.segments) ∧
          ∀ s ∈ (t.ends l).accepted,
            sessionIdFromDestination Key s.1 = some (sampleWiring.sessionId l) := by
  have hrun : ∃ t : DataPath BoundedChannel Bool Bool,
      Runs.run (step sampleWiring) (new (fun _ => 1) fun _ => 1) sampleOps = some t := ⟨_, rfl⟩
  obtain ⟨t, hrun⟩ := hrun
  exact ⟨t, hrun, delivered_of_accepted sampleWiring _ _ hrun true⟩

theorem accepted_accounted_sample :
    ∃ t : DataPath BoundedChannel Bool Bool,
      Runs.run (step sampleWiring) (new (fun _ => 1) fun _ => 1) sampleOps = some t ∧
      ((t.ends false).accepted.map fun s => sentPacket Key .w32 defaultMaxPayloadLen s.1 s.2) =
        (((t.queued sampleWiring false : List OutboundPacket) : Multiset OutboundPacket) +
          ((t.ends false).held.toList : List OutboundPacket) + (t.ends false).inFlight +
          (t.ends false).lost + (t.ends false).dropped.map Prod.fst +
          (t.received sampleWiring false : List OutboundPacket)).map
            (fun packet => some (sampleWiring.sessionId false, packet)) ∧
      (sampleWiring.Agrees false →
        ∀ d ∈ (t.ends false).dropped, ∃ err, d.2 = .droppedRefused err) := by
  have hrun : ∃ t : DataPath BoundedChannel Bool Bool,
      Runs.run (step sampleWiring) (new (fun _ => 1) fun _ => 1) sampleOps = some t := ⟨_, rfl⟩
  obtain ⟨t, hrun⟩ := hrun
  exact ⟨t, hrun, accepted_accounted sampleWiring _ _ hrun false⟩

end Sample

end DataPath

end IrohWebRtc
