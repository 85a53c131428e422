import IrohWebRtc.Core.Hub
import IrohWebRtc.Lib.Runs
import IrohWebRtc.Lib.Segments

/-!
# Receiving through the endpoint

`WebRtcEndpoint::poll_recv` of `core/endpoint.rs`.  A poll is given a row of buffers.  It fills
them one after the other from the packets of the hub: a segmented frame goes into one buffer as a
whole when it fits, and one segment at a time when it does not.  What is left of a packet when the
buffers run out, or when the next segment does not fit, stays with the endpoint for the next poll.

A buffer is its bytes, a filled one comes with its metadata and source address.  The counters and
traces of the source are left out, and so is the sender half of the endpoint.

## What a poll owes

The loop has many exits, and a caller may come with too few buffers, with small ones, or with
none.  To say of all of them at once that nothing is lost, the endpoint is read as a list of
datagrams: the segments that are left of the pending packet, and then those of the packets in the
hub (`owed`).  A poll moves a prefix of this list into its buffers, and that is all it does.  A
segmented buffer counts as the datagrams that its metadata cut it into.

## Main results

* `pollRecv_spec`: a poll hands out the datagrams that the endpoint owed, in order, and owes the
  rest afterwards.
* `delivered_append_owed`: over a whole run of pushes, polls and closes, what was delivered
  followed by what is still owed is what was accepted.
-/

namespace IrohWebRtc

open Segments

/-- The part of a receive descriptor that `poll_recv` sets. -/
structure RecvMeta where
  len : ℕ
  stride : ℕ
  deriving DecidableEq, Repr

/-- A packet of which the first `offset` payload bytes have been delivered. -/
structure PendingPacket where
  packet : QueuedPacket
  offset : ℕ
  deriving DecidableEq

structure WebRtcEndpoint where
  hub : SessionHub
  pending : Option PendingPacket
  deriving DecidableEq

/-- A filled buffer, with the descriptor and the source address of the same index. -/
structure Received where
  buf : List UInt8
  recvMeta : RecvMeta
  source : CustomAddr
  deriving DecidableEq

/-- `buf[..data.len()].copy_from_slice(data)`. -/
def copyInto (buf data : List UInt8) : List UInt8 := data ++ buf.drop data.length

namespace PendingPacket

def payloadLen (pending : PendingPacket) : ℕ := pending.packet.frame.payload.length

def stride (pending : PendingPacket) : ℕ :=
  pending.packet.frame.segmentSize.getD pending.payloadLen

def segmentLen (pending : PendingPacket) : ℕ :=
  min pending.stride (pending.payloadLen - pending.offset)

/-- The whole payload of a segmented frame in one buffer. -/
def receiveBatch (pending : PendingPacket) (buf : List UInt8) : Received where
  buf := copyInto buf pending.packet.frame.payload
  recvMeta := ⟨pending.payloadLen, pending.stride⟩
  source := pending.packet.source

/-- The next segment alone. -/
def receiveSegment (pending : PendingPacket) (buf : List UInt8) : Received where
  buf := copyInto buf
    ((pending.packet.frame.payload.drop pending.offset).take pending.segmentLen)
  recvMeta := ⟨pending.segmentLen, pending.segmentLen⟩
  source := pending.packet.source

/-- The packet after its next segment, while there is anything left of it. -/
def afterSegment (pending : PendingPacket) : Option PendingPacket :=
  if pending.offset + pending.segmentLen < pending.payloadLen then
    some { pending with offset := pending.offset + pending.segmentLen }
  else none

end PendingPacket

namespace WebRtcEndpoint

def new (hub : SessionHub) : WebRtcEndpoint := ⟨hub, none⟩

/-- The packet to continue with: the one kept from an earlier poll, or the next of the hub. -/
def nextPending (cx : Waker) (ep : WebRtcEndpoint) :
    Poll (Except IoError PendingPacket) × WebRtcEndpoint :=
  match ep.pending with
  | some pending => (.ready (.ok pending), { ep with pending := none })
  | none =>
    match ep.hub.popReceived cx with
    | (.ready (.ok packet), hub) => (.ready (.ok ⟨packet, 0⟩), { ep with hub := hub })
    | (.ready (.error err), hub) => (.ready (.error err), { ep with hub := hub })
    | (.pending, hub) => (.pending, { ep with hub := hub })

/-- What is left to look at: the packets of the hub and the one kept. -/
def backlog (ep : WebRtcEndpoint) : ℕ := ep.hub.recv.length + ep.pending.toList.length

theorem nextPending_ready {cx : Waker} {ep ep' : WebRtcEndpoint} {p : PendingPacket}
    (h : nextPending cx ep = (.ready (.ok p), ep')) :
    ep'.pending = none ∧
      ((ep.pending = some p ∧ ep'.hub = ep.hub) ∨
        (ep.pending = none ∧ p.offset = 0 ∧ ep.hub.recv = p.packet :: ep'.hub.recv)) := by
  rw [nextPending] at h
  cases hp : ep.pending with
  | some q =>
    rw [hp] at h
    simp only [Prod.mk.injEq, Poll.ready.injEq, Except.ok.injEq] at h
    obtain ⟨rfl, rfl⟩ := h
    exact ⟨rfl, Or.inl ⟨rfl, rfl⟩⟩
  | none =>
    rw [hp] at h
    rcases hpop : ep.hub.popReceived cx with ⟨r, hub⟩
    rw [hpop] at h
    rcases SessionHub.popReceived_cases hpop with ⟨packet, rfl, hrecv⟩ | ⟨rfl, -, -⟩ | ⟨rfl, -, -⟩
    · simp only [Prod.mk.injEq, Poll.ready.injEq, Except.ok.injEq] at h
      obtain ⟨rfl, rfl⟩ := h
      exact ⟨rfl, Or.inr ⟨rfl, rfl, hrecv⟩⟩
    · simp at h
    · simp at h

theorem backlog_of_nextPending {cx : Waker} {ep ep' : WebRtcEndpoint} {p : PendingPacket}
    (h : nextPending cx ep = (.ready (.ok p), ep')) : ep'.backlog + 1 = ep.backlog := by
  obtain ⟨hnone, ⟨hsome, hhub⟩ | ⟨hp, -, hrecv⟩⟩ := nextPending_ready h
  · simp [backlog, hnone, hsome, hhub]
  · simp [backlog, hnone, hp, hrecv]

/-- The loop of `poll_recv`, with the buffers `filled` so far and `bufs` to go.  A packet is taken
before the buffer is looked at, and is put back when its next segment does not fit. -/
def pollRecvLoop (cx : Waker) (ep : WebRtcEndpoint) (filled : List Received)
    (bufs : List (List UInt8)) : Poll (Except IoError (List Received)) × WebRtcEndpoint :=
  match bufs with
  | [] => (.ready (.ok filled), ep)
  | buf :: rest =>
    match _h : nextPending cx ep with
    | (.ready (.error err), ep') =>
      if 0 < filled.length then (.ready (.ok filled), ep') else (.ready (.error err), ep')
    | (.pending, ep') =>
      if 0 < filled.length then (.ready (.ok filled), ep') else (.pending, ep')
    | (.ready (.ok pending), ep') =>
      -- an empty or used-up packet is dropped, and the buffer is tried again
      if pending.payloadLen = 0 then pollRecvLoop cx ep' filled (buf :: rest)
      else if pending.payloadLen ≤ pending.offset then pollRecvLoop cx ep' filled (buf :: rest)
      else if pending.offset = 0 ∧ pending.packet.frame.segmentSize.isSome ∧
          pending.payloadLen ≤ buf.length then
        pollRecvLoop cx ep' (filled ++ [pending.receiveBatch buf]) rest
      else if buf.length < pending.segmentLen then
        if 0 < filled.length then (.ready (.ok filled), { ep' with pending := some pending })
        else
          (.ready (.error (.new .invalidData "receive buffer too small for WebRTC frame payload")),
            { ep' with pending := some pending })
      else
        pollRecvLoop cx { ep' with pending := pending.afterSegment }
          (filled ++ [pending.receiveSegment buf]) rest
termination_by bufs.length + ep.backlog
decreasing_by
  all_goals have hb := backlog_of_nextPending _h
  · simp only [List.length_cons]; omega
  · simp only [List.length_cons]; omega
  · simp only [List.length_cons]; omega
  · have hnone := (nextPending_ready _h).1
    have hlen : pending.afterSegment.toList.length ≤ 1 := Option.length_toList_le
    simp only [backlog, hnone, List.length_cons, Option.toList_none, List.length_nil] at hb ⊢
    omega

def pollRecv (cx : Waker) (ep : WebRtcEndpoint) (bufs : List (List UInt8)) :
    Poll (Except IoError (List Received)) × WebRtcEndpoint :=
  if bufs = [] then (.ready (.ok []), ep) else pollRecvLoop cx ep [] bufs

end WebRtcEndpoint

/-! ## Datagrams

A datagram is one segment, tagged with the address it came from. -/

abbrev Datagram := CustomAddr × List UInt8

/-- The datagrams of a packet: its payload cut by its segment size. -/
def QueuedPacket.datagrams (packet : QueuedPacket) : List Datagram :=
  (cut (packet.frame.segmentSize.getD packet.frame.payload.length) packet.frame.payload).map
    (Prod.mk packet.source)

/-- The datagrams of a packet that are still to be delivered. -/
def PendingPacket.datagrams (pending : PendingPacket) : List Datagram :=
  (cut pending.stride (pending.packet.frame.payload.drop pending.offset)).map
    (Prod.mk pending.packet.source)

/-- The datagrams in a filled buffer: its first `meta.len` bytes cut by `meta.stride`. -/
def Received.datagrams (received : Received) : List Datagram :=
  (cut received.recvMeta.stride (received.buf.take received.recvMeta.len)).map
    (Prod.mk received.source)

@[simp] theorem take_copyInto (buf data : List UInt8) :
    (copyInto buf data).take data.length = data := List.take_left

namespace PendingPacket

/-- There is something left to deliver, of a frame the decoder made. -/
structure WellFormed (pending : PendingPacket) : Prop where
  isNormalized : pending.packet.frame.IsNormalized
  offset_lt : pending.offset < pending.payloadLen

theorem datagrams_zero (packet : QueuedPacket) :
    datagrams ⟨packet, 0⟩ = packet.datagrams := rfl

variable {pending : PendingPacket}

theorem WellFormed.stride_pos (h : pending.WellFormed) : 0 < pending.stride := by
  rw [stride]
  cases hs : pending.packet.frame.segmentSize with
  | none => exact lt_of_le_of_lt (Nat.zero_le _) h.offset_lt
  | some s => exact h.isNormalized.segmentSize_pos s hs

theorem WellFormed.segmentLen_pos (h : pending.WellFormed) : 0 < pending.segmentLen :=
  lt_min h.stride_pos (Nat.sub_pos_of_lt h.offset_lt)

theorem datagrams_receiveBatch (h0 : pending.offset = 0) (buf : List UInt8) :
    (pending.receiveBatch buf).datagrams = pending.datagrams := by
  rw [Received.datagrams, datagrams, receiveBatch, h0, List.drop_zero, payloadLen, take_copyInto]

/-- **One segment is delivered, and the rest of the packet is still to come.** -/
theorem WellFormed.datagrams_receiveSegment (h : pending.WellFormed) (buf : List UInt8) :
    (pending.receiveSegment buf).datagrams ++
      pending.afterSegment.toList.flatMap datagrams = pending.datagrams := by
  have hstride := h.stride_pos
  have hpos := h.segmentLen_pos
  have hlen : (pending.packet.frame.payload.drop pending.offset).length =
      pending.payloadLen - pending.offset := List.length_drop
  have hne : pending.packet.frame.payload.drop pending.offset ≠ [] := by
    intro h0
    rw [h0, List.length_nil] at hlen
    have := h.offset_lt
    omega
  have hdata : ((pending.packet.frame.payload.drop pending.offset).take
      pending.segmentLen).length = pending.segmentLen := by
    rw [List.length_take, hlen, segmentLen, min_assoc, min_self]
  have htake : (pending.packet.frame.payload.drop pending.offset).take pending.segmentLen =
      (pending.packet.frame.payload.drop pending.offset).take pending.stride := by
    rw [List.take_eq_take_min (i := pending.stride), hlen, segmentLen]
  have hseg : (pending.receiveSegment buf).datagrams =
      [(pending.packet.source,
        (pending.packet.frame.payload.drop pending.offset).take pending.segmentLen)] := by
    have hcopy := take_copyInto buf
      ((pending.packet.frame.payload.drop pending.offset).take pending.segmentLen)
    rw [hdata] at hcopy
    rw [Received.datagrams, receiveSegment]
    simp only [hcopy]
    rw [cut_of_le hpos (fun h0 => ?_) hdata.le, List.map_singleton]
    rw [h0, List.length_nil] at hdata
    omega
  rw [hseg, htake, datagrams, cut_step hstride hne, List.map_cons, List.singleton_append,
    afterSegment]
  congr 1
  split_ifs with hmore
  · -- the segment is a full one, so the next starts one stride further on
    have hfull : pending.segmentLen = pending.stride := by
      rw [segmentLen] at hmore ⊢
      omega
    rw [Option.toList_some, List.flatMap_singleton, datagrams, List.drop_drop, hfull]
    rfl
  · have hlast : (pending.packet.frame.payload.drop pending.offset).length ≤ pending.stride := by
      rw [hlen]
      rw [segmentLen] at hmore
      omega
    rw [List.drop_of_length_le hlast, cut_nil]
    rfl

theorem WellFormed.afterSegment (h : pending.WellFormed) :
    ∀ p ∈ pending.afterSegment, p.WellFormed := by
  intro p hp
  rw [PendingPacket.afterSegment] at hp
  split_ifs at hp with hmore
  · obtain rfl : _ = p := Option.some.inj hp
    exact ⟨h.isNormalized, hmore⟩
  · exact absurd hp (by simp)

end PendingPacket

namespace WebRtcEndpoint

/-- The datagrams the endpoint has accepted and not yet delivered. -/
def owed (ep : WebRtcEndpoint) : List Datagram :=
  ep.pending.toList.flatMap PendingPacket.datagrams ++
    ep.hub.recv.flatMap QueuedPacket.datagrams

/-- The frames in the queue are the decoder's, and so is the one that is kept. -/
structure WellFormed (ep : WebRtcEndpoint) : Prop where
  pending : ∀ p ∈ ep.pending, p.WellFormed
  recv : ∀ packet ∈ ep.hub.recv, packet.frame.IsNormalized

variable {ep ep' : WebRtcEndpoint} {cx : Waker}

theorem nextPending_spec {p : PendingPacket} (hwf : ep.WellFormed)
    (h : nextPending cx ep = (.ready (.ok p), ep')) :
    p.WellFormed ∧ ep'.WellFormed ∧ p.datagrams ++ ep'.owed = ep.owed := by
  obtain ⟨hnone, ⟨hsome, hhub⟩ | ⟨hp, h0, hrecv⟩⟩ := nextPending_ready h
  · refine ⟨hwf.pending p hsome, ⟨by simp [hnone], by rw [hhub]; exact hwf.recv⟩, ?_⟩
    rw [owed, owed, hnone, hsome, hhub]
    simp
  · have hmem : p.packet ∈ ep.hub.recv := by rw [hrecv]; exact List.mem_cons_self
    have hnorm := hwf.recv p.packet hmem
    refine ⟨⟨hnorm, ?_⟩, ⟨by simp [hnone], fun q hq => hwf.recv q ?_⟩, ?_⟩
    · rw [h0]
      exact List.length_pos_iff.mpr hnorm.payload_ne_nil
    · rw [hrecv]
      exact List.mem_cons_of_mem _ hq
    · have hd : p.datagrams = p.packet.datagrams := by
        rw [← PendingPacket.datagrams_zero, ← h0]
      rw [owed, owed, hnone, hp, hrecv, List.flatMap_cons, hd]
      simp

/-- The hub had nothing to give: the endpoint is as it was, but for the waker. -/
theorem nextPending_stop {r : Poll (Except IoError PendingPacket)}
    (h : nextPending cx ep = (r, ep')) (hr : ∀ p, r ≠ .ready (.ok p)) :
    ep.pending = none ∧ ep'.pending = none ∧ ep.hub.recv = [] ∧ ep'.hub.recv = [] ∧
      (r = .pending ∨ r = .ready (.error (Error.toIoError .sessionClosed)) ∧ ep' = ep) := by
  rw [nextPending] at h
  cases hp : ep.pending with
  | some q =>
    rw [hp] at h
    exact absurd (Prod.mk.inj h).1.symm (hr q)
  | none =>
    rw [hp] at h
    rcases hpop : ep.hub.popReceived cx with ⟨s, hub⟩
    rw [hpop] at h
    rcases SessionHub.popReceived_cases hpop with
      ⟨packet, rfl, -⟩ | ⟨rfl, hrecv, rfl⟩ | ⟨rfl, hrecv, hrecv'⟩
    · exact absurd (Prod.mk.inj h).1.symm (hr _)
    · obtain ⟨rfl, rfl⟩ := Prod.mk.inj h
      refine ⟨rfl, rfl, hrecv, hrecv, Or.inr ⟨rfl, ?_⟩⟩
      cases ep
      simp_all
    · obtain ⟨rfl, rfl⟩ := Prod.mk.inj h
      exact ⟨rfl, rfl, hrecv, hrecv', Or.inl rfl⟩

/-- A failing poll keeps the packet it was at: the endpoint is unchanged, or it still holds the
packet it held, at the same offset, or it holds the first packet of the queue, at offset zero. -/
def KeepsPending (ep ep' : WebRtcEndpoint) : Prop :=
  ep' = ep ∨ ∃ p, ep'.pending = some p ∧
    ((ep.pending = some p ∧ ep'.hub = ep.hub) ∨
      (ep.pending = none ∧ p.offset = 0 ∧ ep.hub.recv = p.packet :: ep'.hub.recv))

/-- What a poll does, with the buffers `filled` before: it fills further ones with the first of
the datagrams that are owed, or it does nothing and waits or fails. -/
def Delivers (ep : WebRtcEndpoint) (filled : List Received)
    (r : Poll (Except IoError (List Received))) (ep' : WebRtcEndpoint) : Prop :=
  (∃ out, r = .ready (.ok (filled ++ out)) ∧
    out.flatMap Received.datagrams ++ ep'.owed = ep.owed) ∨
  (r = .pending ∧ filled = [] ∧ ep.owed = [] ∧ ep'.owed = []) ∨
  (∃ err, r = .ready (.error err) ∧ filled = [] ∧ ep'.owed = ep.owed ∧ KeepsPending ep ep')

theorem Delivers.nil (ep : WebRtcEndpoint) (filled : List Received) {ep' : WebRtcEndpoint}
    (h : ep'.owed = ep.owed) : Delivers ep filled (.ready (.ok filled)) ep' :=
  Or.inl ⟨[], by rw [List.append_nil], by rw [List.flatMap_nil, List.nil_append, h]⟩

/-- One more buffer filled before. -/
theorem Delivers.cons {ep₁ : WebRtcEndpoint} {filled : List Received} {received : Received}
    {r : Poll (Except IoError (List Received))}
    (h : Delivers ep₁ (filled ++ [received]) r ep')
    (howed : received.datagrams ++ ep₁.owed = ep.owed) : Delivers ep filled r ep' := by
  rcases h with ⟨out, rfl, hout⟩ | ⟨-, hnil, -⟩ | ⟨-, -, hnil, -⟩
  · refine Or.inl ⟨received :: out, by rw [List.append_assoc, List.singleton_append], ?_⟩
    rw [List.flatMap_cons, List.append_assoc, hout, howed]
  · exact absurd hnil (by simp)
  · exact absurd hnil (by simp)

theorem WellFormed.keep {p : PendingPacket} (hwf : ep.WellFormed) (hp : p.WellFormed) :
    { ep with pending := some p }.WellFormed where
  pending := fun q hq => by
    obtain rfl : p = q := Option.some.inj hq
    exact hp
  recv := hwf.recv

theorem owed_keep {p : PendingPacket} (hnone : ep.pending = none) :
    owed { ep with pending := some p } = p.datagrams ++ ep.owed := by
  simp [owed, hnone]

theorem pollRecvLoop_spec {filled : List Received} {bufs : List (List UInt8)}
    {r : Poll (Except IoError (List Received))} (hwf : ep.WellFormed)
    (h : pollRecvLoop cx ep filled bufs = (r, ep')) :
    ep'.WellFormed ∧ Delivers ep filled r ep' := by
  induction bufs generalizing ep filled with
  | nil =>
    rw [pollRecvLoop] at h
    obtain ⟨rfl, rfl⟩ := Prod.mk.inj h
    exact ⟨hwf, Delivers.nil _ _ rfl⟩
  | cons buf rest ih =>
    rw [pollRecvLoop] at h
    split at h
    · rename_i err ep₁ hnext
      obtain ⟨hp, hp₁, hrecv, hrecv₁, hr | ⟨-, rfl⟩⟩ := nextPending_stop hnext (by simp)
      · exact absurd hr (by simp)
      split_ifs at h with hcount
      · obtain ⟨rfl, rfl⟩ := Prod.mk.inj h
        exact ⟨hwf, Delivers.nil _ _ rfl⟩
      · obtain ⟨rfl, rfl⟩ := Prod.mk.inj h
        exact ⟨hwf, Or.inr (Or.inr ⟨err, rfl, List.length_eq_zero_iff.mp (by omega), rfl,
          Or.inl rfl⟩)⟩
    · rename_i ep₁ hnext
      obtain ⟨hp, hp₁, hrecv, hrecv₁, -⟩ := nextPending_stop hnext (by simp)
      have hwf₁ : ep₁.WellFormed := ⟨by simp [hp₁], by simp [hrecv₁]⟩
      have howed : ep.owed = [] := by simp [owed, hp, hrecv]
      have howed₁ : ep₁.owed = [] := by simp [owed, hp₁, hrecv₁]
      split_ifs at h with hcount
      · obtain ⟨rfl, rfl⟩ := Prod.mk.inj h
        exact ⟨hwf₁, Delivers.nil _ _ (by rw [howed, howed₁])⟩
      · obtain ⟨rfl, rfl⟩ := Prod.mk.inj h
        exact ⟨hwf₁, Or.inr (Or.inl ⟨rfl, List.length_eq_zero_iff.mp (by omega), howed, howed₁⟩)⟩
    · rename_i p ep₁ hnext
      obtain ⟨hpwf, hwf₁, howed⟩ := nextPending_spec hwf hnext
      obtain ⟨hnone₁, hfrom⟩ := nextPending_ready hnext
      have hlen := hpwf.offset_lt
      rw [if_neg (by omega), if_neg (by omega)] at h
      split_ifs at h with hbatch hshort hcount
      · -- the whole frame in one buffer
        obtain ⟨hwf', hdel⟩ := ih hwf₁ h
        refine ⟨hwf', hdel.cons ?_⟩
        rw [PendingPacket.datagrams_receiveBatch hbatch.1, howed]
      · -- the next segment does not fit, after some buffers were filled
        obtain ⟨rfl, rfl⟩ := Prod.mk.inj h
        refine ⟨hwf₁.keep hpwf, Delivers.nil _ _ ?_⟩
        rw [← howed, owed_keep hnone₁]
      · -- the next segment does not fit, and nothing was filled
        obtain ⟨rfl, rfl⟩ := Prod.mk.inj h
        refine ⟨hwf₁.keep hpwf, Or.inr (Or.inr ⟨_, rfl, List.length_eq_zero_iff.mp (by omega),
          ?_, Or.inr ⟨p, rfl, hfrom⟩⟩)⟩
        rw [← howed, owed_keep hnone₁]
      · -- one segment in the buffer
        have hwf₂ : WellFormed { ep₁ with pending := p.afterSegment } :=
          ⟨hpwf.afterSegment, hwf₁.recv⟩
        obtain ⟨hwf', hdel⟩ := ih hwf₂ h
        refine ⟨hwf', hdel.cons ?_⟩
        have hrest : ep₁.owed = ep₁.hub.recv.flatMap QueuedPacket.datagrams := by
          simp [owed, hnone₁]
        rw [← howed, hrest, ← hpwf.datagrams_receiveSegment buf, List.append_assoc]
        rfl

theorem pollRecv_spec {bufs : List (List UInt8)} {r : Poll (Except IoError (List Received))}
    (hwf : ep.WellFormed) (h : pollRecv cx ep bufs = (r, ep')) :
    ep'.WellFormed ∧ Delivers ep [] r ep' := by
  rw [pollRecv] at h
  split_ifs at h with hbufs
  · obtain ⟨rfl, rfl⟩ := Prod.mk.inj h
    exact ⟨hwf, Delivers.nil _ _ rfl⟩
  · exact pollRecvLoop_spec hwf h

end WebRtcEndpoint

/-! ## Runs -/

/-- What happens to one endpoint and its hub: packets are pushed, the endpoint is polled with a row
of buffers, the hub is closed. -/
inductive EndpointEvent where
  | push (packet : QueuedPacket)
  | poll (cx : Waker) (bufs : List (List UInt8))
  | close

/-- The endpoint with the history of its run: the packets whose push returned `Ok`, and the
datagrams that polls handed out. -/
structure Transcript where
  endpoint : WebRtcEndpoint
  accepted : List QueuedPacket
  delivered : List Datagram

/-- The datagrams in the buffers that a poll reports as filled. -/
def deliveredBy : Poll (Except IoError (List Received)) → List Datagram
  | .ready (.ok filled) => filled.flatMap Received.datagrams
  | .ready (.error _) => []
  | .pending => []

namespace Transcript

def new (recvCapacity : ℕ) : Transcript := ⟨.new (.new recvCapacity), [], []⟩

def step (t : Transcript) : EndpointEvent → Transcript
  | .push packet =>
    match t.endpoint.hub.pushReceived packet with
    | (.ok _, hub) =>
      { t with
        endpoint := { t.endpoint with hub := hub }
        accepted := t.accepted ++ [packet] }
    | (.error _, hub) => { t with endpoint := { t.endpoint with hub := hub } }
  | .poll cx bufs =>
    match t.endpoint.pollRecv cx bufs with
    | (r, ep) => { t with endpoint := ep, delivered := t.delivered ++ deliveredBy r }
  | .close => { t with endpoint := { t.endpoint with hub := t.endpoint.hub.close.1 } }

/-- The transcript after a list of events. -/
def run (t : Transcript) (events : List EndpointEvent) : Transcript := events.foldl step t

/-- What was delivered, followed by what is still owed, is what was accepted. -/
structure Balanced (t : Transcript) : Prop where
  wellFormed : t.endpoint.WellFormed
  balance : t.delivered ++ t.endpoint.owed = t.accepted.flatMap QueuedPacket.datagrams

theorem balanced_new (recvCapacity : ℕ) : (new recvCapacity).Balanced :=
  ⟨⟨by simp [new, WebRtcEndpoint.new], by simp [new, WebRtcEndpoint.new, SessionHub.new]⟩, rfl⟩

/-- Only frames the decoder makes are pushed. -/
def PushesDecoded (event : EndpointEvent) : Prop :=
  ∀ packet, event = .push packet → packet.frame.IsNormalized

theorem Balanced.step {t : Transcript} (h : t.Balanced) {event : EndpointEvent}
    (hpush : PushesDecoded event) : (t.step event).Balanced := by
  cases event with
  | push packet =>
    rcases hp : t.endpoint.hub.pushReceived packet with ⟨r, hub⟩
    rw [Transcript.step, hp]
    rcases SessionHub.pushReceived_cases hp with ⟨err, rfl, rfl⟩ | ⟨woken, rfl, hrecv⟩
    · exact h
    · refine ⟨⟨h.wellFormed.pending, fun q hq => ?_⟩, ?_⟩
      · rw [hrecv, List.mem_append, List.mem_singleton] at hq
        rcases hq with hq | rfl
        · exact h.wellFormed.recv q hq
        · exact hpush q rfl
      · show t.delivered ++ (_ ++ hub.recv.flatMap _) = (t.accepted ++ [packet]).flatMap _
        rw [hrecv, List.flatMap_append, List.flatMap_append, ← h.balance, WebRtcEndpoint.owed]
        simp only [List.append_assoc]
  | poll cx bufs =>
    rcases hp : t.endpoint.pollRecv cx bufs with ⟨r, ep⟩
    obtain ⟨hwf, hdel⟩ := WebRtcEndpoint.pollRecv_spec h.wellFormed hp
    rw [Transcript.step, hp]
    refine ⟨hwf, ?_⟩
    show (t.delivered ++ deliveredBy r) ++ ep.owed = _
    rw [← h.balance, List.append_assoc]
    congr 1
    rcases hdel with ⟨out, rfl, hout⟩ | ⟨rfl, -, howed, howed'⟩ | ⟨err, rfl, -, howed, -⟩
    · exact hout
    · rw [howed, howed']; rfl
    · exact howed
  | close => exact ⟨⟨h.wellFormed.pending, h.wellFormed.recv⟩, h.balance⟩

theorem Balanced.run {t : Transcript} (h : t.Balanced) {events : List EndpointEvent}
    (hpush : ∀ event ∈ events, PushesDecoded event) : (t.run events).Balanced :=
  Runs.foldl_invariant_of_guarded (g := fun _ event => PushesDecoded event)
    (fun _ _ ht hevent => ht.step hevent) h (.of_forall fun event he _ => hpush event he)

/-- **Receive delivery.**  On one endpoint and its hub, after any pushes of decoded frames, polls
with any buffers, and closes: what the polls handed out is a prefix of the datagrams of the
accepted packets, in order; the rest is exactly what the endpoint still owes; and a poll that
fails now would deliver nothing and keep the packet it is at, at the same offset. -/
theorem delivered_append_owed (recvCapacity : ℕ) (events : List EndpointEvent)
    (hpush : ∀ packet, .push packet ∈ events → packet.frame.IsNormalized) :
    let t := (new recvCapacity).run events
    t.delivered ++ t.endpoint.owed = t.accepted.flatMap QueuedPacket.datagrams ∧
      t.delivered <+: t.accepted.flatMap QueuedPacket.datagrams ∧
      ∀ cx bufs err ep', t.endpoint.pollRecv cx bufs = (.ready (.error err), ep') →
        ep'.owed = t.endpoint.owed ∧ WebRtcEndpoint.KeepsPending t.endpoint ep' := by
  have h : ((new recvCapacity).run events).Balanced :=
    (balanced_new recvCapacity).run fun event he packet hp => hpush packet (hp ▸ he)
  refine ⟨h.balance, ⟨_, h.balance⟩, fun cx bufs err ep' hpoll => ?_⟩
  obtain ⟨-, hdel⟩ := WebRtcEndpoint.pollRecv_spec h.wellFormed hpoll
  rcases hdel with ⟨out, hok, -⟩ | ⟨hpending, -⟩ | ⟨err', -, -, howed, hkeeps⟩
  · exact absurd hok (by simp)
  · exact absurd hpending (by simp)
  · exact ⟨howed, hkeeps⟩

/-- Five bytes in segments of two, and one byte alone. -/
def samplePackets : List QueuedPacket :=
  [⟨⟨webrtcTransportId, [1]⟩, ⟨0, .replicate 16 1, some 2, [1, 2, 3, 4, 5]⟩⟩,
    ⟨⟨webrtcTransportId, [2]⟩, ⟨0, .replicate 16 2, none, [6]⟩⟩]

/-- Both packets are pushed; a poll whose only buffer is too small fails, one with three buffers
stops at the last segment, and the next one finishes. -/
def sampleEvents : List EndpointEvent :=
  samplePackets.map .push ++
    [.poll 0 [[0]], .poll 0 [[0, 0], [0, 0, 0], []], .poll 0 [[0], [0, 0], [0]]]

theorem delivered_append_owed_sample :
    let t := (new 2).run sampleEvents
    t.delivered ++ t.endpoint.owed = t.accepted.flatMap QueuedPacket.datagrams ∧
      t.delivered <+: t.accepted.flatMap QueuedPacket.datagrams ∧
      ∀ cx bufs err ep', t.endpoint.pollRecv cx bufs = (.ready (.error err), ep') →
        ep'.owed = t.endpoint.owed ∧ WebRtcEndpoint.KeepsPending t.endpoint ep' := by
  refine delivered_append_owed 2 sampleEvents fun packet hp => ?_
  have hmem : packet ∈ samplePackets := by simpa [sampleEvents] using hp
  have hall : ∀ packet ∈ samplePackets, packet.frame.payload ≠ [] ∧
      packet.frame.segmentSize ≠ some 0 ∧ packet.frame.normalized = packet.frame := by decide
  obtain ⟨hne, h0, hnorm⟩ := hall packet hmem
  rw [← hnorm]
  exact WebRtcPacketFrame.isNormalized_normalized hne h0

end Transcript

end IrohWebRtc
