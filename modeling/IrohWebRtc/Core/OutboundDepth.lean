import IrohWebRtc.Core.OutboundQueues

/-!
# The depth of an outbound channel

`poll_push_outbound` of `core/hub.rs` measures how full a channel is while it sends: it reserves a
permit, reads how many permits are left, sends the packet, and records the depth that follows for
`hub_outbound_depth_max`.  It holds the lock of the hub all the time, so no other operation of the
hub comes between, but a receiver needs no lock and may take packets at any of these moments.

A permit is free, reserved, or with a queued item (`PollSenderRef.permits`).  The number of
permits is that of the capacity, and this is the whole of what is assumed of the channel.  The
depth is computed as the capacity less the free permits, plus one for the packet that is about to
be sent.  But the permit of that packet is reserved by then and not free, so the packet has been
counted.

* `DepthTrace.Accounted.step`: the depth of a push is read with its own permit reserved.
* `outboundDepth_exact_iff`: each push that is accepted counts its packet twice.

So the maximum that is reported is above every depth the channel has had, and can be above its
capacity.
-/

namespace IrohWebRtc

open Bytes PollSenderContents

/-! ## Permits -/

/-- What a sender shows of its channel. -/
structure SenderRef where
  maxCapacity : ℕ
  /-- The permits that are free. -/
  capacity : ℕ
  deriving DecidableEq

/-- The sender behind a `PollSender`, and the permits of its reservation. -/
class PollSenderRef (S : Type*) where
  /-- `get_ref`. -/
  getRef : S → Option SenderRef
  reserved : S → ℕ

namespace PollSenderRef

variable {S : Type*} [PollSender S OutboundPacket] [PollSenderContents S] [PollSenderRef S]

/-- The capacity of a channel, and the permits there are: free, with a queued item, or reserved. -/
def permits (s : S) : Option (ℕ × ℕ) :=
  (getRef s).map fun sender =>
    (sender.maxCapacity, sender.capacity + (contents s).length + reserved s)

/-- The depth that `poll_push_outbound` and `queue_depths` read. -/
def outboundDepth (s : S) : ℕ :=
  match getRef s with
  | none => 0
  | some sender => sender.maxCapacity - sender.capacity

/-- When all permits are there, the depth counts the ones that are reserved. -/
theorem outboundDepth_of_permits {s : S} {n : ℕ} (h : permits s = some (n, n)) :
    outboundDepth s = (contents s).length + reserved s ∧
      (contents s).length + reserved s ≤ n := by
  obtain ⟨sender, href, hpair⟩ := Option.map_eq_some_iff.mp h
  obtain ⟨hmax, htotal⟩ := Prod.mk.inj hpair
  have hdepth : outboundDepth s = sender.maxCapacity - sender.capacity := by
    rw [outboundDepth, href]
  omega

end PollSenderRef

open PollSenderRef

/-- What is documented of the permits of a bounded channel. -/
class LawfulPollSenderRef (S : Type*) [PollSender S OutboundPacket] [PollSenderContents S]
    [PollSenderRef S] : Prop where
  permits_channel : ∀ n : ℕ, permits (PollSender.channel n : S) = some (n, n)
  permits_pollReserve : ∀ (s : S) (cx : Waker),
    permits (PollSender.pollReserve s cx).2 = permits s
  /-- A reservation is of one permit. -/
  reserved_of_ready : ∀ {s s' : S} {cx : Waker},
    PollSender.pollReserve s cx = (.ready (.ok ()), s') → reserved s' = 1
  permits_sendItem : ∀ (s : S) (packet : OutboundPacket),
    permits (PollSender.sendItem s packet).2 = permits s
  permits_recv : ∀ {s s' : S} {packet : OutboundPacket} {woken : Option Waker},
    PollSender.recv s = some (packet, woken, s') → permits s' = permits s
  /-- The receiver leaves a reservation alone. -/
  reserved_recv : ∀ {s s' : S} {packet : OutboundPacket} {woken : Option Waker},
    PollSender.recv s = some (packet, woken, s') → reserved s = 1 → reserved s' = 1
  permits_dropReceiver : ∀ s : S, permits (PollSender.dropReceiver s).2 = permits s
  reserved_dropReceiver : ∀ s : S, reserved s = 1 → reserved (PollSender.dropReceiver s).2 = 1
  length_dropReceiver : ∀ s : S,
    (contents (PollSender.dropReceiver s).2).length ≤ (contents s).length

section Drained

variable {S : Type*} [PollSender S OutboundPacket] [PollSenderContents S] [PollSenderRef S]

/-- What a receiver does to a channel: it takes items, whose permits become free. -/
structure Drained (s s' : S) : Prop where
  permits : permits s' = permits s
  reserved : reserved s = 1 → reserved s' = 1
  length : (contents s').length ≤ (contents s).length

variable [LawfulPollSenderRef S]

theorem drained_recv {s s' : S} {packet : OutboundPacket} {woken : Option Waker}
    (h : PollSender.recv s = some (packet, woken, s')) : Drained s s' := by
  refine ⟨LawfulPollSenderRef.permits_recv h, LawfulPollSenderRef.reserved_recv h, ?_⟩
  rw [contents_recv h, List.length_cons]
  exact Nat.le_succ _

theorem drained_dropReceiver (s : S) : Drained s (PollSender.dropReceiver s).2 :=
  ⟨LawfulPollSenderRef.permits_dropReceiver s, LawfulPollSenderRef.reserved_dropReceiver s,
    LawfulPollSenderRef.length_dropReceiver s⟩

end Drained

namespace SessionState

variable {S : Type*} [PollSender S OutboundPacket]

/-! ## The permits of the routes -/

section Permits

variable [PollSenderContents S] [PollSenderRef S]

/-- Every route has a channel of `n` permits, and they are all there. -/
def Permitted (n : ℕ) (state : SessionState S) : Prop :=
  ∀ sessionId route, state.outbound.lookup sessionId = some route →
    permits route.sender = some (n, n)

variable {n : ℕ} {state state' : SessionState S}

theorem Permitted.insert (h : state.Permitted n) {sessionId : FixedBytes 16}
    {route : OutboundRoute S} (hpermits : permits route.sender = some (n, n)) :
    ({ state with outbound := state.outbound.insert sessionId route }).Permitted n := by
  intro id route' hroute'
  rw [Table.lookup_insert_eq] at hroute'
  split_ifs at hroute'
  · obtain rfl := Option.some.inj hroute'
    exact hpermits
  · exact h id route' hroute'

theorem Permitted.unregisterOutboundSession (h : state.Permitted n) (sessionId : FixedBytes 16) :
    (state.unregisterOutboundSession sessionId).1.Permitted n := by
  rw [SessionState.unregisterOutboundSession]
  split
  · exact h
  · intro id route hroute
    exact h id route (Table.lookup_erase_eq_some.mp hroute).2

theorem permitted_close (state : SessionState S) : state.close.1.Permitted n := by
  intro id route hroute
  cases hroute

variable [LawfulPollSenderRef S]

theorem Permitted.registerOutboundSession (h : state.Permitted n)
    (hcapacity : state.outboundCapacity = n) (sessionId : FixedBytes 16) :
    (state.registerOutboundSession sessionId).Permitted n := by
  rw [SessionState.registerOutboundSession]
  split
  · exact h
  · refine h.insert ?_
    rw [hcapacity]
    exact LawfulPollSenderRef.permits_channel n

/-- A reservation keeps the permits, and when it succeeds it holds one of them. -/
theorem Permitted.reserveOutbound (h : state.Permitted n) {cx : Waker} {packet : OutboundPacket}
    {r : Poll (Except Error (FixedBytes 16))}
    (hreserve : state.reserveOutbound cx packet = (r, state')) :
    state'.Permitted n ∧ state'.outboundCapacity = state.outboundCapacity ∧
      ∀ sessionId, r = .ready (.ok sessionId) →
        ∃ route, state'.outbound.lookup sessionId = some route ∧ reserved route.sender = 1 := by
  rcases reserveOutbound_cases hreserve with ⟨err, rfl, rfl, -⟩ |
    ⟨sessionId, route, polled, sender, -, -, hroute, hpoll, hcases⟩
  · exact ⟨h, rfl, nofun⟩
  have hpermits := LawfulPollSenderRef.permits_pollReserve route.sender cx
  rw [hpoll, h sessionId route hroute] at hpermits
  rcases hcases with ⟨-, rfl, rfl⟩ | ⟨-, rfl, rfl⟩ | ⟨rfl, rfl, rfl⟩
  · exact ⟨h.insert hpermits, rfl, nofun⟩
  · exact ⟨h.insert hpermits, rfl, nofun⟩
  · refine ⟨h.insert hpermits, rfl, fun id hready => ?_⟩
    obtain rfl : sessionId = id := by simpa using hready
    exact ⟨_, AList.lookup_insert _, LawfulPollSenderRef.reserved_of_ready hpoll⟩

/-- A send keeps the permits, and when it succeeds it appends one item. -/
theorem Permitted.sendReserved (h : state.Permitted n) {sessionId : FixedBytes 16}
    {packet : OutboundPacket} {route : OutboundRoute S} {r : Except Error Unit}
    (hroute : state.outbound.lookup sessionId = some route)
    (hsend : state.sendReserved sessionId packet = (r, state')) :
    state'.Permitted n ∧ state'.outboundCapacity = state.outboundCapacity ∧
      (r = .ok () → state'.outboundQueue sessionId = some (contents route.sender ++ [packet])) := by
  obtain ⟨sent, sender, hitem, rfl, hresult⟩ := sendReserved_cases hroute hsend
  have hpermits := LawfulPollSenderRef.permits_sendItem route.sender packet
  rw [hitem, h sessionId route hroute] at hpermits
  refine ⟨h.insert hpermits, rfl, fun hok => ?_⟩
  rcases hresult with ⟨-, rfl⟩ | ⟨rfl, -⟩
  · cases hok
  · rw [outboundQueue_insert, if_pos rfl, contents_sendItem_ok hitem]

/-- A receiver that takes a packet drains one route. -/
theorem exists_drained_recvOutbound {sessionId : FixedBytes 16} {packet : OutboundPacket}
    {woken : Option Waker} (h : state.recvOutbound sessionId = some (packet, state', woken)) :
    ∃ route sender, state.outbound.lookup sessionId = some route ∧ Drained route.sender sender ∧
      state' = { state with
        outbound := state.outbound.insert sessionId { route with sender := sender } } := by
  unfold recvOutbound at h
  cases hroute : state.outbound.lookup sessionId with
  | none =>
    rw [hroute] at h
    cases h
  | some route =>
    simp only [hroute] at h
    cases hrecv : PollSender.recv route.sender with
    | none =>
      rw [hrecv] at h
      cases h
    | some taken =>
      obtain ⟨packet', woken', sender⟩ := taken
      rw [hrecv] at h
      obtain ⟨-, rfl, -⟩ := by simpa using h
      exact ⟨route, sender, rfl, drained_recv hrecv, rfl⟩

end Permits

end SessionState

/-! ## Runs -/

/-- The depth that a push has read, and how many packets its route held then. -/
structure DepthRead where
  depth : ℕ
  before : ℕ
  deriving DecidableEq

/-- A push that has reserved a permit. -/
structure PendingPush where
  sessionId : FixedBytes 16
  packet : OutboundPacket
  read : Option DepthRead
  deriving DecidableEq

/-- A push that was accepted: the depth it recorded, how many packets its route held when the depth
was read, and how many it held once the packet was there too. -/
structure PushRecord where
  sessionId : FixedBytes 16
  recorded : ℕ
  before : ℕ
  queued : ℕ
  deriving DecidableEq

/-- What a push has recorded on a route of `n` permits: its packet counts twice, with the permit
that was reserved for it and once more. -/
structure PushRecord.CountsTwice (n : ℕ) (push : PushRecord) : Prop where
  recorded : push.recorded = push.before + 2
  queued : push.queued ≤ push.before + 1
  before : push.before + 1 ≤ n

/-- What happens to the outbound half of a hub.  `push`, `readDepth` and `send` are the parts of one
push; the receivers act at any time. -/
inductive OutboundDepthOp where
  | register (sessionId : FixedBytes 16)
  | unregister (sessionId : FixedBytes 16)
  | close
  | push (cx : Waker) (packet : OutboundPacket)
  | readDepth
  | send
  | recv (sessionId : FixedBytes 16)
  | dropReceiver (sessionId : FixedBytes 16)

/-- A hub with the push that holds its lock, the pushes that were accepted, the latest first, and
`hub_outbound_depth_max`. -/
structure DepthTrace (S : Type*) where
  state : SessionState S
  pushing : Option PendingPush
  pushes : List PushRecord
  depthMax : ℕ

namespace DepthTrace

open SessionState

variable {S : Type*}

def new (recvCapacity outboundCapacity : ℕ) : DepthTrace S where
  state := .withCapacities recvCapacity outboundCapacity
  pushing := none
  pushes := []
  depthMax := 0

/-- An operation that takes the lock: it waits for the push that holds it. -/
def locked (t : DepthTrace S) (op : DepthTrace S) : Option (DepthTrace S) :=
  if t.pushing = none then some op else none

theorem locked_eq_some {t u t' : DepthTrace S} :
    t.locked u = some t' ↔ t.pushing = none ∧ u = t' := by
  rw [locked]
  split_ifs with hfree
  · rw [Option.some.injEq, and_iff_right hfree]
  · exact iff_of_false nofun fun h => hfree h.1

theorem pushes_of_locked {t u t' : DepthTrace S} (hlocked : t.locked u = some t')
    (hpushes : u.pushes = t.pushes) : t'.pushes = t.pushes := by
  rw [← (locked_eq_some.mp hlocked).2, hpushes]

section Channel

variable [PollSender S OutboundPacket] [PollSenderContents S] [PollSenderRef S]

/-- The packets that wait in the route of a session. -/
def queued (state : SessionState S) (sessionId : FixedBytes 16) : ℕ :=
  ((state.outboundQueue sessionId).getD []).length

/-- The depth of the route of a session, as a push reads it. -/
def depthOf (state : SessionState S) (sessionId : FixedBytes 16) : ℕ :=
  match state.outbound.lookup sessionId with
  | none => 0
  | some route => outboundDepth route.sender

/-- One operation.  `none` when it has to wait or there is nothing for it to do. -/
def step (t : DepthTrace S) : OutboundDepthOp → Option (DepthTrace S)
  | .register sessionId =>
    t.locked { t with state := t.state.registerOutboundSession sessionId }
  | .unregister sessionId =>
    t.locked { t with state := (t.state.unregisterOutboundSession sessionId).1 }
  | .close => t.locked { t with state := t.state.close.1 }
  | .push cx packet =>
    match t.state.reserveOutbound cx packet with
    | (.ready (.ok sessionId), state) =>
      t.locked { t with state := state, pushing := some ⟨sessionId, packet, none⟩ }
    | (_, state) => t.locked { t with state := state }
  | .readDepth =>
    match t.pushing with
    | some ⟨sessionId, packet, none⟩ =>
      some { t with
        pushing := some ⟨sessionId, packet,
          some ⟨depthOf t.state sessionId, queued t.state sessionId⟩⟩ }
    | _ => none
  | .send =>
    match t.pushing with
    | some ⟨sessionId, packet, some read⟩ =>
      match t.state.sendReserved sessionId packet with
      | (.error _, state) => some { t with state := state, pushing := none }
      | (.ok _, state) =>
        some {
          state := state
          pushing := none
          pushes := ⟨sessionId, read.depth + 1, read.before, queued state sessionId⟩ :: t.pushes
          -- `update_max`
          depthMax := max t.depthMax (read.depth + 1) }
    | _ => none
  | .recv sessionId =>
    (t.state.recvOutbound sessionId).map fun (_, state, _) => { t with state := state }
  | .dropReceiver sessionId =>
    some { t with state := (t.state.dropOutboundReceiver sessionId).1 }

/-- Each recorded depth is that of the route with the packet in it, and the maximum stays within the
capacity. -/
def DepthExact (t : DepthTrace S) : Prop :=
  (∀ push ∈ t.pushes, push.recorded = push.queued) ∧ t.depthMax ≤ t.state.outboundCapacity

/-- The permit of a push is reserved, and the depth it has read counts that permit. -/
def ReservesPermit (n : ℕ) (state : SessionState S) (push : PendingPush) : Prop :=
  ∃ route, state.outbound.lookup push.sessionId = some route ∧ reserved route.sender = 1 ∧
    ∀ read, push.read = some read →
      read.depth = read.before + 1 ∧ (contents route.sender).length ≤ read.before ∧
        read.before + 1 ≤ n

structure Accounted (n : ℕ) (t : DepthTrace S) : Prop where
  capacity : t.state.outboundCapacity = n
  routes : t.state.Permitted n
  pushing : ∀ push, t.pushing = some push → ReservesPermit n t.state push
  pushes : ∀ push ∈ t.pushes, push.CountsTwice n
  depthMax : ∀ k, t.depthMax ≤ k ↔ ∀ push ∈ t.pushes, push.recorded ≤ k

variable {n : ℕ} {t t' : DepthTrace S}

theorem accounted_new (recvCapacity n : ℕ) : (new recvCapacity n : DepthTrace S).Accounted n where
  capacity := rfl
  routes := by
    intro id route hroute
    cases hroute
  pushing := nofun
  pushes := nofun
  depthMax := fun k => iff_of_true (Nat.zero_le k) nofun

/-- Another operation of the hub, which no push comes between. -/
theorem Accounted.of_locked (h : t.Accounted n) {state' : SessionState S}
    (hlocked : t.locked { t with state := state' } = some t')
    (hcapacity : state'.outboundCapacity = t.state.outboundCapacity)
    (hroutes : state'.Permitted n) : t'.Accounted n := by
  obtain ⟨hfree, rfl⟩ := locked_eq_some.mp hlocked
  refine ⟨hcapacity.trans h.capacity, hroutes, fun push hpush => ?_, h.pushes, h.depthMax⟩
  rw [hfree] at hpush
  cases hpush

/-- A receiver leaves a push that is under way its permit, and takes nothing but packets. -/
theorem Accounted.of_drained (h : t.Accounted n) {sessionId : FixedBytes 16}
    {route : OutboundRoute S} {sender : S}
    (hroute : t.state.outbound.lookup sessionId = some route)
    (hdrained : Drained route.sender sender) :
    ({ t with state := { t.state with
        outbound := t.state.outbound.insert sessionId { route with sender := sender } } } :
      DepthTrace S).Accounted n := by
  have hpermits := hdrained.permits.trans (h.routes sessionId route hroute)
  refine ⟨h.capacity, h.routes.insert hpermits, fun push hpush => ?_, h.pushes, h.depthMax⟩
  obtain ⟨route', hroute', hreserved, hread⟩ := h.pushing push hpush
  by_cases hid : push.sessionId = sessionId
  · obtain rfl : route' = route := by
      rw [hid, hroute] at hroute'
      exact (Option.some.inj hroute').symm
    refine ⟨{ route' with sender := sender }, ?_, hdrained.reserved hreserved, fun read hsome => ?_⟩
    · rw [hid]
      exact AList.lookup_insert _
    · obtain ⟨hdepth, hlength, hbefore⟩ := hread read hsome
      exact ⟨hdepth, hdrained.length.trans hlength, hbefore⟩
  · exact ⟨route', (AList.lookup_insert_ne hid).trans hroute', hreserved, hread⟩

/-- The depth is read with one permit reserved. -/
theorem Accounted.readDepth (h : t.Accounted n) {push : PendingPush}
    (hpush : t.pushing = some push) :
    ({ t with pushing := some { push with
        read := some ⟨depthOf t.state push.sessionId, queued t.state push.sessionId⟩ } } :
      DepthTrace S).Accounted n := by
  refine ⟨h.capacity, h.routes, fun push' hpush' => ?_, h.pushes, h.depthMax⟩
  obtain rfl := Option.some.inj hpush'
  obtain ⟨route, hroute, hreserved, -⟩ := h.pushing push hpush
  obtain ⟨hdepth, hfit⟩ := outboundDepth_of_permits (h.routes _ route hroute)
  have hdepthOf : depthOf t.state push.sessionId = outboundDepth route.sender := by
    rw [depthOf, hroute]
  have hqueued : queued t.state push.sessionId = (contents route.sender).length := by
    rw [queued, outboundQueue, hroute]
    rfl
  refine ⟨route, hroute, hreserved, fun read hread => ?_⟩
  obtain rfl := Option.some.inj hread
  rw [hreserved] at hdepth hfit
  exact ⟨by rw [hdepthOf, hqueued, hdepth], hqueued.ge, by rw [hqueued]; exact hfit⟩

/-- The maximum stays within the capacity unless a push takes the last permit. -/
theorem Accounted.depthMax_le_iff (h : t.Accounted n) :
    t.depthMax ≤ n ↔ ∀ push ∈ t.pushes, push.before + 2 ≤ n := by
  rw [h.depthMax]
  refine forall₂_congr fun push hmem => ?_
  rw [(h.pushes push hmem).recorded]

/-- No push that was accepted is exact. -/
theorem Accounted.depthExact_iff (h : t.Accounted n) : t.DepthExact ↔ t.pushes = [] := by
  constructor
  · rintro ⟨hexact, -⟩
    rw [List.eq_nil_iff_forall_not_mem]
    intro push hmem
    obtain ⟨hrecorded, hqueued, -⟩ := h.pushes push hmem
    have hequal := hexact push hmem
    omega
  · intro hnil
    rw [DepthExact, h.capacity, h.depthMax, hnil]
    exact ⟨nofun, nofun⟩

/-- The channel takes the packet of the push under way. -/
def TakesPacket (t : DepthTrace S) (op : OutboundDepthOp) : Prop :=
  op = .send ∧ ∃ push read, t.pushing = some push ∧ push.read = some read ∧
    (t.state.sendReserved push.sessionId push.packet).1 = .ok ()

/-- Only a channel that takes the packet makes a push be recorded. -/
theorem pushes_of_step {op : OutboundDepthOp} (hstep : t.step op = some t') :
    t.TakesPacket op ∧ (∃ push, t'.pushes = push :: t.pushes) ∨
      ¬ t.TakesPacket op ∧ t'.pushes = t.pushes := by
  by_cases hsend : op = .send
  · subst hsend
    simp only [DepthTrace.step] at hstep
    split at hstep
    · rename_i sessionId packet read hpush
      split at hstep
      · rename_i err state hsend
        obtain rfl := Option.some.inj hstep
        refine Or.inr ⟨?_, rfl⟩
        rintro ⟨-, push, -, hpush', -, hok⟩
        obtain rfl := Option.some.inj (hpush.symm.trans hpush')
        rw [hsend] at hok
        cases hok
      · rename_i state hsend
        obtain rfl := Option.some.inj hstep
        exact Or.inl ⟨⟨rfl, _, read, hpush, rfl, congrArg Prod.fst hsend⟩, _, rfl⟩
    · cases hstep
  refine Or.inr ⟨fun htakes => hsend htakes.1, ?_⟩
  cases op with
  | register sessionId => exact pushes_of_locked hstep rfl
  | unregister sessionId => exact pushes_of_locked hstep rfl
  | close => exact pushes_of_locked hstep rfl
  | push cx packet =>
    simp only [DepthTrace.step] at hstep
    split at hstep
    · exact pushes_of_locked hstep rfl
    · exact pushes_of_locked hstep rfl
  | readDepth =>
    simp only [DepthTrace.step] at hstep
    split at hstep
    · obtain rfl := Option.some.inj hstep
      rfl
    · cases hstep
  | send => exact absurd rfl hsend
  | recv sessionId =>
    obtain ⟨_, -, rfl⟩ := Option.map_eq_some_iff.mp hstep
    rfl
  | dropReceiver sessionId =>
    obtain rfl := Option.some.inj hstep
    rfl

/-- A run records no push exactly when no channel takes a packet in it. -/
theorem pushes_eq_nil_iff_guarded {recvCapacity outboundCapacity : ℕ} {ops : List OutboundDepthOp}
    (hrun : Runs.run DepthTrace.step (.new recvCapacity outboundCapacity) ops = some t) :
    t.pushes = [] ↔ Runs.Guarded DepthTrace.step (fun (u : DepthTrace S) op => ¬ u.TakesPacket op)
      (.new recvCapacity outboundCapacity) ops := by
  refine Runs.iff_guarded_of_lost (I := fun _ => True) (P := fun u => u.pushes = [])
    (fun _ _ _ _ _ => trivial) (fun u op u' _ hnil hstep => ?_)
    (fun u op u' _ hne hstep hnil => ?_) trivial rfl hrun
  · rcases pushes_of_step hstep with ⟨htakes, push, hpushes⟩ | ⟨hnot, hpushes⟩
    · rw [hpushes]
      exact iff_of_false (List.cons_ne_nil _ _) (not_not_intro htakes)
    · exact iff_of_true (hpushes.trans hnil) hnot
  · rcases pushes_of_step hstep with ⟨-, push, hpushes⟩ | ⟨-, hpushes⟩
    · exact absurd (hpushes.symm.trans hnil) (List.cons_ne_nil _ _)
    · exact hne (hpushes.symm.trans hnil)

variable [LawfulPollSenderRef S]

/-- The push that was accepted has counted its packet twice. -/
theorem Accounted.send (h : t.Accounted n) {push : PendingPush} {read : DepthRead}
    (hpush : t.pushing = some push) (hread : push.read = some read) {state' : SessionState S}
    (hsend : t.state.sendReserved push.sessionId push.packet = (.ok (), state')) :
    ({ state := state'
       pushing := none
       pushes := ⟨push.sessionId, read.depth + 1, read.before, queued state' push.sessionId⟩ ::
         t.pushes
       depthMax := max t.depthMax (read.depth + 1) } : DepthTrace S).Accounted n := by
  obtain ⟨route, hroute, -, hcounted⟩ := h.pushing push hpush
  obtain ⟨hdepth, hlength, hbefore⟩ := hcounted read hread
  obtain ⟨hroutes, hcapacity, hqueue⟩ := h.routes.sendReserved hroute hsend
  have hqueued : queued state' push.sessionId = (contents route.sender).length + 1 := by
    rw [queued, hqueue rfl, Option.getD_some, List.length_append, List.length_singleton]
  refine ⟨hcapacity.trans h.capacity, hroutes, nofun, ?_, fun k => ?_⟩
  · refine List.forall_mem_cons.mpr ⟨⟨?_, ?_, hbefore⟩, h.pushes⟩
    · show read.depth + 1 = read.before + 2
      rw [hdepth]
    · show queued state' push.sessionId ≤ read.before + 1
      rw [hqueued]
      exact Nat.succ_le_succ hlength
  · rw [max_le_iff, h.depthMax, List.forall_mem_cons]
    exact and_comm

theorem Accounted.step (h : t.Accounted n) {op : OutboundDepthOp} (hstep : t.step op = some t') :
    t'.Accounted n := by
  cases op with
  | register sessionId =>
    refine h.of_locked hstep ?_ (h.routes.registerOutboundSession h.capacity sessionId)
    rw [registerOutboundSession]
    split
    · rfl
    · rfl
  | unregister sessionId =>
    refine h.of_locked hstep ?_ (h.routes.unregisterOutboundSession sessionId)
    rw [unregisterOutboundSession]
    split
    · rfl
    · rfl
  | close => exact h.of_locked hstep rfl (permitted_close t.state)
  | push cx packet =>
    simp only [DepthTrace.step] at hstep
    split at hstep
    · rename_i sessionId state hreserve
      obtain ⟨hroutes, hcapacity, hreserved⟩ := h.routes.reserveOutbound hreserve
      obtain ⟨-, rfl⟩ := locked_eq_some.mp hstep
      refine ⟨hcapacity.trans h.capacity, hroutes, fun push hpush => ?_, h.pushes, h.depthMax⟩
      obtain rfl := Option.some.inj hpush
      obtain ⟨route, hroute, hone⟩ := hreserved sessionId rfl
      refine ⟨route, hroute, hone, fun read hread => ?_⟩
      cases hread
    · rename_i r state _ hreserve
      obtain ⟨hroutes, hcapacity, -⟩ := h.routes.reserveOutbound hreserve
      exact h.of_locked hstep hcapacity hroutes
  | readDepth =>
    simp only [DepthTrace.step] at hstep
    split at hstep
    · rename_i sessionId packet hpush
      obtain rfl := Option.some.inj hstep
      exact h.readDepth hpush
    · cases hstep
  | send =>
    simp only [DepthTrace.step] at hstep
    split at hstep
    · rename_i sessionId packet read hpush
      split at hstep
      · rename_i err state hsend
        obtain rfl := Option.some.inj hstep
        obtain ⟨route, hroute, -⟩ := h.pushing _ hpush
        obtain ⟨hroutes, hcapacity, -⟩ := h.routes.sendReserved hroute hsend
        refine ⟨hcapacity.trans h.capacity, hroutes, fun push hpush => ?_, h.pushes, h.depthMax⟩
        cases hpush
      · rename_i state hsend
        obtain rfl := Option.some.inj hstep
        exact h.send hpush rfl hsend
    · cases hstep
  | recv sessionId =>
    obtain ⟨⟨packet, state, woken⟩, hrecv, rfl⟩ := Option.map_eq_some_iff.mp hstep
    obtain ⟨route, sender, hroute, hdrained, rfl⟩ := exists_drained_recvOutbound hrecv
    exact h.of_drained hroute hdrained
  | dropReceiver sessionId =>
    obtain rfl := Option.some.inj hstep
    rw [dropOutboundReceiver]
    split
    · exact h
    · rename_i route hroute
      exact h.of_drained hroute (drained_dropReceiver route.sender)

end Channel

end DepthTrace

/-- **The depth of an outbound channel.**  In every run, the depth that an accepted push records is
two more than the number of packets its route held when the depth was read, and the route holds at
most one more with the packet: the depth is never exact once a push was accepted.  The maximum
exceeds the capacity, by one, exactly when a push found all permits but its own with queued
packets. -/
theorem outboundDepth_exact_iff {S : Type*} [PollSender S OutboundPacket] [PollSenderContents S]
    [PollSenderRef S] [LawfulPollSenderRef S] {recvCapacity outboundCapacity : ℕ}
    {ops : List OutboundDepthOp} {t : DepthTrace S}
    (hrun : Runs.run DepthTrace.step (.new recvCapacity outboundCapacity) ops = some t) :
    (t.DepthExact ↔
        Runs.Guarded DepthTrace.step (fun (u : DepthTrace S) op => ¬ u.TakesPacket op)
          (.new recvCapacity outboundCapacity) ops) ∧
      (∀ push ∈ t.pushes, push.recorded = push.before + 2 ∧ push.queued ≤ push.before + 1) ∧
      (t.depthMax ≤ outboundCapacity ↔ ∀ push ∈ t.pushes, push.before + 2 ≤ outboundCapacity) ∧
      t.depthMax ≤ outboundCapacity + 1 := by
  have haccounted : t.Accounted outboundCapacity :=
    Runs.run_invariant (fun _ _ _ h hstep => h.step hstep)
      (DepthTrace.accounted_new recvCapacity outboundCapacity) hrun
  have hguarded := DepthTrace.pushes_eq_nil_iff_guarded hrun
  refine ⟨haccounted.depthExact_iff.trans hguarded, fun push hmem => ?_,
    haccounted.depthMax_le_iff, ?_⟩
  · exact ⟨(haccounted.pushes push hmem).recorded, (haccounted.pushes push hmem).queued⟩
  · rw [haccounted.depthMax]
    intro push hmem
    obtain ⟨hrecorded, -, hbefore⟩ := haccounted.pushes push hmem
    omega

/-! ## A channel -/

/-- The permits that a reservation holds. -/
def Reservation.permits : Reservation → ℕ
  | .granted | .reserved => 1
  | _ => 0

/-- A bounded channel that counts its permits as tokio's does. -/
structure PermitChannel where
  maxCapacity : ℕ
  capacity : ℕ
  queue : List OutboundPacket
  reservation : Reservation
  hasReceiver : Bool
  deriving DecidableEq

namespace PermitChannel

def pollReserve (s : PermitChannel) (cx : Waker) : Poll (Except Unit Unit) × PermitChannel :=
  match s.reservation, s.hasReceiver with
  | .reserved, _ => (.ready (.ok ()), s)
  | reservation, false =>
    -- a permit that was assigned goes back
    (.ready (.error ()),
      { s with capacity := s.capacity + reservation.permits, reservation := .closed })
  | .closed, true => (.ready (.error ()), s)
  | .granted, true => (.ready (.ok ()), { s with reservation := .reserved })
  | .acquiring _, true => (.pending, { s with reservation := .acquiring cx })
  | .idle, true =>
    if 0 < s.capacity then
      (.ready (.ok ()), { s with capacity := s.capacity - 1, reservation := .reserved })
    else (.pending, { s with reservation := .acquiring cx })

def sendItem (s : PermitChannel) (item : OutboundPacket) : Except Unit Unit × PermitChannel :=
  match s.reservation with
  | .reserved => (.ok (), { s with queue := s.queue ++ [item], reservation := .idle })
  | _ => (.error (), s)

def waker (s : PermitChannel) : Option Waker :=
  match s.reservation with
  | .acquiring cx => some cx
  | _ => none

def recv (s : PermitChannel) : Option (OutboundPacket × Option Waker × PermitChannel) :=
  match s.hasReceiver, s.queue, s.reservation with
  | true, item :: queue, .acquiring cx =>
    some (item, some cx, { s with queue := queue, reservation := .granted })
  | true, item :: queue, _ =>
    some (item, none, { s with capacity := s.capacity + 1, queue := queue })
  | _, _, _ => none

/-- The items that are queued are dropped with the receiver. -/
def dropReceiver (s : PermitChannel) : Option Waker × PermitChannel :=
  (s.waker, { s with capacity := s.capacity + s.queue.length, queue := [], hasReceiver := false })

instance : PollSender PermitChannel OutboundPacket where
  channel capacity := ⟨capacity, capacity, [], .idle, true⟩
  pollReserve := pollReserve
  sendItem := sendItem
  recv := recv
  dropReceiver := dropReceiver
  waker := waker

instance : PollSenderContents PermitChannel where
  contents := queue
  contents_channel := fun _ => rfl
  contents_pollReserve := by
    intro s cx
    show (s.pollReserve cx).2.queue = s.queue
    unfold pollReserve
    split
    · rfl
    · rfl
    · rfl
    · rfl
    · rfl
    · split_ifs
      · rfl
      · rfl
  contents_sendItem_ok := by
    intro s s' item hsend
    have hsent : s.sendItem item = (.ok (), s') := hsend
    unfold sendItem at hsent
    split at hsent
    · obtain rfl := (Prod.mk.inj hsent).2
      rfl
    · cases (Prod.mk.inj hsent).1
  contents_sendItem_error := by
    intro s s' item hsend
    have hsent : s.sendItem item = (.error (), s') := hsend
    unfold sendItem at hsent
    split at hsent
    · cases (Prod.mk.inj hsent).1
    · obtain rfl := (Prod.mk.inj hsent).2
      rfl
  contents_recv := by
    intro s s' item woken hrecv
    have htaken : s.recv = some (item, woken, s') := hrecv
    show s.queue = item :: s'.queue
    unfold recv at htaken
    split at htaken
    · rename_i hqueue hreservation
      obtain ⟨rfl, -, rfl⟩ := by simpa using htaken
      exact hqueue
    · rename_i hqueue hidle
      obtain ⟨rfl, -, rfl⟩ := by simpa using htaken
      exact hqueue
    · cases htaken

instance : PollSenderRef PermitChannel where
  getRef s := some ⟨s.maxCapacity, s.capacity⟩
  reserved s := s.reservation.permits

theorem permits_eq (s : PermitChannel) :
    permits s =
      some (s.maxCapacity, s.capacity + s.queue.length + s.reservation.permits) := rfl

/-- Equal permits, field by field. -/
theorem permits_eq_permits {s s' : PermitChannel} (hmax : s'.maxCapacity = s.maxCapacity)
    (htotal : s'.capacity + s'.queue.length + s'.reservation.permits =
      s.capacity + s.queue.length + s.reservation.permits) : permits s' = permits s := by
  rw [permits_eq, permits_eq, hmax, htotal]

theorem recv_eq_some {s s' : PermitChannel} {item : OutboundPacket} {woken : Option Waker}
    (h : s.recv = some (item, woken, s')) :
    s'.maxCapacity = s.maxCapacity ∧ s.queue = item :: s'.queue ∧
      ((∃ cx, s.reservation = .acquiring cx ∧ s'.reservation = .granted ∧
          s'.capacity = s.capacity) ∨
        s'.reservation = s.reservation ∧ s'.capacity = s.capacity + 1) := by
  unfold recv at h
  split at h
  · rename_i cx _ hqueue hreservation
    obtain ⟨rfl, -, rfl⟩ := by simpa using h
    exact ⟨rfl, hqueue, Or.inl ⟨cx, hreservation, rfl, rfl⟩⟩
  · rename_i hqueue _
    obtain ⟨rfl, -, rfl⟩ := by simpa using h
    exact ⟨rfl, hqueue, Or.inr ⟨rfl, rfl⟩⟩
  · cases h

instance : LawfulPollSenderRef PermitChannel where
  permits_channel := fun _ => rfl
  permits_pollReserve := by
    intro s cx
    show permits (s.pollReserve cx).2 = permits s
    unfold pollReserve
    split
    · rfl
    · rename_i reservation hreservation _ _
      refine permits_eq_permits rfl ?_
      show s.capacity + s.reservation.permits + s.queue.length + 0 = _
      omega
    · rfl
    · rename_i hreservation _
      refine permits_eq_permits rfl ?_
      rw [hreservation]
      rfl
    · rename_i cx' hreservation _
      refine permits_eq_permits rfl ?_
      rw [hreservation]
      rfl
    · rename_i hreservation _
      split_ifs with hfree
      · refine permits_eq_permits rfl ?_
        rw [hreservation]
        show s.capacity - 1 + s.queue.length + 1 = s.capacity + s.queue.length + 0
        omega
      · refine permits_eq_permits rfl ?_
        rw [hreservation]
        rfl
  reserved_of_ready := by
    intro s s' cx hready
    have hreserve : s.pollReserve cx = (.ready (.ok ()), s') := hready
    show s'.reservation.permits = 1
    unfold pollReserve at hreserve
    split at hreserve
    · rename_i hreservation
      obtain rfl := (Prod.mk.inj hreserve).2
      rw [hreservation]
      rfl
    · cases (Prod.mk.inj hreserve).1
    · cases (Prod.mk.inj hreserve).1
    · obtain rfl := (Prod.mk.inj hreserve).2
      rfl
    · cases (Prod.mk.inj hreserve).1
    · split_ifs at hreserve
      · obtain rfl := (Prod.mk.inj hreserve).2
        rfl
      · cases (Prod.mk.inj hreserve).1
  permits_sendItem := by
    intro s item
    show permits (s.sendItem item).2 = permits s
    unfold sendItem
    split
    · rename_i hreservation
      refine permits_eq_permits rfl ?_
      rw [hreservation]
      show s.capacity + (s.queue ++ [item]).length + 0 = s.capacity + s.queue.length + 1
      rw [List.length_append, List.length_singleton]
      rfl
    · rfl
  permits_recv := by
    intro s s' item woken hrecv
    obtain ⟨hmax, hqueue, htaken⟩ := recv_eq_some (show s.recv = _ from hrecv)
    refine permits_eq_permits hmax ?_
    rw [hqueue, List.length_cons]
    rcases htaken with ⟨cx, hreservation, hreservation', hcapacity⟩ | ⟨hreservation, hcapacity⟩
    · rw [hreservation, hreservation', hcapacity]
      rfl
    · rw [hreservation, hcapacity]
      omega
  reserved_recv := by
    intro s s' item woken hrecv hone
    obtain ⟨-, -, htaken⟩ := recv_eq_some (show s.recv = _ from hrecv)
    rcases htaken with ⟨cx, hreservation, hreservation', -⟩ | ⟨hreservation, -⟩
    · show s'.reservation.permits = 1
      rw [hreservation']
      rfl
    · exact (congrArg Reservation.permits hreservation).trans hone
  permits_dropReceiver := by
    intro s
    refine permits_eq_permits rfl ?_
    show s.capacity + s.queue.length + 0 + _ = _
    rfl
  reserved_dropReceiver := fun _ h => h
  length_dropReceiver := fun _ => Nat.zero_le _

end PermitChannel

section Sample

open scoped Sample
open Sample

/-- The packet of the frame `hello`. -/
def helloPacket : OutboundPacket :=
  ⟨helloAddr, headerBytes 3 (FixedBytes.replicate 16 1) 0 5 ++
    WebRtcPacketFrame.helloFrame.payload⟩

/-- One push into an empty channel. -/
def helloPush : List OutboundDepthOp :=
  [.register WebRtcPacketFrame.helloFrame.sessionId, .push 0 helloPacket, .readDepth, .send]

theorem outboundDepth_exact_iff_sample :
    ∃ t : DepthTrace PermitChannel, Runs.run DepthTrace.step (.new 1 1) helloPush = some t ∧
      (t.DepthExact ↔
        Runs.Guarded DepthTrace.step
          (fun (u : DepthTrace PermitChannel) op => ¬ u.TakesPacket op) (.new 1 1) helloPush) ∧
      (∀ push ∈ t.pushes, push.recorded = push.before + 2 ∧ push.queued ≤ push.before + 1) ∧
      (t.depthMax ≤ 1 ↔ ∀ push ∈ t.pushes, push.before + 2 ≤ 1) ∧ t.depthMax ≤ 1 + 1 :=
  ⟨_, rfl, outboundDepth_exact_iff (S := PermitChannel) rfl⟩

/-- **One packet counts twice.**  A channel of capacity one is empty; the push that fills it records
two packets, and so does the maximum. -/
theorem outboundDepth_hello :
    ∃ t : DepthTrace PermitChannel, Runs.run DepthTrace.step (.new 1 1) helloPush = some t ∧
      t.pushes = [⟨WebRtcPacketFrame.helloFrame.sessionId, 2, 0, 1⟩] ∧ t.depthMax = 2 ∧
      t.state.outboundCapacity = 1 ∧ ¬ t.DepthExact :=
  ⟨_, rfl, rfl, rfl, rfl, fun h => absurd h.2 (by decide)⟩

end Sample

end IrohWebRtc
