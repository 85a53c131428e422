import IrohWebRtc.Core.Addr
import IrohWebRtc.Core.Frame

/-!
# The receive half of the session hub

`core/hub.rs`: decoded packets wait in one bounded queue until the endpoint polls for them.  A
poll that finds the queue empty leaves its waker, and the next push takes it.

All sessions of a node share this queue, so a full queue refuses the packets of every session; a
refused packet is lost, as a datagram may be.  Closing the hub wakes the poller and keeps the
packets that wait, which are still handed out.  An operation holds the lock of the hub from
beginning to end, and is a function of the hub for that reason.

The outbound routes of the hub are in `Core.Outbound`; its counters are not modelled here.
-/

namespace IrohWebRtc

/-- What polling a future gives. -/
inductive Poll (α : Type*) where
  | ready (value : α)
  | pending
  deriving DecidableEq, Repr

/-- The waker of a task, by the task's number. -/
abbrev Waker := ℕ

/-- A decoded frame and the address it came from. -/
structure QueuedPacket where
  source : CustomAddr
  frame : WebRtcPacketFrame
  deriving DecidableEq

structure SessionHub where
  recv : List QueuedPacket
  recvWaker : Option Waker
  recvCapacity : ℕ
  closed : Bool
  deriving DecidableEq

namespace SessionHub

/-- A hub with an empty queue. -/
def new (recvCapacity : ℕ) : SessionHub where
  recv := []
  recvWaker := none
  recvCapacity := recvCapacity
  closed := false

/-- Queues a packet.  `Ok` carries the waker that was woken. -/
def pushReceived (hub : SessionHub) (packet : QueuedPacket) :
    Except Error (Option Waker) × SessionHub :=
  if hub.closed then (.error .sessionClosed, hub)
  else if hub.recvCapacity ≤ hub.recv.length then (.error .sendQueueFull, hub)
  else (.ok hub.recvWaker, { hub with recv := hub.recv ++ [packet], recvWaker := none })

/-- Takes the oldest packet.  Packets that were queued before the hub closed are still handed
out. -/
def popReceived (hub : SessionHub) (cx : Waker) :
    Poll (Except IoError QueuedPacket) × SessionHub :=
  match hub.recv with
  | packet :: recv => (.ready (.ok packet), { hub with recv := recv })
  | [] =>
    if hub.closed then (.ready (.error (Error.toIoError .sessionClosed)), hub)
    else (.pending, { hub with recvWaker := some cx })

/-- Closes the hub.  The second component is the waker that was woken. -/
def close (hub : SessionHub) : SessionHub × Option Waker :=
  ({ hub with closed := true, recvWaker := none }, hub.recvWaker)

/-- A push appends the packet or leaves the hub alone. -/
theorem pushReceived_cases {hub hub' : SessionHub} {packet : QueuedPacket}
    {r : Except Error (Option Waker)} (h : hub.pushReceived packet = (r, hub')) :
    (∃ err, r = .error err ∧ hub' = hub) ∨
      (∃ woken, r = .ok woken ∧ hub'.recv = hub.recv ++ [packet]) := by
  rw [pushReceived] at h
  split_ifs at h with hclosed hfull
  · obtain ⟨rfl, rfl⟩ := Prod.mk.inj h
    exact Or.inl ⟨_, rfl, rfl⟩
  · obtain ⟨rfl, rfl⟩ := Prod.mk.inj h
    exact Or.inl ⟨_, rfl, rfl⟩
  · obtain ⟨rfl, rfl⟩ := Prod.mk.inj h
    exact Or.inr ⟨_, rfl, rfl⟩

/-- A pop hands out the oldest packet, or finds the queue empty. -/
theorem popReceived_cases {hub hub' : SessionHub} {cx : Waker}
    {r : Poll (Except IoError QueuedPacket)} (h : hub.popReceived cx = (r, hub')) :
    (∃ packet, r = .ready (.ok packet) ∧ hub.recv = packet :: hub'.recv) ∨
      (r = .ready (.error (Error.toIoError .sessionClosed)) ∧ hub.recv = [] ∧ hub' = hub) ∨
      (r = .pending ∧ hub.recv = [] ∧ hub'.recv = []) := by
  rw [popReceived] at h
  cases hrecv : hub.recv with
  | cons packet recv =>
    rw [hrecv] at h
    obtain ⟨rfl, rfl⟩ := Prod.mk.inj h
    exact Or.inl ⟨packet, rfl, rfl⟩
  | nil =>
    rw [hrecv] at h
    simp only at h
    split_ifs at h with hclosed
    · obtain ⟨rfl, rfl⟩ := Prod.mk.inj h
      exact Or.inr (Or.inl ⟨rfl, rfl, rfl⟩)
    · obtain ⟨rfl, rfl⟩ := Prod.mk.inj h
      exact Or.inr (Or.inr ⟨rfl, rfl, rfl⟩)

end SessionHub

end IrohWebRtc
