import IrohWebRtc.Core.Hub
import Mathlib.Data.List.Induction

/-!
# Runs of the receive queue

The receive half of `core/hub.rs` under pushes, polls and closes in any order.  A run records
which pushes returned `Ok`, which packets polls returned, and the waker of a consumer whose poll
returned `Pending` and that was not woken since.

The record is kept beside the hub and never read by it.  From it the two things that a consumer
relies on can be said: packets come out in the order in which they went in, none twice; and a
consumer that was told to wait is woken as soon as there is something to be had, because a hub
that holds its waker is open and has an empty queue.

* `step_effect`: what one operation does to the hub and to the record.
* `Valid.step`: what was accepted is what was popped and what waits, and a parked consumer is
  known to an open hub with an empty queue.
* `receiveQueue_law`: the law of the queue, over every run.

A hub has one slot for a waker.  A second consumer would take it from the first; the endpoint is
the only one there is.
-/

namespace IrohWebRtc

/-- The operations on the receive half of a hub. -/
inductive ReceiveOp where
  | pushReceived (packet : QueuedPacket)
  | popReceived (cx : Waker)
  | close
  deriving DecidableEq

/-- A hub, the packets whose push returned `Ok`, the packets that polls returned, and the waker of
the consumer while it is parked. -/
structure ReceiveTrace where
  hub : SessionHub
  accepted : List QueuedPacket
  popped : List QueuedPacket
  parked : Option Waker
  deriving DecidableEq

namespace ReceiveTrace

def new (recvCapacity : ℕ) : ReceiveTrace where
  hub := SessionHub.new recvCapacity
  accepted := []
  popped := []
  parked := none

/-- The consumer after `woken` was woken: a wake of another task leaves it parked. -/
def parkedAfter (parked woken : Option Waker) : Option Waker :=
  if woken = parked then none else parked

/-- One operation. -/
def step (t : ReceiveTrace) : ReceiveOp → ReceiveTrace
  | .pushReceived packet =>
    match t.hub.pushReceived packet with
    | (.ok woken, hub) =>
      { t with
        hub := hub
        accepted := t.accepted ++ [packet]
        parked := parkedAfter t.parked woken }
    | (.error _, hub) => { t with hub := hub }
  | .popReceived cx =>
    match t.hub.popReceived cx with
    | (.ready (.ok packet), hub) =>
      { t with hub := hub, popped := t.popped ++ [packet], parked := none }
    | (.ready (.error _), hub) => { t with hub := hub, parked := none }
    | (.pending, hub) => { t with hub := hub, parked := some cx }
  | .close =>
    { t with hub := t.hub.close.1, parked := parkedAfter t.parked t.hub.close.2 }

/-- The operations `ops` on a new hub. -/
def run (recvCapacity : ℕ) (ops : List ReceiveOp) : ReceiveTrace :=
  ops.foldl step (new recvCapacity)

theorem run_concat (recvCapacity : ℕ) (ops : List ReceiveOp) (op : ReceiveOp) :
    run recvCapacity (ops ++ [op]) = (run recvCapacity ops).step op :=
  List.foldl_concat ..

/-! ## One operation -/

/-- What one operation does. -/
inductive Effect (t : ReceiveTrace) : ReceiveOp → ReceiveTrace → Prop
  /-- A push that is refused changes nothing. -/
  | refused (packet : QueuedPacket) : Effect t (.pushReceived packet) t
  /-- An accepted push appends the packet and takes the waker. -/
  | pushed (packet : QueuedPacket) (hopen : t.hub.closed = false)
      (hroom : t.hub.recv.length < t.hub.recvCapacity) :
      Effect t (.pushReceived packet)
        { hub := { t.hub with recv := t.hub.recv ++ [packet], recvWaker := none }
          accepted := t.accepted ++ [packet]
          popped := t.popped
          parked := parkedAfter t.parked t.hub.recvWaker }
  /-- A poll takes the oldest packet. -/
  | popped (cx : Waker) (packet : QueuedPacket) (recv : List QueuedPacket)
      (hrecv : t.hub.recv = packet :: recv) :
      Effect t (.popReceived cx)
        { t with
          hub := { t.hub with recv := recv }, popped := t.popped ++ [packet], parked := none }
  /-- A poll of a closed hub finds nothing. -/
  | ended (cx : Waker) (hrecv : t.hub.recv = []) (hclosed : t.hub.closed = true) :
      Effect t (.popReceived cx) { t with parked := none }
  /-- A poll of an open hub finds nothing and leaves its waker. -/
  | parked (cx : Waker) (hrecv : t.hub.recv = []) (hopen : t.hub.closed = false) :
      Effect t (.popReceived cx)
        { t with hub := { t.hub with recvWaker := some cx }, parked := some cx }
  | closed : Effect t .close
      { t with
        hub := { t.hub with closed := true, recvWaker := none }
        parked := parkedAfter t.parked t.hub.recvWaker }

theorem step_effect (t : ReceiveTrace) (op : ReceiveOp) : Effect t op (t.step op) := by
  cases op with
  | pushReceived packet =>
    rw [step, SessionHub.pushReceived]
    by_cases hclosed : t.hub.closed = true
    · rw [if_pos hclosed]
      exact .refused packet
    · rw [if_neg hclosed]
      by_cases hfull : t.hub.recvCapacity ≤ t.hub.recv.length
      · rw [if_pos hfull]
        exact .refused packet
      · rw [if_neg hfull]
        exact .pushed packet (Bool.eq_false_iff.mpr hclosed) (Nat.lt_of_not_le hfull)
  | popReceived cx =>
    rw [step, SessionHub.popReceived]
    cases hrecv : t.hub.recv with
    | cons packet recv => exact .popped cx packet recv hrecv
    | nil =>
      by_cases hclosed : t.hub.closed = true
      · simp only [if_pos hclosed]
        exact .ended cx hrecv hclosed
      · simp only [if_neg hclosed]
        have h := Effect.parked cx hrecv (Bool.eq_false_iff.mpr hclosed)
        simpa only [hrecv] using h
  | close => exact .closed

theorem recvCapacity_run (recvCapacity : ℕ) (ops : List ReceiveOp) :
    (run recvCapacity ops).hub.recvCapacity = recvCapacity := by
  induction ops using List.reverseRecOn with
  | nil => rfl
  | append_singleton ops op ih =>
    rw [run_concat]
    have heffect := step_effect (run recvCapacity ops) op
    generalize (run recvCapacity ops).step op = t' at heffect
    cases heffect <;> exact ih

/-! ## The invariant -/

/-- What was accepted is what was popped and then what waits, within the capacity; a parked
consumer is the one the hub will wake, and it has nothing to take. -/
structure Valid (t : ReceiveTrace) : Prop where
  accepted : t.accepted = t.popped ++ t.hub.recv
  length_le : t.hub.recv.length ≤ t.hub.recvCapacity
  parked : ∀ cx, t.parked = some cx →
    t.hub.recvWaker = some cx ∧ t.hub.recv = [] ∧ t.hub.closed = false

/-- When the waker the hub holds is woken, nobody stays parked. -/
theorem Valid.parkedAfter_eq {t : ReceiveTrace} (h : t.Valid) :
    parkedAfter t.parked t.hub.recvWaker = none := by
  rw [parkedAfter]
  split_ifs with hwoken
  · rfl
  · cases hparked : t.parked with
    | none => rfl
    | some cx => exact absurd ((h.parked cx hparked).1.trans hparked.symm) hwoken

theorem Valid.step {t : ReceiveTrace} (h : t.Valid) (op : ReceiveOp) : (t.step op).Valid := by
  have heffect := step_effect t op
  generalize t.step op = t' at heffect
  have hlen := h.length_le
  cases heffect with
  | refused packet => exact h
  | pushed packet hopen hroom =>
    refine ⟨?_, ?_, fun cx hcx => ?_⟩
    · rw [h.accepted, List.append_assoc]
    · show (t.hub.recv ++ [packet]).length ≤ t.hub.recvCapacity
      rw [List.length_append, List.length_singleton]
      omega
    · rw [h.parkedAfter_eq] at hcx
      cases hcx
  | popped cx packet recv hrecv =>
    refine ⟨?_, ?_, nofun⟩
    · rw [h.accepted, hrecv, List.append_assoc]
      rfl
    · rw [hrecv, List.length_cons] at hlen
      exact Nat.le_of_succ_le hlen
  | ended cx hrecv hclosed => exact ⟨h.accepted, hlen, nofun⟩
  | parked cx hrecv hopen =>
    refine ⟨h.accepted, hlen, fun cx' hcx => ?_⟩
    obtain rfl := Option.some.inj hcx
    exact ⟨rfl, hrecv, hopen⟩
  | closed =>
    refine ⟨h.accepted, hlen, fun cx hcx => ?_⟩
    rw [h.parkedAfter_eq] at hcx
    cases hcx

theorem valid_run (recvCapacity : ℕ) (ops : List ReceiveOp) : (run recvCapacity ops).Valid := by
  induction ops using List.reverseRecOn with
  | nil => exact ⟨rfl, Nat.zero_le _, nofun⟩
  | append_singleton ops op ih =>
    rw [run_concat]
    exact ih.step op

/-- A closed hub stays closed and accepts nothing. -/
theorem foldl_of_closed {t : ReceiveTrace} (hclosed : t.hub.closed = true) (ops : List ReceiveOp) :
    (ops.foldl ReceiveTrace.step t).hub.closed = true ∧
      (ops.foldl ReceiveTrace.step t).accepted = t.accepted := by
  induction ops generalizing t with
  | nil => exact ⟨hclosed, rfl⟩
  | cons op ops ih =>
    have hstep : (t.step op).hub.closed = true ∧ (t.step op).accepted = t.accepted := by
      have heffect := step_effect t op
      generalize t.step op = t' at heffect
      cases heffect with
      | pushed _ hopen _ => rw [hclosed] at hopen; cases hopen
      | parked _ _ hopen => rw [hclosed] at hopen; cases hopen
      | refused _ => exact ⟨hclosed, rfl⟩
      | popped _ _ _ _ => exact ⟨hclosed, rfl⟩
      | ended _ _ _ => exact ⟨hclosed, rfl⟩
      | closed => exact ⟨rfl, rfl⟩
    obtain ⟨h, haccepted⟩ := ih hstep.1
    exact ⟨h, haccepted.trans hstep.2⟩

/-- Nothing is accepted after a close. -/
theorem accepted_of_close (recvCapacity : ℕ) (pre post : List ReceiveOp) :
    (run recvCapacity (pre ++ .close :: post)).hub.closed = true ∧
      (run recvCapacity (pre ++ .close :: post)).accepted = (run recvCapacity pre).accepted := by
  have hsplit : run recvCapacity (pre ++ .close :: post) =
      post.foldl ReceiveTrace.step ((run recvCapacity pre).step .close) := by
    rw [run, List.foldl_append, List.foldl_cons]
    rfl
  rw [hsplit]
  exact foldl_of_closed rfl post

/-! ## What the consumer and the producers are told -/

theorem popReceived_error_iff (hub : SessionHub) (cx : Waker) :
    (∃ err, (hub.popReceived cx).1 = .ready (.error err)) ↔
      hub.closed = true ∧ hub.recv = [] := by
  rw [SessionHub.popReceived]
  cases hrecv : hub.recv with
  | cons packet recv =>
    constructor
    · rintro ⟨err, h⟩
      cases h
    · rintro ⟨-, h⟩
      cases h
  | nil =>
    by_cases hclosed : hub.closed = true
    · simp only [if_pos hclosed]
      exact ⟨fun _ => ⟨hclosed, trivial⟩, fun _ => ⟨_, rfl⟩⟩
    · simp only [if_neg hclosed]
      constructor
      · rintro ⟨err, h⟩
        cases h
      · rintro ⟨h, -⟩
        exact absurd h hclosed

/-- An accepted push wakes the task whose waker the hub holds. -/
theorem woken_of_pushReceived {hub hub' : SessionHub} {packet : QueuedPacket}
    {woken : Option Waker} (h : hub.pushReceived packet = (.ok woken, hub')) :
    woken = hub.recvWaker := by
  rw [SessionHub.pushReceived] at h
  split_ifs at h
  · cases h
  · cases h
  · exact (Except.ok.inj (Prod.mk.inj h).1).symm

/-! ## The law of the queue -/

/-- **The law of the receive queue.**  In every run on a hub of any capacity:

* the queue is within `recvCapacity`;
* the popped packets are a prefix of the accepted ones, and the next poll returns the next accepted
  packet, whether or not the hub has closed;
* a poll returns the closed error exactly when the hub has closed and every accepted packet was
  popped;
* no push is accepted after a close;
* a push that is refused changes nothing;
* a parked consumer is woken by the next accepted push, and by a close. -/
theorem receiveQueue_law (recvCapacity : ℕ) (ops : List ReceiveOp) :
    (run recvCapacity ops).hub.recv.length ≤ recvCapacity ∧
    (run recvCapacity ops).popped <+: (run recvCapacity ops).accepted ∧
    (∀ cx packet rest,
      (run recvCapacity ops).accepted = (run recvCapacity ops).popped ++ packet :: rest →
        ((run recvCapacity ops).hub.popReceived cx).1 = .ready (.ok packet)) ∧
    (∀ cx, (∃ err, ((run recvCapacity ops).hub.popReceived cx).1 = .ready (.error err)) ↔
      (run recvCapacity ops).hub.closed = true ∧
        (run recvCapacity ops).accepted = (run recvCapacity ops).popped) ∧
    (∀ pre post, ops = pre ++ .close :: post →
      (run recvCapacity ops).accepted = (run recvCapacity pre).accepted ∧
        ∀ packet, ((run recvCapacity ops).hub.pushReceived packet).1 = .error .sessionClosed) ∧
    (∀ packet err hub', (run recvCapacity ops).hub.pushReceived packet = (.error err, hub') →
      hub' = (run recvCapacity ops).hub) ∧
    (∀ cx, (run recvCapacity ops).parked = some cx →
      (∀ packet woken hub',
        (run recvCapacity ops).hub.pushReceived packet = (.ok woken, hub') → woken = some cx) ∧
      (run recvCapacity ops).hub.close.2 = some cx) := by
  have hvalid := valid_run recvCapacity ops
  have hlen := hvalid.length_le
  rw [recvCapacity_run] at hlen
  refine ⟨hlen, ⟨_, hvalid.accepted.symm⟩, ?_, ?_, ?_, ?_, ?_⟩
  · intro cx packet rest hnext
    rw [hvalid.accepted] at hnext
    rw [SessionHub.popReceived, List.append_cancel_left hnext]
  · intro cx
    rw [popReceived_error_iff, hvalid.accepted, List.append_right_eq_self]
  · rintro pre post rfl
    obtain ⟨hclosed, haccepted⟩ := accepted_of_close recvCapacity pre post
    refine ⟨haccepted, fun packet => ?_⟩
    rw [SessionHub.pushReceived, if_pos hclosed]
  · intro packet err hub' hpush
    rcases SessionHub.pushReceived_cases hpush with ⟨_, -, h⟩ | ⟨_, habs, -⟩
    · exact h
    · cases habs
  · intro cx hcx
    obtain ⟨hwaker, -, -⟩ := hvalid.parked cx hcx
    exact ⟨fun packet woken hub' hpush => (woken_of_pushReceived hpush).trans hwaker, hwaker⟩

end ReceiveTrace

end IrohWebRtc
