import IrohWebRtc.Core.Coordinator
import IrohWebRtc.Core.Error
import IrohWebRtc.Core.Hub
import IrohWebRtc.Lib.Ledger
import Mathlib.Data.List.Induction

/-!
# The queue of local ICE events

`core/hub.rs`, `LocalIceQueue`: the ICE events a peer connection reports wait in a bounded queue
until they are sent to the other side.  A full queue refuses candidates.  The end of candidates is
never refused by an open queue: it takes the place of the oldest candidate, or counts as queued
when an end of candidates waits already.

A handshake waits for the end of candidates of the other side, so a queue that lost it would leave
two nodes waiting for each other.  A candidate may be lost, which costs one way of connecting.
The queue is built on this difference, and so is its law: each accepted event is put down in a
ledger (`Lib.Ledger`) with what became of it, and only candidates are ever found to be evicted.

* `push_cases`, `pollNext_cases`: what the operations do.
* `account_step`: one operation, in the ledger of the queue.
* `localIceQueue_law`: over a whole run, every event whose push returned `Ok` is delivered in
  order, waits, was evicted by an end of candidates, or was an end of candidates coalesced with
  another.
-/

namespace IrohWebRtc

/-- `LocalIceState`. -/
structure LocalIceQueue where
  queue : List LocalIceEvent
  capacity : ℕ
  waker : Option Waker
  closed : Bool
  deriving DecidableEq

namespace LocalIceQueue

def withCapacity (capacity : ℕ) : LocalIceQueue where
  queue := []
  capacity := capacity
  waker := none
  closed := false

/-- The queue is at its capacity. -/
def IsFull (state : LocalIceQueue) : Prop := state.capacity ≤ state.queue.length

instance (state : LocalIceQueue) : Decidable state.IsFull :=
  inferInstanceAs (Decidable (_ ≤ _))

/-- The end of `push`: the event goes to the back and the task that waits is woken. -/
def pushBack (state : LocalIceQueue) (event : LocalIceEvent) :
    Except Error (Option Waker) × LocalIceQueue :=
  (.ok state.waker, { state with queue := state.queue ++ [event], waker := none })

/-- Queues an event.  `Ok` carries the waker that was woken. -/
def push (state : LocalIceQueue) (event : LocalIceEvent) :
    Except Error (Option Waker) × LocalIceQueue :=
  if state.closed then (.error .sessionClosed, state)
  else if state.IsFull then
    if event = .endOfCandidates ∧ 0 < state.capacity then
      if .endOfCandidates ∈ state.queue then (.ok none, state)
      else pushBack { state with queue := state.queue.tail } event
    else (.error .sendQueueFull, state)
  else pushBack state event

/-- Takes the oldest event.  What was queued before the queue closed is still handed out. -/
def pollNext (state : LocalIceQueue) (cx : Waker) :
    Poll (Except Error LocalIceEvent) × LocalIceQueue :=
  match state.queue with
  | event :: queue => (.ready (.ok event), { state with queue := queue })
  | [] =>
    if state.closed then (.ready (.error .sessionClosed), state)
    else (.pending, { state with waker := some cx })

/-- Closes the queue.  The second component is the waker that was woken. -/
def close (state : LocalIceQueue) : LocalIceQueue × Option Waker :=
  ({ state with closed := true, waker := none }, state.waker)

/-- A push is refused, or appends the event, or puts an end of candidates in the place of the
oldest event of a full queue, or finds an end of candidates in a full queue. -/
theorem push_cases {state state' : LocalIceQueue} {event : LocalIceEvent}
    {r : Except Error (Option Waker)} (h : state.push event = (r, state')) :
    (∃ err, r = .error err ∧ state' = state) ∨
      (∃ woken, r = .ok woken ∧ state'.capacity = state.capacity) ∧
        (¬ state.IsFull ∧ state'.queue = state.queue ++ [event] ∨
          state.IsFull ∧ 0 < state.capacity ∧ event = .endOfCandidates ∧
            (.endOfCandidates ∈ state.queue ∧ state' = state ∨
              .endOfCandidates ∉ state.queue ∧ state'.queue = state.queue.tail ++ [event])) := by
  rw [push] at h
  split_ifs at h with hclosed hfull hend hmem
  · obtain ⟨rfl, rfl⟩ := Prod.mk.inj h
    exact Or.inl ⟨_, rfl, rfl⟩
  · obtain ⟨rfl, rfl⟩ := Prod.mk.inj h
    exact Or.inr ⟨⟨_, rfl, rfl⟩, Or.inr ⟨hfull, hend.2, hend.1, Or.inl ⟨hmem, rfl⟩⟩⟩
  · obtain ⟨rfl, rfl⟩ := Prod.mk.inj h
    exact Or.inr ⟨⟨_, rfl, rfl⟩, Or.inr ⟨hfull, hend.2, hend.1, Or.inr ⟨hmem, rfl⟩⟩⟩
  · obtain ⟨rfl, rfl⟩ := Prod.mk.inj h
    exact Or.inl ⟨_, rfl, rfl⟩
  · obtain ⟨rfl, rfl⟩ := Prod.mk.inj h
    exact Or.inr ⟨⟨_, rfl, rfl⟩, Or.inl ⟨hfull, rfl⟩⟩

/-- A poll hands out the oldest event, or finds the queue empty. -/
theorem pollNext_cases {state state' : LocalIceQueue} {cx : Waker}
    {r : Poll (Except Error LocalIceEvent)} (h : state.pollNext cx = (r, state')) :
    state'.capacity = state.capacity ∧
      ((∃ event, r = .ready (.ok event) ∧ state.queue = event :: state'.queue) ∨
        (∀ event, r ≠ .ready (.ok event)) ∧ state'.queue = state.queue) := by
  rw [pollNext] at h
  cases hqueue : state.queue with
  | cons event queue =>
    rw [hqueue] at h
    obtain ⟨rfl, rfl⟩ := Prod.mk.inj h
    exact ⟨rfl, Or.inl ⟨event, rfl, rfl⟩⟩
  | nil =>
    rw [hqueue] at h
    simp only at h
    split_ifs at h with hclosed
    · obtain ⟨rfl, rfl⟩ := Prod.mk.inj h
      exact ⟨rfl, Or.inr ⟨fun event => nofun, hqueue⟩⟩
    · obtain ⟨rfl, rfl⟩ := Prod.mk.inj h
      exact ⟨rfl, Or.inr ⟨fun event => nofun, rfl⟩⟩

end LocalIceQueue

/-! ## Runs -/

/-- The operations of the queue. -/
inductive LocalIceOp where
  | push (event : LocalIceEvent)
  | pollNext (cx : Waker)
  | close
  deriving DecidableEq

/-- A queue, the events whose push returned `Ok`, the events that polls returned, and whether a
push of the end of candidates returned `Ok` after the last poll that returned one. -/
structure LocalIceTrace where
  state : LocalIceQueue
  accepted : List LocalIceEvent
  delivered : List LocalIceEvent
  ended : Bool
  deriving DecidableEq

namespace LocalIceTrace

open Ledger

def new (capacity : ℕ) : LocalIceTrace where
  state := LocalIceQueue.withCapacity capacity
  accepted := []
  delivered := []
  ended := false

/-- One operation. -/
def step (t : LocalIceTrace) : LocalIceOp → LocalIceTrace
  | .push event =>
    match t.state.push event with
    | (.ok _, state) =>
      { t with
        state := state
        accepted := t.accepted ++ [event]
        ended := t.ended || event = .endOfCandidates }
    | (.error _, state) => { t with state := state }
  | .pollNext cx =>
    match t.state.pollNext cx with
    | (.ready (.ok event), state) =>
      { t with
        state := state
        delivered := t.delivered ++ [event]
        ended := t.ended && event ≠ .endOfCandidates }
    | (_, state) => { t with state := state }
  | .close => { t with state := t.state.close.1 }

/-- The operations `ops` on a new queue. -/
def run (capacity : ℕ) (ops : List LocalIceOp) : LocalIceTrace := ops.foldl step (new capacity)

theorem run_concat (capacity : ℕ) (ops : List LocalIceOp) (op : LocalIceOp) :
    run capacity (ops ++ [op]) = (run capacity ops).step op :=
  List.foldl_concat ..

/-- How an accepted event leaves the queue, or the need to be in it. -/
inductive Fate where
  | delivered
  | evicted
  | coalesced
  deriving DecidableEq

/-- A push of the end of candidates in the run `ops` found the queue full, and `P` held. -/
def EndedFull (capacity : ℕ) (ops : List LocalIceOp) (P : LocalIceQueue → Prop) : Prop :=
  ∃ pre post, ops = pre ++ .push .endOfCandidates :: post ∧
    (∃ woken, ((run capacity pre).state.push .endOfCandidates).1 = .ok woken) ∧
    (run capacity pre).state.IsFull ∧ P (run capacity pre).state

/-- The fates an event may have: only a candidate that was the oldest event of a full queue is
evicted, by an end of candidates, and only an end of candidates that found another in a full queue
is coalesced. -/
def Explains (capacity : ℕ) (ops : List LocalIceOp) : LocalIceEvent × Option Fate → Prop
  | (_, none) => True
  | (_, some .delivered) => True
  | (event, some .evicted) =>
    event ≠ .endOfCandidates ∧
      EndedFull capacity ops fun state =>
        .endOfCandidates ∉ state.queue ∧ state.queue.head? = some event
  | (event, some .coalesced) =>
    event = .endOfCandidates ∧
      EndedFull capacity ops fun state => .endOfCandidates ∈ state.queue

/-- The ledger of the run `ops`: it lists the accepted events, those that wait are the queue, those
that were delivered are what the polls returned, and every other fate has its reason. -/
structure Account (capacity : ℕ) (ops : List LocalIceOp)
    (log : List (LocalIceEvent × Option Fate)) : Prop where
  items : items log = (run capacity ops).accepted
  waiting : waiting log = (run capacity ops).state.queue
  delivered : settledAs .delivered log = (run capacity ops).delivered
  inOrder : InOrder .delivered log
  explained : ∀ entry ∈ log, Explains capacity ops entry

/-! ## One operation -/

theorem EndedFull.concat {capacity : ℕ} {ops : List LocalIceOp} {P : LocalIceQueue → Prop}
    (h : EndedFull capacity ops P) (op : LocalIceOp) : EndedFull capacity (ops ++ [op]) P := by
  obtain ⟨pre, post, rfl, h⟩ := h
  exact ⟨pre, post ++ [op], by rw [List.append_assoc, List.cons_append], h⟩

theorem Explains.concat {capacity : ℕ} {ops : List LocalIceOp}
    {entry : LocalIceEvent × Option Fate} (h : Explains capacity ops entry) (op : LocalIceOp) :
    Explains capacity (ops ++ [op]) entry := by
  obtain ⟨event, _ | _ | _ | _⟩ := entry
  · trivial
  · trivial
  · exact ⟨h.1, h.2.concat op⟩
  · exact ⟨h.1, h.2.concat op⟩

/-- What one operation does to a queue, the accepted events and the delivered ones. -/
inductive Effect (t t' : LocalIceTrace) : LocalIceOp → Prop
  /-- Nothing happens to the events. -/
  | idle (op : LocalIceOp) (hqueue : t'.state.queue = t.state.queue)
      (haccepted : t'.accepted = t.accepted) (hdelivered : t'.delivered = t.delivered)
      (hended : t'.ended = t.ended) : Effect t t' op
  /-- The event goes to the back of a queue that is not full. -/
  | queued (event : LocalIceEvent) (hfull : ¬ t.state.IsFull)
      (hqueue : t'.state.queue = t.state.queue ++ [event])
      (haccepted : t'.accepted = t.accepted ++ [event]) (hdelivered : t'.delivered = t.delivered)
      (hended : t'.ended = (t.ended || event = .endOfCandidates)) : Effect t t' (.push event)
  /-- An end of candidates finds another in a full queue. -/
  | coalesced (hok : ∃ woken, (t.state.push .endOfCandidates).1 = .ok woken)
      (hfull : t.state.IsFull) (hend : .endOfCandidates ∈ t.state.queue)
      (hqueue : t'.state.queue = t.state.queue)
      (haccepted : t'.accepted = t.accepted ++ [.endOfCandidates])
      (hdelivered : t'.delivered = t.delivered) (hended : t'.ended = true) :
      Effect t t' (.push .endOfCandidates)
  /-- An end of candidates takes the place of the oldest event of a full queue. -/
  | evicted (hok : ∃ woken, (t.state.push .endOfCandidates).1 = .ok woken)
      (hfull : t.state.IsFull) (hcapacity : 0 < t.state.capacity)
      (hend : .endOfCandidates ∉ t.state.queue)
      (hqueue : t'.state.queue = t.state.queue.tail ++ [.endOfCandidates])
      (haccepted : t'.accepted = t.accepted ++ [.endOfCandidates])
      (hdelivered : t'.delivered = t.delivered) (hended : t'.ended = true) :
      Effect t t' (.push .endOfCandidates)
  /-- The oldest event is handed out. -/
  | delivered (cx : Waker) (event : LocalIceEvent)
      (hqueue : t.state.queue = event :: t'.state.queue)
      (haccepted : t'.accepted = t.accepted) (hdelivered : t'.delivered = t.delivered ++ [event])
      (hended : t'.ended = (t.ended && event ≠ .endOfCandidates)) : Effect t t' (.pollNext cx)

theorem step_effect (t : LocalIceTrace) (op : LocalIceOp) :
    (t.step op).state.capacity = t.state.capacity ∧ Effect t (t.step op) op := by
  cases op with
  | push event =>
    rw [step]
    rcases hpush : t.state.push event with ⟨r, state⟩
    rcases LocalIceQueue.push_cases hpush with ⟨err, rfl, rfl⟩ | ⟨⟨woken, rfl, hcapacity⟩, h⟩
    · exact ⟨rfl, .idle _ rfl rfl rfl rfl⟩
    · refine ⟨hcapacity, ?_⟩
      rcases h with ⟨hfull, hqueue⟩ | ⟨hfull, hpos, rfl, ⟨hend, rfl⟩ | ⟨hend, hqueue⟩⟩
      · exact .queued event hfull hqueue rfl rfl rfl
      · exact .coalesced ⟨woken, congrArg Prod.fst hpush⟩ hfull hend rfl rfl rfl (by simp)
      · exact .evicted ⟨woken, congrArg Prod.fst hpush⟩ hfull hpos hend hqueue rfl rfl (by simp)
  | pollNext cx =>
    rw [step]
    rcases hpoll : t.state.pollNext cx with ⟨r, state⟩
    obtain ⟨hcapacity, ⟨event, rfl, hqueue⟩ | ⟨hne, hqueue⟩⟩ := LocalIceQueue.pollNext_cases hpoll
    · exact ⟨hcapacity, .delivered cx event hqueue rfl rfl rfl⟩
    · rcases r with (err | event) | _
      · exact ⟨hcapacity, .idle _ hqueue rfl rfl rfl⟩
      · exact absurd rfl (hne event)
      · exact ⟨hcapacity, .idle _ hqueue rfl rfl rfl⟩
  | close => exact ⟨rfl, .idle _ rfl rfl rfl rfl⟩

theorem capacity_run (capacity : ℕ) (ops : List LocalIceOp) :
    (run capacity ops).state.capacity = capacity := by
  induction ops using List.reverseRecOn with
  | nil => rfl
  | append_singleton ops op ih => rw [run_concat, (step_effect _ op).1, ih]

/-- The queue is within its capacity, and an end of candidates that is owed is in it. -/
structure Within (t : LocalIceTrace) : Prop where
  length_le : t.state.queue.length ≤ t.state.capacity
  ended : t.ended = true → .endOfCandidates ∈ t.state.queue

theorem Within.step {t : LocalIceTrace} (h : t.Within) (op : LocalIceOp) : (t.step op).Within := by
  obtain ⟨hcapacity, heffect⟩ := step_effect t op
  generalize t.step op = t' at hcapacity heffect
  have hlen := h.length_le
  cases heffect with
  | idle _ hqueue _ _ hended => exact ⟨by rw [hqueue, hcapacity]; exact hlen,
      fun hend => hqueue ▸ h.ended (hended ▸ hend)⟩
  | queued event hfull hqueue _ _ hended =>
    rw [LocalIceQueue.IsFull] at hfull
    refine ⟨?_, fun hend => ?_⟩
    · rw [hqueue, hcapacity, List.length_append, List.length_singleton]
      omega
    · rw [hended, Bool.or_eq_true, decide_eq_true_eq] at hend
      rw [hqueue, List.mem_append, List.mem_singleton]
      exact hend.imp h.ended Eq.symm
  | coalesced _ _ hend hqueue =>
    rw [← hqueue] at hlen hend
    exact ⟨hcapacity ▸ hlen, fun _ => hend⟩
  | evicted _ _ hpos _ hqueue =>
    refine ⟨?_, fun _ => ?_⟩
    · rw [hqueue, hcapacity, List.length_append, List.length_tail, List.length_singleton]
      omega
    · rw [hqueue, List.mem_append]
      exact Or.inr List.mem_cons_self
  | delivered _ event hqueue _ _ hended =>
    rw [hqueue, List.length_cons] at hlen
    refine ⟨by omega, fun hend => ?_⟩
    rw [hended, Bool.and_eq_true, decide_eq_true_eq] at hend
    have hmem := h.ended hend.1
    rw [hqueue, List.mem_cons] at hmem
    exact hmem.resolve_left hend.2.symm

theorem within_run (capacity : ℕ) (ops : List LocalIceOp) : (run capacity ops).Within := by
  induction ops using List.reverseRecOn with
  | nil => exact ⟨Nat.zero_le _, nofun⟩
  | append_singleton ops op ih =>
    rw [run_concat]
    exact ih.step op

/-- One operation in the ledger. -/
theorem account_step {capacity : ℕ} {ops : List LocalIceOp}
    {log : List (LocalIceEvent × Option Fate)} (h : Account capacity ops log) (op : LocalIceOp) :
    ∃ log', Account capacity (ops ++ [op]) log' := by
  obtain ⟨-, heffect⟩ := step_effect (run capacity ops) op
  have hexplained : ∀ entry ∈ log, Explains capacity (ops ++ [op]) entry :=
    fun entry hmem => (h.explained entry hmem).concat op
  have hrun := run_concat capacity ops op
  rw [← hrun] at heffect
  cases heffect with
  | idle _ hqueue haccepted hdelivered =>
    exact ⟨log, by rw [haccepted, h.items], by rw [hqueue, h.waiting],
      by rw [hdelivered, h.delivered], h.inOrder, hexplained⟩
  | queued event _ hqueue haccepted hdelivered =>
    refine ⟨log ++ [(event, none)], ?_, ?_, ?_, h.inOrder.concat nofun, ?_⟩
    · rw [items_append, h.items, haccepted]
      rfl
    · rw [waiting_append, h.waiting, hqueue]
      rfl
    · rw [settledAs_append, h.delivered, hdelivered]
      exact List.append_nil _
    · intro entry hmem
      rcases List.mem_append.mp hmem with hmem | hmem
      · exact hexplained entry hmem
      · rw [List.mem_singleton.mp hmem]
        trivial
  | coalesced hok hfull hend hqueue haccepted hdelivered =>
    refine ⟨log ++ [(.endOfCandidates, some .coalesced)], ?_, ?_, ?_, h.inOrder.concat nofun, ?_⟩
    · rw [items_append, h.items, haccepted]
      rfl
    · rw [waiting_append, h.waiting, hqueue]
      exact List.append_nil _
    · rw [settledAs_append, h.delivered, hdelivered]
      exact List.append_nil _
    · intro entry hmem
      rcases List.mem_append.mp hmem with hmem | hmem
      · exact hexplained entry hmem
      · rw [List.mem_singleton.mp hmem]
        exact ⟨rfl, ops, [], rfl, hok, hfull, hend⟩
  | evicted hok hfull _ hend hqueue haccepted hdelivered =>
    refine ⟨settleNext .evicted log ++ [(.endOfCandidates, none)], ?_, ?_, ?_,
      (h.inOrder.settleNext _).concat nofun, ?_⟩
    · rw [items_append, items_settleNext, h.items, haccepted]
      rfl
    · rw [waiting_append, waiting_settleNext, h.waiting, hqueue]
      rfl
    · rw [settledAs_append, settledAs_settleNext_of_ne (by decide), h.delivered, hdelivered]
      exact List.append_nil _
    · intro entry hmem
      rcases List.mem_append.mp hmem with hmem | hmem
      · rcases mem_settleNext hmem with hmem | ⟨hfate, hhead⟩
        · exact hexplained entry hmem
        · obtain ⟨event, fate⟩ := entry
          obtain rfl : fate = some .evicted := hfate
          rw [h.waiting] at hhead
          refine ⟨?_, ops, [], rfl, hok, hfull, hend, hhead⟩
          rintro rfl
          exact hend (List.mem_of_mem_head? hhead)
      · rw [List.mem_singleton.mp hmem]
        trivial
  | delivered _ event hqueue haccepted hdelivered =>
    have hwaiting : waiting log = event :: (run capacity (ops ++ [_])).state.queue :=
      h.waiting.trans hqueue
    refine ⟨settleNext .delivered log, ?_, ?_, ?_, h.inOrder.settleNext _, ?_⟩
    · rw [items_settleNext, h.items, haccepted]
    · rw [waiting_settleNext, hwaiting, List.tail_cons]
    · rw [h.inOrder.settledAs_settleNext, hwaiting, h.delivered, hdelivered]
      rfl
    · intro entry hmem
      rcases mem_settleNext hmem with hmem | ⟨hfate, -⟩
      · exact hexplained entry hmem
      · obtain ⟨_, fate⟩ := entry
        obtain rfl : fate = some .delivered := hfate
        trivial

theorem exists_account (capacity : ℕ) (ops : List LocalIceOp) :
    ∃ log, Account capacity ops log := by
  induction ops using List.reverseRecOn with
  | nil => exact ⟨[], rfl, rfl, rfl, List.Pairwise.nil, nofun⟩
  | append_singleton ops op ih =>
    obtain ⟨log, h⟩ := ih
    exact account_step h op

/-! ## The law of the queue -/

/-- **The law of the queue of local ICE events.**  In every run on a queue of any capacity:

* the queue is within its capacity;
* what was delivered is a subsequence of the accepted events, and a ledger accounts for each of
  them: it was delivered, waits, was evicted by an end of candidates, or was coalesced with one;
* when the queue is drained nothing waits, so every accepted event that was not delivered is a
  candidate that was evicted or an end of candidates that was coalesced;
* an accepted end of candidates is in the queue until a poll returns one;
* a push that is refused changes nothing. -/
theorem localIceQueue_law (capacity : ℕ) (ops : List LocalIceOp) :
    (run capacity ops).state.queue.length ≤ capacity ∧
    (run capacity ops).delivered.Sublist (run capacity ops).accepted ∧
    (∃ log, Account capacity ops log ∧
      ((run capacity ops).state.queue = [] →
        ∀ entry ∈ log, entry.2 ≠ some .delivered →
          entry.2 = some .evicted ∧ entry.1 ≠ .endOfCandidates ∨
            entry.2 = some .coalesced ∧ entry.1 = .endOfCandidates)) ∧
    ((run capacity ops).ended = true → .endOfCandidates ∈ (run capacity ops).state.queue) ∧
    (∀ event err state', (run capacity ops).state.push event = (.error err, state') →
      state' = (run capacity ops).state) := by
  have hwithin := within_run capacity ops
  have hlen := hwithin.length_le
  rw [capacity_run] at hlen
  obtain ⟨log, hlog⟩ := exists_account capacity ops
  refine ⟨hlen, ?_, ⟨log, hlog, ?_⟩, hwithin.ended, ?_⟩
  · rw [← hlog.delivered, ← hlog.items]
    exact settledAs_sublist _ log
  · rintro hempty ⟨event, _ | _ | _ | _⟩ hmem hne
    · have hwaits := mem_waiting.mpr hmem
      rw [hlog.waiting, hempty] at hwaits
      exact absurd hwaits List.not_mem_nil
    · exact absurd rfl hne
    · exact Or.inl ⟨rfl, (hlog.explained _ hmem).1⟩
    · exact Or.inr ⟨rfl, (hlog.explained _ hmem).1⟩
  · intro event err state' hpush
    rcases LocalIceQueue.push_cases hpush with ⟨_, -, h⟩ | ⟨⟨_, habs, -⟩, -⟩
    · exact h
    · cases habs

/-- A candidate, an end of candidates that takes its place, and a second end that is coalesced. -/
example (c : WebRtcIceCandidate) :
    (run 1 [.push (.candidate c), .push .endOfCandidates, .push .endOfCandidates]).accepted =
        [.candidate c, .endOfCandidates, .endOfCandidates] ∧
      (run 1 [.push (.candidate c), .push .endOfCandidates, .push .endOfCandidates,
        .pollNext 0]).delivered = [.endOfCandidates] :=
  ⟨rfl, rfl⟩

end LocalIceTrace

end IrohWebRtc
