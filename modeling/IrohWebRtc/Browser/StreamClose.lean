import IrohWebRtc.Lib.Runs
import Mathlib.Algebra.BigOperators.Group.List.Basic
import Mathlib.Algebra.GroupWithZero.Nat
import Mathlib.Data.List.Count
import Mathlib.Data.List.Perm.Basic
import Mathlib.Tactic.Common

/-!
# One browser stream and the close of its node

`send_stream_chunk`, `receive_stream_chunk` and `close_stream_send` of `node/stream.rs`, with the
part of `close_inner` that ends the streams of a node.  Each direction of a stream has a flag, an
async mutex and a `Notify`.  A call looks at the flag, waits for the mutex, looks again, and then
waits in `select!` for its I/O or for a notification.  `close_inner` sets the flags and notifies
without the mutex, so its steps fall between any two steps of the calls.

Tokio's mutex goes to one of those who wait for it.  `notify_waiters` reaches the `Notified` futures
that exist, `notify_one` reaches one that has been polled, or it leaves a permit, which the next
poll takes; and a future that was reached by `notify_one` and is dropped passes it on.

* `StreamHalf.Sound`, `StreamHalf.Alert`: the invariant of one direction, and what the notifications
  establish: whoever has the mutex and will wait for a notification gets one.
* `work_step`: every step of a call brings it closer to its end.
* `streamClose_law`: `finish` is called once and nothing is written after it; when the node has
  closed, no call is parked without a notification, some call can go on until all have returned, and
  whoever looks at a flag returns.
-/

namespace IrohWebRtc

/-- The calls on a stream. -/
inductive StreamOp where
  | sendChunk (endStream : Bool)
  | closeSend
  | receiveChunk
  deriving DecidableEq, Repr

/-- The directions of a stream. -/
inductive StreamDirection where
  | send
  | recv
  deriving DecidableEq, Repr

/-- What a call returns. -/
inductive StreamResult where
  /-- `Err(BrowserRuntimeError::closed())`. -/
  | closed
  /-- `closed: true` of `close_stream_send`. -/
  | sendClosed
  /-- `done: true` of `receive_stream_chunk`. -/
  | done
  | chunk
  | accepted
  /-- The I/O or `finish` has failed. -/
  | failed
  deriving DecidableEq, Repr

/-- What has been done with the stream. -/
inductive StreamIo where
  | write
  | read
  | finish
  deriving DecidableEq, Repr

/-- The other direction. -/
def StreamDirection.other : StreamDirection → StreamDirection
  | send => .recv
  | recv => .send

namespace StreamOp

def direction : StreamOp → StreamDirection
  | sendChunk _ | closeSend => .send
  | receiveChunk => .recv

/-- The result of a call that finds the flag set or is cancelled. -/
def closedResult : StreamOp → StreamResult
  | sendChunk _ => .closed
  | closeSend => .sendClosed
  | receiveChunk => .done

/-- The I/O of the `select!` of a call. -/
def io : StreamOp → StreamIo
  | receiveChunk => .read
  | _ => .write

/-- The result of a call that has come to its end. -/
def finished : StreamOp → StreamResult
  | sendChunk _ => .accepted
  | closeSend => .sendClosed
  | receiveChunk => .chunk

end StreamOp

/-- Where a call without the mutex is. -/
inductive OutsidePhase where
  /-- It has found the node open and gets its handle. -/
  | opening
  /-- It looks at the flag. -/
  | entered
  /-- It waits for the mutex. -/
  | locking
  deriving DecidableEq, Repr

/-- What has reached a `Notified` future. -/
inductive Notification where
  | waiters
  | one
  deriving DecidableEq, Repr

/-- Where the call with the mutex is. -/
inductive HoldPhase where
  /-- It looks at the flag again. -/
  | locked
  /-- It creates its `Notified` future. -/
  | checked
  /-- It polls its `select!` for the first time. -/
  | created (notification : Option Notification)
  | parked (notification : Option Notification)
  /-- A write is done. -/
  | wrote
  /-- It has set the flag and calls `finish`. -/
  | swapped
  deriving DecidableEq, Repr

/-- One direction of a stream: `closed_send`, `send` and `send_cancel`, or the same for `recv`. -/
structure StreamHalf where
  closed : Bool
  /-- The permit of the `Notify`. -/
  permit : Bool
  outside : List (StreamOp × OutsidePhase)
  /-- The call that has the mutex. -/
  holder : Option (StreamOp × HoldPhase)
  io : List StreamIo
  returned : List (StreamOp × StreamResult)
  /-- The stream was reset, or stopped, by the close of the node. -/
  aborted : Bool
  deriving DecidableEq

/-- How the I/O of a `select!` ends. -/
inductive IoOutcome where
  | ok
  | endOfStream
  /-- An error, or the timeout of a write. -/
  | failed
  deriving DecidableEq, Repr

/-- The steps of the calls in one direction.  `select!` polls its branches in any order. -/
inductive CallEvent where
  /-- The call at `index` of those without the mutex goes on. -/
  | outside (index : ℕ)
  /-- The holder goes on to its `select!`, or after it. -/
  | holder
  /-- The first poll, the notification first. -/
  | pollCancelFirst
  /-- The first poll, the I/O first, which is not ready. -/
  | pollIoFirst
  /-- The first poll, the I/O first, which is ready. -/
  | pollIoReady (outcome : IoOutcome)
  /-- The parked holder takes its notification. -/
  | cancel
  /-- The I/O of the parked holder is ready. -/
  | ioReady (outcome : IoOutcome)
  | finish (ok : Bool)
  deriving DecidableEq, Repr

namespace StreamHalf

def opened : StreamHalf := ⟨false, false, [], none, [], [], false⟩

/-- The holder returns, which releases the mutex. -/
def returns (h : StreamHalf) (op : StreamOp) (result : StreamResult) : StreamHalf :=
  { h with holder := none, returned := h.returned ++ [(op, result)] }

/-- `notify_waiters`. -/
def notifyWaiters (h : StreamHalf) : StreamHalf :=
  match h.holder with
  | some (op, .created none) => { h with holder := some (op, .created (some .waiters)) }
  | some (op, .parked none) => { h with holder := some (op, .parked (some .waiters)) }
  | _ => h

/-- `notify_one`. -/
def notifyOne (h : StreamHalf) : StreamHalf :=
  match h.holder with
  | some (op, .parked none) => { h with holder := some (op, .parked (some .one)) }
  | _ => { h with permit := true }

/-- The `try_lock` of `close_inner`. -/
def abort (h : StreamHalf) : StreamHalf :=
  if h.holder.isNone then { h with aborted := true } else h

/-- The holder has done its I/O. -/
def afterIo (h : StreamHalf) (op : StreamOp) : IoOutcome → StreamHalf
  | .failed => h.returns op .failed
  | .ok =>
    match op with
    | .receiveChunk => h.returns op .chunk
    | _ => { h with holder := some (op, .wrote) }
  | .endOfStream =>
    match op with
    | .receiveChunk => h.returns op .done
    | _ => { h with holder := some (op, .wrote) }

def stepOutside (nodeClosed : Bool) (h : StreamHalf) (index : ℕ) : Option StreamHalf :=
  match h.outside[index]? with
  | none => none
  | some (op, .opening) =>
    if nodeClosed then
      some
        { h with
          outside := h.outside.eraseIdx index
          returned := h.returned ++ [(op, .closed)] }
    else some { h with outside := h.outside.set index (op, .entered) }
  | some (op, .entered) =>
    if h.closed then
      some
        { h with
          outside := h.outside.eraseIdx index
          returned := h.returned ++ [(op, op.closedResult)] }
    else some { h with outside := h.outside.set index (op, .locking) }
  | some (op, .locking) =>
    if h.holder.isNone then
      some { h with outside := h.outside.eraseIdx index, holder := some (op, .locked) }
    else none

def stepHolder (h : StreamHalf) : Option StreamHalf :=
  match h.holder with
  | some (.closeSend, .locked) =>
    if h.closed then some (h.returns .closeSend .sendClosed)
    else some { h with closed := true, holder := some (.closeSend, .swapped) }
  | some (op, .locked) =>
    if h.closed then some (h.returns op op.closedResult)
    else some { h with holder := some (op, .checked) }
  | some (op, .checked) => some { h with holder := some (op, .created none) }
  | some (op, .wrote) =>
    if op = .sendChunk true ∧ h.closed = false then
      some { h with closed := true, holder := some (op, .swapped) }
    else some (h.returns op .accepted)
  | _ => none

/-- The first poll of `select!`.  A future that was reached since it was created is ready without
the permit. -/
def poll (h : StreamHalf) (ioFirst : Bool) : Option StreamHalf :=
  match h.holder with
  | some (op, .created notification) =>
    let started := { h with io := h.io ++ [op.io] }
    if notification.isSome then
      some ((if ioFirst then started else h).returns op op.closedResult)
    else if h.permit then
      some { (if ioFirst then started else h).returns op op.closedResult with permit := false }
    else some { started with holder := some (op, .parked none) }
  | _ => none

def step (nodeClosed : Bool) (h : StreamHalf) : CallEvent → Option StreamHalf
  | .outside index => h.stepOutside nodeClosed index
  | .holder => h.stepHolder
  | .pollCancelFirst => h.poll false
  | .pollIoFirst => h.poll true
  | .pollIoReady outcome =>
    match h.holder with
    | some (op, .created _) =>
      some (({ h with io := h.io ++ [op.io] } : StreamHalf).afterIo op outcome)
    | _ => none
  | .cancel =>
    match h.holder with
    | some (op, .parked (some _)) => some (h.returns op op.closedResult)
    | _ => none
  | .ioReady outcome =>
    match h.holder with
    | some (op, .parked (some .one)) => some (h.afterIo op outcome).notifyOne
    | some (op, .parked _) => some (h.afterIo op outcome)
    | _ => none
  | .finish ok =>
    match h.holder with
    | some (op, .swapped) =>
      some (({ h with io := h.io ++ [.finish] } : StreamHalf).returns op
        (if ok then op.finished else .failed))
    | _ => none

end StreamHalf

/-- How far `close_inner` has come with the stream. -/
inductive ClosePhase where
  | running
  /-- The node is closed. -/
  | marked
  | sendStored
  | recvStored
  | sendWaitersNotified
  | sendNotified
  | recvWaitersNotified
  | recvNotified
  | sendAborted
  | finished
  deriving DecidableEq, Repr

/-- A stream of a browser node. -/
structure BrowserStream where
  send : StreamHalf
  recv : StreamHalf
  closing : ClosePhase
  deriving DecidableEq

inductive StreamEvent where
  /-- A call looks whether the node is open. -/
  | start (op : StreamOp)
  | call (direction : StreamDirection) (event : CallEvent)
  /-- The next step of `close_inner`. -/
  | close
  deriving DecidableEq, Repr

namespace BrowserStream

/-- A stream that has just been inserted. -/
def opened : BrowserStream := ⟨.opened, .opened, .running⟩

def half (t : BrowserStream) : StreamDirection → StreamHalf
  | .send => t.send
  | .recv => t.recv

def setHalf (t : BrowserStream) (h : StreamHalf) : StreamDirection → BrowserStream
  | .send => { t with send := h }
  | .recv => { t with recv := h }

def nodeClosed (t : BrowserStream) : Bool := t.closing ≠ .running

/-- `ensure_node_open_for_stream`. -/
def start (t : BrowserStream) (op : StreamOp) : BrowserStream :=
  let h := t.half op.direction
  if t.nodeClosed then t.setHalf { h with returned := h.returned ++ [(op, .closed)] } op.direction
  else t.setHalf { h with outside := h.outside ++ [(op, .opening)] } op.direction

/-- `close_inner`, for this stream. -/
def close (t : BrowserStream) : Option BrowserStream :=
  match t.closing with
  | .running => some { t with closing := .marked }
  | .marked => some { t with send := { t.send with closed := true }, closing := .sendStored }
  | .sendStored => some { t with recv := { t.recv with closed := true }, closing := .recvStored }
  | .recvStored => some { t with send := t.send.notifyWaiters, closing := .sendWaitersNotified }
  | .sendWaitersNotified => some { t with send := t.send.notifyOne, closing := .sendNotified }
  | .sendNotified => some { t with recv := t.recv.notifyWaiters, closing := .recvWaitersNotified }
  | .recvWaitersNotified => some { t with recv := t.recv.notifyOne, closing := .recvNotified }
  | .recvNotified => some { t with send := t.send.abort, closing := .sendAborted }
  | .sendAborted => some { t with recv := t.recv.abort, closing := .finished }
  | .finished => none

def step (t : BrowserStream) : StreamEvent → Option BrowserStream
  | .start op => some (t.start op)
  | .call direction event =>
    ((t.half direction).step t.nodeClosed event).map fun h => t.setHalf h direction
  | .close => t.close

end BrowserStream

/-! ## One `finish`, and no write after it -/

/-- In these phases the holder has seen the flag down, or put it up itself, since it got the mutex,
and has not called `finish`. -/
def HoldPhase.Unfinished : HoldPhase → Prop
  | .checked | .created _ | .swapped => True
  | _ => False

namespace StreamHalf

variable {h h' : StreamHalf} {nodeClosed : Bool} {event : CallEvent}

/-- The invariant of one direction. -/
structure Sound (h : StreamHalf) : Prop where
  closed : StreamIo.finish ∈ h.io → h.closed = true
  last : StreamIo.finish ∉ h.io.dropLast
  holder : ∀ op phase, h.holder = some (op, phase) → phase.Unfinished → StreamIo.finish ∉ h.io
  swapped : ∀ op, h.holder = some (op, .swapped) → h.closed = true

theorem sound_opened : opened.Sound where
  closed := by simp [opened]
  last := by simp [opened]
  holder := by simp [opened]
  swapped := by simp [opened]

/-- A step that does no I/O keeps the invariant, when it puts no flag down and brings the holder to
a phase that is unfinished only where nothing was finished. -/
theorem Sound.frame (hsound : h.Sound) (hio : h'.io = h.io)
    (hclosed : h.closed = true → h'.closed = true)
    (hholder : ∀ op phase, h'.holder = some (op, phase) → phase.Unfinished →
      StreamIo.finish ∉ h.io)
    (hswapped : ∀ op, h'.holder = some (op, .swapped) → h'.closed = true) : h'.Sound where
  closed := fun hmem => hclosed (hsound.closed (hio ▸ hmem))
  last := hio ▸ hsound.last
  holder := fun op phase heq hphase => hio ▸ hholder op phase heq hphase
  swapped := hswapped

theorem Sound.returns (hsound : h.Sound) (op : StreamOp) (result : StreamResult) :
    (h.returns op result).Sound :=
  hsound.frame rfl id (by simp [StreamHalf.returns]) (by simp [StreamHalf.returns])

/-- I/O starts where nothing was finished. -/
theorem sound_started (op : StreamOp) (holder : Option (StreamOp × HoldPhase))
    (hfinish : StreamIo.finish ∉ h.io)
    (hholder : ∀ op phase, holder = some (op, phase) → ¬ phase.Unfinished) :
    ({ h with io := h.io ++ [op.io], holder := holder } : StreamHalf).Sound := by
  have hne : op.io ≠ StreamIo.finish := by cases op <;> simp [StreamOp.io]
  have hnot : StreamIo.finish ∉ h.io ++ [op.io] := by
    simp only [List.mem_append, List.mem_singleton, not_or]
    exact ⟨hfinish, fun heq => hne heq.symm⟩
  exact ⟨fun hmem => absurd hmem hnot, fun hmem => hnot ((List.dropLast_sublist _).subset hmem),
    fun _ _ _ _ => hnot, fun op heq => absurd trivial (hholder op .swapped heq)⟩

theorem Sound.afterIo (hsound : h.Sound) (op : StreamOp) (outcome : IoOutcome) :
    (h.afterIo op outcome).Sound := by
  have hwrote : ({ h with holder := some (op, .wrote) } : StreamHalf).Sound := by
    refine hsound.frame rfl id ?_ (by simp)
    rintro _ phase heq hphase
    obtain ⟨-, rfl⟩ := Prod.mk.inj (Option.some.inj heq)
    exact absurd hphase id
  cases outcome with
  | failed => exact hsound.returns op .failed
  | ok => cases op <;> first | exact hwrote | exact hsound.returns _ _
  | endOfStream => cases op <;> first | exact hwrote | exact hsound.returns _ _

theorem Sound.notifyOne (hsound : h.Sound) : h.notifyOne.Sound := by
  unfold StreamHalf.notifyOne
  split
  · refine hsound.frame rfl id ?_ (by simp)
    rintro _ phase heq hphase
    obtain ⟨-, rfl⟩ := Prod.mk.inj (Option.some.inj heq)
    exact absurd hphase id
  · exact hsound.frame rfl id hsound.holder hsound.swapped

theorem Sound.notifyWaiters (hsound : h.Sound) : h.notifyWaiters.Sound := by
  unfold StreamHalf.notifyWaiters
  split
  · rename_i op hholder
    exact hsound.frame rfl id (fun _ _ _ _ => hsound.holder op _ hholder trivial) (by simp)
  · refine hsound.frame rfl id ?_ (by simp)
    rintro _ phase heq hphase
    obtain ⟨-, rfl⟩ := Prod.mk.inj (Option.some.inj heq)
    exact absurd hphase id
  · exact hsound

theorem Sound.abort (hsound : h.Sound) : h.abort.Sound := by
  unfold StreamHalf.abort
  split_ifs
  · exact hsound.frame rfl id hsound.holder hsound.swapped
  · exact hsound

theorem Sound.stepOutside {index : ℕ} (hsound : h.Sound)
    (hstep : h.stepOutside nodeClosed index = some h') : h'.Sound := by
  unfold StreamHalf.stepOutside at hstep
  split at hstep
  · exact absurd hstep (by simp)
  · split_ifs at hstep <;> obtain rfl := Option.some.inj hstep <;>
      exact hsound.frame rfl id hsound.holder hsound.swapped
  · split_ifs at hstep <;> obtain rfl := Option.some.inj hstep <;>
      exact hsound.frame rfl id hsound.holder hsound.swapped
  · split_ifs at hstep
    obtain rfl := Option.some.inj hstep
    refine hsound.frame rfl id ?_ (by simp)
    rintro _ phase heq hphase
    obtain ⟨-, rfl⟩ := Prod.mk.inj (Option.some.inj heq)
    exact absurd hphase id

/-- The holder sets the flag only where it was down, so that nothing was finished. -/
theorem Sound.swap (hsound : h.Sound) (hclosed : h.closed = false) (op : StreamOp) :
    ({ h with closed := true, holder := some (op, .swapped) } : StreamHalf).Sound :=
  hsound.frame rfl (fun _ => rfl)
    (fun _ _ _ _ hmem => absurd (hclosed.symm.trans (hsound.closed hmem)) (by simp)) fun _ _ => rfl

theorem Sound.stepHolder (hsound : h.Sound) (hstep : h.stepHolder = some h') : h'.Sound := by
  unfold StreamHalf.stepHolder at hstep
  split at hstep
  · split_ifs at hstep with hclosed
    · obtain rfl := Option.some.inj hstep
      exact hsound.returns _ _
    · obtain rfl := Option.some.inj hstep
      exact hsound.swap (Bool.eq_false_iff.mpr hclosed) _
  · split_ifs at hstep with hclosed
    · obtain rfl := Option.some.inj hstep
      exact hsound.returns _ _
    · -- the flag is down under the mutex, so nothing was finished
      obtain rfl := Option.some.inj hstep
      refine hsound.frame rfl id (fun _ _ _ _ hmem => hclosed (hsound.closed hmem)) (by simp)
  · rename_i op hholder
    obtain rfl := Option.some.inj hstep
    exact hsound.frame rfl id (fun _ _ _ _ => hsound.holder op _ hholder trivial) (by simp)
  · split_ifs at hstep with hlast
    · obtain rfl := Option.some.inj hstep
      exact hsound.swap hlast.2 _
    · obtain rfl := Option.some.inj hstep
      exact hsound.returns _ _
  · exact absurd hstep (by simp)

theorem Sound.poll {ioFirst : Bool} (hsound : h.Sound) (hstep : h.poll ioFirst = some h') :
    h'.Sound := by
  unfold StreamHalf.poll at hstep
  split at hstep
  · rename_i op notification hholder
    have hfinish := hsound.holder op _ hholder trivial
    have hstarted : ∀ result, ((if ioFirst then { h with io := h.io ++ [op.io] }
        else h : StreamHalf).returns op result).Sound := by
      intro result
      cases ioFirst with
      | true => exact (sound_started op none hfinish (by simp)).returns op result
      | false => exact hsound.returns op result
    dsimp only at hstep
    by_cases hreached : notification.isSome = true
    · rw [if_pos hreached] at hstep
      obtain rfl := Option.some.inj hstep
      exact hstarted _
    rw [if_neg hreached] at hstep
    by_cases hpermit : h.permit = true
    · rw [if_pos hpermit] at hstep
      obtain rfl := Option.some.inj hstep
      exact (hstarted op.closedResult).frame rfl id (by simp [StreamHalf.returns])
        (by simp [StreamHalf.returns])
    · rw [if_neg hpermit] at hstep
      obtain rfl := Option.some.inj hstep
      refine sound_started op _ hfinish ?_
      rintro _ phase heq
      obtain ⟨-, rfl⟩ := Prod.mk.inj (Option.some.inj heq)
      exact id
  · exact absurd hstep (by simp)

/-- **The steps of the calls keep the invariant.** -/
theorem Sound.step (hsound : h.Sound) (hstep : h.step nodeClosed event = some h') : h'.Sound := by
  cases event with
  | outside index => exact hsound.stepOutside hstep
  | holder => exact hsound.stepHolder hstep
  | pollCancelFirst => exact hsound.poll hstep
  | pollIoFirst => exact hsound.poll hstep
  | pollIoReady outcome =>
    simp only [StreamHalf.step] at hstep
    split at hstep
    · rename_i op notification hholder
      obtain rfl := Option.some.inj hstep
      have hstart : ({ h with io := h.io ++ [op.io], holder := none } : StreamHalf).Sound :=
        sound_started op none (hsound.holder op _ hholder trivial) (by simp)
      have hio := hstart.afterIo op outcome
      cases outcome <;> cases op <;> exact hio
    · exact absurd hstep (by simp)
  | cancel =>
    simp only [StreamHalf.step] at hstep
    split at hstep
    · obtain rfl := Option.some.inj hstep
      exact hsound.returns _ _
    · exact absurd hstep (by simp)
  | ioReady outcome =>
    simp only [StreamHalf.step] at hstep
    split at hstep
    · obtain rfl := Option.some.inj hstep
      exact (hsound.afterIo _ outcome).notifyOne
    · obtain rfl := Option.some.inj hstep
      exact hsound.afterIo _ outcome
    · exact absurd hstep (by simp)
  | finish ok =>
    simp only [StreamHalf.step] at hstep
    split at hstep
    · rename_i op hholder
      obtain rfl := Option.some.inj hstep
      have hfinish := hsound.holder op _ hholder trivial
      refine ⟨fun _ => hsound.swapped op hholder, ?_, by simp [StreamHalf.returns],
        by simp [StreamHalf.returns]⟩
      show StreamIo.finish ∉ (h.io ++ [StreamIo.finish]).dropLast
      rw [List.dropLast_concat]
      exact hfinish
    · exact absurd hstep (by simp)

end StreamHalf

/-! ## What the notifications establish -/

/-- A holder that will wait for a notification has one, or finds the permit. -/
def HoldPhase.Reached (permit : Bool) : HoldPhase → Prop
  | .checked => permit = true
  | .created notification => notification.isSome = true ∨ permit = true
  | .parked notification => notification.isSome = true
  | _ => True

namespace StreamHalf

variable {h h' : StreamHalf} {nodeClosed : Bool} {event : CallEvent}

/-- The flag is set, and whoever has the mutex and will wait for a notification gets one. -/
structure Alert (h : StreamHalf) : Prop where
  closed : h.closed = true
  holder : ∀ op phase, h.holder = some (op, phase) → phase.Reached h.permit

/-- **`notify_one` after the flag**: a holder that is parked is notified, and one that is not yet
parked finds the permit.  The flag keeps others from getting that far. -/
theorem alert_notifyOne (hclosed : h.closed = true) : h.notifyOne.Alert := by
  unfold StreamHalf.notifyOne
  split
  · refine ⟨hclosed, fun _ phase heq => ?_⟩
    obtain ⟨-, rfl⟩ := Prod.mk.inj (Option.some.inj heq)
    rfl
  · rename_i hparked
    refine ⟨hclosed, fun op phase heq => ?_⟩
    cases phase with
    | parked notification =>
      cases notification with
      | none => exact absurd heq (hparked op)
      | some notification => rfl
    | created notification => exact Or.inr rfl
    | checked => rfl
    | locked => trivial
    | wrote => trivial
    | swapped => trivial

theorem Alert.abort (halert : h.Alert) : h.abort.Alert := by
  unfold StreamHalf.abort
  split_ifs
  · exact ⟨halert.closed, halert.holder⟩
  · exact halert

/-- A holder that is gone waits for nothing. -/
theorem alert_of_holder_none (hclosed : h.closed = true) (hholder : h.holder = none) : h.Alert :=
  ⟨hclosed, fun _ _ heq => absurd (hholder.symm.trans heq) (by simp)⟩

theorem Alert.returns (halert : h.Alert) (op : StreamOp) (result : StreamResult) :
    (h.returns op result).Alert :=
  alert_of_holder_none halert.closed rfl

theorem alert_afterIo (hclosed : h.closed = true) (op : StreamOp) (outcome : IoOutcome) :
    (h.afterIo op outcome).Alert := by
  have hwrote : ({ h with holder := some (op, .wrote) } : StreamHalf).Alert := by
    refine ⟨hclosed, fun _ phase heq => ?_⟩
    obtain ⟨-, rfl⟩ := Prod.mk.inj (Option.some.inj heq)
    trivial
  cases outcome with
  | failed => exact alert_of_holder_none hclosed rfl
  | ok => cases op <;> first | exact hwrote | exact alert_of_holder_none hclosed rfl
  | endOfStream => cases op <;> first | exact hwrote | exact alert_of_holder_none hclosed rfl

theorem Alert.stepOutside {index : ℕ} (halert : h.Alert)
    (hstep : h.stepOutside nodeClosed index = some h') : h'.Alert := by
  unfold StreamHalf.stepOutside at hstep
  split at hstep
  · exact absurd hstep (by simp)
  · split_ifs at hstep <;> obtain rfl := Option.some.inj hstep <;>
      exact ⟨halert.closed, halert.holder⟩
  · split_ifs at hstep <;> obtain rfl := Option.some.inj hstep <;>
      exact ⟨halert.closed, halert.holder⟩
  · split_ifs at hstep
    obtain rfl := Option.some.inj hstep
    refine ⟨halert.closed, fun _ phase heq => ?_⟩
    obtain ⟨-, rfl⟩ := Prod.mk.inj (Option.some.inj heq)
    trivial

theorem Alert.stepHolder (halert : h.Alert) (hstep : h.stepHolder = some h') : h'.Alert := by
  have hclosed := halert.closed
  unfold StreamHalf.stepHolder at hstep
  split at hstep
  · rw [if_pos hclosed] at hstep
    obtain rfl := Option.some.inj hstep
    exact halert.returns _ _
  · rw [if_pos hclosed] at hstep
    obtain rfl := Option.some.inj hstep
    exact halert.returns _ _
  · rename_i op hholder
    obtain rfl := Option.some.inj hstep
    refine ⟨hclosed, fun _ phase heq => ?_⟩
    obtain ⟨-, rfl⟩ := Prod.mk.inj (Option.some.inj heq)
    exact Or.inr (halert.holder op _ hholder)
  · rw [if_neg (by simp [hclosed])] at hstep
    obtain rfl := Option.some.inj hstep
    exact halert.returns _ _
  · exact absurd hstep (by simp)

/-- A first poll finds its notification. -/
theorem Alert.poll {ioFirst : Bool} (halert : h.Alert) (hstep : h.poll ioFirst = some h') :
    h'.Alert := by
  unfold StreamHalf.poll at hstep
  split at hstep
  · rename_i op notification hholder
    have hreached := halert.holder op _ hholder
    have hclosed : (if ioFirst then { h with io := h.io ++ [op.io] } else h : StreamHalf).closed =
        true := by
      cases ioFirst <;> exact halert.closed
    dsimp only at hstep
    by_cases hnotified : notification.isSome = true
    · rw [if_pos hnotified] at hstep
      obtain rfl := Option.some.inj hstep
      exact alert_of_holder_none hclosed rfl
    · rw [if_neg hnotified, if_pos (hreached.resolve_left hnotified)] at hstep
      obtain rfl := Option.some.inj hstep
      exact alert_of_holder_none hclosed rfl
  · exact absurd hstep (by simp)

/-- **The steps of the calls keep the alert.** -/
theorem Alert.step (halert : h.Alert) (hstep : h.step nodeClosed event = some h') : h'.Alert := by
  cases event with
  | outside index => exact halert.stepOutside hstep
  | holder => exact halert.stepHolder hstep
  | pollCancelFirst => exact halert.poll hstep
  | pollIoFirst => exact halert.poll hstep
  | pollIoReady outcome =>
    simp only [StreamHalf.step] at hstep
    split at hstep
    · rename_i op notification hholder
      obtain rfl := Option.some.inj hstep
      exact alert_afterIo (h := { h with io := h.io ++ [op.io] }) halert.closed op outcome
    · exact absurd hstep (by simp)
  | cancel =>
    simp only [StreamHalf.step] at hstep
    split at hstep
    · obtain rfl := Option.some.inj hstep
      exact halert.returns _ _
    · exact absurd hstep (by simp)
  | ioReady outcome =>
    simp only [StreamHalf.step] at hstep
    split at hstep
    · obtain rfl := Option.some.inj hstep
      exact alert_notifyOne (alert_afterIo halert.closed _ outcome).closed
    · obtain rfl := Option.some.inj hstep
      exact alert_afterIo halert.closed _ outcome
    · exact absurd hstep (by simp)
  | finish ok =>
    simp only [StreamHalf.step] at hstep
    split at hstep
    · obtain rfl := Option.some.inj hstep
      exact alert_of_holder_none halert.closed rfl
    · exact absurd hstep (by simp)

end StreamHalf

/-! ## Calls come to their ends -/

/-- The steps that need neither the peer nor a notification that is still to come. -/
def CallEvent.Prompt : CallEvent → Prop
  | .pollIoReady _ | .ioReady _ => False
  | _ => True

/-- The number of steps a call without the mutex has before it at most. -/
def OutsidePhase.work : OutsidePhase → ℕ
  | .opening => 9
  | .entered => 8
  | .locking => 7

/-- The number of steps the holder has before it at most. -/
def HoldPhase.work : HoldPhase → ℕ
  | .locked => 6
  | .checked => 5
  | .created _ => 4
  | .parked _ => 3
  | .wrote => 2
  | .swapped => 1

namespace StreamHalf

variable {h h' : StreamHalf} {nodeClosed : Bool} {event : CallEvent}

/-- All calls have returned. -/
def Idle (h : StreamHalf) : Prop := h.outside = [] ∧ h.holder = none

/-- The number of steps that the calls have before them at most. -/
def work (h : StreamHalf) : ℕ :=
  (h.outside.map fun call => call.2.work).sum + (h.holder.elim 0 fun call => call.2.work)

/-- **Some call can go on**, without its I/O, unless all have returned. -/
theorem Alert.progress (halert : h.Alert) (hidle : ¬ h.Idle) (nodeClosed : Bool) :
    ∃ event : CallEvent, event.Prompt ∧ (h.step nodeClosed event).isSome := by
  rcases hholder : h.holder with _ | ⟨op, phase⟩
  · obtain ⟨⟨op, phase⟩, rest, houtside⟩ := List.exists_cons_of_ne_nil
      fun hnil => hidle ⟨hnil, hholder⟩
    refine ⟨.outside 0, trivial, ?_⟩
    simp only [StreamHalf.step, StreamHalf.stepOutside, houtside, List.getElem?_cons_zero]
    cases phase with
    | opening => dsimp only; split_ifs <;> rfl
    | entered => dsimp only; split_ifs <;> rfl
    | locking => simp [hholder]
  · have hreached := halert.holder op phase hholder
    cases phase with
    | locked =>
      refine ⟨.holder, trivial, ?_⟩
      cases op <;> simp [StreamHalf.step, StreamHalf.stepHolder, hholder, halert.closed]
    | checked =>
      exact ⟨.holder, trivial, by simp [StreamHalf.step, StreamHalf.stepHolder, hholder]⟩
    | created notification =>
      refine ⟨.pollCancelFirst, trivial, ?_⟩
      simp only [StreamHalf.step, StreamHalf.poll, hholder]
      split_ifs <;> rfl
    | parked notification =>
      obtain ⟨notification, rfl⟩ := Option.isSome_iff_exists.mp hreached
      exact ⟨.cancel, trivial, by simp [StreamHalf.step, hholder]⟩
    | wrote =>
      refine ⟨.holder, trivial, ?_⟩
      simp [StreamHalf.step, StreamHalf.stepHolder, hholder, halert.closed]
    | swapped => exact ⟨.finish true, trivial, by simp [StreamHalf.step, hholder]⟩

theorem work_eraseIdx {calls : List (StreamOp × OutsidePhase)} {index : ℕ}
    {call : StreamOp × OutsidePhase} (hcall : calls[index]? = some call) :
    (calls.map fun call => call.2.work).sum =
      call.2.work + ((calls.eraseIdx index).map fun call => call.2.work).sum := by
  obtain ⟨hlt, rfl⟩ := List.getElem?_eq_some_iff.mp hcall
  have hperm := (List.getElem_cons_eraseIdx_perm hlt).map fun call => call.2.work
  rw [← hperm.sum_eq, List.map_cons, List.sum_cons]

theorem work_set {calls : List (StreamOp × OutsidePhase)} {index : ℕ}
    {call : StreamOp × OutsidePhase} (hcall : calls[index]? = some call)
    (call' : StreamOp × OutsidePhase) :
    ((calls.set index call').map fun call => call.2.work).sum =
      call'.2.work + ((calls.eraseIdx index).map fun call => call.2.work).sum := by
  obtain ⟨hlt, -⟩ := List.getElem?_eq_some_iff.mp hcall
  have hperm := (List.set_perm_cons_eraseIdx hlt call').map fun call => call.2.work
  rw [hperm.sum_eq, List.map_cons, List.sum_cons]

theorem work_stepOutside {index : ℕ} (hstep : h.stepOutside nodeClosed index = some h') :
    h'.work < h.work := by
  unfold StreamHalf.stepOutside at hstep
  split at hstep
  · exact absurd hstep (by simp)
  · rename_i op hcall
    have hbefore := work_eraseIdx hcall
    have hafter := work_set hcall (op, .entered)
    split_ifs at hstep <;> obtain rfl := Option.some.inj hstep <;>
      simp only [work, OutsidePhase.work] at hbefore hafter ⊢ <;> omega
  · rename_i op hcall
    have hbefore := work_eraseIdx hcall
    have hafter := work_set hcall (op, .locking)
    split_ifs at hstep <;> obtain rfl := Option.some.inj hstep <;>
      simp only [work, OutsidePhase.work] at hbefore hafter ⊢ <;> omega
  · rename_i op hcall
    have hbefore := work_eraseIdx hcall
    split_ifs at hstep with hnone
    obtain rfl := Option.some.inj hstep
    simp only [work, OutsidePhase.work, HoldPhase.work, Option.isNone_iff_eq_none.mp hnone,
      Option.elim_none, Option.elim_some] at hbefore ⊢
    omega

/-- What the holder leaves of its work, where the others do nothing. -/
theorem work_holder {op : StreamOp} {phase : HoldPhase} (hholder : h.holder = some (op, phase))
    (houtside : h'.outside = h.outside)
    (hless : (h'.holder.elim 0 fun call => call.2.work) < phase.work) : h'.work < h.work := by
  rw [work, work, houtside, hholder]
  exact Nat.add_lt_add_left hless _

theorem afterIo_work (h : StreamHalf) (op : StreamOp) (outcome : IoOutcome) :
    (h.afterIo op outcome).outside = h.outside ∧
      ((h.afterIo op outcome).holder.elim 0 fun call => call.2.work) ≤ 2 := by
  cases outcome with
  | failed => exact ⟨rfl, Nat.zero_le 2⟩
  | ok => cases op <;> exact ⟨rfl, by simp [StreamHalf.afterIo, returns, HoldPhase.work]⟩
  | endOfStream => cases op <;> exact ⟨rfl, by simp [StreamHalf.afterIo, returns, HoldPhase.work]⟩

theorem notifyOne_work (h : StreamHalf) :
    h.notifyOne.outside = h.outside ∧
      (h.notifyOne.holder.elim 0 fun call => call.2.work) =
        h.holder.elim 0 fun call => call.2.work := by
  unfold StreamHalf.notifyOne
  split
  · rename_i op hholder
    exact ⟨rfl, by rw [hholder]; rfl⟩
  · exact ⟨rfl, rfl⟩

theorem work_stepHolder (hstep : h.stepHolder = some h') : h'.work < h.work := by
  unfold StreamHalf.stepHolder at hstep
  split at hstep
  · rename_i hholder
    split_ifs at hstep <;> obtain rfl := Option.some.inj hstep <;>
      exact work_holder hholder rfl (by simp [returns, HoldPhase.work])
  · rename_i op _ hholder
    split_ifs at hstep <;> obtain rfl := Option.some.inj hstep <;>
      exact work_holder hholder rfl (by simp [returns, HoldPhase.work])
  · rename_i op hholder
    obtain rfl := Option.some.inj hstep
    exact work_holder hholder rfl (by simp [HoldPhase.work])
  · rename_i op hholder
    split_ifs at hstep <;> obtain rfl := Option.some.inj hstep <;>
      exact work_holder hholder rfl (by simp [returns, HoldPhase.work])
  · exact absurd hstep (by simp)

theorem work_poll {ioFirst : Bool} (hstep : h.poll ioFirst = some h') : h'.work < h.work := by
  unfold StreamHalf.poll at hstep
  split at hstep
  · rename_i op notification hholder
    dsimp only at hstep
    by_cases hnotified : notification.isSome = true
    · rw [if_pos hnotified] at hstep
      obtain rfl := Option.some.inj hstep
      exact work_holder hholder (by cases ioFirst <;> rfl) (by simp [returns, HoldPhase.work])
    rw [if_neg hnotified] at hstep
    by_cases hpermit : h.permit = true
    · rw [if_pos hpermit] at hstep
      obtain rfl := Option.some.inj hstep
      exact work_holder hholder (by cases ioFirst <;> rfl) (by simp [returns, HoldPhase.work])
    · rw [if_neg hpermit] at hstep
      obtain rfl := Option.some.inj hstep
      exact work_holder hholder rfl (by simp [HoldPhase.work])
  · exact absurd hstep (by simp)

/-- **Every step of a call brings it closer to its end.** -/
theorem work_step (hstep : h.step nodeClosed event = some h') : h'.work < h.work := by
  cases event with
  | outside index => exact work_stepOutside hstep
  | holder => exact work_stepHolder hstep
  | pollCancelFirst => exact work_poll hstep
  | pollIoFirst => exact work_poll hstep
  | pollIoReady outcome =>
    simp only [StreamHalf.step] at hstep
    split at hstep
    · rename_i op notification hholder
      obtain rfl := Option.some.inj hstep
      obtain ⟨houtside, hle⟩ := afterIo_work { h with io := h.io ++ [op.io] } op outcome
      exact work_holder hholder houtside (Nat.lt_of_le_of_lt hle (by decide : 2 < 4))
    · exact absurd hstep (by simp)
  | cancel =>
    simp only [StreamHalf.step] at hstep
    split at hstep
    · rename_i op notification hholder
      obtain rfl := Option.some.inj hstep
      exact work_holder hholder rfl (by simp [returns, HoldPhase.work])
    · exact absurd hstep (by simp)
  | ioReady outcome =>
    simp only [StreamHalf.step] at hstep
    split at hstep
    · rename_i op hholder
      obtain rfl := Option.some.inj hstep
      obtain ⟨houtside, hle⟩ := afterIo_work h op outcome
      obtain ⟨houtside', heq⟩ := notifyOne_work (h.afterIo op outcome)
      refine work_holder hholder (houtside'.trans houtside) ?_
      rw [heq]
      exact Nat.lt_of_le_of_lt hle (by decide : 2 < 3)
    · rename_i op notification _ hholder
      obtain rfl := Option.some.inj hstep
      obtain ⟨houtside, hle⟩ := afterIo_work h op outcome
      exact work_holder hholder houtside (Nat.lt_of_le_of_lt hle (by decide : 2 < 3))
    · exact absurd hstep (by simp)
  | finish ok =>
    simp only [StreamHalf.step] at hstep
    split at hstep
    · rename_i op hholder
      obtain rfl := Option.some.inj hstep
      exact work_holder hholder rfl (by simp [returns, HoldPhase.work])
    · exact absurd hstep (by simp)

theorem afterIo_closed (h : StreamHalf) (op : StreamOp) (outcome : IoOutcome) :
    (h.afterIo op outcome).closed = h.closed := by
  cases outcome <;> cases op <;> rfl

theorem notifyOne_closed (h : StreamHalf) : h.notifyOne.closed = h.closed := by
  unfold StreamHalf.notifyOne
  split <;> rfl

theorem notifyWaiters_closed (h : StreamHalf) : h.notifyWaiters.closed = h.closed := by
  unfold StreamHalf.notifyWaiters
  split <;> rfl

theorem closed_poll {ioFirst : Bool} (hclosed : h.closed = true)
    (hstep : h.poll ioFirst = some h') : h'.closed = true := by
  unfold StreamHalf.poll at hstep
  split at hstep
  · dsimp only at hstep
    split_ifs at hstep
    all_goals
      obtain rfl := Option.some.inj hstep
      exact hclosed
  · exact absurd hstep (by simp)

/-- No call puts the flag down. -/
theorem closed_step (hclosed : h.closed = true) (hstep : h.step nodeClosed event = some h') :
    h'.closed = true := by
  cases event with
  | outside index =>
    simp only [StreamHalf.step, StreamHalf.stepOutside] at hstep
    split at hstep
    · exact absurd hstep (by simp)
    all_goals
      split_ifs at hstep
      all_goals
        obtain rfl := Option.some.inj hstep
        exact hclosed
  | holder =>
    simp only [StreamHalf.step, StreamHalf.stepHolder] at hstep
    split at hstep
    · rw [if_pos hclosed] at hstep
      obtain rfl := Option.some.inj hstep
      exact hclosed
    · rw [if_pos hclosed] at hstep
      obtain rfl := Option.some.inj hstep
      exact hclosed
    · obtain rfl := Option.some.inj hstep
      exact hclosed
    · rw [if_neg (by simp [hclosed])] at hstep
      obtain rfl := Option.some.inj hstep
      exact hclosed
    · exact absurd hstep (by simp)
  | pollCancelFirst => exact closed_poll hclosed hstep
  | pollIoFirst => exact closed_poll hclosed hstep
  | pollIoReady outcome =>
    simp only [StreamHalf.step] at hstep
    split at hstep
    · obtain rfl := Option.some.inj hstep
      exact (afterIo_closed _ _ outcome).trans hclosed
    · exact absurd hstep (by simp)
  | cancel =>
    simp only [StreamHalf.step] at hstep
    split at hstep
    · obtain rfl := Option.some.inj hstep
      exact hclosed
    · exact absurd hstep (by simp)
  | ioReady outcome =>
    simp only [StreamHalf.step] at hstep
    split at hstep
    · obtain rfl := Option.some.inj hstep
      exact (notifyOne_closed _).trans ((afterIo_closed _ _ outcome).trans hclosed)
    · obtain rfl := Option.some.inj hstep
      exact (afterIo_closed _ _ outcome).trans hclosed
    · exact absurd hstep (by simp)
  | finish ok =>
    simp only [StreamHalf.step] at hstep
    split at hstep
    · obtain rfl := Option.some.inj hstep
      exact hclosed
    · exact absurd hstep (by simp)

/-- The call `op` looks at the flag in this step. -/
def LooksAtFlag (h : StreamHalf) (op : StreamOp) : CallEvent → Prop
  | .outside index => h.outside[index]? = some (op, .entered)
  | .holder => h.holder = some (op, .locked)
  | _ => False

/-- Who finds the flag up returns. -/
theorem returned_of_looksAtFlag {op : StreamOp} (hclosed : h.closed = true)
    (hlooks : h.LooksAtFlag op event) (hstep : h.step nodeClosed event = some h') :
    h'.returned = h.returned ++ [(op, op.closedResult)] := by
  cases event with
  | outside index =>
    have hcall : h.outside[index]? = some (op, .entered) := hlooks
    simp only [StreamHalf.step, StreamHalf.stepOutside, hcall, if_pos hclosed] at hstep
    obtain rfl := Option.some.inj hstep
    rfl
  | holder =>
    have hholder : h.holder = some (op, .locked) := hlooks
    simp only [StreamHalf.step, StreamHalf.stepHolder, hholder, if_pos hclosed] at hstep
    cases op
    all_goals
      obtain rfl := Option.some.inj hstep
      rfl
  | _ => exact absurd hlooks id

end StreamHalf

/-! ## A stream and the close of its node -/

/-- The flag of the direction is stored. -/
def ClosePhase.stored : ClosePhase → StreamDirection → Bool
  | .running, _ | .marked, _ => false
  | .sendStored, direction => direction = .send
  | _, _ => true

/-- The `Notify` of the direction has been notified. -/
def ClosePhase.notified : ClosePhase → StreamDirection → Bool
  | .sendNotified, direction | .recvWaitersNotified, direction => direction = .send
  | .recvNotified, _ | .sendAborted, _ | .finished, _ => true
  | _, _ => false

namespace BrowserStream

variable {t t' : BrowserStream} {event : StreamEvent}

theorem half_setHalf (t : BrowserStream) (h : StreamHalf) (direction direction' : StreamDirection) :
    (t.setHalf h direction).half direction' =
      if direction' = direction then h else t.half direction' := by
  cases direction <;> cases direction' <;> rfl

theorem closing_setHalf (t : BrowserStream) (h : StreamHalf) (direction : StreamDirection) :
    (t.setHalf h direction).closing = t.closing := by
  cases direction <;> rfl

/-- What holds in every state of a run. -/
structure Consistent (t : BrowserStream) : Prop where
  sound : ∀ direction, (t.half direction).Sound
  stored : ∀ direction, t.closing.stored direction = true → (t.half direction).closed = true
  alert : ∀ direction, t.closing.notified direction = true → (t.half direction).Alert

theorem consistent_opened : opened.Consistent where
  sound direction := by cases direction <;> exact StreamHalf.sound_opened
  stored _ h := absurd h (by simp [opened, ClosePhase.stored])
  alert _ h := absurd h (by simp [opened, ClosePhase.notified])

/-- A step in one direction that keeps what matters there. -/
theorem Consistent.setHalf (hconsistent : t.Consistent) {h : StreamHalf}
    {direction : StreamDirection} (hsound : h.Sound)
    (hstored : (t.half direction).closed = true → h.closed = true)
    (halert : (t.half direction).Alert → h.Alert) : (t.setHalf h direction).Consistent where
  sound direction' := by
    rw [half_setHalf]
    split_ifs
    · exact hsound
    · exact hconsistent.sound direction'
  stored direction' hphase := by
    rw [closing_setHalf] at hphase
    rw [half_setHalf]
    split_ifs with heq
    · exact hstored (hconsistent.stored direction (heq ▸ hphase))
    · exact hconsistent.stored direction' hphase
  alert direction' hphase := by
    rw [closing_setHalf] at hphase
    rw [half_setHalf]
    split_ifs with heq
    · exact halert (hconsistent.alert direction (heq ▸ hphase))
    · exact hconsistent.alert direction' hphase

theorem Consistent.start (hconsistent : t.Consistent) (op : StreamOp) :
    (t.start op).Consistent := by
  have hsound := hconsistent.sound op.direction
  unfold BrowserStream.start
  dsimp only
  split_ifs <;>
    exact hconsistent.setHalf (hsound.frame rfl id hsound.holder hsound.swapped) id
      fun halert => ⟨halert.closed, halert.holder⟩

/-- A step of `close_inner` in one direction, after which the flag and the notification there are as
the phase `closing` says. -/
theorem Consistent.closeHalf (hconsistent : t.Consistent) (direction : StreamDirection)
    (before : ClosePhase) {closing : ClosePhase} {h : StreamHalf} (hbefore : t.closing = before)
    (hsound : h.Sound)
    (hstored : closing.stored direction = false ∨ h.closed = true)
    (halert : closing.notified direction = false ∨ h.Alert)
    (hother : closing.stored direction.other = true → before.stored direction.other = true)
    (hother' : closing.notified direction.other = true →
      before.notified direction.other = true) :
    ({ t.setHalf h direction with closing := closing } : BrowserStream).Consistent := by
  subst hbefore
  have hself : closing.stored direction = true → h.closed = true := fun hphase =>
    hstored.resolve_left (by simp [hphase])
  have hself' : closing.notified direction = true → h.Alert := fun hphase =>
    halert.resolve_left (by simp [hphase])
  refine ⟨fun d => ?_, fun d hphase => ?_, fun d hphase => ?_⟩
  · cases direction <;> cases d
    exacts [hsound, hconsistent.sound .recv, hconsistent.sound .send, hsound]
  · cases direction <;> cases d
    exacts [hself hphase, hconsistent.stored .recv (hother hphase),
      hconsistent.stored .send (hother hphase), hself hphase]
  · cases direction <;> cases d
    exacts [hself' hphase, hconsistent.alert .recv (hother' hphase),
      hconsistent.alert .send (hother' hphase), hself' hphase]

/-- **The steps of `close_inner` keep the invariant**: first the flags, then the notifications. -/
theorem Consistent.close (hconsistent : t.Consistent) (hclose : t.close = some t') :
    t'.Consistent := by
  have hset : ∀ h : StreamHalf, h.Sound → ({ h with closed := true } : StreamHalf).Sound :=
    fun h hsound => hsound.frame rfl (fun _ => rfl) hsound.holder fun _ _ => rfl
  obtain ⟨send, recv, closing⟩ := t
  have hsend : send.Sound := hconsistent.sound .send
  have hrecv : recv.Sound := hconsistent.sound .recv
  cases closing with
  | running =>
    obtain rfl := Option.some.inj hclose
    exact hconsistent.closeHalf .send .running rfl hsend (Or.inl rfl) (Or.inl rfl) (by decide)
      (by decide)
  | marked =>
    obtain rfl := Option.some.inj hclose
    exact hconsistent.closeHalf .send .marked rfl (hset send hsend) (Or.inr rfl) (Or.inl rfl)
      (by decide) (by decide)
  | sendStored =>
    obtain rfl := Option.some.inj hclose
    exact hconsistent.closeHalf .recv .sendStored rfl (hset recv hrecv) (Or.inr rfl) (Or.inl rfl)
      (by decide) (by decide)
  | recvStored =>
    obtain rfl := Option.some.inj hclose
    have hclosed : send.closed = true := hconsistent.stored .send rfl
    exact hconsistent.closeHalf .send .recvStored rfl hsend.notifyWaiters
      (Or.inr ((StreamHalf.notifyWaiters_closed send).trans hclosed)) (Or.inl rfl) (by decide)
      (by decide)
  | sendWaitersNotified =>
    obtain rfl := Option.some.inj hclose
    have halert : send.notifyOne.Alert := StreamHalf.alert_notifyOne (hconsistent.stored .send rfl)
    exact hconsistent.closeHalf .send .sendWaitersNotified rfl hsend.notifyOne
      (Or.inr halert.closed) (Or.inr halert) (by decide) (by decide)
  | sendNotified =>
    obtain rfl := Option.some.inj hclose
    have hclosed : recv.closed = true := hconsistent.stored .recv rfl
    exact hconsistent.closeHalf .recv .sendNotified rfl hrecv.notifyWaiters
      (Or.inr ((StreamHalf.notifyWaiters_closed recv).trans hclosed)) (Or.inl rfl) (by decide)
      (by decide)
  | recvWaitersNotified =>
    obtain rfl := Option.some.inj hclose
    have halert : recv.notifyOne.Alert := StreamHalf.alert_notifyOne (hconsistent.stored .recv rfl)
    exact hconsistent.closeHalf .recv .recvWaitersNotified rfl hrecv.notifyOne
      (Or.inr halert.closed) (Or.inr halert) (by decide) (by decide)
  | recvNotified =>
    obtain rfl := Option.some.inj hclose
    have halert : send.abort.Alert := (hconsistent.alert .send rfl).abort
    exact hconsistent.closeHalf .send .recvNotified rfl hsend.abort (Or.inr halert.closed)
      (Or.inr halert) (by decide) (by decide)
  | sendAborted =>
    obtain rfl := Option.some.inj hclose
    have halert : recv.abort.Alert := (hconsistent.alert .recv rfl).abort
    exact hconsistent.closeHalf .recv .sendAborted rfl hrecv.abort (Or.inr halert.closed)
      (Or.inr halert) (by decide) (by decide)
  | finished => exact absurd hclose (by simp [BrowserStream.close])

theorem Consistent.step (hconsistent : t.Consistent) (hstep : t.step event = some t') :
    t'.Consistent := by
  cases event with
  | start op =>
    obtain rfl := Option.some.inj hstep
    exact hconsistent.start op
  | call direction event =>
    obtain ⟨h, hh, rfl⟩ := Option.map_eq_some_iff.mp hstep
    exact hconsistent.setHalf ((hconsistent.sound direction).step hh)
      (fun hclosed => StreamHalf.closed_step hclosed hh) fun halert => halert.step hh
  | close => exact hconsistent.close hstep

/-- A list whose `finish` can only be its last entry. -/
theorem finish_last {io : List StreamIo} (h : StreamIo.finish ∉ io.dropLast) :
    io.count .finish ≤ 1 ∧ ∀ pre post, io = pre ++ .finish :: post → post = [] := by
  constructor
  · rcases List.eq_nil_or_concat io with rfl | ⟨pre, last, rfl⟩
    · simp
    · rw [List.concat_eq_append, List.dropLast_concat] at h
      rw [List.concat_eq_append, List.count_append, List.count_eq_zero_of_not_mem h, zero_add]
      exact List.count_le_length
  · rintro pre post rfl
    by_contra hne
    refine h ?_
    rw [List.dropLast_append_of_ne_nil (List.cons_ne_nil _ _), List.dropLast_cons_of_ne_nil hne]
    simp

/-- **The close discipline of a stream.**  Take any run of calls on a stream and of the close of its
node.  `finish` is called at most once, and nothing is written after it.  When the node has closed,
then in either direction no call is parked without a notification; some call can go on, without the
peer, unless all have returned; every step brings the calls closer to their ends; and a call that
starts returns an error.  Whoever looks at a flag that is stored returns closed or done. -/
theorem streamClose_law (events : List StreamEvent)
    (hrun : Runs.run step opened events = some t) :
    (t.send.io.count .finish ≤ 1 ∧
        ∀ pre post, t.send.io = pre ++ .finish :: post → post = []) ∧
      (t.closing = .finished → ∀ direction,
        (∀ op, (t.half direction).holder ≠ some (op, .parked none)) ∧
          ((t.half direction).Idle ∨
            ∃ event : CallEvent, event.Prompt ∧ (t.step (.call direction event)).isSome) ∧
          (∀ event t', t.step (.call direction event) = some t' →
            (t'.half direction).work < (t.half direction).work) ∧
          ∀ op t', t.step (.start op) = some t' →
            (t'.half op.direction).returned = (t.half op.direction).returned ++ [(op, .closed)] ∧
              (t'.half op.direction).work = (t.half op.direction).work) ∧
      ∀ direction event op t', t.closing.stored direction = true →
        (t.half direction).LooksAtFlag op event → t.step (.call direction event) = some t' →
          (t'.half direction).returned =
            (t.half direction).returned ++ [(op, op.closedResult)] := by
  have hconsistent : t.Consistent :=
    Runs.run_invariant (fun s event s' h hstep => h.step hstep) consistent_opened hrun
  have hhalf : ∀ direction event t', t.step (.call direction event) = some t' →
      (t.half direction).step t.nodeClosed event = some (t'.half direction) := by
    intro direction event t' hstep
    obtain ⟨h, hh, rfl⟩ := Option.map_eq_some_iff.mp hstep
    rw [half_setHalf, if_pos rfl]
    exact hh
  refine ⟨finish_last (hconsistent.sound .send).last, fun hfinished direction => ?_, ?_⟩
  · have halert : (t.half direction).Alert := hconsistent.alert direction (by rw [hfinished]; rfl)
    refine ⟨fun op hparked => ?_, ?_, fun event t' hstep => ?_, fun op t' hstep => ?_⟩
    · exact absurd (halert.holder op _ hparked) (by simp [HoldPhase.Reached])
    · by_cases hidle : (t.half direction).Idle
      · exact Or.inl hidle
      · obtain ⟨event, hprompt, hsome⟩ := halert.progress hidle t.nodeClosed
        refine Or.inr ⟨event, hprompt, ?_⟩
        rw [step, Option.isSome_map]
        exact hsome
    · exact StreamHalf.work_step (hhalf direction event t' hstep)
    · obtain rfl := Option.some.inj hstep
      have hclosed : t.nodeClosed = true := by rw [nodeClosed, hfinished]; rfl
      rw [BrowserStream.start, if_pos hclosed, half_setHalf, if_pos rfl]
      exact ⟨rfl, rfl⟩
  · intro direction event op t' hstored hlooks hstep
    exact StreamHalf.returned_of_looksAtFlag (hconsistent.stored direction hstored) hlooks
      (hhalf direction event t' hstep)

section Sample

/-- A writer is parked when the node closes, a second one waits for the mutex, and a third call
closes the direction. -/
def sampleEvents : List StreamEvent :=
  [.start (.sendChunk true), .start (.sendChunk false), .start .closeSend,
    .call .send (.outside 0), .call .send (.outside 0), .call .send (.outside 0),
    .call .send .holder, .call .send .holder, .call .send .pollCancelFirst,
    .call .send (.outside 0), .call .send (.outside 0), .call .send (.outside 1)] ++
    List.replicate 9 .close

theorem streamClose_law_sample :
    ∃ t, Runs.run step opened sampleEvents = some t ∧ t.closing = .finished ∧
      (t.half .send).holder = some (.sendChunk true, .parked (some .waiters)) ∧
        t.send.io.count .finish ≤ 1 :=
  ⟨_, rfl, rfl, rfl, (streamClose_law sampleEvents rfl).1.1⟩

end Sample

end BrowserStream

end IrohWebRtc
