import IrohWebRtc.Core.Backpressure

/-!
# The wait of the native pump

`pump_outbound_frames` and `wait_for_native_data_channel_capacity` of `native.rs`, and the
callbacks of `attach_data_channel`, step by step.  Every await of the pump may be followed by any
callback and by any change of the channel.  The pump asks once for each frame whether the channel
is open, and registers with `close_notify` when its `select!` is polled.  A callback that runs in
between notifies nobody, and where no other callback is to come the pump parks for good.

`Notify::notify_waiters` wakes a pump that is parked at that moment and stores nothing.  A closed
channel has no low callback.

A pump that is stranded holds the receiver of its route, and the frame that it wanted to send.  It
is told apart from one that waits by what can still happen: nobody has anything left to tell it.
That state is described outright (`Silent`, `Unwoken`) and then compared with the steps that lead
there, so that the condition is one on the run and not on its outcome.

* `NativePump.step_simulates`: every step is one of `OutboundPump`, or none.
* `NativePump.strands_iff`: from which states the pump strands without anybody else doing
  anything.
* `NativePump.neverStrands_iff`: a run leads to no stranded pump exactly when no last callback
  runs between the pump's look at the channel and its registration, where it is about to wait.
* `NativePump.close_is_missed`: a run with such a callback, and the pump it strands.

The pump of the browser looks again after it has installed its listeners (`Browser.PumpWaits`),
and has no such gap.
-/

namespace IrohWebRtc

/-- Where the native pump is, with the length of its frame: each constructor names what comes
next. -/
inductive NativePumpPhase where
  | receiving
  /-- `channel_is_open`. -/
  | holding (len : ℕ)
  /-- The comparison with the high threshold. -/
  | opened (len : ℕ)
  /-- The first comparison with the low threshold. -/
  | capacity (len : ℕ)
  /-- `on_buffered_amount_low`. -/
  | installing (len : ℕ)
  /-- The second comparison with the low threshold. -/
  | installed (len : ℕ)
  /-- The first poll of `select!`. -/
  | selecting (len : ℕ)
  /-- The pump is registered with `close_notify` and waits for that or the low callback. -/
  | parked (len : ℕ)
  | sending (len : ℕ)
  | ended
  deriving DecidableEq, Repr

/-- The pump, its channel, and the callbacks that are to run. -/
structure NativePump where
  phase : NativePumpPhase
  bufferedAmount : ℕ
  channelOpen : Bool
  /-- The low callback of this wait is to run. -/
  pendingLow : Bool
  /-- The oneshot channel of this wait has its value. -/
  lowSent : Bool
  pendingErrors : ℕ
  pendingClose : Bool
  /-- `notify_waiters` found the pump parked. -/
  notified : Bool
  /-- `notify_waiters` was called. -/
  closeNotified : Bool
  deriving DecidableEq, Repr

inductive NativePumpEvent where
  | receive (len : ℕ)
  /-- The route is gone, or a send fails. -/
  | stop
  /-- The pump does what comes next, when that is not a wait. -/
  | pump
  /-- `select!` takes the value of the oneshot channel. -/
  | resume
  /-- `select!` takes the notification. -/
  | giveUp
  | drain (n : ℕ)
  /-- The channel has an error, and `on_error` is to run. -/
  | fails
  /-- The channel closes, and `on_close` is to run. -/
  | closes
  | onLow
  | onError
  | onClose
  deriving DecidableEq, Repr

namespace NativePump

/-- A pump that starts on an open and empty channel. -/
def new : NativePump := ⟨.receiving, 0, true, false, false, 0, false, false, false⟩

/-- The oneshot channel of this wait is connected to the low callback. -/
def listensForLow (pump : NativePump) : Bool :=
  match pump.phase with
  | .installed _ | .selecting _ | .parked _ => true
  | _ => false

/-- `close_notify.notify_waiters()`. -/
def notifyWaiters (pump : NativePump) : NativePump :=
  match pump.phase with
  | .parked _ => { pump with notified := true, closeNotified := true }
  | _ => { pump with closeNotified := true }

/-- What the pump does next. -/
def pumpStep (pw : PointerWidth) (config : WebRtcDataChannelConfig) (pump : NativePump) :
    Option NativePump :=
  match pump.phase with
  | .receiving | .parked _ | .ended => none
  | .holding len =>
    if pump.channelOpen then some { pump with phase := .opened len }
    else some { pump with phase := .ended }
  | .opened len =>
    if config.bufferedAmountHighThreshold <
        (PumpKind.native pw).saturatingAdd pump.bufferedAmount len then
      some { pump with phase := .capacity len }
    else some { pump with phase := .sending len }
  | .capacity len =>
    if pump.bufferedAmount ≤ config.bufferedAmountLowThreshold then
      some { pump with phase := .sending len }
    else some { pump with phase := .installing len }
  | .installing len =>
    some { pump with phase := .installed len, pendingLow := false, lowSent := false }
  | .installed len =>
    if pump.bufferedAmount ≤ config.bufferedAmountLowThreshold then
      some { pump with phase := .selecting len, lowSent := true }
    else some { pump with phase := .selecting len }
  | .selecting len =>
    if pump.lowSent then some { pump with phase := .sending len }
    else some { pump with phase := .parked len, notified := false }
  | .sending len =>
    if pump.channelOpen then
      some { pump with phase := .receiving, bufferedAmount := pump.bufferedAmount + len }
    else some { pump with phase := .ended }

/-- The frames are encodings of payloads of at most `maxPayloadLen` bytes. -/
def step (pw : PointerWidth) (config : WebRtcDataChannelConfig) (maxPayloadLen : ℕ)
    (pump : NativePump) : NativePumpEvent → Option NativePump
  | .receive len =>
    if pump.phase = .receiving ∧ headerLen < len ∧ len ≤ headerLen + maxPayloadLen then
      some { pump with phase := .holding len }
    else none
  | .stop =>
    match pump.phase with
    | .receiving | .sending _ => some { pump with phase := .ended }
    | _ => none
  | .pump => pump.pumpStep pw config
  | .resume =>
    match pump.phase with
    | .parked len => if pump.lowSent then some { pump with phase := .sending len } else none
    | _ => none
  | .giveUp =>
    match pump.phase with
    | .parked _ => if pump.notified then some { pump with phase := .ended } else none
    | _ => none
  | .drain n =>
    some { pump with
      bufferedAmount := pump.bufferedAmount - n
      -- the channel calls back when the amount crosses the low threshold
      pendingLow := pump.pendingLow || pump.channelOpen && pump.listensForLow &&
        config.bufferedAmountLowThreshold < pump.bufferedAmount &&
        pump.bufferedAmount - n ≤ config.bufferedAmountLowThreshold }
  | .fails =>
    if pump.channelOpen then some { pump with pendingErrors := pump.pendingErrors + 1 } else none
  | .closes =>
    if pump.channelOpen then some { pump with channelOpen := false, pendingClose := true } else none
  | .onLow =>
    if pump.channelOpen && pump.pendingLow then
      some { pump with pendingLow := false, lowSent := true }
    else none
  | .onError =>
    if 0 < pump.pendingErrors then
      some { pump.notifyWaiters with pendingErrors := pump.pendingErrors - 1 }
    else none
  | .onClose =>
    if pump.pendingClose then some { pump.notifyWaiters with pendingClose := false } else none

variable {pw : PointerWidth} {config : WebRtcDataChannelConfig} {maxPayloadLen : ℕ}
  {pump pump' : NativePump}

/-! ## The pump in the large -/

/-- The pump as its loop alone shows it. -/
def toOutboundPump (pump : NativePump) : OutboundPump where
  bufferedAmount := pump.bufferedAmount
  phase :=
    match pump.phase with
    | .receiving => .receiving
    | .holding len | .opened len => .holding len
    | .capacity len | .installing len | .installed len | .selecting len | .parked len =>
      .waiting len
    | .sending len => .sending len
    | .ended => .stopped

/-- The low callback of a wait is called when the amount has fallen, and it stays there while the
pump waits. -/
def LowIsLow (config : WebRtcDataChannelConfig) (pump : NativePump) : Prop :=
  pump.listensForLow = true → pump.pendingLow = true ∨ pump.lowSent = true →
    pump.bufferedAmount ≤ config.bufferedAmountLowThreshold

theorem lowIsLow_of_not_listensForLow (h : pump.listensForLow = false) : pump.LowIsLow config := by
  intro hlistens
  rw [h] at hlistens
  cases hlistens

/-- Notifying changes the two flags of the notification only. -/
theorem notifyWaiters_eq (pump : NativePump) :
    ∃ notified, pump.notifyWaiters = { pump with notified := notified, closeNotified := true } := by
  obtain ⟨phase, _, _, _, _, _, _, notified, _⟩ := pump
  cases phase with
  | parked len => exact ⟨true, rfl⟩
  | receiving | holding len | opened len | capacity len | installing len | installed len
  | selecting len | sending len | ended => exact ⟨notified, rfl⟩

/-- A frame that comes, a pump that stops and a wait that ends change the phase only, and leave the
pump at work on a frame or ended. -/
theorem step_moves {event : NativePumpEvent}
    (hevent : (∃ len, event = .receive len) ∨ event = .stop ∨ event = .resume ∨ event = .giveUp)
    (hstep : pump.step pw config maxPayloadLen event = some pump') :
    ∃ phase, pump' = { pump with phase := phase } ∧
      ((∃ len, phase = .holding len ∨ phase = .sending len) ∨ phase = .ended) := by
  rcases hevent with ⟨len, rfl⟩ | rfl | rfl | rfl
  · rw [step] at hstep
    split_ifs at hstep
    exact ⟨_, (Option.some.inj hstep).symm, Or.inl ⟨len, Or.inl rfl⟩⟩
  · rw [step] at hstep
    split at hstep
    · exact ⟨_, (Option.some.inj hstep).symm, Or.inr rfl⟩
    · exact ⟨_, (Option.some.inj hstep).symm, Or.inr rfl⟩
    · cases hstep
  · rw [step] at hstep
    split at hstep
    · split_ifs at hstep
      exact ⟨_, (Option.some.inj hstep).symm, Or.inl ⟨_, Or.inr rfl⟩⟩
    · cases hstep
  · rw [step] at hstep
    split at hstep
    · split_ifs at hstep
      exact ⟨_, (Option.some.inj hstep).symm, Or.inr rfl⟩
    · cases hstep

/-- What `on_error` and `on_close` do to the pump. -/
theorem step_notifies {event : NativePumpEvent} (hevent : event = .onError ∨ event = .onClose)
    (hstep : pump.step pw config maxPayloadLen event = some pump') :
    ∃ notified errors close, pump' = { pump with
      notified := notified, closeNotified := true, pendingErrors := errors,
      pendingClose := close } := by
  obtain ⟨notified, hnotified⟩ := pump.notifyWaiters_eq
  rcases hevent with rfl | rfl
  · rw [step, hnotified] at hstep
    split_ifs at hstep
    exact ⟨notified, _, _, (Option.some.inj hstep).symm⟩
  · rw [step, hnotified] at hstep
    split_ifs at hstep
    exact ⟨notified, _, _, (Option.some.inj hstep).symm⟩

theorem LowIsLow.pumpStep (h : pump.LowIsLow config)
    (hstep : pump.pumpStep pw config = some pump') : pump'.LowIsLow config := by
  obtain ⟨phase, amount, channelOpen, pendingLow, lowSent, _, _, _, _⟩ := pump
  rw [NativePump.pumpStep] at hstep
  cases phase with
  | receiving | parked len | ended => cases hstep
  | holding len | opened len | capacity len | sending len =>
    dsimp only at hstep
    split_ifs at hstep <;> obtain rfl := Option.some.inj hstep <;>
      exact lowIsLow_of_not_listensForLow rfl
  | installing len =>
    obtain rfl := Option.some.inj hstep
    rintro - (hpending | hsent)
    · cases hpending
    · cases hsent
  | installed len =>
    dsimp only at hstep
    split_ifs at hstep with hlow
    · obtain rfl := Option.some.inj hstep
      exact fun _ _ => hlow
    · obtain rfl := Option.some.inj hstep
      exact h
  | selecting len =>
    dsimp only at hstep
    split_ifs at hstep with hsent
    · obtain rfl := Option.some.inj hstep
      exact lowIsLow_of_not_listensForLow rfl
    · obtain rfl := Option.some.inj hstep
      exact h

theorem LowIsLow.step (h : pump.LowIsLow config) {event : NativePumpEvent}
    (hstep : pump.step pw config maxPayloadLen event = some pump') : pump'.LowIsLow config := by
  cases event with
  | pump => exact h.pumpStep hstep
  | receive | stop | resume | giveUp =>
    obtain ⟨phase, rfl, ⟨len, rfl | rfl⟩ | rfl⟩ := step_moves (by simp) hstep
    · exact lowIsLow_of_not_listensForLow rfl
    · exact lowIsLow_of_not_listensForLow rfl
    · exact lowIsLow_of_not_listensForLow rfl
  | drain n =>
    obtain rfl := Option.some.inj hstep
    intro hlistens hlow
    show pump.bufferedAmount - n ≤ config.bufferedAmountLowThreshold
    have hbefore := h hlistens
    simp only [Bool.or_eq_true, Bool.and_eq_true, decide_eq_true_eq] at hlow
    rcases hlow with (hpending | ⟨-, hcrossed⟩) | hsent
    · have := hbefore (Or.inl hpending)
      omega
    · exact hcrossed
    · have := hbefore (Or.inr hsent)
      omega
  | fails | closes =>
    rw [NativePump.step] at hstep
    split_ifs at hstep
    obtain rfl := Option.some.inj hstep
    exact h
  | onLow =>
    rw [NativePump.step] at hstep
    split_ifs at hstep with hlow
    obtain rfl := Option.some.inj hstep
    exact fun hlistens _ => h hlistens (Or.inl (Bool.and_eq_true_iff.mp hlow).2)
  | onError | onClose =>
    obtain ⟨_, _, _, rfl⟩ := step_notifies (by simp) hstep
    exact h

/-- The pump in the large does the same in one step or none. -/
def Follows (pw : PointerWidth) (config : WebRtcDataChannelConfig) (maxPayloadLen : ℕ)
    (pump pump' : NativePump) : Prop :=
  ∃ events, Runs.run (OutboundPump.step (.native pw) config maxPayloadLen) pump.toOutboundPump
    events = some pump'.toOutboundPump

theorem follows_of_eq (h : pump'.toOutboundPump = pump.toOutboundPump) :
    Follows pw config maxPayloadLen pump pump' :=
  ⟨[], by rw [h]; exact Runs.run_nil _⟩

theorem follows_of_step (event : OutboundPumpEvent)
    (h : pump.toOutboundPump.step (.native pw) config maxPayloadLen event =
      some pump'.toOutboundPump) : Follows pw config maxPayloadLen pump pump' :=
  ⟨[event], Runs.run_cons.mpr ⟨_, h, Runs.run_nil _⟩⟩

theorem pumpStep_follows (h : pump.LowIsLow config)
    (hstep : pump.pumpStep pw config = some pump') :
    Follows pw config maxPayloadLen pump pump' := by
  obtain ⟨phase, amount, channelOpen, pendingLow, lowSent, _, _, _, _⟩ := pump
  rw [NativePump.pumpStep] at hstep
  cases phase with
  | receiving | parked len | ended => cases hstep
  | holding len =>
    dsimp only at hstep
    split_ifs at hstep
    · obtain rfl := Option.some.inj hstep
      exact follows_of_eq rfl
    · obtain rfl := Option.some.inj hstep
      exact follows_of_step .stop rfl
  | opened len =>
    refine follows_of_step .compare ?_
    dsimp only at hstep
    split_ifs at hstep with habove
    · obtain rfl := Option.some.inj hstep
      exact if_pos habove
    · obtain rfl := Option.some.inj hstep
      exact if_neg habove
  | capacity len =>
    dsimp only at hstep
    split_ifs at hstep with hlow
    · obtain rfl := Option.some.inj hstep
      exact follows_of_step .resume (if_pos hlow)
    · obtain rfl := Option.some.inj hstep
      exact follows_of_eq rfl
  | installing len =>
    obtain rfl := Option.some.inj hstep
    exact follows_of_eq rfl
  | installed len =>
    dsimp only at hstep
    split_ifs at hstep <;> obtain rfl := Option.some.inj hstep <;> exact follows_of_eq rfl
  | selecting len =>
    dsimp only at hstep
    split_ifs at hstep with hsent
    · obtain rfl := Option.some.inj hstep
      exact follows_of_step .resume (if_pos (h rfl (Or.inr hsent)))
    · obtain rfl := Option.some.inj hstep
      exact follows_of_eq rfl
  | sending len =>
    dsimp only at hstep
    split_ifs at hstep
    · obtain rfl := Option.some.inj hstep
      exact follows_of_step .send rfl
    · obtain rfl := Option.some.inj hstep
      exact follows_of_step .stop rfl

/-- **The pump refines its loop.**  Every step of the pump, with all that may happen between two of
its steps, is a step of the loop or leaves it where it is. -/
theorem step_simulates (h : pump.LowIsLow config) {event : NativePumpEvent}
    (hstep : pump.step pw config maxPayloadLen event = some pump') :
    Follows pw config maxPayloadLen pump pump' := by
  cases event with
  | pump => exact pumpStep_follows h hstep
  | receive len =>
    rw [NativePump.step] at hstep
    split_ifs at hstep with hframe
    obtain ⟨hphase, hlen⟩ := hframe
    obtain rfl := Option.some.inj hstep
    refine follows_of_step (.receive len) (if_pos ⟨?_, hlen⟩)
    rw [toOutboundPump, hphase]
  | stop =>
    refine follows_of_step .stop ?_
    rw [NativePump.step] at hstep
    split at hstep
    · obtain rfl := Option.some.inj hstep
      rfl
    · obtain rfl := Option.some.inj hstep
      rfl
    · cases hstep
  | resume =>
    rw [NativePump.step] at hstep
    split at hstep
    · rename_i len hphase
      split_ifs at hstep with hsent
      obtain rfl := Option.some.inj hstep
      have hlistens : pump.listensForLow = true := by rw [listensForLow, hphase]
      have hlow := h hlistens (Or.inr hsent)
      refine follows_of_step .resume ?_
      simp only [toOutboundPump, hphase, OutboundPump.step]
      exact if_pos hlow
    · cases hstep
  | giveUp =>
    refine follows_of_step .stop ?_
    rw [NativePump.step] at hstep
    split at hstep
    · split_ifs at hstep
      obtain rfl := Option.some.inj hstep
      rfl
    · cases hstep
  | drain n =>
    obtain rfl := Option.some.inj hstep
    exact follows_of_step (.drain n) rfl
  | fails | closes | onLow =>
    rw [NativePump.step] at hstep
    split_ifs at hstep
    obtain rfl := Option.some.inj hstep
    exact follows_of_eq rfl
  | onError | onClose =>
    obtain ⟨_, _, _, rfl⟩ := step_notifies (by simp) hstep
    exact follows_of_eq rfl

/-- Every state the pump gets to is one its loop gets to, so what holds of the loop in every run
holds of the pump. -/
theorem reachable_toOutboundPump
    (h : Runs.Reachable (step pw config maxPayloadLen) new pump) :
    Runs.Reachable (OutboundPump.step (.native pw) config maxPayloadLen) OutboundPump.new
      pump.toOutboundPump := by
  have hstep : ∀ u event v, (u.LowIsLow config ∧
      Runs.Reachable (OutboundPump.step (.native pw) config maxPayloadLen) OutboundPump.new
        u.toOutboundPump) → step pw config maxPayloadLen u event = some v →
      v.LowIsLow config ∧
        Runs.Reachable (OutboundPump.step (.native pw) config maxPayloadLen) OutboundPump.new
          v.toOutboundPump := by
    rintro u event v ⟨hlow, events, hevents⟩ huv
    obtain ⟨more, hmore⟩ := step_simulates hlow huv
    exact ⟨hlow.step huv, events ++ more, Runs.run_append.mpr ⟨_, hevents, hmore⟩⟩
  exact (Runs.Reachable.invariant hstep ⟨lowIsLow_of_not_listensForLow rfl, [], rfl⟩ h).2

/-- The bound of the loop is a bound of the pump. -/
theorem sending_within (hvalid : config.validate = .ok ()) (hmax : maxPayloadLen ≤ 65535)
    (hfits : config.bufferedAmountLowThreshold + (headerLen + maxPayloadLen) ≤
      config.bufferedAmountHighThreshold)
    (hhigh : config.bufferedAmountHighThreshold < (PumpKind.native pw).maxAmount)
    (h : Runs.Reachable (step pw config maxPayloadLen) new pump) {len : ℕ}
    (hphase : pump.phase = .sending len) :
    pump.bufferedAmount + len ≤ config.bufferedAmountHighThreshold := by
  obtain ⟨events, hrun⟩ := reachable_toOutboundPump h
  have hguard := OutboundPump.guarded_of_fits hvalid hmax hfits hhigh (events ++ [.send])
  refine Runs.guarded_iff_forall_split.mp hguard events .send [] _ rfl hrun len ?_
  rw [toOutboundPump, hphase]

/-! ## A stranded pump -/

/-- The channel has closed and every callback has run. -/
def Silent (pump : NativePump) : Prop :=
  pump.channelOpen = false ∧ pump.pendingErrors = 0 ∧ pump.pendingClose = false

/-- The pump is parked, and nothing that it waits for has come. -/
def Unwoken (pump : NativePump) : Prop :=
  (∃ len, pump.phase = .parked len) ∧ pump.lowSent = false ∧ pump.notified = false

/-- The pump has seen its channel open, and parks if nothing else happens. -/
def AboutToPark (pw : PointerWidth) (config : WebRtcDataChannelConfig) (pump : NativePump) : Prop :=
  match pump.phase with
  | .opened len =>
    config.bufferedAmountHighThreshold <
        (PumpKind.native pw).saturatingAdd pump.bufferedAmount len ∧
      config.bufferedAmountLowThreshold < pump.bufferedAmount
  | .capacity _ | .installing _ => config.bufferedAmountLowThreshold < pump.bufferedAmount
  | .installed _ =>
    config.bufferedAmountLowThreshold < pump.bufferedAmount ∧ pump.lowSent = false
  | .selecting _ => pump.lowSent = false
  | _ => False

/-- The close or an error was notified, the pump is parked, and whatever happens it stays so: no
wake source is left. -/
def Stranded (pw : PointerWidth) (config : WebRtcDataChannelConfig) (maxPayloadLen : ℕ)
    (pump : NativePump) : Prop :=
  pump.closeNotified = true ∧ (∃ len, pump.phase = .parked len) ∧
    ∀ later pump', Runs.run (step pw config maxPayloadLen) pump later = some pump' →
      pump'.phase = pump.phase

/-- The pump's own steps lead to a stranded pump. -/
def Strands (pw : PointerWidth) (config : WebRtcDataChannelConfig) (maxPayloadLen : ℕ)
    (pump : NativePump) : Prop :=
  ∃ count pump', Runs.run (step pw config maxPayloadLen) pump (List.replicate count .pump) =
    some pump' ∧ pump'.Stranded pw config maxPayloadLen

/-- When the channel has closed and `on_close` has run, it has notified. -/
def CloseNotifies (pump : NativePump) : Prop :=
  pump.channelOpen = false → pump.pendingClose = true ∨ pump.closeNotified = true

/-- Nothing wakes a parked pump of a closed channel once every callback has run. -/
theorem step_unwoken (hsilent : pump.Silent) (hunwoken : pump.Unwoken) {event : NativePumpEvent}
    (hstep : pump.step pw config maxPayloadLen event = some pump') :
    pump'.phase = pump.phase ∧ pump'.Silent ∧ pump'.Unwoken := by
  obtain ⟨phase, amount, channelOpen, pendingLow, lowSent, errors, close, notified,
    closeNotified⟩ := pump
  obtain ⟨⟨len, hparked⟩, hlow, hnotified⟩ := hunwoken
  obtain ⟨hclosed, herrors, hclose⟩ := hsilent
  obtain rfl : phase = .parked len := hparked
  obtain rfl : lowSent = false := hlow
  obtain rfl : notified = false := hnotified
  obtain rfl : channelOpen = false := hclosed
  obtain rfl : errors = 0 := herrors
  obtain rfl : close = false := hclose
  cases event with
  | drain n =>
    obtain rfl := Option.some.inj hstep
    exact ⟨rfl, ⟨rfl, rfl, rfl⟩, ⟨len, rfl⟩, rfl, rfl⟩
  | receive n =>
    rw [step, if_neg (fun h => nomatch h.1)] at hstep
    cases hstep
  | stop | pump | resume | giveUp | fails | closes | onLow | onError | onClose => cases hstep

/-- The pump's own steps do nothing to the channel and its callbacks. -/
theorem pumpStep_frame (hstep : pump.pumpStep pw config = some pump') :
    pump'.channelOpen = pump.channelOpen ∧ pump'.pendingClose = pump.pendingClose ∧
      pump'.closeNotified = pump.closeNotified := by
  obtain ⟨phase, _, _, _, _, _, _, _, _⟩ := pump
  rw [pumpStep] at hstep
  cases phase with
  | receiving | parked len | ended => cases hstep
  | installing len =>
    obtain rfl := Option.some.inj hstep
    exact ⟨rfl, rfl, rfl⟩
  | holding len | opened len | capacity len | installed len | selecting len | sending len =>
    dsimp only at hstep
    split_ifs at hstep <;> obtain rfl := Option.some.inj hstep <;> exact ⟨rfl, rfl, rfl⟩

theorem CloseNotifies.step (h : pump.CloseNotifies) {event : NativePumpEvent}
    (hstep : pump.step pw config maxPayloadLen event = some pump') : pump'.CloseNotifies := by
  cases event with
  | pump =>
    obtain ⟨hopen, hpending, hclosed⟩ := pumpStep_frame hstep
    rw [CloseNotifies, hopen, hpending, hclosed]
    exact h
  | receive | stop | resume | giveUp =>
    obtain ⟨phase, rfl, -⟩ := step_moves (by simp) hstep
    exact h
  | drain n =>
    obtain rfl := Option.some.inj hstep
    exact h
  | fails | onLow =>
    rw [NativePump.step] at hstep
    split_ifs at hstep
    obtain rfl := Option.some.inj hstep
    exact h
  | closes =>
    rw [NativePump.step] at hstep
    split_ifs at hstep
    obtain rfl := Option.some.inj hstep
    exact fun _ => Or.inl rfl
  | onError | onClose =>
    obtain ⟨_, _, _, rfl⟩ := step_notifies (by simp) hstep
    exact fun _ => Or.inr rfl

theorem stranded_iff (hnotifies : pump.CloseNotifies) :
    pump.Stranded pw config maxPayloadLen ↔ pump.Silent ∧ pump.Unwoken := by
  constructor
  · rintro ⟨hclosed, ⟨len, hparked⟩, hstays⟩
    obtain ⟨phase, amount, channelOpen, pendingLow, lowSent, errors, close, notified,
      closeNotified⟩ := pump
    obtain rfl : phase = .parked len := hparked
    -- what is left of a wake source would end the wait
    cases lowSent with
    | true => cases hstays [.resume] _ rfl
    | false =>
      cases notified with
      | true => cases hstays [.giveUp] _ rfl
      | false =>
        cases errors with
        | succ errors => cases hstays [.onError, .giveUp] _ rfl
        | zero =>
          cases close with
          | true => cases hstays [.onClose, .giveUp] _ rfl
          | false =>
            cases channelOpen with
            | true => cases hstays [.closes, .onClose, .giveUp] _ rfl
            | false => exact ⟨⟨rfl, rfl, rfl⟩, ⟨len, rfl⟩, rfl, rfl⟩
  · rintro ⟨hsilent, hunwoken⟩
    obtain ⟨len, hparked⟩ := hunwoken.1
    have hclosed : pump.closeNotified = true := by
      rcases hnotifies hsilent.1 with hpending | hclosed
      · rw [hsilent.2.2] at hpending
        cases hpending
      · exact hclosed
    refine ⟨hclosed, ⟨len, hparked⟩, fun later pump' hrun => ?_⟩
    have hstep : ∀ u event v, (u.phase = pump.phase ∧ u.Silent ∧ u.Unwoken) →
        step pw config maxPayloadLen u event = some v →
          v.phase = pump.phase ∧ v.Silent ∧ v.Unwoken := by
      rintro u event v ⟨hphase, hsilent, hunwoken⟩ huv
      obtain ⟨hsame, hv⟩ := step_unwoken hsilent hunwoken huv
      exact ⟨hsame.trans hphase, hv⟩
    exact (Runs.run_invariant hstep ⟨rfl, hsilent, hunwoken⟩ hrun).1

/-! ## Where it comes from -/

/-- The channel is silent, and the pump parks if it has not done so. -/
def Doomed (pw : PointerWidth) (config : WebRtcDataChannelConfig) (pump : NativePump) : Prop :=
  pump.Silent ∧ (pump.AboutToPark pw config ∨ pump.Unwoken)

/-- A pump that is neither parked nor about to park is not doomed. -/
theorem not_doomed_of_not_aboutToPark (habout : ¬ pump.AboutToPark pw config)
    (hparked : ∀ len, pump.phase ≠ .parked len) : ¬ pump.Doomed pw config := by
  rintro ⟨-, h | ⟨⟨len, hphase⟩, -⟩⟩
  · exact habout h
  · exact hparked len hphase

/-- A pump whose next step dooms it is doomed before. -/
theorem doomed_of_pumpStep (hstep : pump.pumpStep pw config = some pump')
    (h : pump'.Doomed pw config) : pump.Doomed pw config := by
  obtain ⟨phase, amount, channelOpen, pendingLow, lowSent, errors, close, notified,
    closeNotified⟩ := pump
  rw [pumpStep] at hstep
  cases phase with
  | receiving | parked len | ended => cases hstep
  | holding len =>
    dsimp only at hstep
    split_ifs at hstep with hopen
    · obtain rfl := Option.some.inj hstep
      exact absurd (h.1.1.symm.trans hopen) nofun
    · obtain rfl := Option.some.inj hstep
      exact absurd h (not_doomed_of_not_aboutToPark id fun _ => nofun)
  | opened len =>
    dsimp only at hstep
    split_ifs at hstep with habove
    · obtain rfl := Option.some.inj hstep
      rcases h.2 with habout | ⟨⟨len, hparked⟩, -⟩
      · exact ⟨h.1, Or.inl ⟨habove, habout⟩⟩
      · cases hparked
    · obtain rfl := Option.some.inj hstep
      exact absurd h (not_doomed_of_not_aboutToPark id fun _ => nofun)
  | capacity len =>
    dsimp only at hstep
    split_ifs at hstep with hlow
    · obtain rfl := Option.some.inj hstep
      exact absurd h (not_doomed_of_not_aboutToPark id fun _ => nofun)
    · obtain rfl := Option.some.inj hstep
      exact ⟨h.1, Or.inl (not_le.mp hlow)⟩
  | installing len =>
    obtain rfl := Option.some.inj hstep
    rcases h.2 with habout | ⟨⟨len, hparked⟩, -⟩
    · exact ⟨h.1, Or.inl habout.1⟩
    · cases hparked
  | installed len =>
    dsimp only at hstep
    split_ifs at hstep with hlow
    · obtain rfl := Option.some.inj hstep
      rcases h.2 with habout | ⟨⟨len, hparked⟩, -⟩
      · cases habout
      · cases hparked
    · obtain rfl := Option.some.inj hstep
      rcases h.2 with habout | ⟨⟨len, hparked⟩, -⟩
      · exact ⟨h.1, Or.inl ⟨not_le.mp hlow, habout⟩⟩
      · cases hparked
  | selecting len =>
    dsimp only at hstep
    split_ifs at hstep with hsent
    · obtain rfl := Option.some.inj hstep
      exact absurd h (not_doomed_of_not_aboutToPark id fun _ => nofun)
    · obtain rfl := Option.some.inj hstep
      exact ⟨h.1, Or.inl (Bool.eq_false_iff.mpr hsent)⟩
  | sending len =>
    dsimp only at hstep
    split_ifs at hstep <;> obtain rfl := Option.some.inj hstep
    · exact absurd h (not_doomed_of_not_aboutToPark id fun _ => nofun)
    · exact absurd h (not_doomed_of_not_aboutToPark id fun _ => nofun)

/-- A pump strands if it does so after its next step. -/
theorem strands_of_pumpStep (hstep : pump.pumpStep pw config = some pump')
    (h : pump'.Strands pw config maxPayloadLen) : pump.Strands pw config maxPayloadLen := by
  obtain ⟨count, stranded, hrun, hstranded⟩ := h
  refine ⟨count + 1, stranded, ?_, hstranded⟩
  rw [List.replicate_succ]
  exact Runs.run_cons.mpr ⟨pump', hstep, hrun⟩

theorem strands_of_doomed (hnotifies : pump.CloseNotifies) (h : pump.Doomed pw config) :
    pump.Strands pw config maxPayloadLen := by
  obtain ⟨phase, amount, channelOpen, pendingLow, lowSent, errors, close, notified,
    closeNotified⟩ := pump
  obtain ⟨hsilent, hdoomed⟩ := h
  obtain rfl : channelOpen = false := hsilent.1
  obtain rfl : errors = 0 := hsilent.2.1
  obtain rfl : close = false := hsilent.2.2
  have hclosed : closeNotified = true := (hnotifies rfl).resolve_left nofun
  subst hclosed
  -- from the last phase to the first
  have hparked : ∀ len pendingLow, Strands pw config maxPayloadLen
      ⟨.parked len, amount, false, pendingLow, false, 0, false, false, true⟩ :=
    fun len pendingLow => ⟨0, _, Runs.run_nil _,
      (stranded_iff fun _ => Or.inr rfl).mpr ⟨⟨rfl, rfl, rfl⟩, ⟨len, rfl⟩, rfl, rfl⟩⟩
  have hselecting : ∀ len pendingLow notified, Strands pw config maxPayloadLen
      ⟨.selecting len, amount, false, pendingLow, false, 0, false, notified, true⟩ :=
    fun len pendingLow notified => strands_of_pumpStep rfl (hparked len pendingLow)
  have hinstalled : config.bufferedAmountLowThreshold < amount → ∀ len pendingLow notified,
      Strands pw config maxPayloadLen
        ⟨.installed len, amount, false, pendingLow, false, 0, false, notified, true⟩ :=
    fun hlow len pendingLow notified =>
      strands_of_pumpStep (if_neg (not_le.mpr hlow)) (hselecting len pendingLow notified)
  have hinstalling : config.bufferedAmountLowThreshold < amount →
      ∀ len pendingLow lowSent notified, Strands pw config maxPayloadLen
        ⟨.installing len, amount, false, pendingLow, lowSent, 0, false, notified, true⟩ :=
    fun hlow len pendingLow lowSent notified =>
      strands_of_pumpStep rfl (hinstalled hlow len false notified)
  have hcapacity : config.bufferedAmountLowThreshold < amount → ∀ len pendingLow lowSent notified,
      Strands pw config maxPayloadLen
        ⟨.capacity len, amount, false, pendingLow, lowSent, 0, false, notified, true⟩ :=
    fun hlow len pendingLow lowSent notified => strands_of_pumpStep (if_neg (not_le.mpr hlow))
      (hinstalling hlow len pendingLow lowSent notified)
  rcases hdoomed with habout | ⟨⟨len, hphase⟩, hsent, hnotified⟩
  · cases phase with
    | opened len =>
      exact strands_of_pumpStep (if_pos habout.1)
        (hcapacity habout.2 len pendingLow lowSent notified)
    | capacity len => exact hcapacity habout len pendingLow lowSent notified
    | installing len => exact hinstalling habout len pendingLow lowSent notified
    | installed len =>
      obtain rfl : lowSent = false := habout.2
      exact hinstalled habout.1 len pendingLow notified
    | selecting len =>
      obtain rfl : lowSent = false := habout
      exact hselecting len pendingLow notified
    | receiving | holding len | parked len | sending len | ended => exact habout.elim
  · obtain rfl : phase = .parked len := hphase
    obtain rfl : lowSent = false := hsent
    obtain rfl : notified = false := hnotified
    exact hparked len pendingLow

/-- **Which pumps strand.**  The channel has closed, every callback has run, and the pump is parked
or about to park. -/
theorem strands_iff (hnotifies : pump.CloseNotifies) :
    pump.Strands pw config maxPayloadLen ↔ pump.Doomed pw config := by
  constructor
  · rintro ⟨count, stranded, hrun, hstranded⟩
    induction count generalizing pump with
    | zero =>
      obtain rfl := Option.some.inj hrun
      obtain ⟨hsilent, hunwoken⟩ := (stranded_iff hnotifies).mp hstranded
      exact ⟨hsilent, Or.inr hunwoken⟩
    | succ count ih =>
      rw [List.replicate_succ] at hrun
      obtain ⟨next, hstep, hrun⟩ := Runs.run_cons.mp hrun
      exact doomed_of_pumpStep hstep (ih (hnotifies.step hstep) hrun)
  · exact strands_of_doomed hnotifies

/-- `on_close` or `on_error` runs as the last callback of a closed channel. -/
def LastCallback (pump : NativePump) : NativePumpEvent → Prop
  | .onClose => pump.channelOpen = false ∧ pump.pendingErrors = 0
  | .onError => pump.channelOpen = false ∧ pump.pendingErrors = 1 ∧ pump.pendingClose = false
  | _ => False

/-- The last callback does not run while the pump is about to park. -/
def Heard (pw : PointerWidth) (config : WebRtcDataChannelConfig) (pump : NativePump)
    (event : NativePumpEvent) : Prop :=
  pump.LastCallback event → ¬ pump.AboutToPark pw config

/-- A callback leaves a doomed pump exactly when it is the last one and finds the pump about to
park. -/
theorem doomed_notifyWaiters_iff (pump : NativePump) (errors : ℕ) (close : Bool) :
    Doomed pw config { pump.notifyWaiters with pendingErrors := errors, pendingClose := close } ↔
      (pump.channelOpen = false ∧ errors = 0 ∧ close = false) ∧ pump.AboutToPark pw config := by
  obtain ⟨phase, _, _, _, _, _, _, _, _⟩ := pump
  cases phase with
  | parked len =>
    refine iff_of_false ?_ fun h => h.2
    rintro ⟨-, habout | ⟨-, -, hnotified⟩⟩
    · exact habout
    · cases hnotified
  | receiving | holding len | opened len | capacity len | installing len | installed len
  | selecting len | sending len | ended =>
    refine and_congr_right fun _ => or_iff_left ?_
    rintro ⟨⟨len, hparked⟩, -⟩
    cases hparked

/-- Transmitting what is buffered dooms no pump. -/
theorem doomed_of_drain {n : ℕ} {pending : Bool}
    (h : Doomed pw config { pump with
      bufferedAmount := pump.bufferedAmount - n, pendingLow := pending }) :
    pump.Doomed pw config := by
  obtain ⟨phase, amount, _, _, _, _, _, _, _⟩ := pump
  obtain ⟨hsilent, habout | hunwoken⟩ := h
  · refine ⟨hsilent, Or.inl ?_⟩
    cases phase with
    | opened len =>
      obtain ⟨habove, hlow⟩ := habout
      refine ⟨lt_of_lt_of_le habove ?_, lt_of_lt_of_le hlow (Nat.sub_le amount n)⟩
      exact min_le_min_right _ (Nat.add_le_add_right (Nat.sub_le amount n) len)
    | capacity len | installing len => exact lt_of_lt_of_le habout (Nat.sub_le amount n)
    | installed len => exact ⟨lt_of_lt_of_le habout.1 (Nat.sub_le amount n), habout.2⟩
    | selecting len => exact habout
    | receiving | holding len | parked len | sending len | ended => exact habout
  · exact ⟨hsilent, Or.inr hunwoken⟩

/-- **One step.**  A pump that is not doomed is not doomed after a step exactly when the step is
heard. -/
theorem not_doomed_step_iff (h : ¬ pump.Doomed pw config) {event : NativePumpEvent}
    (hstep : pump.step pw config maxPayloadLen event = some pump') :
    ¬ pump'.Doomed pw config ↔ pump.Heard pw config event := by
  cases event with
  | pump =>
    exact iff_of_true (fun hdoomed => h (doomed_of_pumpStep hstep hdoomed)) fun hlast => hlast.elim
  | receive | stop | resume | giveUp =>
    refine iff_of_true ?_ fun hlast => hlast.elim
    obtain ⟨phase, rfl, ⟨len, rfl | rfl⟩ | rfl⟩ := step_moves (by simp) hstep
    · exact not_doomed_of_not_aboutToPark id fun _ => nofun
    · exact not_doomed_of_not_aboutToPark id fun _ => nofun
    · exact not_doomed_of_not_aboutToPark id fun _ => nofun
  | drain n =>
    obtain rfl := Option.some.inj hstep
    exact iff_of_true (fun hdoomed => h (doomed_of_drain hdoomed)) fun hlast => hlast.elim
  | fails =>
    rw [step] at hstep
    split_ifs at hstep
    obtain rfl := Option.some.inj hstep
    exact iff_of_true (fun hdoomed => nomatch hdoomed.1.2.1) fun hlast => hlast.elim
  | closes =>
    rw [step] at hstep
    split_ifs at hstep
    obtain rfl := Option.some.inj hstep
    exact iff_of_true (fun hdoomed => nomatch hdoomed.1.2.2) fun hlast => hlast.elim
  | onLow =>
    rw [step] at hstep
    split_ifs at hstep with hlow
    obtain rfl := Option.some.inj hstep
    have hopen := (Bool.and_eq_true_iff.mp hlow).1
    exact iff_of_true (fun hdoomed => nomatch hopen.symm.trans hdoomed.1.1) fun hlast => hlast.elim
  | onError =>
    rw [step] at hstep
    split_ifs at hstep with hpending
    obtain rfl := Option.some.inj hstep
    have hclose : pump.notifyWaiters.pendingClose = pump.pendingClose := by
      obtain ⟨notified, hnotified⟩ := pump.notifyWaiters_eq
      rw [hnotified]
    rw [Heard, LastCallback, ← not_and]
    refine not_congr ((doomed_notifyWaiters_iff pump _ _).trans
      (and_congr_left fun _ => and_congr_right fun _ => ?_))
    rw [hclose]
    exact and_congr_left fun _ => by omega
  | onClose =>
    rw [step] at hstep
    split_ifs at hstep with hpending
    obtain rfl := Option.some.inj hstep
    have herrors : pump.notifyWaiters.pendingErrors = pump.pendingErrors := by
      obtain ⟨notified, hnotified⟩ := pump.notifyWaiters_eq
      rw [hnotified]
    rw [Heard, LastCallback, ← not_and]
    refine not_congr ((doomed_notifyWaiters_iff pump _ _).trans
      (and_congr_left fun _ => and_congr_right fun _ => ?_))
    rw [herrors]
    exact and_iff_left rfl

/-- **No close is missed.**  Let the steps of the pump, the changes of the channel and the callbacks
come in any order.  In no state of the run is the pump stranded, or does it strand by its own steps,
if and only if no callback that is the last one of a closed channel runs between the pump's look at
the channel and its registration in `select!`, while what it finds makes it wait. -/
theorem neverStrands_iff {events : List NativePumpEvent} {final : NativePump}
    (hrun : Runs.run (step pw config maxPayloadLen) new events = some final) :
    (∀ pre post pump, events = pre ++ post →
        Runs.run (step pw config maxPayloadLen) new pre = some pump →
          ¬ pump.Strands pw config maxPayloadLen) ↔
      Runs.Guarded (step pw config maxPayloadLen) (Heard pw config) new events := by
  have hnew : CloseNotifies new := nofun
  have hnotifies : ∀ pre pump, Runs.run (step pw config maxPayloadLen) new pre = some pump →
      pump.CloseNotifies := fun pre pump hpre =>
    Runs.run_invariant (fun _ _ _ h hstep => CloseNotifies.step h hstep) hnew hpre
  have hstart : ¬ Doomed pw config new := not_doomed_of_not_aboutToPark id fun _ => nofun
  have hiff : (∀ pre post pump, events = pre ++ post →
      Runs.run (step pw config maxPayloadLen) new pre = some pump → ¬ pump.Doomed pw config) ↔
        ¬ Doomed pw config new ∧
          Runs.Guarded (step pw config maxPayloadLen) (Heard pw config) new events :=
    Runs.forall_prefix_iff_guarded (I := CloseNotifies) (fun _ _ _ h hstep => h.step hstep)
      (fun _ _ _ _ h hstep => not_doomed_step_iff h hstep) hnew hrun
  rw [and_iff_right hstart] at hiff
  rw [← hiff]
  refine forall₃_congr fun pre post pump => forall₂_congr fun _ hpre => ?_
  rw [strands_iff (hnotifies pre pump hpre)]

section Sample

/-- A frame is sent, the next one waits, and the channel closes and says so just after the pump has
looked at it. -/
def sampleClose : List NativePumpEvent :=
  [.receive 31, .pump, .pump, .pump, .receive 31, .pump, .closes, .onClose]

/-- The close comes when the pump is parked. -/
def sampleHeard : List NativePumpEvent :=
  [.receive 31, .pump, .pump, .pump, .receive 31, .pump, .pump, .pump, .pump, .pump, .pump,
    .closes, .onClose, .giveUp]

theorem neverStrands_iff_sample :
    ∃ final, Runs.run (step .w64 ⟨10, 50⟩ 1) new sampleHeard = some final ∧
      ((∀ pre post pump, sampleHeard = pre ++ post →
          Runs.run (step .w64 ⟨10, 50⟩ 1) new pre = some pump →
            ¬ pump.Strands .w64 ⟨10, 50⟩ 1) ↔
        Runs.Guarded (step .w64 ⟨10, 50⟩ 1) (Heard .w64 ⟨10, 50⟩) new sampleHeard) :=
  ⟨_, rfl, neverStrands_iff rfl⟩

/-- **A close that is missed.**  The pump has seen its channel open.  The channel closes, its
callback notifies nobody, and five steps later the pump is parked for good. -/
theorem close_is_missed :
    ∃ pump, Runs.run (step .w64 ⟨10, 50⟩ 1) new
        (sampleClose ++ [.pump, .pump, .pump, .pump, .pump]) = some pump ∧
      pump.phase = .parked 31 ∧ pump.closeNotified = true ∧ pump.Stranded .w64 ⟨10, 50⟩ 1 := by
  have hrun : ∃ pump, Runs.run (step .w64 ⟨10, 50⟩ 1) new
      (sampleClose ++ [.pump, .pump, .pump, .pump, .pump]) = some pump ∧
      pump.phase = .parked 31 ∧ pump.closeNotified = true ∧ pump.Silent ∧ pump.Unwoken :=
    ⟨_, rfl, rfl, rfl, ⟨rfl, rfl, rfl⟩, ⟨31, rfl⟩, rfl, rfl⟩
  obtain ⟨pump, hrun, hparked, hclosed, hsilent, hunwoken⟩ := hrun
  exact ⟨pump, hrun, hparked, hclosed,
    (stranded_iff fun _ => Or.inr hclosed).mpr ⟨hsilent, hunwoken⟩⟩

end Sample

end NativePump

end IrohWebRtc
