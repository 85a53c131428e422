import IrohWebRtc.Core.Backpressure

/-!
# The waits of the browser pump

`pump_outbound_data_channel` of `browser_runtime/direct/data_channel.rs` with its two waits:
`wait_for_data_channel_open` and `wait_for_data_channel_capacity`.  A script runs to its next
await before the browser goes on, so each step of the pump is one from await to await: it looks at
the channel, installs its listeners and looks again, and nothing happens in between.  Between two
awaits the browser may open, fail and close the channel and transmit from its buffer, and the hub
may drop the queue of the pump.

The first listener that is called tells the pump what has happened; what comes later is not told.
The session that is told of a failure is not followed here.

## Why nothing is missed

What is missed in the native pump (`Native.PumpWakeups`) is an event between the look at the
channel and the registration.  Here there is no such moment, so a pump that waits has listeners
which were added while there was nothing to hear.  `Heard` says this of every state, and it is all
that the promise needs: whatever happens afterwards is heard by one of them.

The promise is about three kinds of pumps.  One that waits has been told as soon as what it waits
for has happened; one that has ended has given up its route and had a reason; and one whose
channel has closed is about to end.

* `Heard`: a pump that waits and was told nothing has nothing to hear yet.
* `neverStrands`: no run strands the pump, an ended pump has given up its route, and a pump whose
  channel has closed is at its last step.
* `refines_outboundPump`: with its listeners the pump is one that compares, waits and sends, and
  it keeps the buffered amount below the high threshold.
-/

namespace IrohWebRtc

inductive RtcDataChannelState where
  | connecting
  | open
  | closing
  | closed
  deriving DecidableEq, Repr

namespace RtcDataChannelState

/-- `Closing | Closed`. -/
def isClosing : RtcDataChannelState → Bool
  | .closing | .closed => true
  | .connecting | .open => false

end RtcDataChannelState

inductive DataChannelOpenEvent where
  | open
  | closed
  | failed
  deriving DecidableEq, Repr

inductive DataChannelCapacityEvent where
  | low
  | closed
  | failed
  deriving DecidableEq, Repr

/-- What a wait comes to before its await: an answer, or the oneshot channel of its listeners, with
the value that it may have already. -/
inductive DataChannelWait (α : Type*) where
  | now (event : α)
  | later (told : Option α)

/-- `wait_for_data_channel_open`, up to its await. -/
def waitForDataChannelOpen (readyState : RtcDataChannelState) (listenersAdded : Bool) :
    DataChannelWait DataChannelOpenEvent :=
  match readyState with
  | .open => .now .open
  | .closing | .closed => .now .closed
  | .connecting =>
    if listenersAdded then
      .later (if readyState = .open then some .open
        else if readyState.isClosing then some .closed else none)
    else .now .open

/-- `wait_for_data_channel_capacity`, up to its await. -/
def waitForDataChannelCapacity (readyState : RtcDataChannelState)
    (bufferedAmount lowThreshold : ℕ) (listenersAdded : Bool) :
    DataChannelWait DataChannelCapacityEvent :=
  if bufferedAmount ≤ lowThreshold then .now .low
  else if readyState.isClosing then .now .closed
  else if listenersAdded then .later (if bufferedAmount ≤ lowThreshold then some .low else none)
  else .now .low

/-- The await at which the pump is, with what its wait was told. -/
inductive BrowserPumpPhase where
  | starting
  | waitingOpen (told : Option DataChannelOpenEvent)
  /-- `outbound_rx.recv()`. -/
  | receiving
  /-- The length is that of the packet it holds. -/
  | waitingCapacity (len : ℕ) (told : Option DataChannelCapacityEvent)
  | ended
  deriving DecidableEq, Repr

/-- The pump, its channel, and its route in the hub. -/
structure BrowserPump where
  phase : BrowserPumpPhase
  readyState : RtcDataChannelState
  bufferedAmount : ℕ
  /-- The hub holds the sender of the queue. -/
  registered : Bool
  /-- The hub has dropped the sender for reasons of its own. -/
  dropped : Bool
  /-- `apply_data_channel_failed` was called. -/
  reported : Bool
  deriving DecidableEq, Repr

inductive BrowserPumpEvent where
  /-- The task starts. -/
  | start (listenersAdded : Bool)
  /-- A packet comes out of the queue. -/
  | receive (len : ℕ) (listenersAdded sendOk : Bool)
  /-- The queue is empty and has no sender. -/
  | exhausted
  /-- The wait is told. -/
  | resume (sendOk : Bool)
  | opens
  | closing
  | closes
  /-- The channel has an error. -/
  | fails
  /-- The channel transmits some of what it has buffered. -/
  | drain (n : ℕ)
  /-- The hub closes, or registers the session anew. -/
  | drop
  deriving DecidableEq, Repr

/-- The step is one of the pump. -/
def BrowserPumpEvent.isPump : BrowserPumpEvent → Bool
  | .start _ | .receive _ _ _ | .exhausted | .resume _ => true
  | .opens | .closing | .closes | .fails | .drain _ | .drop => false

namespace BrowserPump

/-- A pump that was spawned for a channel in this state. -/
def new (readyState : RtcDataChannelState) : BrowserPump :=
  ⟨.starting, readyState, 0, true, false, false⟩

/-! ## The pump -/

section Pump

variable (pump : BrowserPump)

/-- `unregister_outbound_session`, and the pump returns. -/
def giveUp : BrowserPump := { pump with phase := .ended, registered := false }

/-- The pump also reports that the channel has failed. -/
def fail : BrowserPump := { pump.giveUp with reported := true }

/-- A channel that is not open does not send. -/
def send (len : ℕ) (sendOk : Bool) : BrowserPump :=
  if pump.readyState = .open ∧ sendOk = true then
    { pump with phase := .receiving, bufferedAmount := pump.bufferedAmount + len }
  else pump.fail

/-- What the pump does after `wait_for_data_channel_open`. -/
def opened : DataChannelOpenEvent → BrowserPump
  | .open => { pump with phase := .receiving }
  | .closed => pump.giveUp
  | .failed => pump.fail

/-- What the pump does after `wait_for_data_channel_capacity`. -/
def relieved (len : ℕ) (sendOk : Bool) : DataChannelCapacityEvent → BrowserPump
  | .low => pump.send len sendOk
  | .closed => pump.giveUp
  | .failed => pump.fail

/-- The pump starts. -/
def start (listenersAdded : Bool) : BrowserPump :=
  match waitForDataChannelOpen pump.readyState listenersAdded with
  | .now event => pump.opened event
  | .later told => { pump with phase := .waitingOpen told }

/-- A packet goes to the channel, or waits for capacity. -/
def handle (config : WebRtcDataChannelConfig) (len : ℕ) (listenersAdded sendOk : Bool) :
    BrowserPump :=
  if pump.readyState.isClosing then pump.giveUp
  else if PumpKind.browser.threshold config.bufferedAmountHighThreshold <
      PumpKind.browser.saturatingAdd pump.bufferedAmount (PumpKind.browser.frameLen len) then
    match waitForDataChannelCapacity pump.readyState pump.bufferedAmount
      (PumpKind.browser.threshold config.bufferedAmountLowThreshold) listenersAdded with
    | .now event => pump.relieved len sendOk event
    | .later told => { pump with phase := .waitingCapacity len told }
  else pump.send len sendOk

/-! ### Listeners -/

/-- The listeners of a wait for the channel to open. -/
def tellOpen (event : DataChannelOpenEvent) : BrowserPump :=
  match pump.phase with
  | .waitingOpen none => { pump with phase := .waitingOpen (some event) }
  | _ => pump

/-- The listeners of a wait for capacity. -/
def tellCapacity (event : DataChannelCapacityEvent) : BrowserPump :=
  match pump.phase with
  | .waitingCapacity len none => { pump with phase := .waitingCapacity len (some event) }
  | _ => pump

end Pump

/-- The packets are encodings of payloads of at most `maxPayloadLen` bytes. -/
def step (config : WebRtcDataChannelConfig) (maxPayloadLen : ℕ) (pump : BrowserPump) :
    BrowserPumpEvent → Option BrowserPump
  | .start listenersAdded =>
    if pump.phase = .starting then some (pump.start listenersAdded) else none
  | .receive len listenersAdded sendOk =>
    if pump.phase = .receiving ∧ headerLen < len ∧ len ≤ headerLen + maxPayloadLen then
      some (pump.handle config len listenersAdded sendOk)
    else none
  | .exhausted =>
    if pump.phase = .receiving ∧ pump.registered = false then
      some { pump with phase := .ended }
    else none
  | .resume sendOk =>
    match pump.phase with
    | .waitingOpen (some event) => some (pump.opened event)
    | .waitingCapacity len (some event) => some (pump.relieved len sendOk event)
    | _ => none
  | .opens =>
    if pump.readyState = .connecting then
      some (({ pump with readyState := .open } : BrowserPump).tellOpen .open)
    else none
  | .closing =>
    if pump.readyState.isClosing then none else some { pump with readyState := .closing }
  | .closes =>
    if pump.readyState = .closed then none
    else
      -- the handler of the session gives up the route
      some ((({ pump with readyState := .closed, registered := false } : BrowserPump).tellOpen
        .closed).tellCapacity .closed)
  | .fails => some ((pump.tellOpen .failed).tellCapacity .failed)
  | .drain n =>
    let next := { pump with bufferedAmount := pump.bufferedAmount - n }
    let low := PumpKind.browser.threshold config.bufferedAmountLowThreshold
    -- the channel calls back when the amount crosses the low threshold
    some (if low < pump.bufferedAmount ∧ next.bufferedAmount ≤ low then next.tellCapacity .low
      else next)
  | .drop => some { pump with registered := false, dropped := true }

/-! ## What a wait was told -/

/-- The threshold at which the channel calls back. -/
abbrev low (config : WebRtcDataChannelConfig) : ℕ :=
  PumpKind.browser.threshold config.bufferedAmountLowThreshold

/-- A pump that waits and was told nothing has nothing to hear yet, and one that was told that the
channel has closed was told the truth. -/
def Heard (config : WebRtcDataChannelConfig) (pump : BrowserPump) : Prop :=
  match pump.phase with
  | .waitingOpen none => pump.readyState = .connecting ∨ pump.readyState = .closing
  | .waitingCapacity _ none => low config < pump.bufferedAmount ∧ pump.readyState ≠ .closed
  | .waitingOpen (some .closed) | .waitingCapacity _ (some .closed) =>
    pump.readyState.isClosing = true
  | _ => True

/-- A pump that waits for what has happened already. -/
def Stranded (config : WebRtcDataChannelConfig) (pump : BrowserPump) : Prop :=
  match pump.phase with
  | .waitingOpen none => pump.readyState = .open ∨ pump.readyState = .closed
  | .waitingCapacity _ none => pump.bufferedAmount ≤ low config ∨ pump.readyState = .closed
  | _ => False

variable {config : WebRtcDataChannelConfig} {maxPayloadLen : ℕ} {pump pump' : BrowserPump}

theorem Heard.not_stranded (h : pump.Heard config) : ¬ pump.Stranded config := by
  intro hstranded
  rw [Heard] at h
  rw [Stranded] at hstranded
  split at hstranded
  · rename_i hphase
    rw [hphase] at h
    rcases h with h | h <;> rcases hstranded with hs | hs <;> rw [h] at hs <;> cases hs
  · rename_i hphase
    rw [hphase] at h
    rcases hstranded with hs | hs
    · exact absurd h.1 (Nat.not_lt.mpr hs)
    · exact h.2 hs
  · exact hstranded

/-- **What holds of a pump at each await.** -/
structure Sound (config : WebRtcDataChannelConfig) (pump : BrowserPump) : Prop where
  heard : pump.Heard config
  ended : pump.phase = .ended → pump.registered = false ∧
    (pump.reported = true ∨ pump.readyState.isClosing = true ∨ pump.dropped = true)
  unregistered : pump.registered = false →
    pump.phase = .ended ∨ pump.readyState = .closed ∨ pump.dropped = true
  closed : pump.readyState = .closed → pump.phase = .starting ∨ pump.registered = false

theorem sound_new (readyState : RtcDataChannelState) : (new readyState).Sound config :=
  ⟨trivial, fun h => (by cases h), fun h => (by cases h), fun _ => Or.inl rfl⟩

theorem sound_giveUp (h : pump.readyState.isClosing = true) : pump.giveUp.Sound config :=
  ⟨trivial, fun _ => ⟨rfl, Or.inr (Or.inl h)⟩, fun _ => Or.inl rfl, fun _ => Or.inr rfl⟩

theorem sound_fail : pump.fail.Sound config :=
  ⟨trivial, fun _ => ⟨rfl, Or.inl rfl⟩, fun _ => Or.inl rfl, fun _ => Or.inr rfl⟩

/-- A pump that goes on: it waits, or is about to receive. -/
theorem Sound.of_phase (h : pump.Sound config) {phase : BrowserPumpPhase} {amount : ℕ}
    (hended : pump.phase ≠ .ended) (hphase : phase ≠ .ended)
    (hopen : pump.readyState ≠ .closed ∨ pump.phase ≠ .starting)
    (hheard : ({ pump with phase := phase, bufferedAmount := amount } : BrowserPump).Heard config) :
    ({ pump with phase := phase, bufferedAmount := amount } : BrowserPump).Sound config where
  heard := hheard
  ended := fun heq => absurd heq hphase
  unregistered := fun hr => Or.inr ((h.unregistered hr).resolve_left hended)
  closed := fun hc => by
    rcases hopen with hopen | hopen
    · exact absurd hc hopen
    · exact Or.inr ((h.closed hc).resolve_left hopen)

theorem Sound.send (h : pump.Sound config) (hended : pump.phase ≠ .ended) (len : ℕ)
    (sendOk : Bool) : (pump.send len sendOk).Sound config := by
  rw [BrowserPump.send]
  split_ifs with hopen
  · exact h.of_phase hended (by simp) (Or.inl (by simp [hopen.1])) trivial
  · exact sound_fail

theorem Sound.opened (h : pump.Sound config) (hended : pump.phase ≠ .ended)
    (hstarting : pump.readyState ≠ .closed ∨ pump.phase ≠ .starting)
    {event : DataChannelOpenEvent} (hevent : event = .closed → pump.readyState.isClosing = true) :
    (pump.opened event).Sound config := by
  cases event with
  | «open» =>
    exact h.of_phase hended (by simp) hstarting trivial
  | closed => exact sound_giveUp (hevent rfl)
  | failed => exact sound_fail

theorem Sound.relieved (h : pump.Sound config) (hended : pump.phase ≠ .ended) (len : ℕ)
    (sendOk : Bool) {event : DataChannelCapacityEvent}
    (hevent : event = .closed → pump.readyState.isClosing = true) :
    (pump.relieved len sendOk event).Sound config := by
  cases event with
  | low => exact h.send hended len sendOk
  | closed => exact sound_giveUp (hevent rfl)
  | failed => exact sound_fail

theorem Sound.start (h : pump.Sound config) (hphase : pump.phase = .starting)
    (listenersAdded : Bool) : (pump.start listenersAdded).Sound config := by
  have hended : pump.phase ≠ .ended := by simp [hphase]
  cases hstate : pump.readyState with
  | «open» =>
    have hnot : pump.readyState ≠ .closed := by simp [hstate]
    rw [BrowserPump.start, show waitForDataChannelOpen pump.readyState listenersAdded =
      .now .open by rw [hstate]; rfl]
    exact h.opened hended (Or.inl hnot) (by simp)
  | closing | closed =>
    rw [BrowserPump.start, show waitForDataChannelOpen pump.readyState listenersAdded =
      .now .closed by rw [hstate]; rfl]
    exact sound_giveUp (by rw [hstate]; rfl)
  | connecting =>
    have hnot : pump.readyState ≠ .closed := by simp [hstate]
    cases listenersAdded with
    | false =>
      rw [BrowserPump.start, show waitForDataChannelOpen pump.readyState false =
        .now .open by rw [hstate]; rfl]
      exact h.opened hended (Or.inl hnot) (by simp)
    | true =>
      rw [BrowserPump.start, show waitForDataChannelOpen pump.readyState true =
        .later none by rw [hstate]; rfl]
      exact h.of_phase hended (by simp) (Or.inl hnot) (Or.inl hstate)

theorem Sound.handle (h : pump.Sound config) (hphase : pump.phase = .receiving) (len : ℕ)
    (listenersAdded sendOk : Bool) :
    (pump.handle config len listenersAdded sendOk).Sound config := by
  have hended : pump.phase ≠ .ended := by simp [hphase]
  have hstarting : pump.phase ≠ .starting := by simp [hphase]
  rw [BrowserPump.handle]
  split_ifs with hclosing habove
  · exact sound_giveUp hclosing
  · rw [waitForDataChannelCapacity]
    split_ifs with hlow hlisteners
    · exact h.send hended len sendOk
    · have hnot : pump.readyState ≠ .closed := fun hclosed => hclosing (by rw [hclosed]; rfl)
      exact h.of_phase hended (by simp) (Or.inr hstarting) ⟨Nat.lt_of_not_le hlow, hnot⟩
    · exact h.send hended len sendOk
  · exact h.send hended len sendOk

/-! ### Listeners -/

/-- What the listeners are told goes to the wait alone. -/
theorem tellOpen_eq (event : DataChannelOpenEvent) :
    pump.phase = .waitingOpen none ∧
        pump.tellOpen event = { pump with phase := .waitingOpen (some event) } ∨
      pump.phase ≠ .waitingOpen none ∧ pump.tellOpen event = pump := by
  rw [tellOpen]
  split
  · rename_i hphase
    exact Or.inl ⟨hphase, rfl⟩
  · rename_i hphase
    exact Or.inr ⟨fun heq => hphase heq, rfl⟩

theorem tellCapacity_eq (event : DataChannelCapacityEvent) :
    (∃ len, pump.phase = .waitingCapacity len none ∧
        pump.tellCapacity event = { pump with phase := .waitingCapacity len (some event) }) ∨
      (∀ len, pump.phase ≠ .waitingCapacity len none) ∧ pump.tellCapacity event = pump := by
  rw [tellCapacity]
  split
  · rename_i len hphase
    exact Or.inl ⟨len, hphase, rfl⟩
  · rename_i hphase
    exact Or.inr ⟨fun len heq => hphase len heq, rfl⟩

@[simp] theorem readyState_tellOpen (event : DataChannelOpenEvent) :
    (pump.tellOpen event).readyState = pump.readyState := by
  rcases pump.tellOpen_eq event with ⟨-, heq⟩ | ⟨-, heq⟩ <;> rw [heq]

@[simp] theorem readyState_tellCapacity (event : DataChannelCapacityEvent) :
    (pump.tellCapacity event).readyState = pump.readyState := by
  rcases pump.tellCapacity_eq event with ⟨len, -, heq⟩ | ⟨-, heq⟩ <;> rw [heq]

@[simp] theorem registered_tellOpen (event : DataChannelOpenEvent) :
    (pump.tellOpen event).registered = pump.registered := by
  rcases pump.tellOpen_eq event with ⟨-, heq⟩ | ⟨-, heq⟩ <;> rw [heq]

@[simp] theorem registered_tellCapacity (event : DataChannelCapacityEvent) :
    (pump.tellCapacity event).registered = pump.registered := by
  rcases pump.tellCapacity_eq event with ⟨len, -, heq⟩ | ⟨-, heq⟩ <;> rw [heq]

/-- After both listeners were called no wait is left that was told nothing. -/
theorem heard_of_told (hclosing : pump.readyState.isClosing = true) (event : DataChannelOpenEvent)
    (event' : DataChannelCapacityEvent) :
    ((pump.tellOpen event).tellCapacity event').Heard config := by
  obtain ⟨phase, _, _, _, _, _⟩ := pump
  cases phase with
  | waitingOpen told =>
    rcases told with _ | _ | _ | _ <;> cases event <;> first | exact hclosing | trivial
  | waitingCapacity len told =>
    rcases told with _ | _ | _ | _ <;> cases event' <;> first | exact hclosing | trivial
  | starting | receiving | ended => trivial

/-- Telling a wait keeps all but what is heard, and that is kept if it is true. -/
theorem Sound.tellOpen (h : pump.Sound config) {event : DataChannelOpenEvent}
    (hevent : event = .closed → pump.readyState.isClosing = true) :
    (pump.tellOpen event).Sound config := by
  rcases pump.tellOpen_eq event with ⟨hphase, heq⟩ | ⟨-, heq⟩
  · rw [heq]
    refine ⟨?_, fun hp => (by cases hp), fun hr => Or.inr ?_, fun hc => Or.inr ?_⟩
    · cases event with
      | closed => exact hevent rfl
      | «open» | failed => trivial
    · exact (h.unregistered hr).resolve_left (by simp [hphase])
    · exact (h.closed hc).resolve_left (by simp [hphase])
  · rwa [heq]

theorem Sound.tellCapacity (h : pump.Sound config) {event : DataChannelCapacityEvent}
    (hevent : event = .closed → pump.readyState.isClosing = true) :
    (pump.tellCapacity event).Sound config := by
  rcases pump.tellCapacity_eq event with ⟨len, hphase, heq⟩ | ⟨-, heq⟩
  · rw [heq]
    refine ⟨?_, fun hp => (by cases hp), fun hr => Or.inr ?_, fun hc => Or.inr ?_⟩
    · cases event with
      | closed => exact hevent rfl
      | low | failed => trivial
    · exact (h.unregistered hr).resolve_left (by simp [hphase])
    · exact (h.closed hc).resolve_left (by simp [hphase])
  · rwa [heq]

/-! ### Steps -/

/-- The channel goes on to a state in which it closes. -/
theorem Sound.closing (h : pump.Sound config) (hopen : pump.readyState.isClosing = false) :
    ({ pump with readyState := .closing } : BrowserPump).Sound config := by
  have hnot : pump.readyState ≠ .closed := fun hc => by rw [hc] at hopen; cases hopen
  refine ⟨?_, fun hp => ⟨(h.ended hp).1, Or.inr (Or.inl rfl)⟩, fun hr => ?_, fun hc => by cases hc⟩
  · have hheard := h.heard
    obtain ⟨phase, _, _, _, _, _⟩ := pump
    cases phase with
    | waitingOpen told =>
      rcases told with _ | _ | _ | _
      · exact Or.inr rfl
      · trivial
      · rfl
      · trivial
    | waitingCapacity len told =>
      rcases told with _ | _ | _ | _
      · exact ⟨hheard.1, fun heq => by cases heq⟩
      · trivial
      · rfl
      · trivial
    | starting | receiving | ended => trivial
  · rcases h.unregistered hr with hp | hc | hd
    · exact Or.inl hp
    · exact absurd hc hnot
    · exact Or.inr (Or.inr hd)

/-- The channel closes, and its session gives up the route. -/
theorem sound_closes :
    ((({ pump with readyState := .closed, registered := false } : BrowserPump).tellOpen
      .closed).tellCapacity .closed).Sound config := by
  have hregistered : ((({ pump with readyState := .closed, registered := false } :
      BrowserPump).tellOpen .closed).tellCapacity .closed).registered = false := by simp
  have hstate : ((({ pump with readyState := .closed, registered := false } :
      BrowserPump).tellOpen .closed).tellCapacity .closed).readyState = .closed := by simp
  refine ⟨heard_of_told rfl _ _, fun _ => ⟨hregistered, Or.inr (Or.inl ?_)⟩,
    fun _ => Or.inr (Or.inl hstate), fun _ => Or.inr hregistered⟩
  rw [hstate]
  rfl

/-- The channel opens. -/
theorem Sound.opens (h : pump.Sound config) (hstate : pump.readyState = .connecting) :
    (({ pump with readyState := .open } : BrowserPump).tellOpen .open).Sound config := by
  have hunregistered : pump.registered = false → pump.phase = .ended ∨ pump.dropped = true := by
    intro hr
    exact (h.unregistered hr).imp_right fun hrest => hrest.resolve_left (by simp [hstate])
  rcases ({ pump with readyState := .open } : BrowserPump).tellOpen_eq .open with
    ⟨hphase, heq⟩ | ⟨hphase, heq⟩
  · rw [heq]
    refine ⟨trivial, fun hp => (by cases hp), fun hr => Or.inr (Or.inr ?_), fun hc => by cases hc⟩
    exact (hunregistered hr).resolve_left fun hp => by
      rw [show pump.phase = .waitingOpen none from hphase] at hp
      cases hp
  · rw [heq]
    refine ⟨?_, fun hp => ⟨(h.ended hp).1, ?_⟩, fun hr => ?_, fun hc => by cases hc⟩
    · have hheard := h.heard
      obtain ⟨phase, _, _, _, _, _⟩ := pump
      obtain rfl : _ = RtcDataChannelState.connecting := hstate
      cases phase with
      | waitingOpen told =>
        rcases told with _ | _ | _ | _
        · exact absurd rfl hphase
        · trivial
        · cases hheard
        · trivial
      | waitingCapacity len told =>
        rcases told with _ | _ | _ | _
        · exact ⟨hheard.1, fun heq => by cases heq⟩
        · trivial
        · cases hheard
        · trivial
      | starting | receiving | ended => trivial
    · rcases (h.ended hp).2 with hreported | hclosing | hdropped
      · exact Or.inl hreported
      · rw [hstate] at hclosing
        cases hclosing
      · exact Or.inr (Or.inr hdropped)
    · exact (hunregistered hr).imp_right Or.inr

/-- The channel transmits. -/
theorem Sound.drain (h : pump.Sound config) (n : ℕ) :
    (if low config < pump.bufferedAmount ∧ pump.bufferedAmount - n ≤ low config then
      ({ pump with bufferedAmount := pump.bufferedAmount - n } : BrowserPump).tellCapacity .low
    else { pump with bufferedAmount := pump.bufferedAmount - n }).Sound config := by
  have hsound : ({ pump with bufferedAmount := pump.bufferedAmount - n } : BrowserPump).Heard
      config → ({ pump with bufferedAmount := pump.bufferedAmount - n } : BrowserPump).Sound
      config := fun hheard => ⟨hheard, h.ended, h.unregistered, h.closed⟩
  have hheard := h.heard
  by_cases hwaits : ∃ len, pump.phase = .waitingCapacity len none
  · obtain ⟨len, hphase⟩ := hwaits
    rw [Heard, hphase] at hheard
    split_ifs with hcrossed
    · rcases ({ pump with bufferedAmount := pump.bufferedAmount - n } :
          BrowserPump).tellCapacity_eq .low with ⟨len', -, heq⟩ | ⟨hnot, -⟩
      · rw [heq]
        refine ⟨trivial, fun hp => (by cases hp), fun hr => Or.inr ?_, fun hc => Or.inr ?_⟩
        · exact (h.unregistered hr).resolve_left (by simp [hphase])
        · exact (h.closed hc).resolve_left (by simp [hphase])
      · exact absurd hphase (hnot len)
    · refine hsound ?_
      rw [Heard, hphase]
      refine ⟨?_, hheard.2⟩
      have hbefore := hheard.1
      show low config < pump.bufferedAmount - n
      omega
  · have hnone : ∀ len, pump.phase ≠ .waitingCapacity len none := fun len heq => hwaits ⟨len, heq⟩
    have hdrained : ({ pump with bufferedAmount := pump.bufferedAmount - n } :
        BrowserPump).Sound config := by
      refine hsound ?_
      obtain ⟨phase, _, _, _, _, _⟩ := pump
      cases phase with
      | waitingCapacity len told =>
        rcases told with _ | _ | _ | _
        · exact absurd rfl (hnone len)
        · trivial
        · exact hheard
        · trivial
      | waitingOpen told =>
        rcases told with _ | _ | _ | _
        · exact hheard
        · trivial
        · exact hheard
        · trivial
      | starting | receiving | ended => trivial
    split_ifs with hcrossed
    · exact hdrained.tellCapacity (by simp)
    · exact hdrained

/-- **Every step keeps what holds of a pump.** -/
theorem Sound.step (h : pump.Sound config) {event : BrowserPumpEvent}
    (hstep : pump.step config maxPayloadLen event = some pump') : pump'.Sound config := by
  cases event with
  | start listenersAdded =>
    rw [BrowserPump.step] at hstep
    split_ifs at hstep with hphase
    obtain rfl := Option.some.inj hstep
    exact h.start hphase listenersAdded
  | receive len listenersAdded sendOk =>
    rw [BrowserPump.step] at hstep
    split_ifs at hstep with hreceive
    obtain rfl := Option.some.inj hstep
    exact h.handle hreceive.1 len listenersAdded sendOk
  | exhausted =>
    rw [BrowserPump.step] at hstep
    split_ifs at hstep with hexhausted
    obtain ⟨hphase, hregistered⟩ := hexhausted
    obtain rfl := Option.some.inj hstep
    refine ⟨trivial, fun _ => ⟨hregistered, Or.inr ?_⟩, fun _ => Or.inl rfl,
      fun _ => Or.inr hregistered⟩
    refine ((h.unregistered hregistered).resolve_left (by simp [hphase])).imp_left fun hc => ?_
    show pump.readyState.isClosing = true
    rw [hc]
    rfl
  | resume sendOk =>
    have hheard := h.heard
    rw [BrowserPump.step] at hstep
    rw [Heard] at hheard
    split at hstep
    · rename_i event hphase
      obtain rfl := Option.some.inj hstep
      refine h.opened (by simp [hphase]) (Or.inr (by simp [hphase])) ?_
      rintro rfl
      rwa [hphase] at hheard
    · rename_i len event hphase
      obtain rfl := Option.some.inj hstep
      refine h.relieved (by simp [hphase]) len sendOk ?_
      rintro rfl
      rwa [hphase] at hheard
    · cases hstep
  | opens =>
    rw [BrowserPump.step] at hstep
    split_ifs at hstep with hstate
    obtain rfl := Option.some.inj hstep
    exact h.opens hstate
  | closing =>
    rw [BrowserPump.step] at hstep
    split_ifs at hstep with hclosing
    obtain rfl := Option.some.inj hstep
    exact h.closing (by simpa using hclosing)
  | closes =>
    rw [BrowserPump.step] at hstep
    split_ifs at hstep with hclosed
    obtain rfl := Option.some.inj hstep
    exact sound_closes
  | fails =>
    obtain rfl := Option.some.inj hstep
    exact (h.tellOpen (by simp)).tellCapacity (by simp)
  | drain n =>
    obtain rfl := Option.some.inj hstep
    exact h.drain n
  | drop =>
    obtain rfl := Option.some.inj hstep
    refine ⟨h.heard, fun hp => ⟨rfl, Or.inr (Or.inr rfl)⟩, fun _ => Or.inr (Or.inr rfl),
      fun _ => Or.inr rfl⟩

/-! ## The last steps -/

/-- How many steps a pump can take whose channel has closed. -/
def stepsLeft (pump : BrowserPump) : ℕ :=
  match pump.phase with
  | .starting | .waitingOpen _ => 2
  | .receiving | .waitingCapacity _ _ => 1
  | .ended => 0

theorem stepsLeft_pos (hphase : pump.phase ≠ .ended) : 0 < pump.stepsLeft := by
  rw [stepsLeft]
  split
  · exact Nat.two_pos
  · exact Nat.two_pos
  · exact Nat.one_pos
  · exact Nat.one_pos
  · rename_i hended
    exact absurd hended hphase

/-- A channel that has closed sends nothing, and the pump comes to its end. -/
theorem stepsLeft_lt (hclosed : pump.readyState = .closed) {event : BrowserPumpEvent}
    (hevent : event.isPump = true)
    (hstep : pump.step config maxPayloadLen event = some pump') :
    pump'.stepsLeft < pump.stepsLeft ∧ pump'.bufferedAmount = pump.bufferedAmount := by
  have hends : ∀ {next : BrowserPump}, pump.phase ≠ .ended → next.phase = .ended →
      next.bufferedAmount = pump.bufferedAmount →
        next.stepsLeft < pump.stepsLeft ∧ next.bufferedAmount = pump.bufferedAmount := by
    intro next hphase hended hamount
    refine ⟨?_, hamount⟩
    rw [show next.stepsLeft = 0 by rw [stepsLeft, hended]]
    exact stepsLeft_pos hphase
  cases event with
  | start listenersAdded =>
    rw [step] at hstep
    split_ifs at hstep with hphase
    obtain rfl := Option.some.inj hstep
    have hwait : waitForDataChannelOpen pump.readyState listenersAdded = .now .closed := by
      rw [hclosed]
      rfl
    rw [start, hwait]
    exact hends (by simp [hphase]) rfl rfl
  | receive len listenersAdded sendOk =>
    rw [step] at hstep
    split_ifs at hstep with hreceive
    obtain rfl := Option.some.inj hstep
    rw [handle, if_pos (by rw [hclosed]; rfl)]
    exact hends (by simp [hreceive.1]) rfl rfl
  | exhausted =>
    rw [step] at hstep
    split_ifs at hstep with hexhausted
    obtain rfl := Option.some.inj hstep
    exact hends (by simp [hexhausted.1]) rfl rfl
  | resume sendOk =>
    rw [step] at hstep
    split at hstep
    · rename_i event hphase
      obtain rfl := Option.some.inj hstep
      cases event with
      | «open» =>
        refine ⟨?_, rfl⟩
        rw [show pump.stepsLeft = 2 by rw [stepsLeft, hphase]]
        exact Nat.one_lt_two
      | closed | failed => exact hends (by simp [hphase]) rfl rfl
    · rename_i len event hphase
      obtain rfl := Option.some.inj hstep
      have hsend : pump.send len sendOk = pump.fail := by
        refine if_neg fun heq => ?_
        rw [hclosed] at heq
        cases heq.1
      cases event with
      | low =>
        show (pump.send len sendOk).stepsLeft < _ ∧ (pump.send len sendOk).bufferedAmount = _
        rw [hsend]
        exact hends (by simp [hphase]) rfl rfl
      | closed | failed => exact hends (by simp [hphase]) rfl rfl
    · cases hstep
  | opens | closing | closes | fails | drain | drop => cases hevent

/-- A pump whose channel has closed is not left waiting. -/
theorem Sound.exists_step (h : pump.Sound config) (hclosed : pump.readyState = .closed)
    (hphase : pump.phase ≠ .ended) :
    ∃ event next, event.isPump = true ∧ pump.step config maxPayloadLen event = some next := by
  have hstranded := h.heard.not_stranded
  rw [Stranded] at hstranded
  cases hp : pump.phase with
  | starting => exact ⟨.start true, _, rfl, if_pos hp⟩
  | waitingOpen told =>
    cases told with
    | none =>
      rw [hp] at hstranded
      exact absurd (Or.inr hclosed) hstranded
    | some event =>
      refine ⟨.resume true, pump.opened event, rfl, ?_⟩
      rw [BrowserPump.step]
      split
      · rename_i event' hp'
        obtain rfl := Option.some.inj (BrowserPumpPhase.waitingOpen.inj (hp.symm.trans hp'))
        rfl
      · rename_i hp'
        rw [hp] at hp'
        cases hp'
      · rename_i hnone _
        exact absurd hp (hnone event)
  | receiving =>
    have hregistered := (h.closed hclosed).resolve_left (by simp [hp])
    exact ⟨.exhausted, _, rfl, if_pos ⟨hp, hregistered⟩⟩
  | waitingCapacity len told =>
    cases told with
    | none =>
      rw [hp] at hstranded
      exact absurd (Or.inr hclosed) hstranded
    | some event =>
      refine ⟨.resume true, pump.relieved len true event, rfl, ?_⟩
      rw [BrowserPump.step]
      split
      · rename_i hp'
        rw [hp] at hp'
        cases hp'
      · rename_i hp'
        obtain ⟨rfl, htold⟩ := BrowserPumpPhase.waitingCapacity.inj (hp.symm.trans hp')
        obtain rfl := Option.some.inj htold
        rfl
      · rename_i _ hnone
        exact absurd hp (hnone len event)
  | ended => exact absurd hp hphase

/-- **No pump is left behind.**  In every run, in any order of its steps and of what the browser and
the hub do: a pump that waits for the channel to open, or for capacity, has been told as soon as the
channel has opened or closed, or its amount has fallen.  An ended pump has given up its route, and
it has reported a failure, or its channel was closing, or the hub had dropped its queue.  And a pump
whose channel has closed sends nothing more and ends after two steps of its own at most. -/
theorem neverStrands (readyState : RtcDataChannelState) {events : List BrowserPumpEvent}
    (hrun : Runs.run (step config maxPayloadLen) (new readyState) events = some pump) :
    ¬ pump.Stranded config ∧
    (pump.phase = .ended → pump.registered = false ∧
      (pump.reported = true ∨ pump.readyState.isClosing = true ∨ pump.dropped = true)) ∧
    (pump.readyState = .closed →
      (pump.phase ≠ .ended → ∃ event next, event.isPump = true ∧
        pump.step config maxPayloadLen event = some next) ∧
      pump.stepsLeft ≤ 2 ∧
      ∀ event next, event.isPump = true → pump.step config maxPayloadLen event = some next →
        next.stepsLeft < pump.stepsLeft ∧ next.bufferedAmount = pump.bufferedAmount) := by
  have hsound : pump.Sound config :=
    Runs.run_invariant (fun _ _ _ h hstep => h.step hstep) (sound_new readyState) hrun
  refine ⟨hsound.heard.not_stranded, hsound.ended, fun hclosed => ⟨hsound.exists_step hclosed, ?_,
    fun event next hevent hstep => stepsLeft_lt hclosed hevent hstep⟩⟩
  rw [stepsLeft]
  split <;> omega

/-- The channel closes while the pump waits for capacity. -/
def sampleClosing : List BrowserPumpEvent :=
  [.start true, .opens, .resume true, .receive 31 true true, .receive 31 true true, .closing,
    .closes]

theorem neverStrands_sample :
    ¬ (⟨.waitingCapacity 31 (some .closed), .closed, 31, false, false, false⟩ :
      BrowserPump).Stranded ⟨10, 50⟩ := by
  have hrun : Runs.run (step ⟨10, 50⟩ 1) (new .connecting) sampleClosing =
      some ⟨.waitingCapacity 31 (some .closed), .closed, 31, false, false, false⟩ := by decide
  exact (neverStrands .connecting hrun).1

/-! ## The pump that compares, waits and sends -/

/-- The phase of the pump that has no listeners: it waits for capacity as long as it has not been
told. -/
def toPumpPhase : BrowserPumpPhase → PumpPhase
  | .starting | .waitingOpen _ | .receiving => .receiving
  | .waitingCapacity len _ => .waiting len
  | .ended => .stopped

def toOutboundPump (pump : BrowserPump) : OutboundPump :=
  ⟨pump.bufferedAmount, toPumpPhase pump.phase⟩

/-- A pump that was told that the amount is low has still that amount. -/
def Relieved (config : WebRtcDataChannelConfig) (pump : BrowserPump) : Prop :=
  ∀ len, pump.phase = .waitingCapacity len (some .low) → pump.bufferedAmount ≤ low config

/-- The channel takes the listeners of a wait for capacity. -/
def ListenersAdded : BrowserPump → BrowserPumpEvent → Prop
  | _, .receive _ listenersAdded _ => listenersAdded = true
  | _, _ => True

theorem relieved_of_phase (h : ∀ len, pump.phase ≠ .waitingCapacity len (some .low)) :
    pump.Relieved config := fun len hphase => absurd hphase (h len)

theorem phase_send (len : ℕ) (sendOk : Bool) :
    (pump.send len sendOk).phase = .receiving ∨ (pump.send len sendOk).phase = .ended := by
  rw [send]
  split_ifs
  · exact Or.inl rfl
  · exact Or.inr rfl

theorem phase_relieved (len : ℕ) (sendOk : Bool) (event : DataChannelCapacityEvent) :
    (pump.relieved len sendOk event).phase = .receiving ∨
      (pump.relieved len sendOk event).phase = .ended := by
  cases event with
  | low => exact phase_send len sendOk
  | closed | failed => exact Or.inr rfl

theorem phase_opened (event : DataChannelOpenEvent) :
    (pump.opened event).phase = .receiving ∨ (pump.opened event).phase = .ended := by
  cases event with
  | «open» => exact Or.inl rfl
  | closed | failed => exact Or.inr rfl

theorem Relieved.of_phase_eq (h : pump.Relieved config) (hphase : pump'.phase = pump.phase)
    (hamount : pump'.bufferedAmount ≤ pump.bufferedAmount) : pump'.Relieved config :=
  fun len hlow => hamount.trans (h len (hphase.symm.trans hlow))

theorem relieved_of_done (h : pump.phase = .receiving ∨ pump.phase = .ended) :
    pump.Relieved config := by
  refine relieved_of_phase fun len hphase => ?_
  rcases h with h | h <;> rw [h] at hphase <;> cases hphase

theorem Relieved.tellOpen (h : pump.Relieved config) (event : DataChannelOpenEvent) :
    (pump.tellOpen event).Relieved config := by
  rcases pump.tellOpen_eq event with ⟨-, heq⟩ | ⟨-, heq⟩
  · rw [heq]
    exact relieved_of_phase fun len hphase => by cases hphase
  · rwa [heq]

theorem Relieved.tellCapacity (h : pump.Relieved config) {event : DataChannelCapacityEvent}
    (hevent : event = .low → pump.bufferedAmount ≤ low config) :
    (pump.tellCapacity event).Relieved config := by
  rcases pump.tellCapacity_eq event with ⟨len, -, heq⟩ | ⟨-, heq⟩
  · rw [heq]
    intro len' hphase
    exact hevent (Option.some.inj (BrowserPumpPhase.waitingCapacity.inj hphase).2)
  · rwa [heq]

theorem Relieved.step (h : pump.Relieved config) {event : BrowserPumpEvent}
    (hstep : pump.step config maxPayloadLen event = some pump') : pump'.Relieved config := by
  cases event with
  | start listenersAdded =>
    rw [BrowserPump.step] at hstep
    split_ifs at hstep
    obtain rfl := Option.some.inj hstep
    rw [start]
    split
    · exact relieved_of_done (phase_opened _)
    · exact relieved_of_phase fun len hphase => by cases hphase
  | receive len listenersAdded sendOk =>
    rw [BrowserPump.step] at hstep
    split_ifs at hstep
    obtain rfl := Option.some.inj hstep
    rw [handle, waitForDataChannelCapacity]
    split_ifs with _ _ hlow
    · exact relieved_of_done (Or.inr rfl)
    · exact relieved_of_done (phase_relieved len sendOk .low)
    · exact fun len' hphase => by cases hphase
    · exact relieved_of_done (phase_relieved len sendOk .low)
    · exact relieved_of_done (phase_send len sendOk)
  | exhausted =>
    rw [BrowserPump.step] at hstep
    split_ifs at hstep
    obtain rfl := Option.some.inj hstep
    exact relieved_of_done (Or.inr rfl)
  | resume sendOk =>
    rw [BrowserPump.step] at hstep
    split at hstep
    · obtain rfl := Option.some.inj hstep
      exact relieved_of_done (phase_opened _)
    · obtain rfl := Option.some.inj hstep
      exact relieved_of_done (phase_relieved _ _ _)
    · cases hstep
  | opens =>
    rw [BrowserPump.step] at hstep
    split_ifs at hstep
    obtain rfl := Option.some.inj hstep
    have hopened : ({ pump with readyState := .open } : BrowserPump).Relieved config :=
      h.of_phase_eq rfl le_rfl
    exact hopened.tellOpen .open
  | closing =>
    rw [BrowserPump.step] at hstep
    split_ifs at hstep
    obtain rfl := Option.some.inj hstep
    exact h.of_phase_eq rfl le_rfl
  | closes =>
    rw [BrowserPump.step] at hstep
    split_ifs at hstep
    obtain rfl := Option.some.inj hstep
    have hclosed : ({ pump with readyState := .closed, registered := false } :
        BrowserPump).Relieved config := h.of_phase_eq rfl le_rfl
    exact (hclosed.tellOpen .closed).tellCapacity fun heq => by cases heq
  | fails =>
    obtain rfl := Option.some.inj hstep
    exact (h.tellOpen .failed).tellCapacity (by simp)
  | drain n =>
    obtain rfl := Option.some.inj hstep
    have hdrained : ({ pump with bufferedAmount := pump.bufferedAmount - n } :
        BrowserPump).Relieved config := h.of_phase_eq rfl (Nat.sub_le _ _)
    dsimp only
    split_ifs with hcrossed
    · exact hdrained.tellCapacity fun _ => hcrossed.2
    · exact hdrained
  | drop =>
    obtain rfl := Option.some.inj hstep
    exact h.of_phase_eq rfl le_rfl

/-! ### Each step of the pump is some of its steps -/

@[simp] theorem toOutboundPump_tellOpen (event : DataChannelOpenEvent) :
    (pump.tellOpen event).toOutboundPump = pump.toOutboundPump := by
  rcases pump.tellOpen_eq event with ⟨hphase, heq⟩ | ⟨-, heq⟩
  · rw [heq, toOutboundPump, toOutboundPump, hphase]
    rfl
  · rw [heq]

@[simp] theorem toOutboundPump_tellCapacity (event : DataChannelCapacityEvent) :
    (pump.tellCapacity event).toOutboundPump = pump.toOutboundPump := by
  rcases pump.tellCapacity_eq event with ⟨len, hphase, heq⟩ | ⟨-, heq⟩
  · rw [heq, toOutboundPump, toOutboundPump, hphase]
    rfl
  · rw [heq]

/-- A pump that compares, waits and sends takes these steps. -/
abbrev Takes (config : WebRtcDataChannelConfig) (maxPayloadLen : ℕ) (before after : OutboundPump)
    (events : List OutboundPumpEvent) : Prop :=
  Runs.run (OutboundPump.step .browser config maxPayloadLen) before events = some after

/-- A pump that is about to send sends, or gives up. -/
theorem exists_takes_send {before : OutboundPump} {len : ℕ} (hphase : before.phase = .sending len)
    (hamount : before.bufferedAmount = pump.bufferedAmount) (sendOk : Bool) :
    ∃ events, Takes config maxPayloadLen before (pump.send len sendOk).toOutboundPump events := by
  obtain ⟨amount, phase⟩ := before
  obtain rfl : phase = .sending len := hphase
  obtain rfl : amount = pump.bufferedAmount := hamount
  rw [send]
  split_ifs
  · exact ⟨[.send], rfl⟩
  · exact ⟨[.stop], rfl⟩

theorem exists_takes_append {before middle after : OutboundPump} {events : List OutboundPumpEvent}
    (hbefore : Takes config maxPayloadLen before middle events)
    (hafter : ∃ events, Takes config maxPayloadLen middle after events) :
    ∃ events, Takes config maxPayloadLen before after events := by
  obtain ⟨events', hevents'⟩ := hafter
  exact ⟨events ++ events', Runs.run_append.mpr ⟨middle, hbefore, hevents'⟩⟩

/-- A pump that has a packet compares the amount with the high threshold. -/
theorem exists_takes_handle (hphase : pump.phase = .receiving) {len : ℕ}
    (hlen : headerLen < len ∧ len ≤ headerLen + maxPayloadLen) (sendOk : Bool) :
    ∃ events, Takes config maxPayloadLen pump.toOutboundPump
      (pump.handle config len true sendOk).toOutboundPump events := by
  have hbefore : pump.toOutboundPump = ⟨pump.bufferedAmount, .receiving⟩ := by
    rw [toOutboundPump, hphase]
    rfl
  have hreceive : Takes config maxPayloadLen pump.toOutboundPump
      ⟨pump.bufferedAmount, .holding len⟩ [.receive len] := by
    rw [hbefore]
    exact Runs.run_cons.mpr ⟨_, if_pos ⟨rfl, hlen⟩, rfl⟩
  rw [handle, waitForDataChannelCapacity, if_pos (rfl : true = true)]
  split_ifs with hclosing habove hlow
  · exact ⟨[.stop], rfl⟩
  · have hwait : Takes config maxPayloadLen ⟨pump.bufferedAmount, .holding len⟩
        ⟨pump.bufferedAmount, .sending len⟩ [.compare, .resume] :=
      Runs.run_cons.mpr ⟨_, if_pos habove, Runs.run_cons.mpr ⟨_, if_pos hlow, rfl⟩⟩
    exact exists_takes_append hreceive
      (exists_takes_append hwait (exists_takes_send rfl rfl sendOk))
  · exact exists_takes_append hreceive
      ⟨[.compare], Runs.run_cons.mpr ⟨_, if_pos habove, rfl⟩⟩
  · have hcompare : Takes config maxPayloadLen ⟨pump.bufferedAmount, .holding len⟩
        ⟨pump.bufferedAmount, .sending len⟩ [.compare] :=
      Runs.run_cons.mpr ⟨_, if_neg habove, rfl⟩
    exact exists_takes_append hreceive
      (exists_takes_append hcompare (exists_takes_send rfl rfl sendOk))

/-- **A step of the pump is a run of the pump that compares, waits and sends.** -/
theorem exists_takes_step (h : pump.Relieved config) {event : BrowserPumpEvent}
    (hlisteners : ListenersAdded pump event)
    (hstep : pump.step config maxPayloadLen event = some pump') :
    ∃ events, Takes config maxPayloadLen pump.toOutboundPump pump'.toOutboundPump events := by
  cases event with
  | start listenersAdded =>
    rw [step] at hstep
    split_ifs at hstep with hphase
    obtain rfl := Option.some.inj hstep
    have hbefore : pump.toOutboundPump = ⟨pump.bufferedAmount, .receiving⟩ := by
      rw [toOutboundPump, hphase]
      rfl
    rw [start]
    split
    · rename_i event _
      rw [hbefore]
      cases event with
      | «open» => exact ⟨[], rfl⟩
      | closed | failed => exact ⟨[.stop], rfl⟩
    · rw [hbefore]
      exact ⟨[], rfl⟩
  | receive len listenersAdded sendOk =>
    obtain rfl : listenersAdded = true := hlisteners
    rw [step] at hstep
    split_ifs at hstep with hreceive
    obtain rfl := Option.some.inj hstep
    exact exists_takes_handle hreceive.1 hreceive.2 sendOk
  | exhausted =>
    rw [step] at hstep
    split_ifs at hstep
    obtain rfl := Option.some.inj hstep
    exact ⟨[.stop], rfl⟩
  | resume sendOk =>
    rw [step] at hstep
    split at hstep
    · rename_i event hphase
      obtain rfl := Option.some.inj hstep
      have hbefore : pump.toOutboundPump = ⟨pump.bufferedAmount, .receiving⟩ := by
        rw [toOutboundPump, hphase]
        rfl
      rw [hbefore]
      cases event with
      | «open» => exact ⟨[], rfl⟩
      | closed | failed => exact ⟨[.stop], rfl⟩
    · rename_i len event hphase
      obtain rfl := Option.some.inj hstep
      have hbefore : pump.toOutboundPump = ⟨pump.bufferedAmount, .waiting len⟩ := by
        rw [toOutboundPump, hphase]
        rfl
      rw [hbefore]
      cases event with
      | low =>
        have hresume : Takes config maxPayloadLen ⟨pump.bufferedAmount, .waiting len⟩
            ⟨pump.bufferedAmount, .sending len⟩ [.resume] :=
          Runs.run_cons.mpr ⟨_, if_pos (h len hphase), rfl⟩
        exact exists_takes_append hresume (exists_takes_send rfl rfl sendOk)
      | closed | failed => exact ⟨[.stop], rfl⟩
    · cases hstep
  | opens =>
    rw [step] at hstep
    split_ifs at hstep
    obtain rfl := Option.some.inj hstep
    rw [toOutboundPump_tellOpen]
    exact ⟨[], rfl⟩
  | closing =>
    rw [step] at hstep
    split_ifs at hstep
    obtain rfl := Option.some.inj hstep
    exact ⟨[], rfl⟩
  | closes =>
    rw [step] at hstep
    split_ifs at hstep
    obtain rfl := Option.some.inj hstep
    rw [toOutboundPump_tellCapacity, toOutboundPump_tellOpen]
    exact ⟨[], rfl⟩
  | fails =>
    obtain rfl := Option.some.inj hstep
    rw [toOutboundPump_tellCapacity, toOutboundPump_tellOpen]
    exact ⟨[], rfl⟩
  | drain n =>
    obtain rfl := Option.some.inj hstep
    refine ⟨[.drain n], ?_⟩
    dsimp only
    split_ifs
    · rw [toOutboundPump_tellCapacity]
      rfl
    · rfl
  | drop =>
    obtain rfl := Option.some.inj hstep
    exact ⟨[], rfl⟩

/-- What the pump came to, one that compares, waits and sends may have come to. -/
theorem exists_takes_run (readyState : RtcDataChannelState) {events : List BrowserPumpEvent}
    (hlisteners : Runs.Guarded (step config maxPayloadLen) ListenersAdded (new readyState) events)
    (hrun : Runs.run (step config maxPayloadLen) (new readyState) events = some pump) :
    ∃ events', Takes config maxPayloadLen OutboundPump.new pump.toOutboundPump events' := by
  have hrefines : pump.Relieved config ∧
      ∃ events', Takes config maxPayloadLen OutboundPump.new pump.toOutboundPump events' := by
    refine Runs.run_invariant_of_guarded (I := fun p => p.Relieved config ∧
      ∃ events', Takes config maxPayloadLen OutboundPump.new p.toOutboundPump events')
      (fun p event p' h hg hstep => ⟨h.1.step hstep, ?_⟩) ⟨?_, [], rfl⟩ hlisteners hrun
    · obtain ⟨before, hbefore⟩ := h.2
      exact exists_takes_append hbefore (exists_takes_step h.1 hg hstep)
    · exact relieved_of_phase fun len hphase => by cases hphase
  exact hrefines.2

/-- **The pump compares, waits and sends.**  With its listeners, whatever the browser and the hub do
between its awaits, the pump is one that compares the amount with the high threshold, waits until it
is low and sends.  This is for every configuration, as long as the browser lets the pump add its
listeners (`ListenersAdded`).

So what is buffered in the channel never goes above the high threshold, for a configuration that
`validate` accepts, when the largest frame fits between the two thresholds.  Two limits of the code
come with it: the largest payload is one that a frame can hold, at most 65535 bytes, and the high
threshold is below `u32::MAX`, at which `buffered_amount` saturates. -/
theorem refines_outboundPump (readyState : RtcDataChannelState) {events : List BrowserPumpEvent}
    (hlisteners : Runs.Guarded (step config maxPayloadLen) ListenersAdded (new readyState) events)
    (hrun : Runs.run (step config maxPayloadLen) (new readyState) events = some pump) :
    (∃ events', Runs.run (OutboundPump.step .browser config maxPayloadLen) OutboundPump.new
      events' = some pump.toOutboundPump) ∧
    (config.validate = .ok () → maxPayloadLen ≤ 65535 →
      config.bufferedAmountLowThreshold + (headerLen + maxPayloadLen) ≤
        config.bufferedAmountHighThreshold →
      config.bufferedAmountHighThreshold < u32Max →
      pump.bufferedAmount ≤ config.bufferedAmountHighThreshold) := by
  obtain ⟨events', hevents'⟩ := exists_takes_run readyState hlisteners hrun
  refine ⟨⟨events', hevents'⟩, fun hvalid hmax hfits hhigh => ?_⟩
  have hmaxAmount : config.bufferedAmountHighThreshold < PumpKind.browser.maxAmount := hhigh
  have hguarded : Runs.Guarded (OutboundPump.step .browser config maxPayloadLen)
      (OutboundPump.SendsWithin config) OutboundPump.new events' :=
    OutboundPump.guarded_of_fits hvalid hmax hfits hmaxAmount events'
  refine Runs.run_invariant_of_guarded
    (I := fun p => p.bufferedAmount ≤ config.bufferedAmountHighThreshold)
    (fun p event p' h hg hstep => ?_) (Nat.zero_le _) hguarded hevents'
  exact OutboundPump.bufferedAmount_le_of_step h hg hstep

/-- The pump waits for the second of two frames to fit, and sends it. -/
def sampleWaiting : List BrowserPumpEvent :=
  [.start true, .opens, .resume true, .receive 31 true true, .receive 31 true true, .drain 30,
    .resume true]

theorem refines_outboundPump_sample :
    (⟨.receiving, .open, 32, true, false, false⟩ : BrowserPump).bufferedAmount ≤ 50 := by
  have hrun : Runs.run (step ⟨10, 50⟩ 1) (new .connecting) sampleWaiting =
      some ⟨.receiving, .open, 32, true, false, false⟩ := by decide
  have hlisteners : Runs.Guarded (step ⟨10, 50⟩ 1) ListenersAdded (new .connecting)
      sampleWaiting := by
    refine Runs.Guarded.of_forall fun event hevent pump => ?_
    simp only [sampleWaiting, List.mem_cons, List.not_mem_nil, or_false] at hevent
    rcases hevent with rfl | rfl | rfl | rfl | rfl | rfl | rfl <;> first | rfl | trivial
  exact (refines_outboundPump .connecting hlisteners hrun).2 (by decide) (by decide) (by decide)
    (by decide)

end BrowserPump

end IrohWebRtc
