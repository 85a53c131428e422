import IrohWebRtc.Browser.Types

/-!
# The state of a browser session

`browser_runtime/node/session_state.rs`, with `validate_transport_resolution` and
`session_terminal_signal` of `browser_runtime/node.rs`.  A session is created for a dial or for an
inbound dial request, gets its data channel, is resolved to a transport, and ends by failing, by
closing or by falling back to the relay.

The state of a session is spread over four fields that are written at different places: its
lifecycle, the attachment of its channel, the transport it was resolved to, and the terminal
reasons it has sent and received.  Not all combinations make sense, and the source does not rule
the others out by its types.  Which of them are reached is a matter of the operations, so the
fields are kept as they are.

The functions that change a session in place return the changed session.  A snapshot copies every
field of a session, so it is the session as it was.  It is compared with a later state of the same
session where the source keeps a snapshot over an await.
-/

namespace IrohWebRtc

structure BrowserSessionState (E : Type*) where
  sessionKey : BrowserSessionKey
  dialId : DialId
  generation : ℕ
  localId : E
  remote : E
  alpn : String
  role : BrowserSessionRole
  transportIntent : BootstrapTransportIntent
  resolvedTransport : Option BrowserResolvedTransport
  channelAttachment : DataChannelAttachmentState
  lifecycle : BrowserSessionLifecycle
  terminalSent : Option WebRtcTerminalReason
  terminalReceived : Option WebRtcTerminalReason
  deriving DecidableEq

abbrev BrowserSessionSnapshot := BrowserSessionState

/-- `validate_transport_resolution`. -/
def validateTransportResolution {E : Type*} (session : BrowserSessionState E)
    (resolvedTransport : BrowserResolvedTransport) : BrowserRuntimeResult Unit :=
  if resolvedTransport = .webRtc ∧ session.transportIntent = .irohRelay then
    .error ⟨.webRtcFailed, "relay-only session cannot resolve as WebRTC"⟩
  else if resolvedTransport = .irohRelay ∧ session.transportIntent = .webRtcOnly then
    .error ⟨.webRtcFailed, "WebRTC-only session cannot resolve through Iroh relay"⟩
  else if resolvedTransport = .webRtc ∧ session.channelAttachment ≠ .open then
    .error ⟨.dataChannelFailed,
      "WebRTC session cannot be promoted before transferred DataChannel opens"⟩
  else .ok ()

/-- `session_terminal_signal`. -/
def sessionTerminalSignal {E : Type*} (session : BrowserSessionState E)
    (reason : WebRtcTerminalReason) (message : Option String) : WebRtcSignal E :=
  .terminal session.dialId session.localId session.remote session.generation reason message

/-- The channel of a session that ends: a channel that was never required stays so. -/
def DataChannelAttachmentState.ended (channel final : DataChannelAttachmentState) :
    DataChannelAttachmentState :=
  match channel with
  | .notRequired => .notRequired
  | _ => final

namespace BrowserSessionState

variable {E : Type*}

/-- `BrowserSessionState::new`. -/
def new (sessionKey : BrowserSessionKey) (dialId : DialId) (generation : ℕ) (localId remote : E)
    (alpn : String) (role : BrowserSessionRole) (transportIntent : BootstrapTransportIntent) :
    BrowserSessionState E where
  sessionKey := sessionKey
  dialId := dialId
  generation := generation
  localId := localId
  remote := remote
  alpn := alpn
  role := role
  transportIntent := transportIntent
  resolvedTransport := none
  channelAttachment := if transportIntent.usesWebrtc then .awaitingTransfer else .notRequired
  lifecycle := if transportIntent.usesWebrtc then .webRtcNegotiating else .relaySelected
  terminalSent := none
  terminalReceived := none

def attachTransferredChannel (session : BrowserSessionState E) :
    BrowserRuntimeResult (BrowserSessionState E) :=
  if session.channelAttachment ≠ .awaitingTransfer then
    .error ⟨.dataChannelFailed, "session is not waiting for transferred DataChannel"⟩
  else .ok { session with channelAttachment := .transferred }

def markTransferredChannelOpen (session : BrowserSessionState E) :
    BrowserRuntimeResult (BrowserSessionState E) :=
  if session.channelAttachment ≠ .transferred then
    .error ⟨.dataChannelFailed, "transferred DataChannel has not been attached"⟩
  else .ok { session with channelAttachment := .open }

def fail (session : BrowserSessionState E) : BrowserSessionState E :=
  { session with
    channelAttachment := session.channelAttachment.ended .failed
    lifecycle := .failed }

def close (session : BrowserSessionState E) : BrowserSessionState E :=
  { session with
    channelAttachment := session.channelAttachment.ended .closed
    lifecycle := .closed }

def resolveTransport (session : BrowserSessionState E)
    (resolvedTransport : BrowserResolvedTransport) :
    BrowserRuntimeResult (BrowserSessionState E) :=
  match validateTransportResolution session resolvedTransport with
  | .error err => .error err
  | .ok () =>
    .ok { session with
      resolvedTransport := some resolvedTransport
      lifecycle := .applicationReady }

def completeDial (session : BrowserSessionState E)
    (resolvedTransport : BrowserResolvedTransport) :
    BrowserRuntimeResult (BrowserSessionState E) :=
  if session.role ≠ .dialer then .error ⟨.webRtcFailed, "session is not a dialer session"⟩
  else session.resolveTransport resolvedTransport

def applyTerminalReason (session : BrowserSessionState E) (reason : WebRtcTerminalReason) :
    Option BrowserResolvedTransport × BrowserSessionState E :=
  match reason with
  | .fallbackSelected =>
    if session.transportIntent.allowsIrohRelayFallback then
      (some .irohRelay, { session with
        resolvedTransport := some .irohRelay
        lifecycle := .relaySelected
        channelAttachment := .failed })
    else (none, session.fail)
  | .webRtcFailed => (none, session.fail)
  | .cancelled | .closed => (none, session.close)

def recordTerminalReceived (session : BrowserSessionState E) (reason : WebRtcTerminalReason) :
    BrowserSessionState E :=
  ({ session with terminalReceived := some reason }.applyTerminalReason reason).2

def recordTerminalSent (session : BrowserSessionState E) (reason : WebRtcTerminalReason) :
    Option BrowserResolvedTransport × BrowserSessionState E :=
  { session with terminalSent := some reason }.applyTerminalReason reason

/-- The signal is there when the session uses WebRTC and no terminal signal was sent before. -/
def closeForNode (session : BrowserSessionState E) (message : Option String) :
    Option (WebRtcSignal E) × BrowserSessionState E :=
  if session.terminalSent.isNone && session.transportIntent.usesWebrtc then
    (some (sessionTerminalSignal session .closed message),
      { session with terminalSent := some .closed }.close)
  else (none, session.close)

/-- The reason of a decision that names none: the relay where the intent allows it. -/
def failureReason (session : BrowserSessionState E) : WebRtcTerminalReason :=
  if session.transportIntent.allowsIrohRelayFallback then .fallbackSelected else .webRtcFailed

/-! ## What the functions leave unchanged

The identity of a session never changes: its key, ids, endpoints, ALPN, role and intent. -/

/-- Two states of one session. -/
structure SameSession (s t : BrowserSessionState E) : Prop where
  sessionKey : t.sessionKey = s.sessionKey
  dialId : t.dialId = s.dialId
  generation : t.generation = s.generation
  localId : t.localId = s.localId
  remote : t.remote = s.remote
  alpn : t.alpn = s.alpn
  role : t.role = s.role
  transportIntent : t.transportIntent = s.transportIntent

variable {s t : BrowserSessionState E} {transport : BrowserResolvedTransport}
  {reason : WebRtcTerminalReason}

theorem SameSession.refl (s : BrowserSessionState E) : SameSession s s :=
  ⟨rfl, rfl, rfl, rfl, rfl, rfl, rfl, rfl⟩

theorem SameSession.trans {u : BrowserSessionState E} (h : SameSession s t)
    (h' : SameSession t u) : SameSession s u :=
  ⟨h'.sessionKey.trans h.sessionKey, h'.dialId.trans h.dialId,
    h'.generation.trans h.generation, h'.localId.trans h.localId, h'.remote.trans h.remote,
    h'.alpn.trans h.alpn, h'.role.trans h.role, h'.transportIntent.trans h.transportIntent⟩

theorem attachTransferredChannel_eq_ok :
    s.attachTransferredChannel = .ok t ↔
      s.channelAttachment = .awaitingTransfer ∧
        t = { s with channelAttachment := .transferred } := by
  rw [attachTransferredChannel]
  split_ifs with h
  · simp [h]
  · rw [Except.ok.injEq, eq_comm, and_iff_right (not_not.mp h)]

theorem markTransferredChannelOpen_eq_ok :
    s.markTransferredChannelOpen = .ok t ↔
      s.channelAttachment = .transferred ∧ t = { s with channelAttachment := .open } := by
  rw [markTransferredChannelOpen]
  split_ifs with h
  · simp [h]
  · rw [Except.ok.injEq, eq_comm, and_iff_right (not_not.mp h)]

/-- A session can be resolved to a transport: its intent admits it, and for WebRTC the channel is
open. -/
def CanResolve (s : BrowserSessionState E) : BrowserResolvedTransport → Prop
  | .webRtc => s.transportIntent ≠ .irohRelay ∧ s.channelAttachment = .open
  | .irohRelay => s.transportIntent ≠ .webRtcOnly

instance (s : BrowserSessionState E) (transport : BrowserResolvedTransport) :
    Decidable (s.CanResolve transport) :=
  match transport with
  | .webRtc => inferInstanceAs (Decidable (s.transportIntent ≠ _ ∧ s.channelAttachment = _))
  | .irohRelay => inferInstanceAs (Decidable (s.transportIntent ≠ _))

theorem validateTransportResolution_eq_ok :
    validateTransportResolution s transport = .ok () ↔ s.CanResolve transport := by
  cases transport <;> by_cases hintent : s.transportIntent = .irohRelay <;>
    by_cases honly : s.transportIntent = .webRtcOnly <;>
    by_cases hopen : s.channelAttachment = .open <;>
    simp_all [validateTransportResolution, CanResolve]

/-- The session after it was resolved. -/
def resolved (s : BrowserSessionState E) (transport : BrowserResolvedTransport) :
    BrowserSessionState E :=
  { s with resolvedTransport := some transport, lifecycle := .applicationReady }

theorem resolveTransport_eq_ok :
    s.resolveTransport transport = .ok t ↔ s.CanResolve transport ∧ t = s.resolved transport := by
  rw [resolveTransport, ← validateTransportResolution_eq_ok]
  cases h : validateTransportResolution s transport with
  | error err => simp
  | ok value => simp [resolved, eq_comm]

theorem completeDial_eq_ok :
    s.completeDial transport = .ok t ↔
      s.role = .dialer ∧ s.CanResolve transport ∧ t = s.resolved transport := by
  rw [completeDial]
  split_ifs with h
  · simp [h]
  · rw [resolveTransport_eq_ok, and_iff_right (not_not.mp h)]

/-- Resolving a second time to the same transport changes nothing. -/
theorem resolved_resolved : (s.resolved transport).resolved transport = s.resolved transport :=
  rfl

theorem canResolve_resolved {transport' : BrowserResolvedTransport} :
    (s.resolved transport).CanResolve transport' ↔ s.CanResolve transport' := by
  cases transport' <;> rfl

theorem sameSession_applyTerminalReason : SameSession s (s.applyTerminalReason reason).2 := by
  cases reason with
  | fallbackSelected =>
    rw [applyTerminalReason]
    split_ifs <;> exact ⟨rfl, rfl, rfl, rfl, rfl, rfl, rfl, rfl⟩
  | webRtcFailed | cancelled | closed => exact ⟨rfl, rfl, rfl, rfl, rfl, rfl, rfl, rfl⟩

/-! ## Open channels -/

theorem new_ne_open (sessionKey : BrowserSessionKey) (dialId : DialId) (generation : ℕ)
    (localId remote : E) (alpn : String) (role : BrowserSessionRole)
    (transportIntent : BootstrapTransportIntent) :
    (new sessionKey dialId generation localId remote alpn role transportIntent).channelAttachment ≠
      .open := by
  rw [new]
  dsimp only
  split_ifs <;> simp

theorem close_ne_open (s : BrowserSessionState E) : s.close.channelAttachment ≠ .open := by
  rw [close]
  cases h : s.channelAttachment <;> simp [DataChannelAttachmentState.ended]

theorem fail_ne_open (s : BrowserSessionState E) : s.fail.channelAttachment ≠ .open := by
  rw [fail]
  cases h : s.channelAttachment <;> simp [DataChannelAttachmentState.ended]

theorem applyTerminalReason_ne_open (s : BrowserSessionState E) (reason : WebRtcTerminalReason) :
    (s.applyTerminalReason reason).2.channelAttachment ≠ .open := by
  cases reason with
  | fallbackSelected =>
    rw [applyTerminalReason]
    split_ifs
    · simp
    · exact fail_ne_open s
  | webRtcFailed => exact fail_ne_open s
  | cancelled | closed => exact close_ne_open s

theorem closeForNode_ne_open (s : BrowserSessionState E) (message : Option String) :
    (s.closeForNode message).2.channelAttachment ≠ .open := by
  rw [closeForNode]
  split_ifs <;> exact close_ne_open _

end BrowserSessionState

end IrohWebRtc
