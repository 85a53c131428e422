import IrohWebRtc.Browser.AcceptState
import IrohWebRtc.Browser.SessionState
import IrohWebRtc.Core.Connection
import IrohWebRtc.Lib.Table
import IrohWebRtc.Lib.Utf8
import Mathlib.Data.List.Destutter
import Mathlib.Data.List.Sort
import Mathlib.Order.Lex

/-!
# The browser node

`browser_runtime/node.rs` with `core.rs`, `session.rs`, `rtc.rs` and `connection.rs` of its
`node/` directory: the table of sessions, the table of connections, the accept registrations, and
the addresses that the WebRTC transport advertises.

An operation locks the node, checks, changes it and returns.  It is a function of the node that
gives back its result and the node afterwards; after an error the node may still have changed, and
several results of the development are about such changes.  The result is `none` where the code
panics, which happens when a counter is exhausted.  A hash map is iterated in an order of its own,
and `accept_webrtc_connection`, which depends on it, takes the keys in that order.

## What is a step and what is not

A browser has one thread, so what runs between two awaits is not interrupted.  The operations here
contain no await; those that do, the dials and the handling of an inbound connection, are cut at
their awaits (`Browser.NodeConnections`), and the pieces are the steps.

The node is told of everything by its callers: that a channel has opened, that a connection has
come in over an endpoint, that a dial has ended.  The callers are in `Browser.DialRuntime`, and
what iroh does is a parameter of the steps.
-/

namespace IrohWebRtc

open Bytes Utf8

structure BrowserConnectionState (E : Type*) where
  irohConnection : Connection E
  sessionKey : Option BrowserSessionKey
  transport : BrowserResolvedTransport
  closed : Bool
  deriving DecidableEq

structure BrowserRuntimeNode (E : Type*) where
  endpointId : E
  /-- What the WebRTC transport advertises. -/
  localAddrs : List CustomAddr
  browserProtocols : List String
  benchmarkEchoAlpns : List String
  dialIds : DialIdGenerator E
  sessions : Table BrowserSessionKey (BrowserSessionState E)
  connections : Table BrowserConnectionKey (BrowserConnectionState E)
  accepts : Table String (AcceptRegistrationState E)
  nextConnectionKey : ℕ
  /-- The number of the next oneshot channel of `accept_next`. -/
  nextWaiter : ℕ
  closed : Bool

/-- The part of the configuration that the operations use. -/
structure BrowserRuntimeNodeConfig where
  acceptQueueCapacity : ℕ
  facadeAlpns : List String
  benchmarkEchoAlpns : List String

structure BrowserDialAllocation (E : Type*) where
  sessionKey : BrowserSessionKey
  dialId : DialId
  generation : ℕ
  localId : E
  remote : E
  alpn : String
  transportIntent : BootstrapTransportIntent

structure BrowserDialStart (E : Type*) where
  sessionKey : BrowserSessionKey
  dialId : DialId
  generation : ℕ
  remoteEndpoint : E
  alpn : String
  transportIntent : BootstrapTransportIntent
  bootstrapSignal : WebRtcSignal E

structure BrowserBootstrapSignalInput (E : Type*) where
  signal : WebRtcSignal E
  alpn : Option String

structure BrowserBootstrapSignalResult (E : Type*) where
  accepted : Bool
  sessionKey : Option BrowserSessionKey
  session : Option (BrowserSessionSnapshot E)
  outboundSignals : List (WebRtcSignal E)

structure BrowserTerminalDecision (E : Type*) where
  sessionKey : BrowserSessionKey
  reason : WebRtcTerminalReason
  signal : Option (WebRtcSignal E)
  selectedTransport : Option BrowserResolvedTransport

inductive RtcLifecycleEvent where
  | dataChannelOpen
  | webRtcFailed (message : String)
  | webRtcClosed (message : String)
  deriving DecidableEq, Repr

structure RtcLifecycleInput where
  sessionKey : BrowserSessionKey
  event : RtcLifecycleEvent
  errorMessage : Option String
  deriving DecidableEq, Repr

structure RtcLifecycleResult (E : Type*) where
  accepted : Bool
  sessionKey : BrowserSessionKey
  session : Option (BrowserSessionSnapshot E)
  outboundSignals : List (WebRtcSignal E)

structure BrowserCloseOutcome (E : Type*) where
  closed : Bool
  outboundSignals : List (WebRtcSignal E)

/-- The outcome of a call of `accept_next`: the connection, the end, or a channel to wait on. -/
inductive BrowserAcceptNext (E : Type*) where
  | ready (connection : BrowserAcceptedConnection E)
  | done
  | waiting (waiter : ℕ)

/-- The error of an operation that names a session the node does not have. -/
def unknownSessionKey : BrowserRuntimeError := ⟨.webRtcFailed, "unknown browser session key"⟩

namespace BrowserRuntimeNode

variable {E : Type*}

/-! ## Spawning -/

/-- The loop over the ALPNs of one kind in `spawn_with_secret_key`: an ALPN that was seen before,
or is taken by another kind, is refused. -/
def registerAlpns (taken : List String) :
    List String → List String → BrowserRuntimeResult (List String)
  | seen, [] => .ok seen
  | seen, alpn :: alpns =>
    if alpn ∈ seen ∨ alpn ∈ taken then
      .error ⟨.unsupportedAlpn, "duplicate browser ALPN registration " ++ debugText alpn⟩
    else registerAlpns taken (alpn :: seen) alpns

/-- `initial_accept_registrations`, with the ids counted from `nextAcceptId`. -/
def initialAcceptRegistrations (capacity : ℕ) :
    ℕ → List String → Table String (AcceptRegistrationState E)
  | _, [] => ∅
  | nextAcceptId, alpn :: alpns =>
    (initialAcceptRegistrations capacity (nextAcceptId + 1) alpns).insert alpn
      (.new ⟨nextAcceptId⟩ alpn capacity)

/-- The checks of `spawn_with_secret_key`. -/
def checkConfig (config : BrowserRuntimeNodeConfig) (browserProtocols : List String) :
    BrowserRuntimeResult Unit := do
  if config.acceptQueueCapacity = 0 then
    throw ⟨.spawnFailed, "accept queue capacity must be greater than zero"⟩
  let facadeAlpns ← config.facadeAlpns.mapM validateAlpn
  let benchmarkEchoAlpns ← config.benchmarkEchoAlpns.mapM validateAlpn
  let seen ← registerAlpns (browserProtocols ++ benchmarkEchoAlpns) [] facadeAlpns
  let _ ← registerAlpns browserProtocols seen benchmarkEchoAlpns

/-- `spawn_with_secret_key`; the configuration names no local address, so the capability address
is advertised. -/
def spawn [EndpointKey E] (endpointId : E) (epoch : FixedBytes 16)
    (config : BrowserRuntimeNodeConfig) (browserProtocols : List String) :
    BrowserRuntimeResult (BrowserRuntimeNode E) :=
  match checkConfig config browserProtocols with
  | .error err => .error err
  | .ok () =>
    .ok {
      endpointId := endpointId
      localAddrs := [(WebRtcAddr.capability endpointId).toCustomAddr]
      browserProtocols := browserProtocols
      benchmarkEchoAlpns := config.benchmarkEchoAlpns
      dialIds := .withEpoch endpointId epoch
      sessions := ∅
      connections := ∅
      accepts := initialAcceptRegistrations config.acceptQueueCapacity 1 config.facadeAlpns
      nextConnectionKey := 1
      nextWaiter := 0
      closed := false }

/-! ## The advertised addresses -/

/-- A session is advertised while it uses WebRTC and neither its channel nor the session itself has
failed or closed. -/
def advertises (session : BrowserSessionState E) : Bool :=
  session.transportIntent.usesWebrtc &&
    !(session.channelAttachment = .closed || session.channelAttachment = .failed) &&
    !(session.lifecycle = .closed || session.lifecycle = .failed)

section

variable [EndpointKey E]

/-- The address of a session at this endpoint. -/
def sessionAddr (session : BrowserSessionState E) : CustomAddr :=
  (WebRtcAddr.session session.localId session.dialId).toCustomAddr

/-- What `refresh_webrtc_transport_addrs` computes: sorted by the data, and without repetition. -/
def webrtcTransportAddrs (node : BrowserRuntimeNode E) : List CustomAddr :=
  let addrs := (WebRtcAddr.capability node.endpointId).toCustomAddr ::
    node.sessions.values.filterMap fun session =>
      if advertises session then some (sessionAddr session) else none
  (addrs.insertionSort fun left right => left.data ≤ right.data).destutter (· ≠ ·)

def refreshWebrtcTransportAddrs (node : BrowserRuntimeNode E) : BrowserRuntimeNode E :=
  { node with localAddrs := node.webrtcTransportAddrs }

end

/-! ## Sessions -/

/-- `session_snapshot`. -/
def sessionSnapshot (node : BrowserRuntimeNode E) (sessionKey : BrowserSessionKey) :
    BrowserRuntimeResult (BrowserSessionSnapshot E) :=
  match node.sessions.lookup sessionKey with
  | none => .error unknownSessionKey
  | some session => .ok session

section

variable [EndpointKey E]

/-- `update_session`. -/
def updateSession (node : BrowserRuntimeNode E) (sessionKey : BrowserSessionKey)
    (update : BrowserSessionState E → BrowserRuntimeResult (BrowserSessionState E)) :
    BrowserRuntimeResult (BrowserSessionSnapshot E) × BrowserRuntimeNode E :=
  if node.closed then (.error .closed, node)
  else
    match node.sessions.lookup sessionKey with
    | none => (.error unknownSessionKey, node)
    | some session =>
      match update session with
      | .error err => (.error err, node)
      | .ok session =>
        (.ok session,
          { node with sessions := node.sessions.insert sessionKey session
            }.refreshWebrtcTransportAddrs)

def attachTransferredChannel (node : BrowserRuntimeNode E) (sessionKey : BrowserSessionKey) :
    BrowserRuntimeResult (BrowserSessionSnapshot E) × BrowserRuntimeNode E :=
  node.updateSession sessionKey BrowserSessionState.attachTransferredChannel

def markTransferredChannelOpen (node : BrowserRuntimeNode E) (sessionKey : BrowserSessionKey) :
    BrowserRuntimeResult (BrowserSessionSnapshot E) × BrowserRuntimeNode E :=
  node.updateSession sessionKey BrowserSessionState.markTransferredChannelOpen

def completeDial (node : BrowserRuntimeNode E) (sessionKey : BrowserSessionKey)
    (resolvedTransport : BrowserResolvedTransport) :
    BrowserRuntimeResult (BrowserSessionSnapshot E) × BrowserRuntimeNode E :=
  node.updateSession sessionKey fun session => session.completeDial resolvedTransport

/-- `allocate_dial`.  The generated key replaces a session that has it already. -/
def allocateDial [DecidableEq E] [Blake3] (node : BrowserRuntimeNode E) (remote : E)
    (alpn : String) (transportIntent : BootstrapTransportIntent) :
    Option (BrowserRuntimeResult (BrowserDialAllocation E) × BrowserRuntimeNode E) :=
  match validateAlpn alpn with
  | .error err => some (.error err, node)
  | .ok alpn =>
    if node.closed then some (.error .closed, node)
    else
      (node.dialIds.next remote).map fun (session, dialIds) =>
        let sessionKey := .ofDialId session.dialId
        let state := .new sessionKey session.dialId session.generation node.endpointId remote alpn
          .dialer transportIntent
        let node :=
          { node with dialIds := dialIds, sessions := node.sessions.insert sessionKey state }
        (.ok ⟨sessionKey, session.dialId, session.generation, node.endpointId, remote, alpn,
            transportIntent⟩,
          if transportIntent.usesWebrtc then node.refreshWebrtcTransportAddrs else node)

/-- `allocate_dial_start`. -/
def allocateDialStart [DecidableEq E] [Blake3] (node : BrowserRuntimeNode E) (remote : E)
    (alpn : String) (transportIntent : BootstrapTransportIntent) :
    Option (BrowserRuntimeResult (BrowserDialStart E) × BrowserRuntimeNode E) :=
  (node.allocateDial remote alpn transportIntent).map fun (result, node) =>
    (result.map fun allocation =>
      { sessionKey := allocation.sessionKey
        dialId := allocation.dialId
        generation := allocation.generation
        remoteEndpoint := allocation.remote
        alpn := allocation.alpn
        transportIntent := allocation.transportIntent
        bootstrapSignal := .dialRequest allocation.dialId allocation.localId allocation.remote
          allocation.generation allocation.alpn allocation.transportIntent },
      node)

/-- `allocate_accept_session`. -/
def allocateAcceptSession (node : BrowserRuntimeNode E) (remote : E) (alpn : String)
    (dialSession : DialSessionId) (transportIntent : BootstrapTransportIntent) :
    BrowserRuntimeResult (BrowserSessionSnapshot E) × BrowserRuntimeNode E :=
  match validateAlpn alpn with
  | .error err => (.error err, node)
  | .ok alpn =>
    if node.closed then (.error .closed, node)
    else
      let sessionKey := .ofDialId dialSession.dialId
      if (node.sessions.lookup sessionKey).isSome then
        (.error ⟨.webRtcFailed, "browser session key is already allocated"⟩, node)
      else
        let state := .new sessionKey dialSession.dialId dialSession.generation node.endpointId
          remote alpn .acceptor transportIntent
        let node := { node with sessions := node.sessions.insert sessionKey state }
        (.ok state, if transportIntent.usesWebrtc then node.refreshWebrtcTransportAddrs else node)

/-! ## Signals and decisions -/

/-- `is_application_alpn_registered`. -/
def isApplicationAlpnRegistered (node : BrowserRuntimeNode E) (alpn : String) : Bool :=
  (node.accepts.lookup alpn).isSome || alpn ∈ node.benchmarkEchoAlpns ||
    alpn ∈ node.browserProtocols

/-- `apply_remote_terminal_signal`. -/
def applyRemoteTerminalSignal [DecidableEq E] (node : BrowserRuntimeNode E)
    (signal : WebRtcSignal E) (reason : WebRtcTerminalReason) :
    BrowserRuntimeResult (BrowserBootstrapSignalResult E) × BrowserRuntimeNode E :=
  if signal.toId ≠ node.endpointId then
    (.error ⟨.bootstrapFailed, "bootstrap signal is not addressed to this browser node"⟩, node)
  else if node.closed then (.error .closed, node)
  else
    let sessionKey := .ofDialId signal.dialId
    match node.sessions.lookup sessionKey with
    | none => (.error unknownSessionKey, node)
    | some session =>
      if session.remote ≠ signal.fromId ∨ session.generation ≠ signal.generation then
        (.error ⟨.bootstrapFailed,
          "terminal bootstrap signal does not match the browser session route"⟩, node)
      else
        let session := session.recordTerminalReceived reason
        (.ok ⟨true, some sessionKey, some session, []⟩,
          { node with sessions := node.sessions.insert sessionKey session })

/-- `handle_bootstrap_signal`. -/
def handleBootstrapSignal [DecidableEq E] (node : BrowserRuntimeNode E)
    (input : BrowserBootstrapSignalInput E) :
    BrowserRuntimeResult (BrowserBootstrapSignalResult E) × BrowserRuntimeNode E :=
  match input.signal with
  | .dialRequest dialId fromId toId generation alpn transportIntent =>
    if toId ≠ node.endpointId then
      (.error ⟨.bootstrapFailed, "bootstrap signal is not addressed to this browser node"⟩, node)
    else
      match input.alpn.or (if alpn.isEmpty then none else some alpn) with
      | none =>
        (.error ⟨.bootstrapFailed, "bootstrap dial request is missing application ALPN"⟩, node)
      | some alpn =>
        if !node.isApplicationAlpnRegistered alpn then
          (.error ⟨.unsupportedAlpn,
            "no registered application handler for ALPN " ++ debugText alpn⟩, node)
        else
          match node.allocateAcceptSession fromId alpn ⟨dialId, generation⟩ transportIntent with
          | (.error err, node) => (.error err, node)
          | (.ok session, node) => (.ok ⟨true, some session.sessionKey, some session, []⟩, node)
  | .terminal _ _ _ _ reason _ => node.applyRemoteTerminalSignal input.signal reason
  | signal =>
    if signal.toId ≠ node.endpointId then
      (.error ⟨.bootstrapFailed, "bootstrap signal is not addressed to this browser node"⟩, node)
    else
      let sessionKey := .ofDialId signal.dialId
      match node.sessionSnapshot sessionKey with
      | .error err => (.error err, node)
      | .ok session =>
        if session.remote ≠ signal.fromId ∨ session.generation ≠ signal.generation then
          (.error ⟨.bootstrapFailed,
            "bootstrap signal does not match the browser session route"⟩, node)
        else (.ok ⟨true, some sessionKey, some session, []⟩, node)

/-- `emit_terminal_decision`. -/
def emitTerminalDecision (node : BrowserRuntimeNode E) (sessionKey : BrowserSessionKey)
    (reasonOverride : Option WebRtcTerminalReason) (message : String) :
    BrowserRuntimeResult (BrowserTerminalDecision E) × BrowserRuntimeNode E :=
  if node.closed then (.error .closed, node)
  else
    match node.sessions.lookup sessionKey with
    | none => (.error unknownSessionKey, node)
    | some session =>
      let reason := reasonOverride.getD session.failureReason
      let signal :=
        if session.transportIntent.usesWebrtc then
          some (sessionTerminalSignal session reason (some message))
        else none
      let (selectedTransport, session) := session.recordTerminalSent reason
      (.ok ⟨sessionKey, reason, signal, selectedTransport⟩,
        { node with sessions := node.sessions.insert sessionKey session })

def decideWebrtcFailure (node : BrowserRuntimeNode E) (sessionKey : BrowserSessionKey)
    (message : String) : BrowserRuntimeResult (BrowserTerminalDecision E) × BrowserRuntimeNode E :=
  node.emitTerminalDecision sessionKey none message

def closeSession (node : BrowserRuntimeNode E) (sessionKey : BrowserSessionKey)
    (message : String) : BrowserRuntimeResult (BrowserTerminalDecision E) × BrowserRuntimeNode E :=
  node.emitTerminalDecision sessionKey (some .closed) message

/-- What `handle_rtc_lifecycle_result` makes of a decision. -/
def lifecycleResultOfDecision (sessionKey : BrowserSessionKey) :
    BrowserRuntimeResult (BrowserTerminalDecision E) × BrowserRuntimeNode E →
      BrowserRuntimeResult (RtcLifecycleResult E) × BrowserRuntimeNode E
  | (.error err, node) => (.error err, node)
  | (.ok decision, node) =>
    ((node.sessionSnapshot sessionKey).map fun session =>
      ⟨true, sessionKey, some session, decision.signal.toList⟩, node)

/-- `handle_rtc_lifecycle_result`. -/
def handleRtcLifecycleResult (node : BrowserRuntimeNode E) (input : RtcLifecycleInput) :
    BrowserRuntimeResult (RtcLifecycleResult E) × BrowserRuntimeNode E :=
  match input.errorMessage, input.event with
  | some message, _ | none, .webRtcFailed message =>
    lifecycleResultOfDecision input.sessionKey
      (node.decideWebrtcFailure input.sessionKey message)
  | none, .webRtcClosed message =>
    lifecycleResultOfDecision input.sessionKey (node.closeSession input.sessionKey message)
  | none, .dataChannelOpen =>
    match node.markTransferredChannelOpen input.sessionKey with
    | (.error err, node) => (.error err, node)
    | (.ok _, node) =>
      ((node.sessionSnapshot input.sessionKey).map fun session =>
        ⟨true, input.sessionKey, some session, []⟩, node)

end

end BrowserRuntimeNode

end IrohWebRtc
