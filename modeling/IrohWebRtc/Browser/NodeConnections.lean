import IrohWebRtc.Browser.Node
import IrohWebRtc.Lib.Runs

/-!
# Connections of the browser node

`browser_runtime/node/connection.rs`, and of `node/core.rs` the admission of inbound connections,
the end of a dial and the closing of the node.

A dial waits for the endpoint to connect, so it is cut there: `dialIrohConnected` and
`dialWebrtcConnected` are what happens once the endpoint has connected.  The steps between two
such waits run without interruption in the browser, which has one thread.

An admission has three parts: the checks, which change nothing; a new key; and the record of the
connection, with the accept queue or the waiting call that gets it, and the session that is
resolved by it.  The same admission serves inbound connections and dials.  They differ in whether
somebody is to accept the connection, and in whether there is a session that it belongs to.

The operations are collected in `NodeOp`, and `step` is the node as a transition system.  All
results about runs of the node are about `Runs.run step`.
-/

namespace IrohWebRtc

open Bytes Utf8

namespace BrowserRuntimeNode

variable {E : Type*} [DecidableEq E] [EndpointKey E]

/-! ## Admission -/

/-- The search condition of `accept_webrtc_connection`. -/
def isEligible (remote : E) (alpn : String) (session : BrowserSessionState E) : Bool :=
  session.role = .acceptor && session.remote = remote && session.alpn = alpn &&
    session.transportIntent.usesWebrtc && session.resolvedTransport.isNone &&
    session.channelAttachment = .open &&
    (session.lifecycle = .webRtcNegotiating || session.lifecycle = .applicationReady)

/-- `accept_webrtc_connection`, where the iteration over the sessions visits the keys in `order`.
The first eligible session is taken, and then the selected path is compared with it. -/
def acceptWebrtcConnection (node : BrowserRuntimeNode E) (order : List BrowserSessionKey)
    (connection : Connection E) :
    BrowserRuntimeResult (Option BrowserSessionKey) × BrowserRuntimeNode E :=
  let remote := connection.remoteId
  let alpn := fromUtf8Lossy connection.alpn
  if node.closed then (.error .closed, node)
  else
    match (order.filterMap node.sessions.lookup).find? (isEligible remote alpn) with
    | none =>
      (.error ⟨.webRtcFailed, "custom app connection did not match WebRTC session"⟩, node)
    | some session =>
      match requireWebrtcSelectedPath connection (.session session.remote session.dialId) with
      | .error err => (.error ⟨.webRtcFailed, err.message⟩, node)
      | .ok () =>
        match session.resolveTransport .webRtc with
        | .error err => (.error err, node)
        | .ok session =>
          (.ok (some session.sessionKey),
            { node with sessions := node.sessions.insert session.sessionKey session
              }.refreshWebrtcTransportAddrs)

/-- The checks of `admit_iroh_application_connection_with_key`. -/
def checkAdmission (node : BrowserRuntimeNode E) (connection : Connection E)
    (transport : BrowserResolvedTransport) (sessionKey : Option BrowserSessionKey)
    (queueAccept : Bool) : BrowserRuntimeResult Unit :=
  if node.closed then .error .closed
  else if queueAccept && (node.accepts.lookup (fromUtf8Lossy connection.alpn)).isNone then
    .error ⟨.unsupportedAlpn,
      "no active accept registration for ALPN " ++ debugText (fromUtf8Lossy connection.alpn)⟩
  else
    match sessionKey.bind node.sessions.lookup with
    | some session =>
      match validateTransportResolution session transport, transport with
      | .error err, _ => .error err
      | .ok (), .irohRelay => .ok ()
      | .ok (), .webRtc =>
        match requireWebrtcSelectedPath connection (.session session.remote session.dialId) with
        | .error err => .error ⟨.webRtcFailed, err.message⟩
        | .ok () => .ok ()
    | none =>
      match transport, sessionKey with
      | .irohRelay, _ => .ok ()
      | .webRtc, none =>
        .error ⟨.webRtcFailed, "WebRTC connection admission requires a session key"⟩
      | .webRtc, some _ =>
        .error ⟨.webRtcFailed, "WebRTC connection admission has no matching session"⟩

/-- `allocate_connection_key`. -/
def allocateConnectionKey (node : BrowserRuntimeNode E) :
    Option (BrowserConnectionKey × BrowserRuntimeNode E) :=
  if u64Max < node.nextConnectionKey + 1 then none
  else
    some (⟨node.nextConnectionKey⟩, { node with nextConnectionKey := node.nextConnectionKey + 1 })

/-- Hands the connection to the registration of its ALPN, which was checked to be there. -/
def pushAccepted (node : BrowserRuntimeNode E) (connection : BrowserAcceptedConnection E) :
    BrowserRuntimeResult (Option AcceptWaiter) × BrowserRuntimeNode E :=
  match node.accepts.lookup connection.alpn with
  | none => (.ok none, node)
  | some registration =>
    let (result, registration) := registration.pushOrWake connection
    (result, { node with accepts := node.accepts.insert connection.alpn registration })

/-- The last part of the admission: the connection is recorded and its session resolved. -/
def recordConnection (node : BrowserRuntimeNode E) (connection : Connection E)
    (accepted : BrowserAcceptedConnection E) :
    BrowserRuntimeResult (BrowserAcceptedConnection E) × BrowserRuntimeNode E :=
  let node := { node with
    connections := node.connections.insert accepted.key
      ⟨connection, accepted.sessionKey, accepted.transport, false⟩ }
  match accepted.sessionKey with
  | none => (.ok accepted, node)
  | some sessionKey =>
    match node.sessions.lookup sessionKey with
    | none => (.ok accepted, node)
    | some session =>
      match session.resolveTransport accepted.transport with
      | .error err => (.error err, node)
      | .ok session =>
        (.ok accepted, { node with sessions := node.sessions.insert sessionKey session })

/-- `admit_iroh_application_connection_with_key`: the connection, and the waiter that got it. -/
def admitIrohApplicationConnection (node : BrowserRuntimeNode E) (connection : Connection E)
    (transport : BrowserResolvedTransport) (sessionKey : Option BrowserSessionKey)
    (queueAccept : Bool) :
    Option (BrowserRuntimeResult (BrowserAcceptedConnection E × Option AcceptWaiter) ×
      BrowserRuntimeNode E) :=
  match node.checkAdmission connection transport sessionKey queueAccept with
  | .error err => some (.error err, node)
  | .ok () =>
    node.allocateConnectionKey.map fun (key, node) =>
      let accepted :=
        ⟨key, sessionKey, connection.remoteId, fromUtf8Lossy connection.alpn, transport⟩
      let (pushed, node) := if queueAccept then node.pushAccepted accepted else (.ok none, node)
      match pushed with
      | .error err => (.error err, node)
      | .ok waiter =>
        let (result, node) := node.recordConnection connection accepted
        (result.map fun accepted => (accepted, waiter), node)

/-- The handlers of inbound WebRTC connections: `accept` of `BrowserWebRtcFacadeHandler` queues the
connection, `accept` of `BrowserBenchmarkEchoHandler` does not. -/
def handleWebrtcConnection (node : BrowserRuntimeNode E) (order : List BrowserSessionKey)
    (connection : Connection E) (queueAccept : Bool) :
    Option (BrowserRuntimeResult (BrowserAcceptedConnection E × Option AcceptWaiter) ×
      BrowserRuntimeNode E) :=
  match node.acceptWebrtcConnection order connection with
  | (.error err, node) => some (.error err, node)
  | (.ok sessionKey, node) =>
    node.admitIrohApplicationConnection connection .webRtc sessionKey queueAccept

/-! ## The end of a dial -/

/-- `dial_iroh_application_connection` once the relay endpoint has connected. -/
def dialIrohConnected (node : BrowserRuntimeNode E) (connection : Connection E)
    (sessionKey : Option BrowserSessionKey) :
    Option (BrowserRuntimeResult (BrowserAcceptedConnection E × Option AcceptWaiter) ×
      BrowserRuntimeNode E) :=
  match sessionKey with
  | none => node.admitIrohApplicationConnection connection .irohRelay none false
  | some sessionKey =>
    match node.completeDial sessionKey .irohRelay with
    | (.error err, node) => some (.error err, node)
    | (.ok _, node) =>
      node.admitIrohApplicationConnection connection .irohRelay (some sessionKey) false

/-- The checks of `dial_webrtc_application_connection` before it dials. -/
def dialWebrtcStart (node : BrowserRuntimeNode E) (sessionKey : BrowserSessionKey) :
    BrowserRuntimeResult (BrowserSessionSnapshot E) :=
  match node.sessionSnapshot sessionKey with
  | .error err => .error err
  | .ok session =>
    if session.role ≠ .dialer then
      .error ⟨.webRtcFailed,
        "WebRTC application connection can only be dialed by the dialer session"⟩
    else if session.channelAttachment ≠ .open then
      .error ⟨.dataChannelFailed,
        "WebRTC application connection cannot dial before DataChannel open"⟩
    else .ok session

/-- `dial_webrtc_application_connection` once the WebRTC endpoint has connected; `session` is the
snapshot from before. -/
def dialWebrtcConnected (node : BrowserRuntimeNode E) (sessionKey : BrowserSessionKey)
    (session : BrowserSessionSnapshot E) (connection : Connection E) :
    Option (BrowserRuntimeResult (BrowserAcceptedConnection E × Option AcceptWaiter) ×
      BrowserRuntimeNode E) :=
  match requireWebrtcSelectedPath connection (.session session.remote session.dialId) with
  | .error err => some (.error ⟨.webRtcFailed, err.message⟩, node)
  | .ok () =>
    match node.completeDial sessionKey .webRtc with
    | (.error err, node) => some (.error err, node)
    | (.ok _, node) =>
      node.admitIrohApplicationConnection connection .webRtc (some sessionKey) false

/-! ## Closing -/

/-- `connection_close`. -/
def connectionClose (node : BrowserRuntimeNode E) (connectionKey : BrowserConnectionKey) :
    BrowserRuntimeResult (BrowserCloseOutcome E) × BrowserRuntimeNode E :=
  if node.closed then (.error .closed, node)
  else
    match node.connections.lookup connectionKey with
    | none => (.error ⟨.webRtcFailed, "unknown browser connection key"⟩, node)
    | some connection =>
      let node := { node with
        connections := node.connections.insert connectionKey { connection with closed := true } }
      match connection.transport, connection.sessionKey with
      | .irohRelay, _ => (.ok ⟨true, []⟩, node)
      | .webRtc, none => (.ok ⟨true, []⟩, node.refreshWebrtcTransportAddrs)
      | .webRtc, some sessionKey =>
        (.ok ⟨true, []⟩,
          { node with sessions := node.sessions.modify sessionKey BrowserSessionState.close
            }.refreshWebrtcTransportAddrs)

/-- `close_inner`: whether the node was open, and the signals to send. -/
def closeInner (node : BrowserRuntimeNode E) (reason : Option String) :
    (Bool × List (WebRtcSignal E)) × BrowserRuntimeNode E :=
  if node.closed then ((false, []), node)
  else
    ((true, node.sessions.values.filterMap fun session => (session.closeForNode reason).1),
      { node with
        closed := true
        sessions := node.sessions.mapValues fun session => (session.closeForNode reason).2
        accepts := ∅
        connections := node.connections.mapValues fun connection =>
          { connection with closed := true } })

/-! ## Accept registrations -/

/-- `accept_open`. -/
def acceptOpen (node : BrowserRuntimeNode E) (alpn : String) :
    BrowserRuntimeResult BrowserAcceptId × BrowserRuntimeNode E :=
  match validateAlpn alpn with
  | .error err => (.error err, node)
  | .ok alpn =>
    if node.closed then (.error .closed, node)
    else
      match node.accepts.lookup alpn with
      | none =>
        (.error ⟨.unsupportedAlpn, "ALPN " ++ debugText alpn ++
          " was not registered as a facade accept protocol"⟩, node)
      | some registration =>
        if registration.claimed then
          (.error ⟨.unsupportedAlpn,
            "an accept iterator is already active for ALPN " ++ debugText alpn⟩, node)
        else
          (.ok registration.id,
            { node with
              accepts := node.accepts.insert alpn { registration with claimed := true } })

/-- `accept_next`, up to the wait for a connection. -/
def acceptNext (node : BrowserRuntimeNode E) (acceptId : BrowserAcceptId) :
    BrowserRuntimeResult (BrowserAcceptNext E) × BrowserRuntimeNode E :=
  if node.closed then (.ok .done, node)
  else
    match node.accepts.values.find? fun registration => registration.id = acceptId with
    | none => (.error ⟨.unsupportedAlpn, "unknown accept registration"⟩, node)
    | some registration =>
      match registration.queue with
      | connection :: queue =>
        (.ok (.ready connection),
          { node with
            accepts := node.accepts.insert registration.alpn { registration with queue := queue } })
      | [] =>
        (.ok (.waiting node.nextWaiter),
          { node with
            nextWaiter := node.nextWaiter + 1
            accepts := node.accepts.insert registration.alpn
              { registration with waiters := registration.waiters ++ [⟨node.nextWaiter, true⟩] } })

/-- `accept_close`. -/
def acceptClose (node : BrowserRuntimeNode E) (acceptId : BrowserAcceptId) :
    Bool × BrowserRuntimeNode E :=
  match node.accepts.values.find? fun registration => registration.id = acceptId with
  | none => (false, node)
  | some registration =>
    (true,
      { node with
        accepts := node.accepts.modify registration.alpn AcceptRegistrationState.closeAcceptor })

/-- The future of a call of `accept_next` that waits is dropped. -/
def dropWaiter (node : BrowserRuntimeNode E) (waiter : ℕ) : BrowserRuntimeNode E :=
  { node with accepts := node.accepts.mapValues (AcceptRegistrationState.dropWaiter waiter) }

end BrowserRuntimeNode

/-! ## The node as a transition system -/

/-- The operations on a node. -/
inductive NodeOp (E : Type*) where
  | allocateDial (remote : E) (alpn : String) (transportIntent : BootstrapTransportIntent)
  | attachTransferredChannel (sessionKey : BrowserSessionKey)
  | completeDial (sessionKey : BrowserSessionKey) (transport : BrowserResolvedTransport)
  | bootstrapSignal (input : BrowserBootstrapSignalInput E)
  | rtcLifecycle (input : RtcLifecycleInput)
  | decideWebrtcFailure (sessionKey : BrowserSessionKey) (message : String)
  | closeSession (sessionKey : BrowserSessionKey) (message : String)
  | relayConnection (connection : Connection E) (queueAccept : Bool)
  | webrtcConnection (order : List BrowserSessionKey) (connection : Connection E)
      (queueAccept : Bool)
  /-- `on_accepting` of `BrowserWebRtcProtocolGate`. -/
  | webrtcProtocolConnection (order : List BrowserSessionKey) (connection : Connection E)
  | dialIrohConnected (connection : Connection E) (sessionKey : Option BrowserSessionKey)
  | dialWebrtcConnected (sessionKey : BrowserSessionKey) (session : BrowserSessionSnapshot E)
      (connection : Connection E)
  | connectionClose (connectionKey : BrowserConnectionKey)
  | acceptOpen (alpn : String)
  | acceptNext (acceptId : BrowserAcceptId)
  | acceptClose (acceptId : BrowserAcceptId)
  | dropWaiter (waiter : ℕ)
  | closeNode (reason : Option String)

namespace BrowserRuntimeNode

variable {E : Type*} [DecidableEq E] [EndpointKey E] [Blake3]

/-- The node after an operation, whatever the operation returns. -/
def step (node : BrowserRuntimeNode E) : NodeOp E → Option (BrowserRuntimeNode E)
  | .allocateDial remote alpn transportIntent =>
    (node.allocateDial remote alpn transportIntent).map (·.2)
  | .attachTransferredChannel sessionKey => some (node.attachTransferredChannel sessionKey).2
  | .completeDial sessionKey transport => some (node.completeDial sessionKey transport).2
  | .bootstrapSignal input => some (node.handleBootstrapSignal input).2
  | .rtcLifecycle input => some (node.handleRtcLifecycleResult input).2
  | .decideWebrtcFailure sessionKey message => some (node.decideWebrtcFailure sessionKey message).2
  | .closeSession sessionKey message => some (node.closeSession sessionKey message).2
  | .relayConnection connection queueAccept =>
    (node.admitIrohApplicationConnection connection .irohRelay none queueAccept).map (·.2)
  | .webrtcConnection order connection queueAccept =>
    (node.handleWebrtcConnection order connection queueAccept).map (·.2)
  | .webrtcProtocolConnection order connection =>
    some (node.acceptWebrtcConnection order connection).2
  | .dialIrohConnected connection sessionKey =>
    (node.dialIrohConnected connection sessionKey).map (·.2)
  | .dialWebrtcConnected sessionKey session connection =>
    (node.dialWebrtcConnected sessionKey session connection).map (·.2)
  | .connectionClose connectionKey => some (node.connectionClose connectionKey).2
  | .acceptOpen alpn => some (node.acceptOpen alpn).2
  | .acceptNext acceptId => some (node.acceptNext acceptId).2
  | .acceptClose acceptId => some (node.acceptClose acceptId).2
  | .dropWaiter waiter => some (node.dropWaiter waiter)
  | .closeNode reason => some (node.closeInner reason).2

end BrowserRuntimeNode

end IrohWebRtc
