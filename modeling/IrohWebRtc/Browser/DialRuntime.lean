import IrohWebRtc.Browser.NodeSteps
import IrohWebRtc.Browser.PendingDial

/-!
# Dials of the browser runtime

`browser_runtime/direct/`: the dials of an application and the preparations of a protocol
transport, with the tasks that work for them.  A call allocates its session, opens a bootstrap
channel to the peer, registers itself as pending and waits.  From then on four kinds of tasks run
side by side: the receiver loop of the bootstrap channel, the RTC setup, the events of the data
channel, and the task that dials once the session is decided.

Each task is at one of its awaits.  An event is what an await returns, and its handler is the code
up to the next await.  What the browser and the network do is part of the event: any operation of
theirs may succeed or fail.

## Who completes a call

A waiting call is nobody's property.  Every task that has changed the session looks at what it has
become, and answers the call if that decides it (`Browser.PendingDial`).  So whether a call is
answered depends on some task being left that will change the session, and on each of them calling
the completions after it has.  Both are followed here: a call has the phase of its own body and
those of its tasks.

## Limits

A caller does not drop the future of a call.  The tasks that write to the bootstrap streams are
not followed: a signal counts as sent when it is handed to its writer.  The registry of the peer
connections is in `Browser.RtcRegistry`; here it is there or it is gone.
-/

namespace IrohWebRtc

/-- Who waits for the session: a dial, or the preparation of a protocol transport. -/
inductive DialKind where
  | application
  | prepare
  deriving DecidableEq, Repr

structure DialRequest (E : Type*) where
  kind : DialKind
  remote : E
  alpn : String
  transportIntent : BootstrapTransportIntent
  deriving DecidableEq

/-- A call that has allocated its session. -/
structure DialCall (E : Type*) extends DialRequest E where
  sessionKey : BrowserSessionKey
  deriving DecidableEq

/-- What a call returns; a preparation returns no connection. -/
abbrev DialOutcome (E : Type*) := BrowserRuntimeResult (Option (BrowserAcceptedConnection E))

/-- Where the body of a call stands, with the task that completes it once it has been decided. -/
inductive DialPhase (E : Type*) where
  | notStarted
  /-- A dial that does not use WebRTC was passed on to the node. -/
  | dialingRelay
  | bindingEndpoint
  | connecting
  | openingChannel
  | sendingRequest
  /-- Registered as pending. -/
  | waiting
  | webRtcSpawned
  | webRtcDialing (session : BrowserSessionSnapshot E)
  | relaySpawned
  | relayDialing
  | completed (outcome : DialOutcome E)
  | returned

/-- Where the RTC setup of a call stands. -/
inductive SetupPhase where
  | notSpawned
  | spawned
  | creatingOffer
  | drainingIce
  | finished
  deriving DecidableEq, Repr

/-- Where a receiver loop stands.  While it applies a signal to the peer connection it keeps what
the node answered to the signal. -/
inductive LoopPhase (E : Type*) where
  | notSpawned
  | receiving
  | applying (signal : WebRtcSignal E) (result : BrowserBootstrapSignalResult E)
  | ended

/-- The receiver loops: one for every call, and one for every inbound bootstrap channel. -/
inductive LoopId where
  | dialer (call : ℕ)
  | incoming (index : ℕ)
  deriving DecidableEq, Repr

/-- An entry of `pending_dials` or `pending_protocol_transport_prepares`. -/
structure PendingEntry (E : Type*) where
  /-- The call whose oneshot channel the entry holds. -/
  sender : ℕ
  call : DialCall E
  deriving DecidableEq

/-- The record of a call that has returned. -/
structure DialReturn (E : Type*) where
  request : DialRequest E
  outcome : DialOutcome E
  nodeOpen : Bool
  /-- A relay dial to the remote was attempted before. -/
  relayDialed : Bool

structure BrowserRuntime (E : Type*) where
  node : BrowserRuntimeNode E
  /-- The RTC registry is attached. -/
  rtcAttached : Bool
  calls : ℕ → Option (DialCall E)
  nextCall : ℕ
  bodies : ℕ → DialPhase E
  setups : ℕ → SetupPhase
  loops : LoopId → LoopPhase E
  nextIncoming : ℕ
  pending : DialKind → Table BrowserSessionKey (PendingEntry E)
  /-- The sessions whose data channel has its event handlers. -/
  channels : List BrowserSessionKey
  /-- The sessions that wait for the data channel of the other side. -/
  offered : List BrowserSessionKey
  /-- The sessions to which the answer of the other side was applied. -/
  answered : List BrowserSessionKey
  relayDialed : ℕ → Bool
  /-- What a call was decided by. -/
  decisions : ℕ → Option PendingAction
  returns : List (DialReturn E)

/-- What the tasks of the runtime wait for, and what is asked of it. -/
inductive RuntimeEvent (E : Type*) where
  | dial (remote : E) (alpn : String) (transportIntent : BootstrapTransportIntent)
  | prepare (remote : E) (alpn : String) (transportIntent : BootstrapTransportIntent)
  /-- Binding the endpoint, connecting, opening the channel or sending the request. -/
  | bootstrapStep (call : ℕ) (ok : Bool)
  /-- The setup begins; `created` is what came of the peer connection and its channel. -/
  | setupStarts (call : ℕ) (created : Except String Unit)
  /-- The offer was created and handed to the writer. -/
  | offerCreated (call : ℕ) (created : Except String Unit)
  /-- A local candidate was handed to the writer; `true` for the end of the candidates. -/
  | localIce (call : ℕ) (done : Except String Bool)
  | acceptBootstrap
  /-- A signal arrives; `created` matters for a dial request only. -/
  | receiveSignal (loop : LoopId) (signal : WebRtcSignal E) (created : Bool)
  /-- The peer connection has taken the signal, or refused it. -/
  | signalApplied (loop : LoopId) (ok : Bool)
  | streamError (loop : LoopId)
  | dataChannel (sessionKey : BrowserSessionKey) (event : RtcLifecycleEvent)
  | acceptorChannel (sessionKey : BrowserSessionKey) (received : Bool)
  | taskStarts (call : ℕ)
  | webrtcDialed (call : ℕ) (outcome : BrowserRuntimeResult (Connection E))
  | relayDialed (call : ℕ) (outcome : BrowserRuntimeResult (Connection E))
  | resume (call : ℕ)
  | nodeOp (op : NodeOp E)
  /-- `sent` tells whether the terminal signals found their writers. -/
  | closeNode (reason : Option String) (sent : Bool)

/-- The operations that the facade and the inbound connections perform on the node themselves. -/
def NodeOp.isDirect {E : Type*} : NodeOp E → Bool
  | .relayConnection _ _ | .webrtcConnection _ _ _ | .webrtcProtocolConnection _ _
  | .connectionClose _ | .acceptOpen _ | .acceptNext _ | .acceptClose _ | .dropWaiter _ => true
  | _ => false

/-- `terminal_message`. -/
def terminalMessage {E : Type*} (signals : List (WebRtcSignal E)) : Option String :=
  signals.findSome? fun signal =>
    match signal with
    | .terminal _ _ _ _ _ message => message
    | _ => none

/-- The error of a call whose sender is dropped. -/
def DialKind.channelClosed : DialKind → BrowserRuntimeError
  | .application => ⟨.closed, "WebRTC dial completion channel closed"⟩
  | .prepare => ⟨.closed, "WebRTC protocol transport preparation channel closed"⟩

namespace BrowserRuntime

variable {E : Type*}

/-- A runtime whose node was spawned. -/
def new (node : BrowserRuntimeNode E) : BrowserRuntime E where
  node := node
  rtcAttached := true
  calls := fun _ => none
  nextCall := 0
  bodies := fun _ => .notStarted
  setups := fun _ => .notSpawned
  loops := fun _ => .notSpawned
  nextIncoming := 0
  pending := fun _ => ∅
  channels := []
  offered := []
  answered := []
  relayDialed := fun _ => false
  decisions := fun _ => none
  returns := []

def setBody (rt : BrowserRuntime E) (i : ℕ) (phase : DialPhase E) : BrowserRuntime E :=
  { rt with bodies := Function.update rt.bodies i phase }

def setSetup (rt : BrowserRuntime E) (i : ℕ) (phase : SetupPhase) : BrowserRuntime E :=
  { rt with setups := Function.update rt.setups i phase }

def setLoop (rt : BrowserRuntime E) (loop : LoopId) (phase : LoopPhase E) : BrowserRuntime E :=
  { rt with loops := Function.update rt.loops loop phase }

def setPending (rt : BrowserRuntime E) (kind : DialKind)
    (entries : Table BrowserSessionKey (PendingEntry E)) : BrowserRuntime E :=
  { rt with pending := Function.update rt.pending kind entries }

/-! ## Pending calls -/

/-- The sender of an entry that leaves the table unused is dropped, and the call that waits for it
returns an error. -/
def dropSender (rt : BrowserRuntime E) (kind : DialKind) (sessionKey : BrowserSessionKey) :
    BrowserRuntime E :=
  match (rt.pending kind).lookup sessionKey with
  | none => rt
  | some entry =>
    (rt.setBody entry.sender (.completed (.error kind.channelClosed))).setPending kind
      ((rt.pending kind).erase sessionKey)

/-- The call is registered as pending, and its receiver loop and its setup are spawned. -/
def register (rt : BrowserRuntime E) (i : ℕ) (call : DialCall E) : BrowserRuntime E :=
  let rt := rt.dropSender call.kind call.sessionKey
  (((rt.setPending call.kind ((rt.pending call.kind).insert call.sessionKey ⟨i, call⟩)).setBody i
    .waiting).setLoop (.dialer i) .receiving).setSetup i .spawned

/-- The call of the session is decided, if one is pending: its entry is taken, and `next` is what
becomes of it. -/
def completePending (rt : BrowserRuntime E) (kind : DialKind)
    (next : PendingAction → DialCall E → DialPhase E) (sessionKey : BrowserSessionKey)
    (action : Option PendingAction) : BrowserRuntime E :=
  match action, (rt.pending kind).lookup sessionKey with
  | some action, some entry =>
    { (rt.setBody entry.sender (next action entry.call)).setPending kind
        ((rt.pending kind).erase sessionKey) with
      decisions := Function.update rt.decisions entry.sender (some action) }
  | _, _ => rt

/-- The arms of `complete_pending_dial_from_session`. -/
def decidedDial (diagnostic : Option String) (action : PendingAction) (_ : DialCall E) :
    DialPhase E :=
  match action with
  | .webRtc => .webRtcSpawned
  | .relay => .relaySpawned
  | .fail => .completed (.error ⟨.webRtcFailed, diagnostic.getD "WebRTC dial failed"⟩)
  | .closed => .completed (.error .closed)

/-- The arms of `complete_pending_protocol_transport_prepare_from_result`. -/
def decidedPrepare (nodeClosed : Bool) (action : PendingAction) (call : DialCall E) :
    DialPhase E :=
  match action with
  | .webRtc => .completed (if nodeClosed then .error .closed else .ok none)
  | .relay =>
    .completed (if call.transportIntent.allowsIrohRelayFallback then .ok none
      else .error ⟨.webRtcFailed, "WebRTC-only protocol transport preparation resolved to relay"⟩)
  | .fail => .completed (.error ⟨.webRtcFailed, "WebRTC protocol transport preparation failed"⟩)
  | .closed => .completed (.error .closed)

/-- `complete_pending_dial_from_session`. -/
def completePendingDialFromSession (rt : BrowserRuntime E) (sessionKey : Option BrowserSessionKey)
    (session : Option (BrowserSessionSnapshot E)) (diagnostic : Option String) :
    BrowserRuntime E :=
  match sessionKey, session with
  | some sessionKey, some session =>
    rt.completePending .application (decidedDial diagnostic) sessionKey
      (pendingDialActionFromSession session)
  | _, _ => rt

/-- `complete_pending_protocol_transport_prepare_from_result`. -/
def completePendingPrepareFromResult (rt : BrowserRuntime E)
    (sessionKey : Option BrowserSessionKey) (session : Option (BrowserSessionSnapshot E)) :
    BrowserRuntime E :=
  match sessionKey, session with
  | some sessionKey, some session =>
    rt.completePending .prepare (decidedPrepare rt.node.closed) sessionKey
      (pendingPrepareActionFromSession session)
  | _, _ => rt

/-- Both completions, as every task that has changed a session calls them. -/
def completeFromSession (rt : BrowserRuntime E) (sessionKey : Option BrowserSessionKey)
    (session : Option (BrowserSessionSnapshot E)) (diagnostic : Option String) :
    BrowserRuntime E :=
  (rt.completePendingDialFromSession sessionKey session diagnostic).completePendingPrepareFromResult
    sessionKey session

/-! ## The body of a call -/

/-- The call returns before it has a session. -/
def refuse (rt : BrowserRuntime E) (request : DialRequest E) (err : BrowserRuntimeError) :
    BrowserRuntime E :=
  { rt with returns := ⟨request, .error err, !rt.node.closed, false⟩ :: rt.returns }

/-- The call returns. -/
def finish (rt : BrowserRuntime E) (i : ℕ) (call : DialCall E) (outcome : DialOutcome E) :
    BrowserRuntime E :=
  { rt.setBody i .returned with
    returns := ⟨call.toDialRequest, outcome, !rt.node.closed, rt.relayDialed i⟩ :: rt.returns }

/-- The call has its session and goes on to its first await. -/
def start (rt : BrowserRuntime E) (call : DialCall E) (phase : DialPhase E) (relayDialed : Bool) :
    BrowserRuntime E :=
  { rt.setBody rt.nextCall phase with
    calls := Function.update rt.calls rt.nextCall (some call)
    nextCall := rt.nextCall + 1
    relayDialed := Function.update rt.relayDialed rt.nextCall relayDialed
    decisions := Function.update rt.decisions rt.nextCall none }

/-- The call allocates its session. -/
def allocate [DecidableEq E] [EndpointKey E] [Blake3] (rt : BrowserRuntime E)
    (request : DialRequest E) (phase : DialPhase E) (relayDialed : Bool) :
    Option (BrowserRuntime E) :=
  (rt.node.allocateDialStart request.remote request.alpn request.transportIntent).map
    fun (result, node) =>
      match result with
      | .error err => { rt with node := node }.refuse request err
      | .ok dialStart =>
        { rt with node := node }.start ⟨request, dialStart.sessionKey⟩ phase relayDialed

/-- `dial_application_connection`, up to its first await.  Without WebRTC it is
`dial_application_connection` of the node, which allocates a relay session and dials the relay. -/
def dialApplicationConnection [DecidableEq E] [EndpointKey E] [Blake3] (rt : BrowserRuntime E)
    (remote : E) (alpn : String) (transportIntent : BootstrapTransportIntent) :
    Option (BrowserRuntime E) :=
  let request := ⟨.application, remote, alpn, transportIntent⟩
  if rt.node.closed then some (rt.refuse request .closed)
  else if transportIntent.usesWebrtc then rt.allocate request .connecting false
  else rt.allocate request .dialingRelay true

/-- `prepare_protocol_transport_inner`, up to its first await. -/
def prepareProtocolTransport [DecidableEq E] [EndpointKey E] [Blake3] (rt : BrowserRuntime E)
    (remote : E) (alpn : String) (transportIntent : BootstrapTransportIntent) :
    Option (BrowserRuntime E) :=
  let request := ⟨.prepare, remote, alpn, transportIntent⟩
  if rt.node.closed then some (rt.refuse request .closed)
  else rt.allocate request .bindingEndpoint false

/-- What follows a step of the bootstrap: an error returns at once. -/
def bootstrapStep (rt : BrowserRuntime E) (i : ℕ) (ok : Bool) : Option (BrowserRuntime E) :=
  match rt.calls i with
  | none => none
  | some call =>
    let failed message := rt.finish i call (.error ⟨.bootstrapFailed, message⟩)
    match rt.bodies i with
    | .bindingEndpoint =>
      some (if ok then rt.setBody i .connecting
        else failed "failed to bind isolated WebRTC protocol bootstrap endpoint")
    | .connecting =>
      some (if ok then rt.setBody i .openingChannel
        else failed "failed to open WebRTC bootstrap path")
    | .openingChannel =>
      some (if ok then rt.setBody i .sendingRequest
        else failed "failed to open WebRTC bootstrap signal channel")
    | .sendingRequest =>
      some (if ok then rt.register i call
        else failed "failed to send WebRTC bootstrap dial request")
    | _ => none

/-- A call that was completed returns, and the guard it holds removes the entry of its session. -/
def resume (rt : BrowserRuntime E) (i : ℕ) : Option (BrowserRuntime E) :=
  match rt.calls i, rt.bodies i with
  | some call, .completed outcome =>
    some ((rt.finish i call outcome).dropSender call.kind call.sessionKey)
  | _, _ => none

/-- The spawned task of a decided dial starts. -/
def taskStarts (rt : BrowserRuntime E) (i : ℕ) : Option (BrowserRuntime E) :=
  match rt.calls i, rt.bodies i with
  | some call, .webRtcSpawned =>
    some (if rt.node.closed then rt.setBody i (.completed (.error .closed))
      else
        match rt.node.dialWebrtcStart call.sessionKey with
        | .error err => rt.setBody i (.completed (.error err))
        | .ok session => rt.setBody i (.webRtcDialing session))
  | some _, .relaySpawned =>
    some (if rt.node.closed then rt.setBody i (.completed (.error .closed))
      else { rt with relayDialed := Function.update rt.relayDialed i true }.setBody i .relayDialing)
  | _, _ => none

/-- A dial returns the connection that was admitted for it. -/
def dialOutcome
    (admitted : BrowserRuntimeResult (BrowserAcceptedConnection E × Option AcceptWaiter)) :
    DialOutcome E :=
  admitted.map fun accepted => some accepted.1

section

variable [DecidableEq E] [EndpointKey E]

/-- `dial_webrtc_application_connection` after the WebRTC endpoint has connected, or has failed
to. -/
def webrtcDialed (rt : BrowserRuntime E) (i : ℕ) (outcome : BrowserRuntimeResult (Connection E)) :
    Option (BrowserRuntime E) :=
  match rt.calls i, rt.bodies i with
  | some call, .webRtcDialing session =>
    match outcome with
    | .error err => some (rt.setBody i (.completed (.error err)))
    | .ok connection =>
      (rt.node.dialWebrtcConnected call.sessionKey session connection).map fun (result, node) =>
        { rt with node := node }.setBody i (.completed (dialOutcome result))
  | _, _ => none

/-- `dial_iroh_application_connection` after the relay endpoint has connected, or has failed to. -/
def relayConnected (rt : BrowserRuntime E) (i : ℕ)
    (outcome : BrowserRuntimeResult (Connection E)) : Option (BrowserRuntime E) :=
  match rt.calls i, rt.bodies i with
  | some call, .relayDialing =>
    match outcome with
    | .error err => some (rt.setBody i (.completed (.error err)))
    | .ok connection =>
      (rt.node.dialIrohConnected connection (some call.sessionKey)).map fun (result, node) =>
        { rt with node := node }.setBody i (.completed (dialOutcome result))
  | some call, .dialingRelay =>
    match outcome with
    | .error err => some (rt.finish i call (.error err))
    | .ok connection =>
      (rt.node.dialIrohConnected connection (some call.sessionKey)).map fun (result, node) =>
        { rt with node := node }.finish i call (dialOutcome result)
  | _, _ => none

/-! ## Sessions that change outside the receiver loops -/

/-- `apply_rtc_lifecycle_result`, and `complete_direct_dial_setup_failure` for a failed setup. -/
def applyRtcLifecycleResult (rt : BrowserRuntime E) (input : RtcLifecycleInput) :
    BrowserRuntime E :=
  if rt.node.closed then rt
  else
    match rt.node.handleRtcLifecycleResult input with
    | (.error _, node) => { rt with node := node }
    | (.ok result, node) =>
      { rt with node := node }.completeFromSession (some result.sessionKey) result.session
        (terminalMessage result.outboundSignals)

/-- The setup ends with an error. -/
def setupFails (rt : BrowserRuntime E) (i : ℕ) (call : DialCall E) (message : String) :
    BrowserRuntime E :=
  (rt.setSetup i .finished).applyRtcLifecycleResult
    ⟨call.sessionKey, .webRtcFailed message, none⟩

/-- `spawn_direct_dialer_rtc_setup`, up to the creation of the offer. -/
def setupStarts (rt : BrowserRuntime E) (i : ℕ) (created : Except String Unit) :
    Option (BrowserRuntime E) :=
  match rt.calls i, rt.setups i with
  | some call, .spawned =>
    some (if !rt.rtcAttached then rt.setupFails i call "main-thread RTC registry is not attached"
      else if rt.node.closed then rt.setupFails i call BrowserRuntimeError.closed.message
      else
        match created with
        | .error message => rt.setupFails i call message
        | .ok () =>
          match rt.node.attachTransferredChannel call.sessionKey with
          | (.error err, node) => { rt with node := node }.setupFails i call err.message
          | (.ok _, node) =>
            { rt.setSetup i .creatingOffer with
              node := node
              channels := call.sessionKey :: rt.channels })
  | _, _ => none

def offerCreated (rt : BrowserRuntime E) (i : ℕ) (created : Except String Unit) :
    Option (BrowserRuntime E) :=
  match rt.calls i, rt.setups i with
  | some call, .creatingOffer =>
    some (match created with
      | .error message => rt.setupFails i call message
      | .ok () => rt.setSetup i .drainingIce)
  | _, _ => none

def localIce (rt : BrowserRuntime E) (i : ℕ) (done : Except String Bool) :
    Option (BrowserRuntime E) :=
  match rt.calls i, rt.setups i with
  | some call, .drainingIce =>
    some (match done with
      | .error message => rt.setupFails i call message
      | .ok done => if done then rt.setSetup i .finished else rt)
  | _, _ => none

/-- The event handlers that `install_data_channel_event_handlers` installs. -/
def dataChannelEvent (rt : BrowserRuntime E) (sessionKey : BrowserSessionKey)
    (event : RtcLifecycleEvent) : Option (BrowserRuntime E) :=
  if sessionKey ∈ rt.channels then some (rt.applyRtcLifecycleResult ⟨sessionKey, event, none⟩)
  else none

/-- The task of `spawn_acceptor_data_channel_attach`, once the channel has come or has failed to. -/
def acceptorChannel (rt : BrowserRuntime E) (sessionKey : BrowserSessionKey) (received : Bool) :
    Option (BrowserRuntime E) :=
  if sessionKey ∈ rt.offered then
    let rt := { rt with offered := rt.offered.erase sessionKey }
    some (if !received || rt.node.closed then rt
      else
        match rt.node.attachTransferredChannel sessionKey with
        | (.error _, node) => { rt with node := node }
        | (.ok _, node) => { rt with node := node, channels := sessionKey :: rt.channels })
  else none

/-! ## Receiver loops -/

/-- How `handle_direct_bootstrap_rtc_signal` begins: it has nothing to await, fails, or awaits the
peer connection. -/
inductive RtcSignalStart where
  | done
  | failed
  | awaits
  deriving DecidableEq, Repr

/-- `handle_direct_bootstrap_rtc_signal`, up to its first await. -/
def startRtcSignal (rt : BrowserRuntime E) (signal : WebRtcSignal E)
    (result : BrowserBootstrapSignalResult E) (created : Bool) : RtcSignalStart :=
  match result.sessionKey with
  | none => .done
  | some _ =>
    match signal with
    | .dialRequest _ _ _ _ _ transportIntent =>
      if !transportIntent.usesWebrtc then .done
      else if rt.node.closed || !rt.rtcAttached || !created then .failed
      else .done
    | .terminal _ _ _ _ _ _ => .done
    | _ => if rt.rtcAttached then .awaits else .failed

/-- The end of a turn of `spawn_bootstrap_receiver_loop_with_sender`. -/
def completeFromSignal (rt : BrowserRuntime E) (result : BrowserBootstrapSignalResult E) :
    BrowserRuntime E :=
  rt.completeFromSession result.sessionKey result.session (terminalMessage result.outboundSignals)

/-- A turn of `spawn_bootstrap_receiver_loop_with_sender`, up to an await of the peer connection. -/
def receiveSignal (rt : BrowserRuntime E) (loop : LoopId) (signal : WebRtcSignal E)
    (created : Bool) : Option (BrowserRuntime E) :=
  match rt.loops loop with
  | .receiving =>
    some (if rt.node.closed then rt.setLoop loop .ended
      else
        match rt.node.handleBootstrapSignal ⟨signal, none⟩ with
        | (.error _, node) => { rt with node := node }.setLoop loop .ended
        | (.ok result, node) =>
          let rt := { rt with node := node }
          match rt.startRtcSignal signal result created with
          | .done => rt.completeFromSignal result
          | .failed => rt.setLoop loop .ended
          | .awaits => rt.setLoop loop (.applying signal result))
  | _ => none

/-- What the peer connection remembers of a signal that it took. -/
def recordSignal (rt : BrowserRuntime E) (signal : WebRtcSignal E)
    (sessionKey : Option BrowserSessionKey) : BrowserRuntime E :=
  match signal with
  | .offer _ _ _ _ _ => { rt with offered := sessionKey.toList ++ rt.offered }
  | .answer _ _ _ _ _ => { rt with answered := sessionKey.toList ++ rt.answered }
  | _ => rt

/-- The rest of the turn. -/
def signalApplied (rt : BrowserRuntime E) (loop : LoopId) (ok : Bool) :
    Option (BrowserRuntime E) :=
  match rt.loops loop with
  | .applying signal result =>
    some (if ok then
        ((rt.setLoop loop .receiving).recordSignal signal result.sessionKey).completeFromSignal
          result
      else rt.setLoop loop .ended)
  | _ => none

omit [DecidableEq E] [EndpointKey E] in
/-- Receiving a signal fails. -/
def streamError (rt : BrowserRuntime E) (loop : LoopId) : Option (BrowserRuntime E) :=
  match rt.loops loop with
  | .receiving => some (rt.setLoop loop .ended)
  | _ => none

/-- `handle_incoming_bootstrap_connection`, once the channel is accepted. -/
def acceptBootstrap (rt : BrowserRuntime E) : BrowserRuntime E :=
  { rt.setLoop (.incoming rt.nextIncoming) .receiving with nextIncoming := rt.nextIncoming + 1 }

/-- `close_node`; where a terminal signal finds no writer it returns before it detaches the
registry. -/
def closeNode (rt : BrowserRuntime E) (reason : Option String) (sent : Bool) : BrowserRuntime E :=
  { rt with
    node := (rt.node.closeInner reason).2
    rtcAttached := rt.rtcAttached && !sent }

/-! ## The runtime as a transition system -/

variable [Blake3]

def step (rt : BrowserRuntime E) : RuntimeEvent E → Option (BrowserRuntime E)
  | .dial remote alpn transportIntent => rt.dialApplicationConnection remote alpn transportIntent
  | .prepare remote alpn transportIntent => rt.prepareProtocolTransport remote alpn transportIntent
  | .bootstrapStep i ok => rt.bootstrapStep i ok
  | .setupStarts i created => rt.setupStarts i created
  | .offerCreated i created => rt.offerCreated i created
  | .localIce i done => rt.localIce i done
  | .acceptBootstrap => some rt.acceptBootstrap
  | .receiveSignal loop signal created => rt.receiveSignal loop signal created
  | .signalApplied loop ok => rt.signalApplied loop ok
  | .streamError loop => rt.streamError loop
  | .dataChannel sessionKey event => rt.dataChannelEvent sessionKey event
  | .acceptorChannel sessionKey received => rt.acceptorChannel sessionKey received
  | .taskStarts i => rt.taskStarts i
  | .webrtcDialed i outcome => rt.webrtcDialed i outcome
  | .relayDialed i outcome => rt.relayConnected i outcome
  | .resume i => rt.resume i
  | .nodeOp op =>
    if op.isDirect then (rt.node.step op).map fun node => { rt with node := node } else none
  | .closeNode reason sent => some (rt.closeNode reason sent)

end

end BrowserRuntime

end IrohWebRtc
