import IrohWebRtc.Browser.DialCompletions

/-!
# The moves of the browser runtime

Every event touches a few of the fields of the runtime, for one call or one loop.  `Move` lists
the ways through the handlers, and `step_move` says that there are no others; the facts about a
step are read off from it.

A handler is long because it deals with every failure where it occurs: it may find the node
closed, the session gone, the stream broken or the setup failed, and in each of these cases it
closes what it has opened and completes the call.  Most of this is the same for all of them.  A
move names what is different, the call, the loop, and the operation on the node, and leaves what
follows from these to its constructors.

* `FailsSetup`, `EndsLoop`: the ways in which a setup and a receiver loop come to an end.
* `step_node`: an event performs at most one operation on the node, so that a run of the runtime
  is a run of its node.

Because of the last, whatever was proved of the runs of the node holds of the node of a runtime.
-/

namespace IrohWebRtc

/-- What a dial or a preparation asks for. -/
def RuntimeEvent.request {E : Type*} : RuntimeEvent E → Option (DialRequest E)
  | .dial remote alpn transportIntent => some ⟨.application, remote, alpn, transportIntent⟩
  | .prepare remote alpn transportIntent => some ⟨.prepare, remote, alpn, transportIntent⟩
  | _ => none

namespace DialPhase

variable {E : Type*}

/-- The call is in its bootstrap: it has a session, and is not registered as pending yet. -/
def Bootstrapping : DialPhase E → Prop
  | .bindingEndpoint | .connecting | .openingChannel | .sendingRequest => True
  | _ => False

/-- The steps of the bootstrap, up to the dial request. -/
inductive Advances : DialPhase E → DialPhase E → Prop where
  | bound : Advances .bindingEndpoint .connecting
  | connected : Advances .connecting .openingChannel
  | opened : Advances .openingChannel .sendingRequest

theorem Advances.ne_waiting {p q : DialPhase E} (h : p.Advances q) :
    p ≠ .waiting ∧ q ≠ .waiting := by
  cases h <;> simp

end DialPhase

namespace BrowserRuntime

variable {E : Type*} [DecidableEq E] [EndpointKey E] {rt rt' : BrowserRuntime E}

/-- The setup of the call fails. -/
inductive FailsSetup (rt : BrowserRuntime E) (i : ℕ) (call : DialCall E) :
    RuntimeEvent E → Prop where
  | starts {created : Except String Unit} (hsetup : rt.setups i = .spawned)
      (hfails : rt.rtcAttached = false ∨ rt.node.closed = true ∨
        (∃ message, created = .error message) ∨
        ∃ err, (rt.node.attachTransferredChannel call.sessionKey).1 = .error err) :
      FailsSetup rt i call (.setupStarts i created)
  | offer {message : String} (hsetup : rt.setups i = .creatingOffer) :
      FailsSetup rt i call (.offerCreated i (.error message))
  | ice {message : String} (hsetup : rt.setups i = .drainingIce) :
      FailsSetup rt i call (.localIce i (.error message))

/-- The receiver loop returns: the stream fails, the node is closed or rejects the signal, the RTC
registry is missing, or the peer connection fails. -/
inductive EndsLoop (rt : BrowserRuntime E) (loop : LoopId) : RuntimeEvent E → Prop where
  | streamError (hloop : rt.loops loop = .receiving) : EndsLoop rt loop (.streamError loop)
  | closed {signal : WebRtcSignal E} {created : Bool} (hloop : rt.loops loop = .receiving)
      (hclosed : rt.node.closed = true) : EndsLoop rt loop (.receiveSignal loop signal created)
  | rejected {signal : WebRtcSignal E} {created : Bool} {err : BrowserRuntimeError}
      (hloop : rt.loops loop = .receiving) (hclosed : rt.node.closed = false)
      (hrejected : (rt.node.handleBootstrapSignal ⟨signal, none⟩).1 = .error err) :
      EndsLoop rt loop (.receiveSignal loop signal created)
  | refused {signal : WebRtcSignal E} {created : Bool} {result : BrowserBootstrapSignalResult E}
      (hloop : rt.loops loop = .receiving) (hclosed : rt.node.closed = false)
      (haccepted : (rt.node.handleBootstrapSignal ⟨signal, none⟩).1 = .ok result)
      (hrefused : { rt with node := (rt.node.handleBootstrapSignal ⟨signal, none⟩).2
        }.startRtcSignal signal result created = .failed) :
      EndsLoop rt loop (.receiveSignal loop signal created)
  | notApplied {signal : WebRtcSignal E} {result : BrowserBootstrapSignalResult E}
      (hloop : rt.loops loop = .applying signal result) :
      EndsLoop rt loop (.signalApplied loop false)

variable [Blake3]

/-- The moves of the runtime: the ways through the handlers of its events. -/
inductive Move (rt : BrowserRuntime E) : RuntimeEvent E → BrowserRuntime E → Prop where
  | refused {ev : RuntimeEvent E} {request : DialRequest E} {err : BrowserRuntimeError}
      (hev : ev.request = some request)
      (hcause : rt.node.closed = true ∨ request.alpn.isEmpty = true) :
      Move rt ev (rt.refuse request err)
  | started {ev : RuntimeEvent E} {request : DialRequest E} {key : BrowserSessionKey}
      {node : BrowserRuntimeNode E} {phase : DialPhase E} {relayDialed : Bool}
      (hev : ev.request = some request) (hclosed : rt.node.closed = false)
      (hnode : rt.node.step (.allocateDial request.remote request.alpn request.transportIntent) =
        some node)
      (hkey : ∃ session dialIds, rt.node.dialIds.next request.remote = some (session, dialIds) ∧
        key = .ofDialId session.dialId)
      (hsession : ∃ dialId generation, node.session key = some (.new key dialId generation
        rt.node.endpointId request.remote request.alpn .dialer request.transportIntent))
      (hphase : phase = .dialingRelay ∧ relayDialed = true ∨
        (phase = .connecting ∨ phase = .bindingEndpoint) ∧ relayDialed = false) :
      Move rt ev ({ rt with node := node }.start ⟨request, key⟩ phase relayDialed)
  | advanced {i : ℕ} {call : DialCall E} {phase : DialPhase E} (hcall : rt.calls i = some call)
      (hbody : (rt.bodies i).Advances phase) : Move rt (.bootstrapStep i true) (rt.setBody i phase)
  | registered {i : ℕ} {call : DialCall E} (hcall : rt.calls i = some call)
      (hbody : rt.bodies i = .sendingRequest) :
      Move rt (.bootstrapStep i true) (rt.register i call)
  | bootstrapFailed {i : ℕ} {call : DialCall E} {message : String}
      (hcall : rt.calls i = some call) (hbody : (rt.bodies i).Bootstrapping) :
      Move rt (.bootstrapStep i false) (rt.finish i call (.error ⟨.bootstrapFailed, message⟩))
  | setupFailed {ev : RuntimeEvent E} {i : ℕ} {call : DialCall E} {message : String}
      (hcall : rt.calls i = some call) (hfails : rt.FailsSetup i call ev) :
      Move rt ev (rt.setupFails i call message)
  | attached {i : ℕ} {call : DialCall E} {node : BrowserRuntimeNode E}
      (hcall : rt.calls i = some call) (hsetup : rt.setups i = .spawned)
      (hnode : rt.node.step (.attachTransferredChannel call.sessionKey) = some node) :
      Move rt (.setupStarts i (.ok ()))
        { rt.setSetup i .creatingOffer with
          node := node
          channels := call.sessionKey :: rt.channels }
  | offered {i : ℕ} {call : DialCall E} (hcall : rt.calls i = some call)
      (hsetup : rt.setups i = .creatingOffer) :
      Move rt (.offerCreated i (.ok ())) (rt.setSetup i .drainingIce)
  | candidate {i : ℕ} {call : DialCall E} (hcall : rt.calls i = some call)
      (hsetup : rt.setups i = .drainingIce) : Move rt (.localIce i (.ok false)) rt
  | drained {i : ℕ} {call : DialCall E} (hcall : rt.calls i = some call)
      (hsetup : rt.setups i = .drainingIce) :
      Move rt (.localIce i (.ok true)) (rt.setSetup i .finished)
  | acceptedBootstrap : Move rt .acceptBootstrap rt.acceptBootstrap
  | loopEnded {ev : RuntimeEvent E} {loop : LoopId} {node : BrowserRuntimeNode E}
      (hends : rt.EndsLoop loop ev)
      (hnode : node = rt.node ∨ ∃ signal created, ev = .receiveSignal loop signal created ∧
        rt.node.step (.bootstrapSignal ⟨signal, none⟩) = some node) :
      Move rt ev ({ rt with node := node }.setLoop loop .ended)
  | received {loop : LoopId} {signal : WebRtcSignal E} {created : Bool}
      {node : BrowserRuntimeNode E} {key : BrowserSessionKey} {s : BrowserSessionState E}
      {diagnostic : Option String} (hloop : rt.loops loop = .receiving)
      (hclosed : rt.node.closed = false)
      (hnode : rt.node.step (.bootstrapSignal ⟨signal, none⟩) = some node)
      (hsession : node.session key = some s) :
      Move rt (.receiveSignal loop signal created)
        ({ rt with node := node }.completeFromSession (some key) (some s) diagnostic)
  | applying {loop : LoopId} {signal : WebRtcSignal E} {created : Bool}
      {node : BrowserRuntimeNode E} {result : BrowserBootstrapSignalResult E}
      {key : BrowserSessionKey} {s : BrowserSessionState E} (hloop : rt.loops loop = .receiving)
      (hclosed : rt.node.closed = false)
      (hnode : rt.node.step (.bootstrapSignal ⟨signal, none⟩) = some node)
      (hkey : result.sessionKey = some key) (hresult : result.session = some s)
      (hsession : node.session key = some s) :
      Move rt (.receiveSignal loop signal created)
        ({ rt with node := node }.setLoop loop (.applying signal result))
  | applied {loop : LoopId} {signal : WebRtcSignal E} {result : BrowserBootstrapSignalResult E}
      (hloop : rt.loops loop = .applying signal result) :
      Move rt (.signalApplied loop true)
        (((rt.setLoop loop .receiving).recordSignal signal result.sessionKey).completeFromSignal
          result)
  | channelEvent {key : BrowserSessionKey} {event : RtcLifecycleEvent} :
      Move rt (.dataChannel key event) (rt.applyRtcLifecycleResult ⟨key, event, none⟩)
  | acceptorChannel {key : BrowserSessionKey} {received : Bool} {node : BrowserRuntimeNode E}
      {channels offered : List BrowserSessionKey}
      (hnode : node = rt.node ∨ rt.node.step (.attachTransferredChannel key) = some node) :
      Move rt (.acceptorChannel key received)
        { rt with node := node, channels := channels, offered := offered }
  | taskFailed {i : ℕ} {call : DialCall E} {err : BrowserRuntimeError}
      (hcall : rt.calls i = some call) (hbody : rt.bodies i = .webRtcSpawned)
      (hcause : rt.node.closed = true ∨ rt.node.dialWebrtcStart call.sessionKey = .error err) :
      Move rt (.taskStarts i) (rt.setBody i (.completed (.error err)))
  | webRtcStarted {i : ℕ} {call : DialCall E} {s : BrowserSessionState E}
      (hcall : rt.calls i = some call) (hbody : rt.bodies i = .webRtcSpawned)
      (hstart : rt.node.dialWebrtcStart call.sessionKey = .ok s) :
      Move rt (.taskStarts i) (rt.setBody i (.webRtcDialing s))
  | relayClosed {i : ℕ} {call : DialCall E} (hcall : rt.calls i = some call)
      (hbody : rt.bodies i = .relaySpawned) (hclosed : rt.node.closed = true) :
      Move rt (.taskStarts i) (rt.setBody i (.completed (.error .closed)))
  | relayStarted {i : ℕ} {call : DialCall E} (hcall : rt.calls i = some call)
      (hbody : rt.bodies i = .relaySpawned) :
      Move rt (.taskStarts i)
        ({ rt with relayDialed := Function.update rt.relayDialed i true }.setBody i .relayDialing)
  | webRtcDialFailed {i : ℕ} {call : DialCall E} {s : BrowserSessionState E}
      {err : BrowserRuntimeError} (hcall : rt.calls i = some call)
      (hbody : rt.bodies i = .webRtcDialing s) :
      Move rt (.webrtcDialed i (.error err)) (rt.setBody i (.completed (.error err)))
  | webRtcDialed {i : ℕ} {call : DialCall E} {s : BrowserSessionState E}
      {connection : Connection E} {node : BrowserRuntimeNode E}
      {result : BrowserRuntimeResult (BrowserAcceptedConnection E × Option AcceptWaiter)}
      (hcall : rt.calls i = some call) (hbody : rt.bodies i = .webRtcDialing s)
      (hdial : rt.node.dialWebrtcConnected call.sessionKey s connection = some (result, node)) :
      Move rt (.webrtcDialed i (.ok connection))
        ({ rt with node := node }.setBody i (.completed (dialOutcome result)))
  | relayDialed {i : ℕ} {call : DialCall E} {outcome : BrowserRuntimeResult (Connection E)}
      {node : BrowserRuntimeNode E} {result : DialOutcome E} (hcall : rt.calls i = some call)
      (hbody : rt.bodies i = .relayDialing)
      (hnode : node = rt.node ∨ ∃ connection, outcome = .ok connection ∧
        rt.node.step (.dialIrohConnected connection (some call.sessionKey)) = some node) :
      Move rt (.relayDialed i outcome) ({ rt with node := node }.setBody i (.completed result))
  | delegated {i : ℕ} {call : DialCall E} {outcome : BrowserRuntimeResult (Connection E)}
      {node : BrowserRuntimeNode E} {result : DialOutcome E} (hcall : rt.calls i = some call)
      (hbody : rt.bodies i = .dialingRelay)
      (hnode : node = rt.node ∨ ∃ connection, outcome = .ok connection ∧
        rt.node.step (.dialIrohConnected connection (some call.sessionKey)) = some node) :
      Move rt (.relayDialed i outcome) ({ rt with node := node }.finish i call result)
  | resumed {i : ℕ} {call : DialCall E} {outcome : DialOutcome E} (hcall : rt.calls i = some call)
      (hbody : rt.bodies i = .completed outcome) :
      Move rt (.resume i) ((rt.finish i call outcome).dropSender call.kind call.sessionKey)
  | direct {op : NodeOp E} {node : BrowserRuntimeNode E} (hop : op.isDirect = true)
      (hnode : rt.node.step op = some node) : Move rt (.nodeOp op) { rt with node := node }
  | closed {reason : Option String} {sent : Bool} :
      Move rt (.closeNode reason sent) (rt.closeNode reason sent)

/-! ## The handlers -/

theorem move_allocate {ev : RuntimeEvent E} {request : DialRequest E} {phase : DialPhase E}
    {relayDialed : Bool} (hev : ev.request = some request)
    (hphase : phase = .dialingRelay ∧ relayDialed = true ∨
      (phase = .connecting ∨ phase = .bindingEndpoint) ∧ relayDialed = false)
    (h : rt.allocate request phase relayDialed = some rt') : rt.Move ev rt' := by
  obtain ⟨⟨result, node⟩, hallocate, rfl⟩ := Option.map_eq_some_iff.mp h
  cases result with
  | error err =>
    obtain ⟨rfl, hcause⟩ := BrowserRuntimeNode.allocateDialStart_error hallocate
    exact .refused hev hcause
  | ok dialStart =>
    obtain ⟨hnode, hclosed, hkey, hsession⟩ :=
      BrowserRuntimeNode.allocateDialStart_ok hallocate
    exact .started hev hclosed hnode hkey hsession hphase

theorem move_dial {remote : E} {alpn : String} {transportIntent : BootstrapTransportIntent}
    (h : rt.dialApplicationConnection remote alpn transportIntent = some rt') :
    rt.Move (.dial remote alpn transportIntent) rt' := by
  unfold dialApplicationConnection at h
  dsimp only at h
  split_ifs at h with hclosed huses
  · obtain rfl := Option.some.inj h
    exact .refused rfl (Or.inl hclosed)
  · exact move_allocate rfl (Or.inr ⟨Or.inl rfl, rfl⟩) h
  · exact move_allocate rfl (Or.inl ⟨rfl, rfl⟩) h

theorem move_prepare {remote : E} {alpn : String} {transportIntent : BootstrapTransportIntent}
    (h : rt.prepareProtocolTransport remote alpn transportIntent = some rt') :
    rt.Move (.prepare remote alpn transportIntent) rt' := by
  unfold prepareProtocolTransport at h
  dsimp only at h
  split_ifs at h with hclosed
  · obtain rfl := Option.some.inj h
    exact .refused rfl (Or.inl hclosed)
  · exact move_allocate rfl (Or.inr ⟨Or.inr rfl, rfl⟩) h

theorem move_bootstrapStep {i : ℕ} {ok : Bool} (h : rt.bootstrapStep i ok = some rt') :
    rt.Move (.bootstrapStep i ok) rt' := by
  unfold bootstrapStep at h
  cases hcall : rt.calls i with
  | none =>
    rw [hcall] at h
    exact absurd h (by simp)
  | some call =>
    rw [hcall] at h
    dsimp only at h
    split at h
    · rename_i hbody
      obtain rfl := Option.some.inj h
      cases ok with
      | false => exact .bootstrapFailed hcall (by rw [hbody]; trivial)
      | true => exact .advanced hcall (by rw [hbody]; exact .bound)
    · rename_i hbody
      obtain rfl := Option.some.inj h
      cases ok with
      | false => exact .bootstrapFailed hcall (by rw [hbody]; trivial)
      | true => exact .advanced hcall (by rw [hbody]; exact .connected)
    · rename_i hbody
      obtain rfl := Option.some.inj h
      cases ok with
      | false => exact .bootstrapFailed hcall (by rw [hbody]; trivial)
      | true => exact .advanced hcall (by rw [hbody]; exact .opened)
    · rename_i hbody
      obtain rfl := Option.some.inj h
      cases ok with
      | false => exact .bootstrapFailed hcall (by rw [hbody]; trivial)
      | true => exact .registered hcall hbody
    · exact absurd h (by simp)

theorem move_setupStarts {i : ℕ} {created : Except String Unit}
    (h : rt.setupStarts i created = some rt') : rt.Move (.setupStarts i created) rt' := by
  unfold setupStarts at h
  split at h
  · rename_i call hcall hsetup
    split_ifs at h with hattached hclosed
    · obtain rfl := Option.some.inj h
      exact .setupFailed hcall (.starts hsetup (Or.inl (by simpa using hattached)))
    · obtain rfl := Option.some.inj h
      exact .setupFailed hcall (.starts hsetup (Or.inr (Or.inl hclosed)))
    · cases created with
      | error message =>
        obtain rfl := Option.some.inj h
        exact .setupFailed hcall (.starts hsetup (Or.inr (Or.inr (Or.inl ⟨message, rfl⟩))))
      | ok value =>
        dsimp only at h
        rcases hattach : rt.node.attachTransferredChannel call.sessionKey with ⟨result, node⟩
        rw [hattach] at h
        cases result with
        | error err =>
          obtain rfl := Option.some.inj h
          obtain rfl := BrowserRuntimeNode.updateSession_error hattach
          refine .setupFailed hcall (.starts hsetup (Or.inr (Or.inr (Or.inr ⟨err, ?_⟩))))
          rw [hattach]
        | ok session =>
          obtain rfl := Option.some.inj h
          refine .attached hcall hsetup ?_
          show some (rt.node.attachTransferredChannel call.sessionKey).2 = some node
          rw [hattach]
  · exact absurd h (by simp)

theorem move_offerCreated {i : ℕ} {created : Except String Unit}
    (h : rt.offerCreated i created = some rt') : rt.Move (.offerCreated i created) rt' := by
  unfold offerCreated at h
  split at h
  · rename_i call hcall hsetup
    obtain rfl := Option.some.inj h
    rcases created with message | value
    · exact .setupFailed hcall (.offer hsetup)
    · exact .offered hcall hsetup
  · exact absurd h (by simp)

theorem move_localIce {i : ℕ} {done : Except String Bool} (h : rt.localIce i done = some rt') :
    rt.Move (.localIce i done) rt' := by
  unfold localIce at h
  split at h
  · rename_i call hcall hsetup
    obtain rfl := Option.some.inj h
    rcases done with message | done
    · exact .setupFailed hcall (.ice hsetup)
    · cases done with
      | false => exact .candidate hcall hsetup
      | true => exact .drained hcall hsetup
  · exact absurd h (by simp)

theorem move_receiveSignal {loop : LoopId} {signal : WebRtcSignal E} {created : Bool}
    (h : rt.receiveSignal loop signal created = some rt') :
    rt.Move (.receiveSignal loop signal created) rt' := by
  unfold receiveSignal at h
  split at h
  · rename_i hloop
    cases hclosed : rt.node.closed with
    | true =>
      rw [if_pos hclosed] at h
      obtain rfl := Option.some.inj h
      exact .loopEnded (.closed hloop hclosed) (Or.inl rfl)
    | false =>
      rw [if_neg (by simp [hclosed])] at h
      rcases hhandle : rt.node.handleBootstrapSignal ⟨signal, none⟩ with ⟨result, node⟩
      have hnode : rt.node.step (.bootstrapSignal ⟨signal, none⟩) = some node :=
        congrArg some (congrArg Prod.snd hhandle)
      rw [hhandle] at h
      cases result with
      | error err =>
        obtain rfl := Option.some.inj h
        exact .loopEnded (.rejected hloop hclosed (congrArg Prod.fst hhandle))
          (Or.inr ⟨signal, created, rfl, hnode⟩)
      | ok result =>
        obtain ⟨key, s, hkey, hs, hsession⟩ :=
          BrowserRuntimeNode.session_of_handleBootstrapSignal_ok hhandle
        dsimp only at h
        cases hstart : { rt with node := node }.startRtcSignal signal result created with
        | done =>
          rw [hstart] at h
          obtain rfl := Option.some.inj h
          dsimp only
          rw [completeFromSignal, hkey, hs]
          exact .received hloop hclosed hnode hsession
        | failed =>
          rw [hstart] at h
          obtain rfl := Option.some.inj h
          refine .loopEnded (.refused hloop hclosed (congrArg Prod.fst hhandle) ?_)
            (Or.inr ⟨signal, created, rfl, hnode⟩)
          rw [hhandle]
          exact hstart
        | awaits =>
          rw [hstart] at h
          obtain rfl := Option.some.inj h
          exact .applying hloop hclosed hnode hkey hs hsession
  · exact absurd h (by simp)

theorem move_signalApplied {loop : LoopId} {ok : Bool} (h : rt.signalApplied loop ok = some rt') :
    rt.Move (.signalApplied loop ok) rt' := by
  unfold signalApplied at h
  split at h
  · rename_i signal result hloop
    obtain rfl := Option.some.inj h
    cases ok with
    | false => exact .loopEnded (.notApplied hloop) (Or.inl rfl)
    | true => exact .applied hloop
  · exact absurd h (by simp)

theorem move_streamError {loop : LoopId} (h : rt.streamError loop = some rt') :
    rt.Move (.streamError loop) rt' := by
  unfold streamError at h
  split at h
  · obtain rfl := Option.some.inj h
    exact .loopEnded (.streamError ‹_›) (Or.inl rfl)
  · exact absurd h (by simp)

theorem move_acceptorChannel {key : BrowserSessionKey} {received : Bool}
    (h : rt.acceptorChannel key received = some rt') :
    rt.Move (.acceptorChannel key received) rt' := by
  unfold acceptorChannel at h
  dsimp only at h
  split_ifs at h with hoffered hignored
  · obtain rfl := Option.some.inj h
    exact .acceptorChannel (Or.inl rfl)
  · rcases hattach : rt.node.attachTransferredChannel key with ⟨result, node⟩
    have hnode : rt.node.step (.attachTransferredChannel key) = some node :=
      congrArg some (congrArg Prod.snd hattach)
    rw [hattach] at h
    cases result with
    | error err | ok session =>
      obtain rfl := Option.some.inj h
      exact .acceptorChannel (Or.inr hnode)

theorem move_taskStarts {i : ℕ} (h : rt.taskStarts i = some rt') : rt.Move (.taskStarts i) rt' := by
  unfold taskStarts at h
  split at h
  · rename_i call hcall hbody
    obtain rfl := Option.some.inj h
    split_ifs with hclosed
    · exact .taskFailed hcall hbody (Or.inl hclosed)
    · cases hstart : rt.node.dialWebrtcStart call.sessionKey with
      | error err => exact .taskFailed hcall hbody (Or.inr hstart)
      | ok s => exact .webRtcStarted hcall hbody hstart
  · rename_i call hcall hbody
    obtain rfl := Option.some.inj h
    split_ifs with hclosed
    · exact .relayClosed hcall hbody hclosed
    · exact .relayStarted hcall hbody
  · exact absurd h (by simp)

theorem move_webrtcDialed {i : ℕ} {outcome : BrowserRuntimeResult (Connection E)}
    (h : rt.webrtcDialed i outcome = some rt') : rt.Move (.webrtcDialed i outcome) rt' := by
  unfold webrtcDialed at h
  split at h
  · rename_i call s hcall hbody
    cases outcome with
    | error err =>
      obtain rfl := Option.some.inj h
      exact .webRtcDialFailed hcall hbody
    | ok connection =>
      obtain ⟨⟨result, node⟩, hdial, rfl⟩ := Option.map_eq_some_iff.mp h
      exact .webRtcDialed hcall hbody hdial
  · exact absurd h (by simp)

theorem move_relayConnected {i : ℕ} {outcome : BrowserRuntimeResult (Connection E)}
    (h : rt.relayConnected i outcome = some rt') : rt.Move (.relayDialed i outcome) rt' := by
  unfold relayConnected at h
  split at h
  · rename_i call hcall hbody
    cases outcome with
    | error err =>
      obtain rfl := Option.some.inj h
      exact .relayDialed hcall hbody (Or.inl rfl)
    | ok connection =>
      obtain ⟨⟨result, node⟩, hdial, rfl⟩ := Option.map_eq_some_iff.mp h
      exact .relayDialed hcall hbody
        (Or.inr ⟨connection, rfl, Option.map_eq_some_iff.mpr ⟨_, hdial, rfl⟩⟩)
  · rename_i call hcall hbody
    cases outcome with
    | error err =>
      obtain rfl := Option.some.inj h
      exact .delegated hcall hbody (Or.inl rfl)
    | ok connection =>
      obtain ⟨⟨result, node⟩, hdial, rfl⟩ := Option.map_eq_some_iff.mp h
      exact .delegated hcall hbody
        (Or.inr ⟨connection, rfl, Option.map_eq_some_iff.mpr ⟨_, hdial, rfl⟩⟩)
  · exact absurd h (by simp)

/-- **Every step is one of the moves.** -/
theorem step_move {ev : RuntimeEvent E} (h : rt.step ev = some rt') : rt.Move ev rt' := by
  cases ev with
  | dial remote alpn transportIntent => exact move_dial h
  | prepare remote alpn transportIntent => exact move_prepare h
  | bootstrapStep i ok => exact move_bootstrapStep h
  | setupStarts i created => exact move_setupStarts h
  | offerCreated i created => exact move_offerCreated h
  | localIce i done => exact move_localIce h
  | acceptBootstrap =>
    obtain rfl := Option.some.inj h
    exact .acceptedBootstrap
  | receiveSignal loop signal created => exact move_receiveSignal h
  | signalApplied loop ok => exact move_signalApplied h
  | streamError loop => exact move_streamError h
  | dataChannel key event =>
    rw [step, dataChannelEvent] at h
    split_ifs at h
    obtain rfl := Option.some.inj h
    exact .channelEvent
  | acceptorChannel key received => exact move_acceptorChannel h
  | taskStarts i => exact move_taskStarts h
  | webrtcDialed i outcome => exact move_webrtcDialed h
  | relayDialed i outcome => exact move_relayConnected h
  | resume i =>
    rw [step, resume] at h
    split at h
    · obtain rfl := Option.some.inj h
      exact .resumed ‹_› ‹_›
    · exact absurd h (by simp)
  | nodeOp op =>
    rw [step] at h
    split_ifs at h with hop
    obtain ⟨node, hnode, rfl⟩ := Option.map_eq_some_iff.mp h
    exact .direct hop hnode
  | closeNode reason sent =>
    obtain rfl := Option.some.inj h
    exact .closed

/-- A lifecycle event is ignored by a closed node, refused, or completes the calls of its session
from the session that it leaves. -/
theorem applyRtcLifecycleResult_cases (rt : BrowserRuntime E) (input : RtcLifecycleInput) :
    (rt.node.closed = true ∧ rt.applyRtcLifecycleResult input = rt) ∨
      rt.node.closed = false ∧ ∃ node, rt.node.step (.rtcLifecycle input) = some node ∧
        ((∃ err, (rt.node.handleRtcLifecycleResult input).1 = .error err ∧
            rt.applyRtcLifecycleResult input = { rt with node := node }) ∨
          ∃ s diagnostic, node.session input.sessionKey = some s ∧
            rt.applyRtcLifecycleResult input = { rt with node := node }.completeFromSession
              (some input.sessionKey) (some s) diagnostic) := by
  unfold applyRtcLifecycleResult
  cases hclosed : rt.node.closed with
  | true => exact Or.inl ⟨rfl, rfl⟩
  | false =>
    refine Or.inr ⟨rfl, (rt.node.handleRtcLifecycleResult input).2, rfl, ?_⟩
    rcases hhandle : rt.node.handleRtcLifecycleResult input with ⟨result, node⟩
    cases result with
    | error err => exact Or.inl ⟨err, rfl, rfl⟩
    | ok result =>
      obtain ⟨hkey, s, hs, hnode⟩ :=
        BrowserRuntimeNode.session_of_handleRtcLifecycleResult_ok hhandle
      refine Or.inr ⟨s, terminalMessage result.outboundSignals, hnode, ?_⟩
      simp only [Bool.false_eq_true, if_false]
      rw [hkey, hs]

theorem applyRtcLifecycleResult_node (rt : BrowserRuntime E) (input : RtcLifecycleInput) :
    (rt.applyRtcLifecycleResult input).node = rt.node ∨
      rt.node.step (.rtcLifecycle input) = some (rt.applyRtcLifecycleResult input).node := by
  rcases rt.applyRtcLifecycleResult_cases input with
    ⟨-, heq⟩ | ⟨-, node, hnode, ⟨err, -, heq⟩ | ⟨s, diagnostic, -, heq⟩⟩
  · rw [heq]
    exact Or.inl rfl
  · rw [heq]
    exact Or.inr hnode
  · rw [heq, completeFromSession_node]
    exact Or.inr hnode

theorem applyRtcLifecycleResult_sameTasks (rt : BrowserRuntime E) (input : RtcLifecycleInput) :
    SameTasks rt (rt.applyRtcLifecycleResult input) := by
  rcases rt.applyRtcLifecycleResult_cases input with
    ⟨-, heq⟩ | ⟨-, node, hnode, ⟨err, -, heq⟩ | ⟨s, diagnostic, -, heq⟩⟩
  · rw [heq]
    exact .refl rt
  · rw [heq]
    exact ⟨rfl, rfl, rfl, rfl, rfl, rfl, rfl⟩
  · rw [heq]
    obtain ⟨h₁, h₂, h₃, h₄, h₅, h₆, h₇⟩ := { rt with node := node }.completeFromSession_sameTasks
      (some input.sessionKey) (some s) diagnostic
    exact ⟨h₁, h₂, h₃, h₄, h₅, h₆, h₇⟩

theorem Registered.applyRtcLifecycleResult (h : rt.Registered) (input : RtcLifecycleInput) :
    (rt.applyRtcLifecycleResult input).Registered := by
  rcases rt.applyRtcLifecycleResult_cases input with
    ⟨-, heq⟩ | ⟨-, node, hnode, ⟨err, -, heq⟩ | ⟨s, diagnostic, -, heq⟩⟩
  · rw [heq]
    exact h
  · rw [heq]
    exact h.congr ⟨rfl, rfl, rfl, rfl⟩
  · rw [heq]
    have hnode' : ({ rt with node := node }).Registered := h.congr ⟨rfl, rfl, rfl, rfl⟩
    exact hnode'.completeFromSession ..

/-! ## The node -/

/-- The operation that an event performs on the node. -/
inductive Issues (rt : BrowserRuntime E) : RuntimeEvent E → NodeOp E → Prop where
  | dial {ev : RuntimeEvent E} {request : DialRequest E} (hev : ev.request = some request) :
      Issues rt ev (.allocateDial request.remote request.alpn request.transportIntent)
  | attach {i : ℕ} {call : DialCall E} {created : Except String Unit}
      (hcall : rt.calls i = some call) :
      Issues rt (.setupStarts i created) (.attachTransferredChannel call.sessionKey)
  | setupFails {ev : RuntimeEvent E} {i : ℕ} {call : DialCall E} {message : String}
      (hcall : rt.calls i = some call) (hfails : rt.FailsSetup i call ev) :
      Issues rt ev (.rtcLifecycle ⟨call.sessionKey, .webRtcFailed message, none⟩)
  | signal {loop : LoopId} {signal : WebRtcSignal E} {created : Bool} :
      Issues rt (.receiveSignal loop signal created) (.bootstrapSignal ⟨signal, none⟩)
  | channel {key : BrowserSessionKey} {event : RtcLifecycleEvent} :
      Issues rt (.dataChannel key event) (.rtcLifecycle ⟨key, event, none⟩)
  | acceptorChannel {key : BrowserSessionKey} {received : Bool} :
      Issues rt (.acceptorChannel key received) (.attachTransferredChannel key)
  | webRtcDialed {i : ℕ} {call : DialCall E} {s : BrowserSessionState E}
      {connection : Connection E} (hcall : rt.calls i = some call) :
      Issues rt (.webrtcDialed i (.ok connection))
        (.dialWebrtcConnected call.sessionKey s connection)
  | relayDialed {i : ℕ} {call : DialCall E} {connection : Connection E}
      (hcall : rt.calls i = some call) :
      Issues rt (.relayDialed i (.ok connection))
        (.dialIrohConnected connection (some call.sessionKey))
  | direct {op : NodeOp E} (hop : op.isDirect = true) : Issues rt (.nodeOp op) op
  | closeNode {reason : Option String} {sent : Bool} :
      Issues rt (.closeNode reason sent) (.closeNode reason)

/-- An event performs at most one operation on the node. -/
theorem step_node {ev : RuntimeEvent E} (h : rt.Move ev rt') :
    rt'.node = rt.node ∨ ∃ op, rt.Issues ev op ∧ rt.node.step op = some rt'.node := by
  cases h with
  | started hev hclosed hnode hkey hsession hphase => exact Or.inr ⟨_, .dial hev, hnode⟩
  | registered hcall hbody => exact Or.inl (dropSender_node ..)
  | @setupFailed ev i call message hcall hfails =>
    rcases (rt.setSetup i .finished).applyRtcLifecycleResult_node
      ⟨call.sessionKey, .webRtcFailed message, none⟩ with hsame | hnode
    · exact Or.inl hsame
    · exact Or.inr ⟨_, .setupFails hcall hfails, hnode⟩
  | attached hcall hsetup hnode => exact Or.inr ⟨_, .attach hcall, hnode⟩
  | loopEnded hends hnode =>
    rcases hnode with rfl | ⟨signal, created, rfl, hnode⟩
    · exact Or.inl rfl
    · exact Or.inr ⟨_, .signal, hnode⟩
  | received hloop hclosed hnode hsession =>
    refine Or.inr ⟨_, .signal, ?_⟩
    rw [completeFromSession_node]
    exact hnode
  | applying hloop hclosed hnode hkey hresult hsession => exact Or.inr ⟨_, .signal, hnode⟩
  | @applied loop signal result hloop =>
    refine Or.inl ((completeFromSession_node ..).trans ?_)
    cases signal <;> rfl
  | channelEvent =>
    rcases rt.applyRtcLifecycleResult_node ⟨_, _, none⟩ with hsame | hnode
    · exact Or.inl hsame
    · exact Or.inr ⟨_, .channel, hnode⟩
  | acceptorChannel hnode =>
    rcases hnode with rfl | hnode
    · exact Or.inl rfl
    · exact Or.inr ⟨_, .acceptorChannel, hnode⟩
  | webRtcDialed hcall hbody hdial =>
    exact Or.inr ⟨_, .webRtcDialed hcall, Option.map_eq_some_iff.mpr ⟨_, hdial, rfl⟩⟩
  | relayDialed hcall hbody hnode | delegated hcall hbody hnode =>
    rcases hnode with rfl | ⟨connection, rfl, hnode⟩
    · exact Or.inl rfl
    · exact Or.inr ⟨_, .relayDialed hcall, hnode⟩
  | resumed hcall hbody => exact Or.inl (dropSender_node ..)
  | direct hop hnode => exact Or.inr ⟨_, .direct hop, hnode⟩
  | closed => exact Or.inr ⟨_, .closeNode, rfl⟩
  | _ => exact Or.inl rfl

end BrowserRuntime

end IrohWebRtc
