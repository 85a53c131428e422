import IrohWebRtc.Browser.ConnectionSteps
import IrohWebRtc.Browser.PendingDial
import IrohWebRtc.Browser.SessionRuns

/-!
# Transport intents of the browser node

A dial for WebRTC only must not end on the relay, and a dial for the relay must not end on WebRTC.
The sessions are held to that by `validate_transport_resolution` and by `apply_terminal_reason`,
and the connections by the checks of their admission.

A connection is recorded with a transport and, if it belongs to a session, with its key.  At the
moment of its admission the two fit; the session may change afterwards, and so may the connection,
which can be closed.  What is proved is that they never come apart: the fields that matter are not
written again, neither those of the session nor those of the connection.

* `respectsIntent_of_run`: no session of a reachable node goes against its intent.
* `exists_admission`: every connection of a reachable node was recorded by a step that left it
  fitting the session of its key.
* `intentSafety`: both, and what follows for the connections and sessions of one node as long as
  every dial gets a new id.

The last condition is there because a dial with the id of an older session takes its place in the
table, and the connections of the older one would then be compared with a session that is not
theirs.
-/

namespace IrohWebRtc

/-! ## Sessions -/

/-- The session does not go against its transport intent. -/
structure RespectsIntent {E : Type*} (s : BrowserSessionState E) : Prop where
  noRelay : s.transportIntent = .webRtcOnly →
    s.resolvedTransport ≠ some .irohRelay ∧ s.lifecycle ≠ .relaySelected ∧
      pendingDialActionFromSession s ≠ some .relay
  noWebRtc : s.transportIntent = .irohRelay → s.resolvedTransport ≠ some .webRtc

namespace RespectsIntent

variable {E : Type*} {s t : BrowserSessionState E}

/-- The pending dial needs no check of its own. -/
theorem mk_of_session
    (hrelay : s.transportIntent = .webRtcOnly →
      s.resolvedTransport ≠ some .irohRelay ∧ s.lifecycle ≠ .relaySelected)
    (hwebRtc : s.transportIntent = .irohRelay → s.resolvedTransport ≠ some .webRtc) :
    RespectsIntent s := by
  refine ⟨fun honly => ?_, hwebRtc⟩
  obtain ⟨hresolved, hlifecycle⟩ := hrelay honly
  refine ⟨hresolved, hlifecycle, fun haction => ?_⟩
  rcases pendingAction_eq_relay haction with h | h
  · exact hresolved h
  · exact hlifecycle h

/-- What keeps the intent and the resolution, and selects no relay, goes on respecting it. -/
theorem of_same (h : RespectsIntent s) (hintent : t.transportIntent = s.transportIntent)
    (hresolved : t.resolvedTransport = s.resolvedTransport)
    (hlifecycle : t.lifecycle = s.lifecycle ∨ t.lifecycle ≠ .relaySelected) :
    RespectsIntent t := by
  refine mk_of_session (fun honly => ?_) (fun hrelay => ?_)
  · obtain ⟨hnot, hlifecycle', -⟩ := h.noRelay (hintent ▸ honly)
    refine ⟨hresolved ▸ hnot, ?_⟩
    rcases hlifecycle with heq | hne
    · exact heq ▸ hlifecycle'
    · exact hne
  · exact hresolved ▸ h.noWebRtc (hintent ▸ hrelay)

theorem applyTerminalReason (h : RespectsIntent s) (reason : WebRtcTerminalReason) :
    RespectsIntent (s.applyTerminalReason reason).2 := by
  cases reason with
  | fallbackSelected =>
    rw [BrowserSessionState.applyTerminalReason]
    split_ifs with hallows
    · refine mk_of_session (fun honly => ?_) (fun _ => by simp)
      have hintent : s.transportIntent = .webRtcOnly := honly
      rw [hintent] at hallows
      exact absurd hallows (by decide)
    · exact h.of_same rfl rfl (Or.inr (by simp [BrowserSessionState.fail]))
  | webRtcFailed =>
    exact h.of_same rfl rfl (Or.inr (by simp [BrowserSessionState.applyTerminalReason,
      BrowserSessionState.fail]))
  | cancelled | closed =>
    exact h.of_same rfl rfl (Or.inr (by simp [BrowserSessionState.applyTerminalReason,
      BrowserSessionState.close]))

theorem change (hchange : SessionChange s t) (h : RespectsIntent s) : RespectsIntent t := by
  cases hchange with
  | attached | opened => exact h.of_same rfl rfl (Or.inl rfl)
  | resolved transport hresolve =>
    refine mk_of_session (fun honly => ?_) (fun hrelay => ?_)
    · refine ⟨fun heq => ?_, by simp [BrowserSessionState.resolved]⟩
      obtain rfl := Option.some.inj heq
      exact hresolve honly
    · intro heq
      obtain rfl := Option.some.inj heq
      exact hresolve.1 hrelay
  | terminalReceived reason =>
    have hs : RespectsIntent { s with terminalReceived := some reason } :=
      h.of_same rfl rfl (Or.inl rfl)
    exact hs.applyTerminalReason reason
  | terminalSent reason =>
    have hs : RespectsIntent { s with terminalSent := some reason } :=
      h.of_same rfl rfl (Or.inl rfl)
    exact hs.applyTerminalReason reason
  | closed => exact h.of_same rfl rfl (Or.inr (by simp [BrowserSessionState.close]))
  | closedForNode reason =>
    rw [BrowserSessionState.closeForNode]
    split_ifs <;> exact h.of_same rfl rfl (Or.inr (by simp [BrowserSessionState.close]))

theorem new (sessionKey : BrowserSessionKey) (dialId : DialId) (generation : ℕ) (localId remote : E)
    (alpn : String) (role : BrowserSessionRole) (transportIntent : BootstrapTransportIntent) :
    RespectsIntent
      (.new sessionKey dialId generation localId remote alpn role transportIntent) := by
  refine mk_of_session (fun honly => ⟨?_, ?_⟩) (fun _ => ?_)
  · simp [BrowserSessionState.new]
  · obtain rfl : transportIntent = .webRtcOnly := honly
    simp [BrowserSessionState.new, BootstrapTransportIntent.usesWebrtc]
  · simp [BrowserSessionState.new]

end RespectsIntent

namespace BrowserRuntimeNode

section

variable {E : Type*} [DecidableEq E] [EndpointKey E] {node node' : BrowserRuntimeNode E}

section

variable [Blake3]

/-- No session of a reachable node goes against its intent. -/
theorem respectsIntent_of_run (hspawned : node.Spawned) {ops : List (NodeOp E)}
    (hrun : Runs.run step node ops = some node') {key : BrowserSessionKey}
    {s : BrowserSessionState E} (hs : node'.session key = some s) : RespectsIntent s :=
  session_invariant RespectsIntent.new (fun _ _ hchange h => h.change hchange) hspawned hrun hs

end

/-! ## Connections -/

/-- The connection fits the session of its key: over WebRTC the session uses WebRTC, its channel is
open and the selected path is its own, and over the relay the session is not for WebRTC only. -/
structure Fits (node : BrowserRuntimeNode E) (c : BrowserConnectionState E) : Prop where
  webRtc : c.transport = .webRtc → ∃ key s, c.sessionKey = some key ∧ node.session key = some s ∧
    s.transportIntent.usesWebrtc = true ∧ s.channelAttachment = .open ∧
    requireWebrtcSelectedPath c.irohConnection (.session s.remote s.dialId) = .ok ()
  irohRelay : c.transport = .irohRelay → ∀ key, c.sessionKey = some key →
    ∃ s, node.session key = some s ∧ s.transportIntent ≠ .webRtcOnly

/-- The operation can admit a connection over `transport` for `sessionKey`. -/
inductive Admits (node : BrowserRuntimeNode E) :
    NodeOp E → BrowserResolvedTransport → Option BrowserSessionKey → Prop where
  | relay {connection : Connection E} {queueAccept : Bool} :
    Admits node (.relayConnection connection queueAccept) .irohRelay none
  | accepted {order : List BrowserSessionKey} {connection : Connection E} {queueAccept : Bool}
      {s : BrowserSessionState E} (hs : node.eligibleSession order connection = some s) :
      Admits node (.webrtcConnection order connection queueAccept) .webRtc (some s.sessionKey)
  | relayDialed {connection : Connection E} {sessionKey : Option BrowserSessionKey} :
    Admits node (.dialIrohConnected connection sessionKey) .irohRelay sessionKey
  | webRtcDialed {sessionKey : BrowserSessionKey} {session : BrowserSessionSnapshot E}
      {connection : Connection E} :
      Admits node (.dialWebrtcConnected sessionKey session connection) .webRtc (some sessionKey)

/-- The two states are of one connection. -/
structure SameConnection (c d : BrowserConnectionState E) : Prop where
  irohConnection : d.irohConnection = c.irohConnection
  sessionKey : d.sessionKey = c.sessionKey
  transport : d.transport = c.transport

/-- Every connection of `v` was there in `u`, up to being closed since. -/
def OldConnections (u v : BrowserRuntimeNode E) : Prop :=
  ∀ connectionKey c, v.connections.lookup connectionKey = some c →
    ∃ c₀, u.connections.lookup connectionKey = some c₀ ∧ SameConnection c₀ c

omit [DecidableEq E] [EndpointKey E] in
theorem OldConnections.of_eq {u v : BrowserRuntimeNode E} (h : v.connections = u.connections) :
    OldConnections u v := fun _ c hc => ⟨c, h ▸ hc, rfl, rfl, rfl⟩

theorem usesWebrtc_of_ne {transportIntent : BootstrapTransportIntent}
    (h : transportIntent ≠ .irohRelay) : transportIntent.usesWebrtc = true := by
  cases transportIntent with
  | irohRelay => exact absurd rfl h
  | webRtcPreferred | webRtcOnly => rfl

/-- What the checks of a WebRTC admission establish. -/
theorem checkAdmission_webRtc {connection : Connection E} {sessionKey : Option BrowserSessionKey}
    {queueAccept : Bool}
    (h : node.checkAdmission connection .webRtc sessionKey queueAccept = .ok ()) :
    ∃ key s, sessionKey = some key ∧ node.session key = some s ∧
      s.transportIntent.usesWebrtc = true ∧ s.channelAttachment = .open ∧
      requireWebrtcSelectedPath connection (.session s.remote s.dialId) = .ok () := by
  unfold checkAdmission at h
  split_ifs at h
  cases hkey : sessionKey with
  | none =>
    rw [hkey] at h
    exact absurd h (by simp)
  | some key =>
    rw [hkey, Option.bind_some] at h
    cases hs : node.sessions.lookup key with
    | none =>
      rw [hs] at h
      exact absurd h (by simp)
    | some s =>
      rw [hs] at h
      dsimp only at h
      cases hvalid : validateTransportResolution s .webRtc with
      | error err =>
        rw [hvalid] at h
        exact absurd h (by simp)
      | ok value =>
        rw [hvalid] at h
        obtain ⟨hintent, hopen⟩ := BrowserSessionState.validateTransportResolution_eq_ok.mp hvalid
        dsimp only at h
        cases hpath : requireWebrtcSelectedPath connection (.session s.remote s.dialId) with
        | error err =>
          rw [hpath] at h
          exact absurd h (by simp)
        | ok value => exact ⟨key, s, rfl, hs, usesWebrtc_of_ne hintent, hopen, hpath⟩

/-- What an admission does to the connections, when it leaves the sessions alone. -/
theorem connections_of_admission {connection : Connection E} {transport : BrowserResolvedTransport}
    {sessionKey : Option BrowserSessionKey} {queueAccept : Bool}
    {result : BrowserRuntimeResult (BrowserAcceptedConnection E × Option AcceptWaiter)}
    (h : node.admitIrohApplicationConnection connection transport sessionKey queueAccept =
      some (result, node')) (hsame : SameSessions node node')
    (hrelay : transport = .irohRelay → ∀ key, sessionKey = some key →
      ∃ s, node.session key = some s ∧ s.transportIntent ≠ .webRtcOnly) :
    ∀ connectionKey c, node'.connections.lookup connectionKey = some c →
      node.connections.lookup connectionKey = some c ∨
        node'.Fits c ∧ c.transport = transport ∧ c.sessionKey = sessionKey := by
  intro connectionKey c hc
  rcases admit_cases h with rfl | ⟨hcheck, accepted, m, hm, hconnections, hkey, htransport, hnode⟩
  · exact Or.inl hc
  · rcases hnode with rfl | rfl
    · exact Or.inl (hconnections ▸ hc)
    · rw [connections_recordConnection, Table.lookup_insert_eq, hconnections] at hc
      split_ifs at hc with hconnectionKey
      · obtain rfl := Option.some.inj hc
        refine Or.inr ⟨⟨fun hwebRtc => ?_, fun hirohRelay key hc => ?_⟩, htransport, hkey⟩
        · obtain rfl := htransport.symm.trans hwebRtc
          obtain ⟨key, s, hs⟩ := checkAdmission_webRtc hcheck
          rw [hsame.session]
          exact ⟨key, s, hkey.trans hs.1, hs.2⟩
        · rw [hsame.session]
          exact hrelay (htransport.symm.trans hirohRelay) key (hkey.symm.trans hc)
      · exact Or.inl hc

/-! ## Operations that record no connection -/

omit [DecidableEq E] in
theorem oldConnections_connectionClose (node : BrowserRuntimeNode E)
    (connectionKey : BrowserConnectionKey) :
    OldConnections node (node.connectionClose connectionKey).2 := by
  unfold connectionClose
  split
  · exact .of_eq rfl
  · cases hlookup : node.connections.lookup connectionKey with
    | none => exact .of_eq rfl
    | some c₀ =>
      have hclosed : ∀ v : BrowserRuntimeNode E,
          v.connections = node.connections.insert connectionKey { c₀ with closed := true } →
          OldConnections node v := by
        intro v hv key c hc
        rw [hv, Table.lookup_insert_eq] at hc
        split_ifs at hc with hkey
        · obtain rfl := Option.some.inj hc
          exact ⟨c₀, hkey ▸ hlookup, rfl, rfl, rfl⟩
        · exact ⟨c, hc, rfl, rfl, rfl⟩
      dsimp only
      split <;> exact hclosed _ rfl

omit [DecidableEq E] [EndpointKey E] in
theorem oldConnections_closeInner (node : BrowserRuntimeNode E) (reason : Option String) :
    OldConnections node (node.closeInner reason).2 := by
  unfold closeInner
  split
  · exact .of_eq rfl
  · intro key c hc
    rw [Table.lookup_mapValues] at hc
    obtain ⟨c₀, hc₀, rfl⟩ := Option.map_eq_some_iff.mp hc
    exact ⟨c₀, hc₀, rfl, rfl, rfl⟩

section

variable [Blake3]

/-- An operation that admits no connection leaves the connections as they are, up to closing
them. -/
theorem oldConnections_of_step {op : NodeOp E} (hstep : node.step op = some node')
    (hrelay : ∀ connection queueAccept, op ≠ .relayConnection connection queueAccept)
    (hwebrtc : ∀ order connection queueAccept, op ≠ .webrtcConnection order connection queueAccept)
    (hiroh : ∀ connection sessionKey, op ≠ .dialIrohConnected connection sessionKey)
    (hdial : ∀ sessionKey session connection,
      op ≠ .dialWebrtcConnected sessionKey session connection) : OldConnections node node' := by
  cases op with
  | allocateDial remote alpn transportIntent =>
    obtain ⟨⟨result, m⟩, hdial, rfl⟩ := Option.map_eq_some_iff.mp hstep
    exact .of_eq (registry_allocateDial hdial).connections
  | attachTransferredChannel sessionKey =>
    obtain rfl := Option.some.inj hstep
    exact .of_eq (registry_updateSession node sessionKey _).connections
  | completeDial sessionKey transport =>
    obtain rfl := Option.some.inj hstep
    exact .of_eq (registry_updateSession node sessionKey _).connections
  | bootstrapSignal input =>
    obtain rfl := Option.some.inj hstep
    exact .of_eq (registry_handleBootstrapSignal node input).connections
  | rtcLifecycle input =>
    obtain rfl := Option.some.inj hstep
    exact .of_eq (registry_handleRtcLifecycleResult node input).connections
  | decideWebrtcFailure sessionKey message =>
    obtain rfl := Option.some.inj hstep
    exact .of_eq (registry_emitTerminalDecision node sessionKey none message).connections
  | closeSession sessionKey message =>
    obtain rfl := Option.some.inj hstep
    exact .of_eq (registry_emitTerminalDecision node sessionKey (some .closed) message).connections
  | relayConnection connection queueAccept => exact absurd rfl (hrelay connection queueAccept)
  | webrtcConnection order connection queueAccept =>
    exact absurd rfl (hwebrtc order connection queueAccept)
  | webrtcProtocolConnection order connection =>
    obtain rfl := Option.some.inj hstep
    exact .of_eq (registry_acceptWebrtcConnection node order connection).connections
  | dialIrohConnected connection sessionKey => exact absurd rfl (hiroh connection sessionKey)
  | dialWebrtcConnected sessionKey session connection =>
    exact absurd rfl (hdial sessionKey session connection)
  | connectionClose connectionKey =>
    obtain rfl := Option.some.inj hstep
    exact oldConnections_connectionClose node connectionKey
  | acceptOpen alpn =>
    obtain rfl := Option.some.inj hstep
    refine .of_eq ?_
    unfold acceptOpen
    split
    · rfl
    · split_ifs
      · rfl
      · split
        · rfl
        · split_ifs <;> rfl
  | acceptNext acceptId =>
    obtain rfl := Option.some.inj hstep
    refine .of_eq ?_
    unfold acceptNext
    split_ifs
    · rfl
    · split
      · rfl
      · split <;> rfl
  | acceptClose acceptId =>
    obtain rfl := Option.some.inj hstep
    refine .of_eq ?_
    unfold acceptClose
    split <;> rfl
  | dropWaiter waiter =>
    obtain rfl := Option.some.inj hstep
    exact .of_eq rfl
  | closeNode reason =>
    obtain rfl := Option.some.inj hstep
    exact oldConnections_closeInner node reason

/-! ## Operations that admit a connection -/

omit [Blake3] in
/-- The end of a dial over `transport` completes the dial and then admits its connection. -/
theorem connections_of_dialConnected {sessionKey : BrowserSessionKey}
    {transport : BrowserResolvedTransport} {connection : Connection E}
    {result : BrowserRuntimeResult (BrowserAcceptedConnection E × Option AcceptWaiter)}
    (h : (match node.completeDial sessionKey transport with
        | (.error err, node) => some (.error err, node)
        | (.ok _, node) =>
          node.admitIrohApplicationConnection connection transport (some sessionKey) false) =
      some (result, node')) :
    ∀ connectionKey c, node'.connections.lookup connectionKey = some c →
      node.connections.lookup connectionKey = some c ∨
        node'.Fits c ∧ c.transport = transport ∧ c.sessionKey = some sessionKey := by
  have hconnections := (registry_updateSession node sessionKey
    fun s => s.completeDial transport).connections
  rcases hcomplete : node.completeDial sessionKey transport with ⟨completed, m⟩
  rw [hcomplete] at h
  rw [completeDial] at hcomplete
  rw [hcomplete] at hconnections
  cases completed with
  | error err =>
    obtain ⟨-, rfl⟩ := Prod.mk.inj (Option.some.inj h)
    intro connectionKey c hc
    exact Or.inl (hconnections ▸ hc)
  | ok t =>
    obtain ⟨hm, ht, hresolve⟩ := session_of_completeDial_ok hcomplete
    have hsame := admit_of_completeDial_ok hm ht h
    have hrelay : transport = .irohRelay → ∀ key, some sessionKey = some key →
        ∃ s, m.session key = some s ∧ s.transportIntent ≠ .webRtcOnly := by
      rintro rfl key hkey
      obtain rfl := Option.some.inj hkey
      exact ⟨t, hm, hresolve⟩
    intro connectionKey c hc
    have hcases := connections_of_admission h hsame hrelay connectionKey c hc
    rw [hconnections] at hcases
    exact hcases

/-- **What a step does to the connections**: each was there before, up to being closed, or the step
admitted it to the session it fits. -/
theorem step_connection {op : NodeOp E} (hstep : node.step op = some node')
    {connectionKey : BrowserConnectionKey} {c : BrowserConnectionState E}
    (hc : node'.connections.lookup connectionKey = some c) :
    (∃ c₀, node.connections.lookup connectionKey = some c₀ ∧ SameConnection c₀ c) ∨
      node'.Fits c ∧ node.Admits op c.transport c.sessionKey := by
  have hold : ∀ {transport sessionKey}, node.Admits op transport sessionKey →
      (node.connections.lookup connectionKey = some c ∨
        node'.Fits c ∧ c.transport = transport ∧ c.sessionKey = sessionKey) →
      (∃ c₀, node.connections.lookup connectionKey = some c₀ ∧ SameConnection c₀ c) ∨
        node'.Fits c ∧ node.Admits op c.transport c.sessionKey := by
    rintro transport sessionKey hadmits (hc | ⟨hfits, rfl, rfl⟩)
    · exact Or.inl ⟨c, hc, rfl, rfl, rfl⟩
    · exact Or.inr ⟨hfits, hadmits⟩
  cases op with
  | relayConnection connection queueAccept =>
    obtain ⟨⟨result, m⟩, hadmit, rfl⟩ := Option.map_eq_some_iff.mp hstep
    have hsame := admit_sameSessions hadmit fun key s hkey => absurd hkey (by simp)
    exact hold .relay (connections_of_admission hadmit hsame
      (fun _ key hkey => absurd hkey (by simp)) connectionKey c hc)
  | webrtcConnection order connection queueAccept =>
    obtain ⟨⟨result, m⟩, hadmit, rfl⟩ := Option.map_eq_some_iff.mp hstep
    rw [handleWebrtcConnection] at hadmit
    rcases node.acceptWebrtcConnection_cases order connection with
      ⟨err, heq, -⟩ | ⟨s, -, helig, -, -, heq⟩
    · rw [heq] at hadmit
      obtain ⟨-, rfl⟩ := Prod.mk.inj (Option.some.inj hadmit)
      exact Or.inl ⟨c, hc, rfl, rfl, rfl⟩
    · rw [heq] at hadmit
      have hm : { node with sessions := node.sessions.insert s.sessionKey (s.resolved .webRtc)
          }.refreshWebrtcTransportAddrs.session s.sessionKey = some (s.resolved .webRtc) :=
        AList.lookup_insert _
      have hsame := admit_of_completeDial_ok hm BrowserSessionState.resolved_resolved hadmit
      exact hold (.accepted helig)
        (connections_of_admission hadmit hsame (fun h => absurd h (by simp)) connectionKey c hc)
  | dialIrohConnected connection sessionKey =>
    obtain ⟨⟨result, m⟩, hdial, rfl⟩ := Option.map_eq_some_iff.mp hstep
    cases sessionKey with
    | none =>
      have hsame := admit_sameSessions hdial fun key s hkey => absurd hkey (by simp)
      exact hold .relayDialed (connections_of_admission hdial hsame
        (fun _ key hkey => absurd hkey (by simp)) connectionKey c hc)
    | some sessionKey =>
      exact hold .relayDialed (connections_of_dialConnected hdial connectionKey c hc)
  | dialWebrtcConnected sessionKey session connection =>
    obtain ⟨⟨result, m⟩, hdial, rfl⟩ := Option.map_eq_some_iff.mp hstep
    rw [dialWebrtcConnected] at hdial
    cases hpath : requireWebrtcSelectedPath connection (.session session.remote session.dialId) with
    | error err =>
      rw [hpath] at hdial
      obtain ⟨-, rfl⟩ := Prod.mk.inj (Option.some.inj hdial)
      exact Or.inl ⟨c, hc, rfl, rfl, rfl⟩
    | ok value =>
      rw [hpath] at hdial
      exact hold .webRtcDialed (connections_of_dialConnected hdial connectionKey c hc)
  | _ =>
    exact Or.inl (oldConnections_of_step hstep (by simp) (by simp) (by simp) (by simp)
      connectionKey c hc)

/-- Every connection of a reachable node was recorded by a step that left it fitting the session of
its key. -/
theorem exists_admission (hspawned : node.Spawned) {ops : List (NodeOp E)}
    (hrun : Runs.run step node ops = some node') {connectionKey : BrowserConnectionKey}
    {c : BrowserConnectionState E} (hc : node'.connections.lookup connectionKey = some c) :
    ∃ pre op post u v, ops = pre ++ op :: post ∧ Runs.run step node pre = some u ∧
      u.step op = some v ∧ Runs.run step v post = some node' ∧
      ∃ c₀, SameConnection c₀ c ∧ v.Fits c₀ := by
  have hstart : ¬ ∃ c₀, node.connections.lookup connectionKey = some c₀ ∧ SameConnection c₀ c := by
    rintro ⟨c₀, hc₀, -⟩
    exact absurd ((hspawned.connections connectionKey).symm.trans hc₀) (by simp)
  obtain ⟨pre, op, post, u, v, hops, hu, hv, hpost, hnot, c₁, hc₁, hsame⟩ :=
    Runs.exists_step_of_run
      (P := fun w => ∃ c₀, w.connections.lookup connectionKey = some c₀ ∧ SameConnection c₀ c)
      hstart ⟨c, hc, rfl, rfl, rfl⟩ hrun
  rcases step_connection hv hc₁ with ⟨c₀, hc₀, hold⟩ | ⟨hfits, -⟩
  · refine absurd ⟨c₀, hc₀, ?_, ?_, ?_⟩ hnot
    · exact hsame.irohConnection.trans hold.irohConnection
    · exact hsame.sessionKey.trans hold.sessionKey
    · exact hsame.transport.trans hold.transport
  · exact ⟨pre, op, post, u, v, hops, hu, hv, hpost, c₁, hsame, hfits⟩

/-! ## Intents of connections -/

/-- The connection and the session of its key agree on the intent. -/
def AgreesWith (c : BrowserConnectionState E) (s : BrowserSessionState E) : Prop :=
  (c.transport = .irohRelay → s.transportIntent ≠ .webRtcOnly) ∧
    (c.transport = .webRtc → s.transportIntent ≠ .irohRelay)

omit [Blake3] in
theorem Fits.agreesWith {c : BrowserConnectionState E} (h : node.Fits c)
    {key : BrowserSessionKey} (hkey : c.sessionKey = some key) :
    ∃ s, node.session key = some s ∧ AgreesWith c s := by
  cases htransport : c.transport with
  | irohRelay =>
    obtain ⟨s, hs, honly⟩ := h.irohRelay htransport key hkey
    refine ⟨s, hs, fun _ => honly, fun h => ?_⟩
    exact absurd (htransport.symm.trans h) (by simp)
  | webRtc =>
    obtain ⟨key', s, hkey', hs, huses, -, -⟩ := h.webRtc htransport
    obtain rfl := Option.some.inj (hkey'.symm.trans hkey)
    refine ⟨s, hs, fun h => ?_, fun _ hrelay => ?_⟩
    · exact absurd (htransport.symm.trans h) (by simp)
    · rw [hrelay] at huses
      exact absurd huses (by decide)

/-- **Transport intents are safe.**  In every reachable node

* no WebRTC-only session is resolved to the relay, selects it or lets its pending dial fall back to
  it, and no relay session is resolved to WebRTC;
* every connection was recorded by a step of the run that left it fitting the session of its key:
  a WebRTC connection has the key of a session that uses WebRTC, with an open channel and the path
  of the connection, and a relay connection that has a key does not have that of a WebRTC-only
  session;
* and as long as no dial of the run generates the id of a session the node has, no WebRTC-only
  session is the one of a relay connection, and no relay session the one of a WebRTC connection. -/
theorem intentSafety (hspawned : node.Spawned) {ops : List (NodeOp E)}
    (hrun : Runs.run step node ops = some node') :
    (∀ key s, node'.session key = some s → RespectsIntent s) ∧
      (∀ connectionKey c, node'.connections.lookup connectionKey = some c →
        ∃ pre op post u v, ops = pre ++ op :: post ∧ Runs.run step node pre = some u ∧
          u.step op = some v ∧ Runs.run step v post = some node' ∧
          ∃ c₀, SameConnection c₀ c ∧ v.Fits c₀) ∧
      (Runs.Guarded step FreshDialId node ops →
        ∀ connectionKey c key s, node'.connections.lookup connectionKey = some c →
          c.sessionKey = some key → node'.session key = some s → AgreesWith c s) := by
  refine ⟨fun key s hs => respectsIntent_of_run hspawned hrun hs,
    fun connectionKey c hc => exists_admission hspawned hrun hc, ?_⟩
  intro hfresh connectionKey c key s hc hkey hs
  obtain ⟨pre, op, post, u, v, rfl, hu, hv, hpost, c₀, hsame, hfits⟩ :=
    exists_admission hspawned hrun hc
  obtain ⟨s₀, hs₀, hagrees⟩ := hfits.agreesWith (hsame.sessionKey.symm.trans hkey)
  have hfreshPost : Runs.Guarded step FreshDialId v post := (hfresh.append_right hu).2 v hv
  have hwf : v.WellKeyed := (hspawned.wellKeyed.run hu).step hv
  obtain ⟨t, ht, hst⟩ := sameSession_run hwf hfreshPost hpost hs₀
  obtain rfl := Option.some.inj (ht.symm.trans hs)
  rw [AgreesWith, hsame.transport, hst.transportIntent]
  exact hagrees

end

end

section Sample

open scoped Sample
open Sample

/-- The WebRTC connection of the first dial to `bob`. -/
def sampleDialConnection : Connection Key where
  remoteId := bob
  alpn := Utf8.utf8Bytes "chat"
  paths := [⟨.custom (WebRtcAddr.session bob sampleDialId).toCustomAddr, true⟩]

/-- The session of that dial, for WebRTC only, once its channel is open. -/
def sampleDialSession : BrowserSessionState Key :=
  { BrowserSessionState.new (.ofDialId sampleDialId) sampleDialId 0 alice bob "chat" .dialer
      .webRtcOnly with
    channelAttachment := .open }

/-- The dial, up to its connection. -/
def sampleWebrtcDial : List (NodeOp Key) :=
  [.allocateDial bob "chat" .webRtcOnly,
    .attachTransferredChannel (.ofDialId sampleDialId),
    .rtcLifecycle ⟨.ofDialId sampleDialId, .dataChannelOpen, none⟩,
    .dialWebrtcConnected (.ofDialId sampleDialId) sampleDialSession sampleDialConnection]

theorem sampleWebrtcDial_fresh : Runs.Guarded step FreshDialId sampleNode sampleWebrtcDial := by
  refine ⟨fun _ _ _ _ _ _ _ => rfl, fun t _ => Runs.Guarded.of_forall fun op hop s => ?_⟩
  intro remote alpn transportIntent session dialIds hdial
  subst hdial
  simp at hop

theorem intentSafety_sample :
    ∃ u c s, Runs.run step sampleNode sampleWebrtcDial = some u ∧
      u.connections.lookup ⟨1⟩ = some c ∧ c.transport = .webRtc ∧
      u.session (.ofDialId sampleDialId) = some s ∧ RespectsIntent s ∧ AgreesWith c s := by
  have hrun : ∃ u c s, Runs.run step sampleNode sampleWebrtcDial = some u ∧
      u.connections.lookup ⟨1⟩ = some c ∧ c.transport = .webRtc ∧
      c.sessionKey = some (.ofDialId sampleDialId) ∧
      u.session (.ofDialId sampleDialId) = some s :=
    ⟨_, _, _, rfl, rfl, rfl, rfl, rfl⟩
  obtain ⟨u, c, s, hu, hc, htransport, hkey, hs⟩ := hrun
  obtain ⟨hsessions, -, hagree⟩ := intentSafety sampleNode_spawned hu
  exact ⟨u, c, s, hu, hc, htransport, hs, hsessions _ s hs,
    hagree sampleWebrtcDial_fresh _ c _ s hc hkey hs⟩

end Sample

end BrowserRuntimeNode

end IrohWebRtc
