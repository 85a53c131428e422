import IrohWebRtc.Browser.NodeSteps

/-!
# What a step of the browser node does to its connections

The connections of a node are in two places: all of them in a table, and those that came in and
that nobody has taken yet in the accept queue of their ALPN.  `ConnectionEffect` lists what a step
can do to the two together, and `connectionEffect_of_step` is the inversion.

This is for connections what `Browser.NodeSteps` is for sessions.  Most operations leave both
places alone (`SameRegistry`).  The others record a new connection and hand it to a queue, to a
waiting call or to the caller; close one that is in the table; take the first of a queue; or open
and close a registration, with what is in it.

* `SameRegistry`: an operation on sessions leaves both alone.
* `admit_registry`: what an admission does.
* `admission`, `taken`: what an operation reports of a connection that was queued or handed over.

A connection is never removed from the table, it is marked as closed.  So the key of a connection
keeps its meaning, and what became of it can be followed through a run.
-/

namespace IrohWebRtc

open Bytes Utf8

namespace BrowserRuntimeNode

variable {E : Type*} {node node' : BrowserRuntimeNode E}

/-- The nodes have the same connections and the same accept registrations. -/
structure SameRegistry (u v : BrowserRuntimeNode E) : Prop where
  connections : v.connections = u.connections
  accepts : v.accepts = u.accepts
  nextConnectionKey : v.nextConnectionKey = u.nextConnectionKey

theorem SameRegistry.refl (node : BrowserRuntimeNode E) : SameRegistry node node :=
  ⟨rfl, rfl, rfl⟩

/-! ## Operations on sessions -/

section Sessions

variable [EndpointKey E]

theorem registry_updateSession (node : BrowserRuntimeNode E) (sessionKey : BrowserSessionKey)
    (update : BrowserSessionState E → BrowserRuntimeResult (BrowserSessionState E)) :
    SameRegistry node (node.updateSession sessionKey update).2 := by
  unfold updateSession
  split
  · exact .refl node
  · split
    · exact .refl node
    · split
      · exact .refl node
      · exact ⟨rfl, rfl, rfl⟩

omit [EndpointKey E] in
theorem registry_emitTerminalDecision (node : BrowserRuntimeNode E)
    (sessionKey : BrowserSessionKey) (reason : Option WebRtcTerminalReason) (message : String) :
    SameRegistry node (node.emitTerminalDecision sessionKey reason message).2 := by
  unfold emitTerminalDecision
  split
  · exact .refl node
  · split
    · exact .refl node
    · exact ⟨rfl, rfl, rfl⟩

theorem registry_handleRtcLifecycleResult (node : BrowserRuntimeNode E)
    (input : RtcLifecycleInput) :
    SameRegistry node (node.handleRtcLifecycleResult input).2 := by
  unfold handleRtcLifecycleResult
  split
  · rw [lifecycleResultOfDecision_snd]
    exact registry_emitTerminalDecision node _ _ _
  · rw [lifecycleResultOfDecision_snd]
    exact registry_emitTerminalDecision node _ _ _
  · rw [lifecycleResultOfDecision_snd]
    exact registry_emitTerminalDecision node _ _ _
  · have hopen := registry_updateSession node input.sessionKey
      BrowserSessionState.markTransferredChannelOpen
    rw [markTransferredChannelOpen]
    generalize node.updateSession input.sessionKey
      BrowserSessionState.markTransferredChannelOpen = opened at hopen ⊢
    obtain ⟨result, m⟩ := opened
    cases result <;> exact hopen

theorem registry_allocateAcceptSession (node : BrowserRuntimeNode E) (remote : E)
    (alpn : String) (dialSession : DialSessionId) (transportIntent : BootstrapTransportIntent) :
    SameRegistry node (node.allocateAcceptSession remote alpn dialSession transportIntent).2 := by
  unfold allocateAcceptSession
  split
  · exact .refl node
  · dsimp only
    split
    · exact .refl node
    · split
      · exact .refl node
      · split <;> exact ⟨rfl, rfl, rfl⟩

theorem registry_handleBootstrapSignal [DecidableEq E] (node : BrowserRuntimeNode E)
    (input : BrowserBootstrapSignalInput E) :
    SameRegistry node (node.handleBootstrapSignal input).2 := by
  obtain ⟨signal, alpnOverride⟩ := input
  cases signal with
  | dialRequest dialId fromId toId generation alpn transportIntent =>
    unfold handleBootstrapSignal
    dsimp only
    split
    · exact .refl node
    · generalize alpnOverride.or (if alpn.isEmpty then none else some alpn) = application
      cases application with
      | none => exact .refl node
      | some alpn =>
        dsimp only
        split
        · exact .refl node
        · have haccept := registry_allocateAcceptSession node fromId alpn ⟨dialId, generation⟩
            transportIntent
          generalize node.allocateAcceptSession fromId alpn ⟨dialId, generation⟩
            transportIntent = accepted at haccept ⊢
          obtain ⟨result, m⟩ := accepted
          cases result <;> exact haccept
  | terminal dialId fromId toId generation reason message =>
    show SameRegistry node (node.applyRemoteTerminalSignal _ reason).2
    unfold applyRemoteTerminalSignal
    split
    · exact .refl node
    · split
      · exact .refl node
      · dsimp only
        split
        · exact .refl node
        · split <;> exact ⟨rfl, rfl, rfl⟩
  | offer | answer | iceCandidate | endOfCandidates =>
    unfold handleBootstrapSignal
    dsimp only
    split
    · exact .refl node
    · split
      · exact .refl node
      · split <;> exact .refl node

theorem registry_allocateDial [DecidableEq E] [Blake3] {remote : E} {alpn : String}
    {transportIntent : BootstrapTransportIntent}
    {result : BrowserRuntimeResult (BrowserDialAllocation E)}
    (h : node.allocateDial remote alpn transportIntent = some (result, node')) :
    SameRegistry node node' := by
  unfold allocateDial at h
  split at h
  · obtain ⟨-, rfl⟩ := Prod.mk.inj (Option.some.inj h)
    exact .refl node
  · split at h
    · obtain ⟨-, rfl⟩ := Prod.mk.inj (Option.some.inj h)
      exact .refl node
    · obtain ⟨⟨session, dialIds⟩, -, heq⟩ := Option.map_eq_some_iff.mp h
      obtain ⟨-, rfl⟩ := Prod.mk.inj heq
      split <;> exact ⟨rfl, rfl, rfl⟩

theorem registry_acceptWebrtcConnection [DecidableEq E] (node : BrowserRuntimeNode E)
    (order : List BrowserSessionKey) (connection : Connection E) :
    SameRegistry node (node.acceptWebrtcConnection order connection).2 := by
  rcases node.acceptWebrtcConnection_cases order connection with
    ⟨err, heq, -⟩ | ⟨s, -, -, -, -, heq⟩
  · rw [heq]
    exact .refl node
  · rw [heq]
    exact ⟨rfl, rfl, rfl⟩

end Sessions

theorem connections_recordConnection (node : BrowserRuntimeNode E) (connection : Connection E)
    (accepted : BrowserAcceptedConnection E) :
    (node.recordConnection connection accepted).2.connections =
      node.connections.insert accepted.key
        ⟨connection, accepted.sessionKey, accepted.transport, false⟩ := by
  unfold recordConnection
  cases accepted.sessionKey with
  | none => rfl
  | some key =>
    dsimp only
    cases node.sessions.lookup key with
    | none => rfl
    | some s =>
      dsimp only
      cases s.resolveTransport accepted.transport with
      | error err | ok t => rfl

/-! ## Accept queues -/

/-- The connections that wait to be taken, by ALPN. -/
def queueOf (node : BrowserRuntimeNode E) (alpn : String) : List (BrowserAcceptedConnection E) :=
  ((node.accepts.lookup alpn).map fun registration => registration.queue).getD []

/-- Every registration is stored under its ALPN. -/
def WellRegistered (node : BrowserRuntimeNode E) : Prop :=
  ∀ alpn registration, node.accepts.lookup alpn = some registration → registration.alpn = alpn

/-- The queue of one ALPN was changed. -/
structure Requeues (u v : BrowserRuntimeNode E) (alpn : String)
    (queue : List (BrowserAcceptedConnection E)) : Prop where
  wellRegistered : v.WellRegistered
  queueOf : ∀ alpn', v.queueOf alpn' = if alpn' = alpn then queue else u.queueOf alpn'

/-- No queue was changed. -/
structure KeepsQueues (u v : BrowserRuntimeNode E) : Prop where
  wellRegistered : v.WellRegistered
  queueOf : ∀ alpn, v.queueOf alpn = u.queueOf alpn

theorem keepsQueues_of_accepts (h : node'.accepts = node.accepts) (hwf : node.WellRegistered) :
    KeepsQueues node node' := by
  constructor
  · rw [WellRegistered, h]
    exact hwf
  · intro alpn
    rw [BrowserRuntimeNode.queueOf, BrowserRuntimeNode.queueOf, h]

theorem SameRegistry.keepsQueues (h : SameRegistry node node') (hwf : node.WellRegistered) :
    KeepsQueues node node' :=
  keepsQueues_of_accepts h.accepts hwf

/-- A registration was replaced by one with another queue. -/
theorem requeues_of_insert (hwf : node.WellRegistered) {alpn : String}
    {registration : AcceptRegistrationState E} (halpn : registration.alpn = alpn)
    (haccepts : node'.accepts = node.accepts.insert alpn registration) :
    Requeues node node' alpn registration.queue := by
  constructor
  · intro alpn' registration' hlookup
    rw [haccepts, Table.lookup_insert_eq] at hlookup
    split_ifs at hlookup with heq
    · rw [← Option.some.inj hlookup, heq, halpn]
    · exact hwf alpn' registration' hlookup
  · intro alpn'
    rw [BrowserRuntimeNode.queueOf, haccepts, Table.lookup_insert_eq]
    split_ifs
    · rfl
    · rfl

/-- A registration was replaced by one with the same queue. -/
theorem Requeues.keepsQueues {alpn : String} {queue : List (BrowserAcceptedConnection E)}
    (h : Requeues node node' alpn queue) (hqueue : node.queueOf alpn = queue) :
    KeepsQueues node node' := by
  refine ⟨h.wellRegistered, fun alpn' => ?_⟩
  rw [h.queueOf]
  split_ifs with heq
  · rw [heq, hqueue]
  · rfl

theorem KeepsQueues.of_accepts {u v w : BrowserRuntimeNode E} (h : KeepsQueues u v)
    (haccepts : w.accepts = v.accepts) : KeepsQueues u w := by
  have hsame := keepsQueues_of_accepts haccepts h.wellRegistered
  exact ⟨hsame.wellRegistered, fun alpn => (hsame.queueOf alpn).trans (h.queueOf alpn)⟩

theorem Requeues.of_accepts {u v w : BrowserRuntimeNode E} {alpn : String}
    {queue : List (BrowserAcceptedConnection E)} (h : Requeues u v alpn queue)
    (haccepts : w.accepts = v.accepts) : Requeues u w alpn queue := by
  have hsame := keepsQueues_of_accepts haccepts h.wellRegistered
  exact ⟨hsame.wellRegistered, fun alpn' => (hsame.queueOf alpn').trans (h.queueOf alpn')⟩

theorem queueOf_of_lookup {alpn : String} {registration : AcceptRegistrationState E}
    (h : node.accepts.lookup alpn = some registration) :
    node.queueOf alpn = registration.queue := by
  rw [queueOf, h]
  rfl

/-- A registration that was found by its id is stored under its ALPN. -/
theorem lookup_of_find (hwf : node.WellRegistered) {acceptId : BrowserAcceptId}
    {registration : AcceptRegistrationState E}
    (h : (node.accepts.values.find? fun registration => registration.id = acceptId) =
      some registration) :
    node.accepts.lookup registration.alpn = some registration := by
  obtain ⟨alpn, hlookup⟩ := Table.mem_values.mp (List.mem_of_find?_eq_some h)
  rw [hwf alpn registration hlookup]
  exact hlookup

/-- What `push_or_wake` does with a connection: a waiter gets it, or the queue is full, or it is
queued. -/
theorem pushOrWake_cases (registration : AcceptRegistrationState E)
    (connection : BrowserAcceptedConnection E) :
    ∃ result registration', registration.pushOrWake connection = (result, registration') ∧
      registration'.alpn = registration.alpn ∧
      ((∃ waiter, result = .ok (some waiter) ∧ registration'.queue = registration.queue) ∨
        (∃ err, result = .error err ∧ registration'.queue = registration.queue) ∨
        result = .ok none ∧ registration'.queue = registration.queue ++ [connection]) := by
  unfold AcceptRegistrationState.pushOrWake
  cases AcceptRegistrationState.popLiveWaiter registration.waiters with
  | some found => exact ⟨_, _, rfl, rfl, Or.inl ⟨_, rfl, rfl⟩⟩
  | none =>
    dsimp only
    split_ifs
    · exact ⟨_, _, rfl, rfl, Or.inr (Or.inl ⟨_, rfl, rfl⟩)⟩
    · exact ⟨_, _, rfl, rfl, Or.inr (Or.inr ⟨rfl, rfl⟩)⟩

/-- What a push does to a node whose acceptor is registered: the queue of its ALPN stays the same
if a waiter gets the connection or there is no room, and ends with the connection otherwise. -/
theorem pushAccepted_cases (hwf : node.WellRegistered) {accepted : BrowserAcceptedConnection E}
    {registration : AcceptRegistrationState E}
    (hlookup : node.accepts.lookup accepted.alpn = some registration) :
    ∃ pushed accepts, node.pushAccepted accepted = (pushed, { node with accepts := accepts }) ∧
      ((∃ waiter, pushed = .ok (some waiter) ∧
          KeepsQueues node { node with accepts := accepts }) ∨
        (∃ err, pushed = .error err ∧ KeepsQueues node { node with accepts := accepts }) ∨
        pushed = .ok none ∧ Requeues node { node with accepts := accepts } accepted.alpn
          (node.queueOf accepted.alpn ++ [accepted])) := by
  obtain ⟨pushed, registration', hpush, halpn, hqueue⟩ := pushOrWake_cases registration accepted
  have hpushed : node.pushAccepted accepted =
      (pushed, { node with accepts := node.accepts.insert accepted.alpn registration' }) := by
    unfold pushAccepted
    rw [hlookup]
    dsimp only
    rw [hpush]
  have hrequeues : Requeues node
      { node with accepts := node.accepts.insert accepted.alpn registration' } accepted.alpn
      registration'.queue :=
    requeues_of_insert hwf (halpn.trans (hwf _ _ hlookup)) rfl
  have hqueueOf := queueOf_of_lookup hlookup
  refine ⟨pushed, _, hpushed, ?_⟩
  rcases hqueue with ⟨waiter, rfl, hsame⟩ | ⟨err, rfl, hsame⟩ | ⟨rfl, hqueued⟩
  · exact Or.inl ⟨waiter, rfl, hrequeues.keepsQueues (hqueueOf.trans hsame.symm)⟩
  · exact Or.inr (Or.inl ⟨err, rfl, hrequeues.keepsQueues (hqueueOf.trans hsame.symm)⟩)
  · refine Or.inr (Or.inr ⟨rfl, ?_⟩)
    rw [hqueueOf, ← hqueued]
    exact hrequeues

/-! ## Admission -/

section Admission

variable [EndpointKey E] [DecidableEq E]

omit [EndpointKey E] [DecidableEq E] in
/-- Recording a connection fails only for a session that cannot be resolved. -/
theorem recordConnection_ok {connection : Connection E} {accepted : BrowserAcceptedConnection E}
    (h : ∀ key s, accepted.sessionKey = some key → node.session key = some s →
      s.CanResolve accepted.transport) :
    (node.recordConnection connection accepted).1 = .ok accepted := by
  unfold recordConnection
  cases hkey : accepted.sessionKey with
  | none => rfl
  | some key =>
    dsimp only
    cases hlookup : node.sessions.lookup key with
    | none => rfl
    | some s =>
      have hresolve : s.resolveTransport accepted.transport =
          .ok (s.resolved accepted.transport) :=
        BrowserSessionState.resolveTransport_eq_ok.mpr ⟨h key s hkey hlookup, rfl⟩
      dsimp only
      rw [hresolve]

omit [EndpointKey E] [DecidableEq E] in
theorem registry_recordConnection (node : BrowserRuntimeNode E) (connection : Connection E)
    (accepted : BrowserAcceptedConnection E) :
    (node.recordConnection connection accepted).2.accepts = node.accepts ∧
      (node.recordConnection connection accepted).2.nextConnectionKey =
        node.nextConnectionKey := by
  unfold recordConnection
  cases accepted.sessionKey with
  | none => exact ⟨rfl, rfl⟩
  | some key =>
    dsimp only
    cases node.sessions.lookup key with
    | none => exact ⟨rfl, rfl⟩
    | some s =>
      dsimp only
      cases s.resolveTransport accepted.transport with
      | error err | ok t => exact ⟨rfl, rfl⟩

/-- What the checks of an admission establish. -/
theorem checkAdmission_ok {connection : Connection E} {transport : BrowserResolvedTransport}
    {sessionKey : Option BrowserSessionKey} {queueAccept : Bool}
    (h : node.checkAdmission connection transport sessionKey queueAccept = .ok ()) :
    node.closed = false ∧
      (queueAccept = true → ∃ registration,
        node.accepts.lookup (fromUtf8Lossy connection.alpn) = some registration) ∧
      ∀ key s, sessionKey = some key → node.session key = some s → s.CanResolve transport := by
  unfold checkAdmission at h
  split_ifs at h with hclosed hregistered
  refine ⟨by simpa using hclosed, fun hqueue => ?_, ?_⟩
  · rw [hqueue, Bool.true_and, Option.isNone_iff_eq_none] at hregistered
    exact Option.ne_none_iff_exists'.mp hregistered
  · rintro key s rfl hs
    rw [Option.bind_some, show node.sessions.lookup key = some s from hs] at h
    dsimp only at h
    rw [← BrowserSessionState.validateTransportResolution_eq_ok]
    cases hvalid : validateTransportResolution s transport with
    | error err =>
      rw [hvalid] at h
      exact absurd h (by simp)
    | ok value => rfl

/-- **What an admission does**: it is refused and no connection is recorded, or a connection gets
the next key and is recorded.  If it is to be accepted, a waiter gets it or it is queued. -/
theorem admit_registry (hwf : node.WellRegistered) {connection : Connection E}
    {transport : BrowserResolvedTransport} {sessionKey : Option BrowserSessionKey}
    {queueAccept : Bool}
    {result : BrowserRuntimeResult (BrowserAcceptedConnection E × Option AcceptWaiter)}
    (h : node.admitIrohApplicationConnection connection transport sessionKey queueAccept =
      some (result, node')) :
    (∃ err, result = .error err) ∧ KeepsQueues node node' ∧
        node'.connections = node.connections ∧
        node.nextConnectionKey ≤ node'.nextConnectionKey ∨
      ∃ accepted waiter, result = .ok (accepted, waiter) ∧ node.closed = false ∧
        accepted.key = ⟨node.nextConnectionKey⟩ ∧ accepted.alpn = fromUtf8Lossy connection.alpn ∧
        node'.nextConnectionKey = node.nextConnectionKey + 1 ∧
        node'.connections = node.connections.insert ⟨node.nextConnectionKey⟩
          ⟨connection, sessionKey, transport, false⟩ ∧
        ((queueAccept = true → waiter ≠ none) ∧ KeepsQueues node node' ∨
          queueAccept = true ∧ waiter = none ∧
            Requeues node node' accepted.alpn (node.queueOf accepted.alpn ++ [accepted])) := by
  rw [admitIrohApplicationConnection] at h
  cases hcheck : node.checkAdmission connection transport sessionKey queueAccept with
  | error err =>
    rw [hcheck] at h
    obtain ⟨rfl, rfl⟩ := Prod.mk.inj (Option.some.inj h)
    exact Or.inl ⟨⟨err, rfl⟩, (SameRegistry.refl _).keepsQueues hwf, rfl, le_rfl⟩
  | ok value =>
    rw [hcheck] at h
    obtain ⟨hclosed, hregistered, hresolve⟩ := checkAdmission_ok hcheck
    obtain ⟨⟨key, m⟩, hkey, heq⟩ := Option.map_eq_some_iff.mp h
    rw [allocateConnectionKey] at hkey
    split_ifs at hkey
    obtain ⟨rfl, rfl⟩ := Prod.mk.inj (Option.some.inj hkey)
    dsimp only at heq
    generalize haccepted : (⟨⟨node.nextConnectionKey⟩, sessionKey, connection.remoteId,
      fromUtf8Lossy connection.alpn, transport⟩ : BrowserAcceptedConnection E) = accepted at heq
    have hkey : accepted.key = ⟨node.nextConnectionKey⟩ := by rw [← haccepted]
    have halpn : accepted.alpn = fromUtf8Lossy connection.alpn := by rw [← haccepted]
    -- what is recorded, whatever happened at the queue
    have hrecord : ∀ m : BrowserRuntimeNode E, m.session = node.session →
        (m.recordConnection connection accepted).1 = .ok accepted := by
      intro m hm
      refine recordConnection_ok fun key s hkey hs => ?_
      rw [hm] at hs
      rw [← haccepted] at hkey ⊢
      exact hresolve key s hkey hs
    have hconnections : ∀ m : BrowserRuntimeNode E, m.connections = node.connections →
        (m.recordConnection connection accepted).2.connections = node.connections.insert
          ⟨node.nextConnectionKey⟩ ⟨connection, sessionKey, transport, false⟩ := by
      intro m hm
      rw [connections_recordConnection, hm, ← haccepted]
    have hallocated : KeepsQueues node
        { node with nextConnectionKey := node.nextConnectionKey + 1 } :=
      keepsQueues_of_accepts rfl hwf
    cases queueAccept with
    | false =>
      rw [if_neg (by simp)] at heq
      have hresult := hrecord { node with nextConnectionKey := node.nextConnectionKey + 1 } rfl
      dsimp only at heq
      rw [hresult] at heq
      obtain ⟨rfl, rfl⟩ := Prod.mk.inj heq
      obtain ⟨haccepts, hnext⟩ := registry_recordConnection
        { node with nextConnectionKey := node.nextConnectionKey + 1 } connection accepted
      exact Or.inr ⟨accepted, none, rfl, hclosed, hkey, halpn, hnext, hconnections _ rfl,
        Or.inl ⟨by simp, hallocated.of_accepts haccepts⟩⟩
    | true =>
      obtain ⟨registration, hlookup⟩ := hregistered rfl
      rw [← halpn] at hlookup
      obtain ⟨pushed, accepts, hpushed, hcases⟩ :=
        pushAccepted_cases hallocated.wellRegistered hlookup
      rw [if_pos rfl, hpushed] at heq
      obtain ⟨haccepts, hnext⟩ := registry_recordConnection
        { node with nextConnectionKey := node.nextConnectionKey + 1, accepts := accepts }
        connection accepted
      have hresult := hrecord
        { node with nextConnectionKey := node.nextConnectionKey + 1, accepts := accepts } rfl
      rcases hcases with ⟨waiter, rfl, hqueues⟩ | ⟨err, rfl, hqueues⟩ | ⟨rfl, hqueues⟩
      · dsimp only at heq
        rw [hresult] at heq
        obtain ⟨rfl, rfl⟩ := Prod.mk.inj heq
        have hkeeps : KeepsQueues node _ := ⟨hqueues.wellRegistered, hqueues.queueOf⟩
        exact Or.inr ⟨accepted, some waiter, rfl, hclosed, hkey, halpn, hnext,
          hconnections _ rfl, Or.inl ⟨by simp, hkeeps.of_accepts haccepts⟩⟩
      · obtain ⟨rfl, rfl⟩ := Prod.mk.inj heq
        exact Or.inl ⟨⟨err, rfl⟩, ⟨hqueues.wellRegistered, hqueues.queueOf⟩, rfl, Nat.le_succ _⟩
      · dsimp only at heq
        rw [hresult] at heq
        obtain ⟨rfl, rfl⟩ := Prod.mk.inj heq
        have hrequeues : Requeues node _ accepted.alpn _ :=
          ⟨hqueues.wellRegistered, hqueues.queueOf⟩
        exact Or.inr ⟨accepted, none, rfl, hclosed, hkey, halpn, hnext, hconnections _ rfl,
          Or.inr ⟨rfl, rfl, hrequeues.of_accepts haccepts⟩⟩

/-! ## One step -/

/-- The connection that an operation admits for an acceptor, and the waiter that gets it. -/
def admission (node : BrowserRuntimeNode E) :
    NodeOp E → Option (BrowserAcceptedConnection E × Option AcceptWaiter)
  | .relayConnection connection true =>
    (node.admitIrohApplicationConnection connection .irohRelay none true).bind fun admitted =>
      admitted.1.toOption
  | .webrtcConnection order connection true =>
    (node.handleWebrtcConnection order connection true).bind fun admitted => admitted.1.toOption
  | _ => none

/-- The connection that `accept_next` returns at once. -/
def taken (node : BrowserRuntimeNode E) : NodeOp E → Option BrowserConnectionKey
  | .acceptNext acceptId =>
    match (node.acceptNext acceptId).1 with
    | .ok (.ready connection) => some connection.key
    | _ => none
  | _ => none

/-- **What a step does to the connections and the queues.** -/
inductive ConnectionEffect (node : BrowserRuntimeNode E) (op : NodeOp E)
    (node' : BrowserRuntimeNode E) : Prop where
  | idle (hqueues : KeepsQueues node node') (hconnections : node'.connections = node.connections)
      (hnext : node.nextConnectionKey ≤ node'.nextConnectionKey)
      (hadmission : node.admission op = none) (htaken : node.taken op = none)
  | recorded {connection : Connection E} {sessionKey : Option BrowserSessionKey}
      {transport : BrowserResolvedTransport} (hopen : node.closed = false)
      (hqueues : KeepsQueues node node')
      (hconnections : node'.connections = node.connections.insert ⟨node.nextConnectionKey⟩
        ⟨connection, sessionKey, transport, false⟩)
      (hnext : node'.nextConnectionKey = node.nextConnectionKey + 1)
      (hadmission : node.admission op = none) (htaken : node.taken op = none)
  | handedOver {accepted : BrowserAcceptedConnection E} {waiter : AcceptWaiter}
      {connection : Connection E} {sessionKey : Option BrowserSessionKey}
      {transport : BrowserResolvedTransport} (hopen : node.closed = false)
      (hkey : accepted.key = ⟨node.nextConnectionKey⟩) (hqueues : KeepsQueues node node')
      (hconnections : node'.connections = node.connections.insert ⟨node.nextConnectionKey⟩
        ⟨connection, sessionKey, transport, false⟩)
      (hnext : node'.nextConnectionKey = node.nextConnectionKey + 1)
      (hadmission : node.admission op = some (accepted, some waiter))
      (htaken : node.taken op = none)
  | queued {accepted : BrowserAcceptedConnection E} {connection : Connection E}
      {sessionKey : Option BrowserSessionKey} {transport : BrowserResolvedTransport}
      (hopen : node.closed = false) (hkey : accepted.key = ⟨node.nextConnectionKey⟩)
      (halpn : accepted.alpn = fromUtf8Lossy connection.alpn)
      (hqueues : Requeues node node' accepted.alpn (node.queueOf accepted.alpn ++ [accepted]))
      (hconnections : node'.connections = node.connections.insert ⟨node.nextConnectionKey⟩
        ⟨connection, sessionKey, transport, false⟩)
      (hnext : node'.nextConnectionKey = node.nextConnectionKey + 1)
      (hadmission : node.admission op = some (accepted, none)) (htaken : node.taken op = none)
  | taken {alpn : String} {accepted : BrowserAcceptedConnection E}
      {queue : List (BrowserAcceptedConnection E)} (hopen : node.closed = false)
      (hqueue : node.queueOf alpn = accepted :: queue) (hqueues : Requeues node node' alpn queue)
      (hconnections : node'.connections = node.connections)
      (hnext : node'.nextConnectionKey = node.nextConnectionKey)
      (hadmission : node.admission op = none) (htaken : node.taken op = some accepted.key)
  | acceptorClosed {acceptId : BrowserAcceptId} {registration : AcceptRegistrationState E}
      (hop : op = .acceptClose acceptId)
      (hfind : (node.accepts.values.find? fun registration => registration.id = acceptId) =
        some registration)
      (hqueue : node.queueOf registration.alpn = registration.queue)
      (hqueues : Requeues node node' registration.alpn [])
      (hconnections : node'.connections = node.connections)
      (hnext : node'.nextConnectionKey = node.nextConnectionKey)
  | connectionClosed {connectionKey : BrowserConnectionKey} {c : BrowserConnectionState E}
      (hopen : node.closed = false) (hop : op = .connectionClose connectionKey)
      (hlookup : node.connections.lookup connectionKey = some c)
      (hqueues : KeepsQueues node node')
      (hconnections : node'.connections =
        node.connections.insert connectionKey { c with closed := true })
      (hnext : node'.nextConnectionKey = node.nextConnectionKey)
  | nodeClosed {reason : Option String} (hopen : node.closed = false)
      (hop : op = .closeNode reason) (hwf : node'.WellRegistered)
      (hqueues : ∀ alpn, node'.queueOf alpn = [])
      (hconnections : node'.connections = node.connections.mapValues fun connection =>
        { connection with closed := true })
      (hnext : node'.nextConnectionKey = node.nextConnectionKey)

/-- An operation on sessions changes nothing. -/
theorem effect_of_registry (hwf : node.WellRegistered) {op : NodeOp E}
    (h : SameRegistry node node') (hadmission : node.admission op = none)
    (htaken : node.taken op = none) : ConnectionEffect node op node' :=
  .idle (h.keepsQueues hwf) h.connections h.nextConnectionKey.ge hadmission htaken

/-- An operation that admits a connection, after it has changed sessions. -/
theorem effect_of_admission (hwf : node.WellRegistered) {m : BrowserRuntimeNode E}
    (hm : SameRegistry node m) (hclosed : m.closed = node.closed) {op : NodeOp E}
    {connection : Connection E} {transport : BrowserResolvedTransport}
    {sessionKey : Option BrowserSessionKey} {queueAccept : Bool}
    {result : BrowserRuntimeResult (BrowserAcceptedConnection E × Option AcceptWaiter)}
    (h : m.admitIrohApplicationConnection connection transport sessionKey queueAccept =
      some (result, node'))
    (hadmission : node.admission op = if queueAccept then result.toOption else none)
    (htaken : node.taken op = none) : ConnectionEffect node op node' := by
  have hwfm : m.WellRegistered := (hm.keepsQueues hwf).wellRegistered
  have hqueueOf : ∀ alpn, m.queueOf alpn = node.queueOf alpn := (hm.keepsQueues hwf).queueOf
  have hkeeps : KeepsQueues m node' → KeepsQueues node node' := fun hqueues =>
    ⟨hqueues.wellRegistered, fun alpn => (hqueues.queueOf alpn).trans (hqueueOf alpn)⟩
  rcases admit_registry hwfm h with ⟨⟨err, rfl⟩, hqueues, hconnections, hnext⟩ |
    ⟨accepted, waiter, rfl, hopen, hkey, halpn, hnext, hconnections, hqueues⟩
  · refine .idle (hkeeps hqueues) (hconnections.trans hm.connections)
      (hm.nextConnectionKey.ge.trans hnext) (hadmission.trans ?_) htaken
    split_ifs <;> rfl
  · rw [hm.nextConnectionKey] at hkey hnext hconnections
    rw [hm.connections] at hconnections
    have hopen' : node.closed = false := hclosed.symm.trans hopen
    rcases hqueues with ⟨hwaiter, hqueues⟩ | ⟨rfl, rfl, hqueues⟩
    · cases queueAccept with
      | false => exact .recorded hopen' (hkeeps hqueues) hconnections hnext hadmission htaken
      | true =>
        obtain ⟨w, rfl⟩ := Option.ne_none_iff_exists'.mp (hwaiter rfl)
        exact .handedOver hopen' hkey (hkeeps hqueues) hconnections hnext hadmission htaken
    · refine .queued hopen' hkey halpn ⟨hqueues.wellRegistered, fun alpn => ?_⟩ hconnections hnext
        hadmission htaken
      rw [hqueues.queueOf, hqueueOf, hqueueOf]

/-- The end of a dial completes the dial and then admits its connection. -/
theorem effect_of_dialConnected (hwf : node.WellRegistered) {op : NodeOp E}
    {sessionKey : BrowserSessionKey} {transport : BrowserResolvedTransport}
    {connection : Connection E}
    {result : BrowserRuntimeResult (BrowserAcceptedConnection E × Option AcceptWaiter)}
    (h : (match node.completeDial sessionKey transport with
        | (.error err, node) => some (.error err, node)
        | (.ok _, node) =>
          node.admitIrohApplicationConnection connection transport (some sessionKey) false) =
      some (result, node'))
    (hadmission : node.admission op = none) (htaken : node.taken op = none) :
    ConnectionEffect node op node' := by
  have hregistry := registry_updateSession node sessionKey fun s => s.completeDial transport
  have hclosed := (updateSession_effect node sessionKey fun s => s.completeDial transport).1.closed
  rcases hcomplete : node.completeDial sessionKey transport with ⟨completed, m⟩
  rw [hcomplete] at h
  rw [completeDial] at hcomplete
  rw [hcomplete] at hregistry hclosed
  cases completed with
  | error err =>
    obtain ⟨-, rfl⟩ := Prod.mk.inj (Option.some.inj h)
    exact effect_of_registry hwf hregistry hadmission htaken
  | ok t => exact effect_of_admission hwf hregistry hclosed h hadmission htaken

/-- The handlers of inbound WebRTC connections bind a session and then admit the connection. -/
theorem effect_of_webrtcConnection [Blake3] (hwf : node.WellRegistered)
    {order : List BrowserSessionKey} {connection : Connection E} {queueAccept : Bool}
    (hstep : node.step (.webrtcConnection order connection queueAccept) = some node') :
    ConnectionEffect node (.webrtcConnection order connection queueAccept) node' := by
  obtain ⟨⟨result, m⟩, hhandle, rfl⟩ := Option.map_eq_some_iff.mp hstep
  have hadmission : node.admission (.webrtcConnection order connection queueAccept) =
      if queueAccept then result.toOption else none := by
    cases queueAccept with
    | false => rfl
    | true => rw [admission, hhandle, Option.bind_some, if_pos rfl]
  rw [handleWebrtcConnection] at hhandle
  have hregistry := registry_acceptWebrtcConnection node order connection
  rcases node.acceptWebrtcConnection_cases order connection with
    ⟨err, heq, -⟩ | ⟨s, -, -, -, -, heq⟩
  · rw [heq] at hhandle
    obtain ⟨rfl, rfl⟩ := Prod.mk.inj (Option.some.inj hhandle)
    refine effect_of_registry hwf (.refl _) (hadmission.trans ?_) rfl
    split_ifs <;> rfl
  · rw [heq] at hhandle hregistry
    exact effect_of_admission hwf hregistry rfl hhandle hadmission rfl

omit [EndpointKey E] [DecidableEq E] in
/-- A registration is replaced by one of the same ALPN. -/
theorem requeues_registration (hwf : node.WellRegistered) (v : BrowserRuntimeNode E)
    (registration registration' : AcceptRegistrationState E)
    (halpn : registration'.alpn = registration.alpn)
    (haccepts : v.accepts = node.accepts.insert registration.alpn registration') :
    Requeues node v registration.alpn registration'.queue :=
  requeues_of_insert hwf halpn haccepts

/-- `accept_next` returns the first connection of a queue, or it waits. -/
theorem effect_of_acceptNext (hwf : node.WellRegistered) (acceptId : BrowserAcceptId) :
    ConnectionEffect node (.acceptNext acceptId) (node.acceptNext acceptId).2 := by
  cases hclosed : node.closed with
  | true =>
    have heq : node.acceptNext acceptId = (.ok .done, node) := by
      rw [acceptNext, if_pos hclosed]
    rw [heq]
    exact effect_of_registry hwf (.refl _) rfl (by rw [BrowserRuntimeNode.taken, heq])
  | false =>
    have hopen : ¬node.closed = true := by simp [hclosed]
    cases hfind : node.accepts.values.find? fun registration => registration.id = acceptId with
    | none =>
      have heq : node.acceptNext acceptId =
          (.error ⟨.unsupportedAlpn, "unknown accept registration"⟩, node) := by
        rw [acceptNext, if_neg hopen, hfind]
      rw [heq]
      exact effect_of_registry hwf (.refl _) rfl (by rw [BrowserRuntimeNode.taken, heq])
    | some registration =>
      have hqueue := queueOf_of_lookup (lookup_of_find hwf hfind)
      cases hregistration : registration.queue with
      | nil =>
        have heq : node.acceptNext acceptId = (.ok (.waiting node.nextWaiter), { node with
            nextWaiter := node.nextWaiter + 1
            accepts := node.accepts.insert registration.alpn { registration with
              waiters := registration.waiters ++ [⟨node.nextWaiter, true⟩] } }) := by
          rw [acceptNext, if_neg hopen, hfind]
          dsimp only
          rw [hregistration]
        rw [heq]
        have hqueues := requeues_registration hwf { node with
          nextWaiter := node.nextWaiter + 1
          accepts := node.accepts.insert registration.alpn { registration with
            waiters := registration.waiters ++ [⟨node.nextWaiter, true⟩] } } registration
          { registration with waiters := registration.waiters ++ [⟨node.nextWaiter, true⟩] } rfl rfl
        exact .idle (hqueues.keepsQueues hqueue) rfl le_rfl rfl
          (by rw [BrowserRuntimeNode.taken, heq])
      | cons accepted queue =>
        have heq : node.acceptNext acceptId = (.ok (.ready accepted), { node with
            accepts := node.accepts.insert registration.alpn { registration with
              queue := queue } }) := by
          rw [acceptNext, if_neg hopen, hfind]
          dsimp only
          rw [hregistration]
        rw [heq]
        have hqueues := requeues_registration hwf { node with
          accepts := node.accepts.insert registration.alpn { registration with
            queue := queue } } registration { registration with queue := queue } rfl rfl
        exact .taken hclosed (hqueue.trans hregistration) hqueues rfl rfl rfl
          (by rw [BrowserRuntimeNode.taken, heq])

/-- `accept_open` claims a registration and leaves its queue. -/
theorem effect_of_acceptOpen (hwf : node.WellRegistered) (alpn : String) :
    ConnectionEffect node (.acceptOpen alpn) (node.acceptOpen alpn).2 := by
  have hsame : ConnectionEffect node (.acceptOpen alpn) node :=
    effect_of_registry hwf (.refl node) rfl rfl
  unfold acceptOpen
  cases validateAlpn alpn with
  | error err => exact hsame
  | ok alpn' =>
    dsimp only
    split_ifs with hclosed
    · exact hsame
    · cases hlookup : node.accepts.lookup alpn' with
      | none => exact hsame
      | some registration =>
        dsimp only
        split_ifs with hclaimed
        · exact hsame
        · obtain rfl := hwf alpn' registration hlookup
          have hqueues := requeues_registration hwf { node with
            accepts := node.accepts.insert registration.alpn { registration with
              claimed := true } } registration { registration with claimed := true } rfl rfl
          have hqueue : node.queueOf registration.alpn = registration.queue :=
            queueOf_of_lookup hlookup
          exact .idle (hqueues.keepsQueues hqueue) rfl le_rfl rfl rfl

omit [EndpointKey E] [DecidableEq E] in
/-- `accept_close` empties the queue of the acceptor and leaves the connections. -/
theorem acceptClose_requeues (hwf : node.WellRegistered) {acceptId : BrowserAcceptId}
    {registration : AcceptRegistrationState E}
    (hfind : (node.accepts.values.find? fun registration => registration.id = acceptId) =
      some registration) :
    Requeues node (node.acceptClose acceptId).2 registration.alpn [] ∧
      (node.acceptClose acceptId).2.connections = node.connections ∧
      (node.acceptClose acceptId).2.nextConnectionKey = node.nextConnectionKey := by
  have hlookup := lookup_of_find hwf hfind
  have hqueues := requeues_registration hwf { node with
    accepts := node.accepts.insert registration.alpn registration.closeAcceptor } registration
    registration.closeAcceptor rfl rfl
  rw [acceptClose, hfind]
  dsimp only
  rw [Table.modify, hlookup]
  exact ⟨hqueues, rfl, rfl⟩

theorem effect_of_acceptClose (hwf : node.WellRegistered) (acceptId : BrowserAcceptId) :
    ConnectionEffect node (.acceptClose acceptId) (node.acceptClose acceptId).2 := by
  cases hfind : node.accepts.values.find? fun registration => registration.id = acceptId with
  | none =>
    have heq : node.acceptClose acceptId = (false, node) := by rw [acceptClose, hfind]
    rw [heq]
    exact effect_of_registry hwf (.refl node) rfl rfl
  | some registration =>
    obtain ⟨hqueues, hconnections, hnext⟩ := acceptClose_requeues hwf hfind
    exact .acceptorClosed rfl hfind (queueOf_of_lookup (lookup_of_find hwf hfind)) hqueues
      hconnections hnext

/-- The end of a waiting call leaves the queues. -/
theorem effect_of_dropWaiter (hwf : node.WellRegistered) (waiter : ℕ) :
    ConnectionEffect node (.dropWaiter waiter) (node.dropWaiter waiter) := by
  refine .idle ⟨fun alpn registration hlookup => ?_, fun alpn => ?_⟩ rfl le_rfl rfl rfl
  · rw [dropWaiter, Table.lookup_mapValues] at hlookup
    obtain ⟨registration', hlookup', rfl⟩ := Option.map_eq_some_iff.mp hlookup
    exact hwf alpn registration' hlookup'
  · rw [queueOf, dropWaiter, Table.lookup_mapValues, Option.map_map, queueOf]
    rfl

theorem effect_of_connectionClose (hwf : node.WellRegistered)
    (connectionKey : BrowserConnectionKey) :
    ConnectionEffect node (.connectionClose connectionKey)
      (node.connectionClose connectionKey).2 := by
  have hsame : ConnectionEffect node (.connectionClose connectionKey) node :=
    effect_of_registry hwf (.refl node) rfl rfl
  unfold connectionClose
  split_ifs with hclosed
  · exact hsame
  · have hopen : node.closed = false := by simpa using hclosed
    cases hlookup : node.connections.lookup connectionKey with
    | none => exact hsame
    | some c =>
      have hclose : ∀ v : BrowserRuntimeNode E, v.accepts = node.accepts →
          v.connections = node.connections.insert connectionKey { c with closed := true } →
          v.nextConnectionKey = node.nextConnectionKey →
            ConnectionEffect node (.connectionClose connectionKey) v := by
        intro v haccepts hconnections hnext
        exact .connectionClosed hopen rfl hlookup (keepsQueues_of_accepts haccepts hwf)
          hconnections hnext
      obtain ⟨irohConnection, sessionKey, transport, closed⟩ := c
      cases transport with
      | irohRelay => exact hclose _ rfl rfl rfl
      | webRtc => cases sessionKey <;> exact hclose _ rfl rfl rfl

/-- Closing the node empties every queue and closes every connection. -/
theorem effect_of_closeNode (hwf : node.WellRegistered) (reason : Option String) :
    ConnectionEffect node (.closeNode reason) (node.closeInner reason).2 := by
  unfold closeInner
  split_ifs with hclosed
  · exact effect_of_registry hwf (.refl node) rfl rfl
  · refine .nodeClosed (by simpa using hclosed) rfl (fun alpn registration hlookup => ?_)
      (fun alpn => ?_) rfl rfl
    · exact absurd (hlookup.symm.trans (AList.lookup_empty alpn)) (by simp)
    · rw [queueOf, AList.lookup_empty]
      rfl

/-- **The inversion of a step.** -/
theorem connectionEffect_of_step [Blake3] (hwf : node.WellRegistered) {op : NodeOp E}
    (hstep : node.step op = some node') : ConnectionEffect node op node' := by
  cases op with
  | allocateDial remote alpn transportIntent =>
    obtain ⟨⟨result, m⟩, hdial, rfl⟩ := Option.map_eq_some_iff.mp hstep
    exact effect_of_registry hwf (registry_allocateDial hdial) rfl rfl
  | attachTransferredChannel sessionKey =>
    obtain rfl := Option.some.inj hstep
    exact effect_of_registry hwf (registry_updateSession node sessionKey _) rfl rfl
  | completeDial sessionKey transport =>
    obtain rfl := Option.some.inj hstep
    exact effect_of_registry hwf (registry_updateSession node sessionKey _) rfl rfl
  | bootstrapSignal input =>
    obtain rfl := Option.some.inj hstep
    exact effect_of_registry hwf (registry_handleBootstrapSignal node input) rfl rfl
  | rtcLifecycle input =>
    obtain rfl := Option.some.inj hstep
    exact effect_of_registry hwf (registry_handleRtcLifecycleResult node input) rfl rfl
  | decideWebrtcFailure sessionKey message | closeSession sessionKey message =>
    obtain rfl := Option.some.inj hstep
    exact effect_of_registry hwf (registry_emitTerminalDecision node sessionKey _ _) rfl rfl
  | relayConnection connection queueAccept =>
    obtain ⟨⟨result, m⟩, hadmit, rfl⟩ := Option.map_eq_some_iff.mp hstep
    refine effect_of_admission hwf (.refl node) rfl hadmit ?_ rfl
    cases queueAccept with
    | false => rfl
    | true => rw [admission, hadmit, Option.bind_some, if_pos rfl]
  | webrtcConnection order connection queueAccept =>
    exact effect_of_webrtcConnection hwf hstep
  | webrtcProtocolConnection order connection =>
    obtain rfl := Option.some.inj hstep
    exact effect_of_registry hwf (registry_acceptWebrtcConnection node order connection) rfl rfl
  | dialIrohConnected connection sessionKey =>
    obtain ⟨⟨result, m⟩, hdial, rfl⟩ := Option.map_eq_some_iff.mp hstep
    cases sessionKey with
    | none => exact effect_of_admission hwf (.refl node) rfl hdial rfl rfl
    | some sessionKey => exact effect_of_dialConnected hwf hdial rfl rfl
  | dialWebrtcConnected sessionKey session connection =>
    obtain ⟨⟨result, m⟩, hdial, rfl⟩ := Option.map_eq_some_iff.mp hstep
    rw [dialWebrtcConnected] at hdial
    cases hpath : requireWebrtcSelectedPath connection (.session session.remote session.dialId) with
    | error err =>
      rw [hpath] at hdial
      obtain ⟨-, rfl⟩ := Prod.mk.inj (Option.some.inj hdial)
      exact effect_of_registry hwf (.refl node) rfl rfl
    | ok value =>
      rw [hpath] at hdial
      exact effect_of_dialConnected hwf hdial rfl rfl
  | connectionClose connectionKey =>
    obtain rfl := Option.some.inj hstep
    exact effect_of_connectionClose hwf connectionKey
  | acceptOpen alpn =>
    obtain rfl := Option.some.inj hstep
    exact effect_of_acceptOpen hwf alpn
  | acceptNext acceptId =>
    obtain rfl := Option.some.inj hstep
    exact effect_of_acceptNext hwf acceptId
  | acceptClose acceptId =>
    obtain rfl := Option.some.inj hstep
    exact effect_of_acceptClose hwf acceptId
  | dropWaiter waiter =>
    obtain rfl := Option.some.inj hstep
    exact effect_of_dropWaiter hwf waiter
  | closeNode reason =>
    obtain rfl := Option.some.inj hstep
    exact effect_of_closeNode hwf reason

theorem WellRegistered.step [Blake3] (hwf : node.WellRegistered) {op : NodeOp E}
    (hstep : node.step op = some node') : node'.WellRegistered := by
  cases connectionEffect_of_step hwf hstep with
  | idle hqueues | recorded _ hqueues | handedOver _ _ hqueues | connectionClosed _ _ _ hqueues =>
    exact hqueues.wellRegistered
  | queued _ _ _ hqueues | taken _ _ hqueues | acceptorClosed _ _ _ hqueues =>
    exact hqueues.wellRegistered
  | nodeClosed _ _ hwf' => exact hwf'

end Admission

/-! ## Spawning -/

theorem lookup_initialAcceptRegistrations {capacity nextAcceptId : ℕ} {alpns : List String}
    {alpn : String} {registration : AcceptRegistrationState E}
    (h : (initialAcceptRegistrations capacity nextAcceptId alpns).lookup alpn =
      some registration) : registration.alpn = alpn ∧ registration.queue = [] := by
  induction alpns generalizing nextAcceptId with
  | nil => exact absurd (h.symm.trans (AList.lookup_empty alpn)) (by simp)
  | cons first alpns ih =>
    rw [initialAcceptRegistrations, Table.lookup_insert_eq] at h
    split_ifs at h with heq
    · obtain rfl := Option.some.inj h
      exact ⟨heq.symm, rfl⟩
    · exact ih h

/-- A new node has an empty queue for each of its ALPNs. -/
theorem registered_of_spawn [EndpointKey E] {endpointId : E} {epoch : FixedBytes 16}
    {config : BrowserRuntimeNodeConfig} {browserProtocols : List String}
    (h : spawn endpointId epoch config browserProtocols = .ok node) :
    node.WellRegistered ∧ (∀ alpn, node.queueOf alpn = []) ∧ node.nextConnectionKey = 1 := by
  rw [spawn] at h
  cases hcheck : checkConfig config browserProtocols with
  | error err =>
    rw [hcheck] at h
    exact absurd h (by simp)
  | ok value =>
    rw [hcheck] at h
    obtain rfl := Except.ok.inj h
    refine ⟨fun alpn registration hlookup => (lookup_initialAcceptRegistrations hlookup).1,
      fun alpn => ?_, rfl⟩
    rw [queueOf]
    cases hlookup : (initialAcceptRegistrations config.acceptQueueCapacity 1
      config.facadeAlpns).lookup alpn with
    | none => rfl
    | some registration => exact (lookup_initialAcceptRegistrations hlookup).2

end BrowserRuntimeNode

end IrohWebRtc
