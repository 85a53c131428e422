import IrohWebRtc.Browser.IntentSafety
import IrohWebRtc.Browser.NodeClose

/-!
# A WebRTC dial and the endpoint of the node

`dial_webrtc_application_connection` and `restart_webrtc_endpoint` of
`browser_runtime/node/core.rs`.  A node has one WebRTC endpoint, over which all of its WebRTC
connections run, and a router on it for those that come in.  Every WebRTC dial takes both out of the
node, closes the endpoint, and binds and installs a new one before it connects.

Endpoints are numbered in the order in which they are bound.  Of iroh the model has what the dial
relies on: binding may fail, and closing an endpoint closes the connections over it.  A dial waits
four times, and at each wait the node may perform any operations; they and what iroh answers are the
surroundings of the dial.

* `EndpointNode`: the node with its endpoint, its router and the endpoint of each connection.
* `WellFormed`: the invariant; the router of a node serves its endpoint, which is open.
* `Carries`: what a stretch of a dial leaves of the connections.
* `dial_frame_iff`: when a dial leaves the other connections open and an endpoint installed.
-/

namespace IrohWebRtc

/-- A router: the endpoint that it serves and the ALPNs that it accepts. -/
structure WebrtcRouter where
  endpoint : ℕ
  alpns : List String

/-- The fields of the node that belong to its WebRTC endpoint. -/
structure EndpointNode (E : Type*) where
  node : BrowserRuntimeNode E
  protocolTransportIntent : BootstrapTransportIntent
  webrtcEndpoint : Option ℕ
  webrtcRouter : Option WebrtcRouter
  /-- The WebRTC endpoints that were bound and are not closed. -/
  isOpen : ℕ → Bool
  nextEndpoint : ℕ
  /-- The WebRTC endpoint of a connection; one over the relay endpoint has none. -/
  endpointOf : BrowserConnectionKey → Option ℕ

/-- An operation, and the WebRTC endpoint over which the connection came that it admits. -/
structure EndpointOp (E : Type*) where
  op : NodeOp E
  endpoint : ℕ

/-- Whether an operation admits its connection over a WebRTC endpoint. -/
def NodeOp.admitsWebrtc {E : Type*} : NodeOp E → Bool
  | .webrtcConnection .. | .dialWebrtcConnected .. => true
  | _ => false

/-- The surroundings of a dial: what the node does while the dial waits, and what iroh answers. -/
structure DialSurroundings (E : Type*) where
  /-- While the old router shuts down. -/
  duringShutdown : List (EndpointOp E)
  /-- While the old endpoint closes and the new one is bound. -/
  duringBind : List (EndpointOp E)
  bound : Except String Unit
  /-- While the new endpoint connects. -/
  duringConnect : List (EndpointOp E)
  connected : Except String (Connection E)

namespace BrowserRuntimeNode

variable {E : Type*}

/-- The keys of the connections were given out. -/
def KeysBelow (node : BrowserRuntimeNode E) : Prop :=
  ∀ key c, node.connections.lookup key = some c → key.value < node.nextConnectionKey

/-- A new connection gets a key that no connection has. -/
theorem KeysBelow.ne_next {node : BrowserRuntimeNode E} (h : node.KeysBelow)
    {key : BrowserConnectionKey} {c : BrowserConnectionState E}
    (hc : node.connections.lookup key = some c) : key ≠ ⟨node.nextConnectionKey⟩ := by
  rintro rfl
  exact absurd (h _ c hc) (Nat.lt_irrefl _)

theorem KeysBelow.of_insert {node node' : BrowserRuntimeNode E} (h : node.KeysBelow)
    {c : BrowserConnectionState E}
    (hconnections : node'.connections = node.connections.insert ⟨node.nextConnectionKey⟩ c)
    (hnext : node'.nextConnectionKey = node.nextConnectionKey + 1) : node'.KeysBelow := by
  intro key c' hc'
  rw [hconnections, Table.lookup_insert_eq] at hc'
  rw [hnext]
  split_ifs at hc' with hkey
  · rw [hkey]
    exact Nat.lt_succ_self _
  · exact Nat.lt_succ_of_lt (h key c' hc')

theorem KeysBelow.step [DecidableEq E] [EndpointKey E] [Blake3] {node node' : BrowserRuntimeNode E}
    (h : node.KeysBelow) (hwf : node.WellRegistered) {op : NodeOp E}
    (hstep : node.step op = some node') : node'.KeysBelow := by
  cases connectionEffect_of_step hwf hstep with
  | idle _ hconnections hnext =>
    intro key c hc
    rw [hconnections] at hc
    exact (h key c hc).trans_le hnext
  | taken _ _ _ hconnections hnext | acceptorClosed _ _ _ _ hconnections hnext =>
    intro key c hc
    rw [hconnections] at hc
    rw [hnext]
    exact h key c hc
  | recorded _ _ hconnections hnext | handedOver _ _ _ hconnections hnext =>
    exact h.of_insert hconnections hnext
  | queued _ _ _ _ hconnections hnext => exact h.of_insert hconnections hnext
  | connectionClosed _ _ hlookup _ hconnections hnext =>
    intro key c hc
    rw [hconnections, Table.lookup_insert_eq] at hc
    rw [hnext]
    split_ifs at hc with hkey
    · rw [hkey]
      exact h _ _ hlookup
    · exact h key c hc
  | nodeClosed _ _ _ _ hconnections hnext =>
    intro key c hc
    rw [hconnections, Table.lookup_mapValues] at hc
    obtain ⟨c', hc', -⟩ := Option.map_eq_some_iff.mp hc
    rw [hnext]
    exact h key c' hc'

/-- `connection_close` marks its connection, on a node that is open. -/
theorem connections_connectionClose [EndpointKey E] {node : BrowserRuntimeNode E}
    (hopen : node.closed = false) (connectionKey : BrowserConnectionKey) :
    (node.connectionClose connectionKey).2.connections =
      node.connections.modify connectionKey fun c => { c with closed := true } := by
  unfold connectionClose
  rw [if_neg (by simp [hopen]), Table.modify]
  cases node.connections.lookup connectionKey with
  | none => rfl
  | some c =>
    obtain ⟨irohConnection, sessionKey, transport, closed⟩ := c
    cases transport with
    | irohRelay => rfl
    | webRtc => cases sessionKey <;> rfl

/-- **A step that leaves the node open leaves every connection as it is**, but for the one that it
is told to close. -/
theorem connection_of_step [DecidableEq E] [EndpointKey E] [Blake3]
    {node node' : BrowserRuntimeNode E} (hwf : node.WellRegistered) (hkeys : node.KeysBelow)
    {op : NodeOp E} (hstep : node.step op = some node') (hopen : node'.closed = false)
    {key : BrowserConnectionKey} {c : BrowserConnectionState E}
    (hc : node.connections.lookup key = some c) :
    ∃ c', node'.connections.lookup key = some c' ∧
      (c'.closed = false ↔ c.closed = false ∧ op ≠ .connectionClose key) := by
  have hlive : node.closed = false := SignalTrace.open_of_step hwf hopen hstep
  by_cases hop : ∃ connectionKey, op = .connectionClose connectionKey
  · obtain ⟨connectionKey, rfl⟩ := hop
    obtain rfl := Option.some.inj hstep
    rw [connections_connectionClose hlive, Table.lookup_modify]
    split_ifs with hkey
    · rw [← hkey, hc]
      refine ⟨_, rfl, ?_⟩
      simp [hkey]
    · refine ⟨c, hc, (and_iff_left ?_).symm⟩
      intro heq
      exact hkey (NodeOp.connectionClose.inj heq).symm
  · have hne : op ≠ .connectionClose key := fun heq => hop ⟨key, heq⟩
    have hsame : node'.connections.lookup key = node.connections.lookup key := by
      cases connectionEffect_of_step hwf hstep with
      | idle _ hconnections | taken _ _ _ hconnections | acceptorClosed _ _ _ _ hconnections =>
        rw [hconnections]
      | recorded _ _ hconnections | handedOver _ _ _ hconnections =>
        rw [hconnections]
        exact AList.lookup_insert_ne (hkeys.ne_next hc)
      | queued _ _ _ _ hconnections =>
        rw [hconnections]
        exact AList.lookup_insert_ne (hkeys.ne_next hc)
      | connectionClosed _ heq => exact absurd ⟨_, heq⟩ hop
      | nodeClosed _ heq =>
        subst heq
        obtain rfl := Option.some.inj hstep
        rw [closeInner, if_neg (by simp [hlive])] at hopen
        exact absurd hopen (by simp)
    exact ⟨c, hsame.trans hc, (and_iff_left hne).symm⟩

/-- The loop of `build_webrtc_router` over the browser protocols: each needs its handler in the
registry. -/
def protocolHandlers (registered : List String) : List String → BrowserRuntimeResult (List String)
  | [] => .ok []
  | alpn :: alpns =>
    if alpn ∈ registered then (protocolHandlers registered alpns).map (alpn :: ·)
    else .error ⟨.unsupportedAlpn, "missing browser protocol handler for ALPN " ++ debugText alpn⟩

/-- `build_webrtc_router`. -/
def buildWebrtcRouter (node : BrowserRuntimeNode E)
    (protocolTransportIntent : BootstrapTransportIntent) (endpoint : ℕ) :
    BrowserRuntimeResult WebrtcRouter :=
  let alpns := node.accepts.keys ++ node.benchmarkEchoAlpns
  if protocolTransportIntent.usesWebrtc then
    (protocolHandlers node.browserProtocols node.browserProtocols).map fun protocols =>
      ⟨endpoint, alpns ++ protocols⟩
  else .ok ⟨endpoint, alpns⟩

theorem protocolHandlers_eq_ok {registered alpns : List String}
    (h : ∀ alpn ∈ alpns, alpn ∈ registered) : protocolHandlers registered alpns = .ok alpns := by
  induction alpns with
  | nil => rfl
  | cons alpn alpns ih =>
    rw [protocolHandlers, if_pos (h alpn List.mem_cons_self),
      ih fun alpn' hmem => h alpn' (List.mem_cons_of_mem _ hmem)]
    rfl

/-- A registry has the handlers of its own protocols, so the router is always built. -/
theorem buildWebrtcRouter_eq_ok (node : BrowserRuntimeNode E)
    (protocolTransportIntent : BootstrapTransportIntent) (endpoint : ℕ) :
    ∃ router, node.buildWebrtcRouter protocolTransportIntent endpoint = .ok router ∧
      router.endpoint = endpoint := by
  unfold buildWebrtcRouter
  dsimp only
  split
  · rw [protocolHandlers_eq_ok fun alpn hmem => hmem]
    exact ⟨_, rfl, rfl⟩
  · exact ⟨_, rfl, rfl⟩

end BrowserRuntimeNode

namespace EndpointNode

open BrowserRuntimeNode Bytes Utf8

variable {E : Type*}

/-! ## The node -/

/-- A node that was spawned and whose endpoint was started. -/
def new (node : BrowserRuntimeNode E) (protocolTransportIntent : BootstrapTransportIntent) :
    EndpointNode E where
  node := node
  protocolTransportIntent := protocolTransportIntent
  webrtcEndpoint := some 0
  webrtcRouter := (node.buildWebrtcRouter protocolTransportIntent 0).toOption
  isOpen endpoint := endpoint = 0
  nextEndpoint := 1
  endpointOf _ := none

/-- The node takes its endpoint and its router out of its fields. -/
def take (t : EndpointNode E) : EndpointNode E :=
  { t with webrtcEndpoint := none, webrtcRouter := none }

/-- `Endpoint::close`, if there is an endpoint. -/
def closeEndpoint (t : EndpointNode E) (endpoint : Option ℕ) : EndpointNode E :=
  { t with isOpen := fun other => t.isOpen other && some other ≠ endpoint }

/-- `bind_webrtc_endpoint`, when it succeeds. -/
def bindWebrtcEndpoint (t : EndpointNode E) : EndpointNode E :=
  { t with isOpen := Function.update t.isOpen t.nextEndpoint true
           nextEndpoint := t.nextEndpoint + 1 }

/-- The node after an operation that may have admitted a connection over `endpoint`. -/
def withNode (t : EndpointNode E) (node : BrowserRuntimeNode E) (endpoint : Option ℕ) :
    EndpointNode E :=
  { t with
    node := node
    endpointOf := fun key =>
      if (t.node.connections.lookup key).isSome then t.endpointOf key else endpoint }

/-- `close_inner`. -/
def closeInner (t : EndpointNode E) (reason : Option String) : EndpointNode E :=
  if t.node.closed then t
  else { t.take.closeEndpoint t.webrtcEndpoint with node := (t.node.closeInner reason).2 }

section

variable [DecidableEq E] [EndpointKey E] [Blake3]

/-- The node after an operation.  A connection can only come over an endpoint that was bound. -/
def perform (t : EndpointNode E) (o : EndpointOp E) : Option (EndpointNode E) :=
  match o.op with
  | .closeNode reason => some (t.closeInner reason)
  | op =>
    if op.admitsWebrtc then
      if t.nextEndpoint ≤ o.endpoint then none
      else (t.node.step op).map fun node => t.withNode node (some o.endpoint)
    else (t.node.step op).map fun node => t.withNode node none

/-! ## The dial -/

/-- What the node does while the old router shuts down, if there is one. -/
def duringShutdown (t : EndpointNode E) (env : DialSurroundings E) : List (EndpointOp E) :=
  if t.webrtcRouter.isSome then env.duringShutdown else []

/-- `restart_webrtc_endpoint`. -/
def restartWebrtcEndpoint (t : EndpointNode E) (env : DialSurroundings E) :
    Option (BrowserRuntimeResult ℕ × EndpointNode E) :=
  if t.node.closed then some (.error .closed, t)
  else do
    let u ← Runs.run perform t.take (t.duringShutdown env)
    let u ← Runs.run perform (u.closeEndpoint t.webrtcEndpoint) env.duringBind
    match env.bound with
    | .error err =>
      return (.error ⟨.spawnFailed,
        "failed to bind browser WebRTC app Iroh endpoint: " ++ err⟩, u)
    | .ok () =>
      let endpoint := u.nextEndpoint
      match u.node.buildWebrtcRouter u.protocolTransportIntent endpoint with
      | .error err => return (.error err, u.bindWebrtcEndpoint)
      | .ok router =>
        if u.node.closed then
          return (.error .closed, u.bindWebrtcEndpoint.closeEndpoint (some endpoint))
        else
          return (.ok endpoint,
            { u.bindWebrtcEndpoint with
              webrtcEndpoint := some endpoint
              webrtcRouter := some router })

/-- `dial_webrtc_application_connection`. -/
def dialWebrtcApplicationConnection (t : EndpointNode E) (sessionKey : BrowserSessionKey)
    (env : DialSurroundings E) :
    Option (BrowserRuntimeResult (BrowserAcceptedConnection E × Option AcceptWaiter) ×
      EndpointNode E) :=
  match t.node.dialWebrtcStart sessionKey with
  | .error err => some (.error err, t)
  | .ok session => do
    match ← t.restartWebrtcEndpoint env with
    | (.error err, u) => return (.error err, u)
    | (.ok endpoint, u) =>
      let u ← Runs.run perform u env.duringConnect
      match env.connected with
      | .error err =>
        if !u.isOpen endpoint || u.node.closed then return (.error .closed, u)
        else return (.error ⟨.webRtcFailed, "WebRTC application dial failed: " ++ err⟩, u)
      | .ok connection =>
        let (result, node) ← u.node.dialWebrtcConnected sessionKey session connection
        return (result, u.withNode node (some endpoint))

end

/-! ## The invariant -/

/-- The router of a node serves its endpoint, which is open; every endpoint of a connection was
bound, and every connection has a key that was given out. -/
structure WellFormed (t : EndpointNode E) : Prop where
  wellRegistered : t.node.WellRegistered
  keysBelow : t.node.KeysBelow
  router : t.webrtcRouter.map WebrtcRouter.endpoint = t.webrtcEndpoint
  installed : ∀ endpoint, t.webrtcEndpoint = some endpoint →
    t.isOpen endpoint = true ∧ endpoint < t.nextEndpoint
  bound : ∀ key endpoint, t.endpointOf key = some endpoint → endpoint < t.nextEndpoint

variable {t u v : EndpointNode E}

theorem wellFormed_new [EndpointKey E] {endpointId : E} {epoch : FixedBytes 16}
    {config : BrowserRuntimeNodeConfig} {browserProtocols : List String}
    {node : BrowserRuntimeNode E}
    (hspawn : spawn endpointId epoch config browserProtocols = .ok node)
    (protocolTransportIntent : BootstrapTransportIntent) :
    (new node protocolTransportIntent).WellFormed := by
  obtain ⟨router, hrouter, hendpoint⟩ := node.buildWebrtcRouter_eq_ok protocolTransportIntent 0
  refine ⟨(registered_of_spawn hspawn).1, fun key c hc => ?_, ?_, ?_, fun key endpoint h => ?_⟩
  · have hnone : node.connections.lookup key = none := (spawned hspawn).connections key
    exact absurd (hnone.symm.trans hc) (by simp)
  · show (node.buildWebrtcRouter protocolTransportIntent 0).toOption.map _ = some 0
    rw [hrouter]
    exact congrArg some hendpoint
  · rintro endpoint h
    obtain rfl := Option.some.inj h
    exact ⟨rfl, Nat.zero_lt_one⟩
  · exact absurd h (by simp [new])

theorem WellFormed.take (h : t.WellFormed) : t.take.WellFormed :=
  ⟨h.wellRegistered, h.keysBelow, rfl, fun _ hsome => absurd hsome (by simp [EndpointNode.take]),
    h.bound⟩

/-- An endpoint that is not the one of the node is closed. -/
theorem WellFormed.closeEndpoint (h : t.WellFormed) {endpoint : Option ℕ}
    (hother : ∀ e, t.webrtcEndpoint = some e → endpoint ≠ some e) :
    (t.closeEndpoint endpoint).WellFormed := by
  refine ⟨h.wellRegistered, h.keysBelow, h.router, fun e he => ?_, h.bound⟩
  obtain ⟨hopen, hlt⟩ := h.installed e he
  refine ⟨?_, hlt⟩
  show (t.isOpen e && decide (some e ≠ endpoint)) = true
  rw [hopen, Bool.true_and, decide_eq_true_eq]
  exact (hother e he).symm

theorem WellFormed.bindWebrtcEndpoint (h : t.WellFormed) : t.bindWebrtcEndpoint.WellFormed := by
  refine ⟨h.wellRegistered, h.keysBelow, h.router, fun e he => ?_, fun key e he => ?_⟩
  · obtain ⟨hopen, hlt⟩ := h.installed e he
    refine ⟨?_, Nat.lt_succ_of_lt hlt⟩
    show Function.update t.isOpen t.nextEndpoint true e = true
    rw [Function.update_of_ne hlt.ne, hopen]
  · exact Nat.lt_succ_of_lt (h.bound key e he)

/-- The endpoint that was bound last is installed, with its router. -/
theorem WellFormed.install (h : t.WellFormed) {router : WebrtcRouter} {endpoint : ℕ}
    (hrouter : router.endpoint = endpoint) (hopen : t.isOpen endpoint = true)
    (hlt : endpoint < t.nextEndpoint) :
    ({ t with webrtcEndpoint := some endpoint, webrtcRouter := some router } :
      EndpointNode E).WellFormed := by
  refine ⟨h.wellRegistered, h.keysBelow, congrArg some hrouter, fun e he => ?_, h.bound⟩
  obtain rfl := Option.some.inj he
  exact ⟨hopen, hlt⟩

theorem WellFormed.withNode (h : t.WellFormed) {node : BrowserRuntimeNode E} {endpoint : Option ℕ}
    (hwf : node.WellRegistered)
    (hkeys : node.KeysBelow) (hendpoint : ∀ e, endpoint = some e → e < t.nextEndpoint) :
    (t.withNode node endpoint).WellFormed := by
  refine ⟨hwf, hkeys, h.router, h.installed, fun key e he => ?_⟩
  replace he : (if (t.node.connections.lookup key).isSome then t.endpointOf key else endpoint) =
      some e := he
  split_ifs at he
  · exact h.bound key e he
  · exact hendpoint e he

/-! ## What a stretch of a dial leaves of the connections -/

/-- `u` comes from `t`, which is open, and has its connections, but that those of `closes` are
closed. -/
structure Carries (closes : BrowserConnectionKey → Prop) (t u : EndpointNode E) : Prop where
  live : t.node.closed = false
  entry : ∀ key c, t.node.connections.lookup key = some c →
    u.endpointOf key = t.endpointOf key ∧ ∃ c', u.node.connections.lookup key = some c' ∧
      (c'.closed = false ↔ c.closed = false ∧ ¬ closes key)

/-- The nodes have the same endpoint, and the same endpoints are open. -/
structure SameEndpoint (t u : EndpointNode E) : Prop where
  webrtcEndpoint : u.webrtcEndpoint = t.webrtcEndpoint
  webrtcRouter : u.webrtcRouter = t.webrtcRouter
  isOpen : u.isOpen = t.isOpen
  nextEndpoint : u.nextEndpoint = t.nextEndpoint

/-- The connections that a list of operations closes. -/
def Closes (ops : List (EndpointOp E)) (key : BrowserConnectionKey) : Prop :=
  ∃ o ∈ ops, o.op = .connectionClose key

theorem SameEndpoint.refl (t : EndpointNode E) : SameEndpoint t t := ⟨rfl, rfl, rfl, rfl⟩

theorem SameEndpoint.trans (h : SameEndpoint t u) (h' : SameEndpoint u v) : SameEndpoint t v :=
  ⟨h'.webrtcEndpoint.trans h.webrtcEndpoint, h'.webrtcRouter.trans h.webrtcRouter,
    h'.isOpen.trans h.isOpen, h'.nextEndpoint.trans h.nextEndpoint⟩

/-- Where neither the node nor the endpoints of the connections change, all are carried. -/
theorem Carries.of_node (hlive : t.node.closed = false) (hnode : u.node = t.node)
    (hendpoint : u.endpointOf = t.endpointOf) : Carries (fun _ => False) t u := by
  refine ⟨hlive, fun key c hc => ⟨congrFun hendpoint key, c, ?_, by simp⟩⟩
  rw [hnode]
  exact hc

theorem Carries.trans {p q : BrowserConnectionKey → Prop} (h : Carries p t u)
    (h' : Carries q u v) : Carries (fun key => p key ∨ q key) t v := by
  refine ⟨h.live, fun key c hc => ?_⟩
  obtain ⟨hendpoint, c', hc', hclosed⟩ := h.entry key c hc
  obtain ⟨hendpoint', c'', hc'', hclosed'⟩ := h'.entry key c' hc'
  refine ⟨hendpoint'.trans hendpoint, c'', hc'', ?_⟩
  rw [hclosed', hclosed, not_or, and_assoc]

theorem Carries.congr {p q : BrowserConnectionKey → Prop} (h : Carries p t u)
    (hpq : ∀ key, p key ↔ q key) : Carries q t u :=
  ⟨h.live, fun key c hc => by rw [← hpq key]; exact h.entry key c hc⟩

section

variable [DecidableEq E] [EndpointKey E] [Blake3]

/-- An operation closes the node, or it is one of the operations on the node inside. -/
theorem perform_cases {o : EndpointOp E} (hstep : t.perform o = some u) :
    (∃ reason, o.op = .closeNode reason ∧ u = t.closeInner reason) ∨
      ∃ node endpoint, t.node.step o.op = some node ∧ u = t.withNode node endpoint ∧
        ∀ e, endpoint = some e → e < t.nextEndpoint := by
  unfold perform at hstep
  split at hstep
  · next reason hop => exact Or.inl ⟨reason, hop, (Option.some.inj hstep).symm⟩
  · split_ifs at hstep with hadmits hbound
    · obtain ⟨node, hnode, rfl⟩ := Option.map_eq_some_iff.mp hstep
      refine Or.inr ⟨node, _, hnode, rfl, fun e he => ?_⟩
      rw [← Option.some.inj he]
      exact Nat.not_le.mp hbound
    · obtain ⟨node, hnode, rfl⟩ := Option.map_eq_some_iff.mp hstep
      exact Or.inr ⟨node, none, hnode, rfl, fun e he => absurd he (by simp)⟩

omit [DecidableEq E] [EndpointKey E] [Blake3] in
theorem node_closeInner (t : EndpointNode E) (reason : Option String) :
    (t.closeInner reason).node = (t.node.closeInner reason).2 := by
  unfold closeInner BrowserRuntimeNode.closeInner
  split <;> rfl

theorem WellFormed.closeInner (h : t.WellFormed) (reason : Option String) :
    (t.closeInner reason).WellFormed := by
  have hstep : t.node.step (.closeNode reason) = some (t.node.closeInner reason).2 := rfl
  have hwf : (t.node.closeInner reason).2.WellRegistered := h.wellRegistered.step hstep
  have hkeys : (t.node.closeInner reason).2.KeysBelow := h.keysBelow.step h.wellRegistered hstep
  unfold EndpointNode.closeInner
  split_ifs with hclosed
  · exact h
  · have hclose : (t.take.closeEndpoint t.webrtcEndpoint).WellFormed :=
      h.take.closeEndpoint fun e he => absurd he (by simp [EndpointNode.take])
    exact ⟨hwf, hkeys, hclose.router, hclose.installed, hclose.bound⟩

theorem WellFormed.perform (h : t.WellFormed) {o : EndpointOp E}
    (hstep : t.perform o = some u) : u.WellFormed := by
  rcases perform_cases hstep with ⟨reason, -, rfl⟩ | ⟨node, endpoint, hnode, rfl, hbound⟩
  · exact h.closeInner reason
  · exact h.withNode (h.wellRegistered.step hnode) (h.keysBelow.step h.wellRegistered hnode) hbound

/-- Recording the result of a step carries the connections. -/
theorem WellFormed.carries_withNode (h : t.WellFormed) {op : NodeOp E} {node : BrowserRuntimeNode E}
    (hnode : t.node.step op = some node) (hopen : node.closed = false) (endpoint : Option ℕ) :
    Carries (fun key => op = .connectionClose key) t (t.withNode node endpoint) := by
  refine ⟨SignalTrace.open_of_step h.wellRegistered hopen hnode, fun key c hc => ?_⟩
  refine ⟨?_, connection_of_step h.wellRegistered h.keysBelow hnode hopen hc⟩
  show (if (t.node.connections.lookup key).isSome then t.endpointOf key else endpoint) =
    t.endpointOf key
  rw [hc]
  rfl

/-- An operation that leaves the node open leaves its endpoint and carries the connections. -/
theorem WellFormed.carries_perform (h : t.WellFormed) {o : EndpointOp E}
    (hstep : t.perform o = some u) (hopen : u.node.closed = false) :
    SameEndpoint t u ∧ Carries (fun key => o.op = .connectionClose key) t u := by
  rcases perform_cases hstep with ⟨reason, -, rfl⟩ | ⟨node, endpoint, hnode, rfl, -⟩
  · rw [node_closeInner, BrowserRuntimeNode.closeInner] at hopen
    split_ifs at hopen with hclosed
    exact absurd (hopen.symm.trans hclosed) (by simp)
  · exact ⟨⟨rfl, rfl, rfl, rfl⟩, h.carries_withNode hnode hopen endpoint⟩

theorem WellFormed.run (h : t.WellFormed) {ops : List (EndpointOp E)}
    (hrun : Runs.run EndpointNode.perform t ops = some u) : u.WellFormed :=
  Runs.run_invariant (fun _ _ _ h hstep => h.perform hstep) h hrun

/-- **Operations that leave the node open leave its endpoint and carry the connections.** -/
theorem WellFormed.carries_run (h : t.WellFormed) {ops : List (EndpointOp E)}
    (hrun : Runs.run EndpointNode.perform t ops = some u) (hopen : u.node.closed = false) :
    SameEndpoint t u ∧ Carries (Closes ops) t u := by
  induction ops generalizing t with
  | nil =>
    obtain rfl : t = u := Option.some.inj hrun
    refine ⟨.refl t, (Carries.of_node hopen rfl rfl).congr fun key => ?_⟩
    simp [Closes]
  | cons o ops ih =>
    obtain ⟨v, hv, hrest⟩ := Runs.run_cons.mp hrun
    obtain ⟨hsame, hcarries⟩ := ih (h.perform hv) hrest
    obtain ⟨hsame', hcarries'⟩ := h.carries_perform hv hcarries.live
    refine ⟨hsame'.trans hsame, (hcarries'.trans hcarries).congr fun key => ?_⟩
    simp [Closes]

end

/-! ## The restart and the dial -/

section

variable [DecidableEq E] [EndpointKey E] [Blake3]

/-- No operation installs an endpoint. -/
theorem uninstalled_run {ops : List (EndpointOp E)} (hnone : t.webrtcEndpoint = none)
    (hrun : Runs.run perform t ops = some u) : u.webrtcEndpoint = none := by
  refine Runs.run_invariant (I := fun t => t.webrtcEndpoint = none)
    (fun t o u hnone hstep => ?_) hnone hrun
  rcases perform_cases hstep with ⟨reason, -, rfl⟩ | ⟨node, endpoint, -, rfl, -⟩
  · unfold closeInner
    split_ifs
    · exact hnone
    · rfl
  · exact hnone

/-- No operation binds an endpoint. -/
theorem nextEndpoint_run {ops : List (EndpointOp E)} (hrun : Runs.run perform t ops = some u) :
    u.nextEndpoint = t.nextEndpoint := by
  refine Runs.run_invariant (I := fun v => v.nextEndpoint = t.nextEndpoint)
    (fun v o w hnext hstep => ?_) rfl hrun
  rcases perform_cases hstep with ⟨reason, -, rfl⟩ | ⟨node, endpoint, -, rfl, -⟩
  · unfold closeInner
    split_ifs
    · exact hnext
    · exact hnext
  · exact hnext

/-- **The restart.**  It fails, and leaves the node closed or without an endpoint, or the next
endpoint is installed, the old one is closed, and the connections are carried. -/
theorem restart_cases (h : t.WellFormed) {env : DialSurroundings E}
    {result : BrowserRuntimeResult ℕ} (hrun : t.restartWebrtcEndpoint env = some (result, u)) :
    u.WellFormed ∧
      ((∃ err, result = .error err) ∧ (u.node.closed = false →
          env.bound ≠ .ok () ∧ u.webrtcEndpoint = none) ∨
        result = .ok t.nextEndpoint ∧ env.bound = .ok () ∧
          u.webrtcEndpoint = some t.nextEndpoint ∧ u.nextEndpoint = t.nextEndpoint + 1 ∧
          (∀ e < t.nextEndpoint, u.isOpen e = (t.isOpen e && some e ≠ t.webrtcEndpoint)) ∧
          Carries (Closes (t.duringShutdown env ++ env.duringBind)) t u) := by
  unfold restartWebrtcEndpoint at hrun
  split_ifs at hrun with hclosed
  · obtain ⟨rfl, rfl⟩ := Prod.mk.inj (Option.some.inj hrun)
    exact ⟨h, Or.inl ⟨⟨_, rfl⟩, fun hopen => absurd (hopen.symm.trans hclosed) (by simp)⟩⟩
  · have hlive : t.node.closed = false := by simpa using hclosed
    obtain ⟨v, hv, hrun⟩ := Option.bind_eq_some_iff.mp hrun
    obtain ⟨w, hw, hrun⟩ := Option.bind_eq_some_iff.mp hrun
    have hvnone : v.webrtcEndpoint = none := uninstalled_run rfl hv
    have hvclose : (v.closeEndpoint t.webrtcEndpoint).WellFormed :=
      (h.take.run hv).closeEndpoint fun e he => absurd (hvnone.symm.trans he) (by simp)
    have hcnone : (v.closeEndpoint t.webrtcEndpoint).webrtcEndpoint = none := hvnone
    have hwnone : w.webrtcEndpoint = none := uninstalled_run hcnone hw
    have hwf : w.WellFormed := hvclose.run hw
    cases hbound : env.bound with
    | error err =>
      rw [hbound] at hrun
      obtain ⟨rfl, rfl⟩ := Prod.mk.inj (Option.some.inj hrun)
      exact ⟨hwf, Or.inl ⟨⟨_, rfl⟩, fun _ => ⟨by simp, hwnone⟩⟩⟩
    | ok value =>
      obtain ⟨router, hbuild, hrouter⟩ :=
        w.node.buildWebrtcRouter_eq_ok w.protocolTransportIntent w.nextEndpoint
      rw [hbound] at hrun
      dsimp only at hrun
      rw [hbuild] at hrun
      dsimp only at hrun
      split_ifs at hrun with hclosed'
      · obtain ⟨rfl, rfl⟩ := Prod.mk.inj (Option.some.inj hrun)
        refine ⟨hwf.bindWebrtcEndpoint.closeEndpoint fun e he => ?_,
          Or.inl ⟨⟨_, rfl⟩, fun hopen => absurd (hopen.symm.trans hclosed') (by simp)⟩⟩
        exact absurd (hwnone.symm.trans he) (by simp)
      · obtain ⟨rfl, rfl⟩ := Prod.mk.inj (Option.some.inj hrun)
        have hwopen : w.node.closed = false := by simpa using hclosed'
        obtain ⟨hsame', hcarries'⟩ := hvclose.carries_run hw hwopen
        obtain ⟨hsame, hcarries⟩ := h.take.carries_run hv hcarries'.live
        have hnext : w.nextEndpoint = t.nextEndpoint :=
          hsame'.nextEndpoint.trans hsame.nextEndpoint
        refine ⟨hwf.bindWebrtcEndpoint.install hrouter (Function.update_self ..)
          (Nat.lt_succ_self _), Or.inr ⟨?_, rfl, ?_, ?_, fun e he => ?_, ?_⟩⟩
        · rw [hnext]
        · rw [hnext]
        · exact congrArg (· + 1) hnext
        · show Function.update w.isOpen w.nextEndpoint true e = _
          rw [hnext, Function.update_of_ne he.ne, hsame'.isOpen]
          show (v.isOpen e && _) = _
          rw [hsame.isOpen]
          rfl
        · have htaken : Carries (fun _ => False) t t.take := .of_node hlive rfl rfl
          have hclosing : Carries (fun _ => False) v (v.closeEndpoint t.webrtcEndpoint) :=
            .of_node hcarries'.live rfl rfl
          have hinstalled : Carries (fun _ => False) w { w.bindWebrtcEndpoint with
              webrtcEndpoint := some w.nextEndpoint, webrtcRouter := some router } :=
            .of_node hwopen rfl rfl
          refine ((((htaken.trans hcarries).trans hclosing).trans hcarries').trans
            hinstalled).congr fun key => ?_
          simp [Closes, or_and_right, exists_or]

omit [DecidableEq E] [EndpointKey E] [Blake3] in
/-- The session may be dialed over WebRTC. -/
theorem dialWebrtcStart_cases (node : BrowserRuntimeNode E) (sessionKey : BrowserSessionKey) :
    (∃ err, node.dialWebrtcStart sessionKey = .error err) ∧
        (¬ ∃ session, node.session sessionKey = some session ∧ session.role = .dialer ∧
          session.channelAttachment = .open) ∨
      ∃ session, node.dialWebrtcStart sessionKey = .ok session ∧
        node.session sessionKey = some session ∧ session.role = .dialer ∧
        session.channelAttachment = .open := by
  unfold dialWebrtcStart sessionSnapshot BrowserRuntimeNode.session
  cases node.sessions.lookup sessionKey with
  | none => exact Or.inl ⟨⟨_, rfl⟩, by simp⟩
  | some session =>
    dsimp only
    split_ifs with hrole hchannel
    · exact Or.inl ⟨⟨_, rfl⟩, by simp [hrole]⟩
    · exact Or.inl ⟨⟨_, rfl⟩, by simp [hchannel]⟩
    · exact Or.inr ⟨session, rfl, rfl, not_not.mp hrole, not_not.mp hchannel⟩

/-- The session may be dialed over WebRTC. -/
def Dialable (t : EndpointNode E) (sessionKey : BrowserSessionKey) : Prop :=
  ∃ session, t.node.session sessionKey = some session ∧ session.role = .dialer ∧
    session.channelAttachment = .open

/-- What the node does while a dial runs to its end. -/
def during (t : EndpointNode E) (env : DialSurroundings E) : List (EndpointOp E) :=
  t.duringShutdown env ++ env.duringBind ++ env.duringConnect

/-- **The dial.**  It is refused, and nothing changes; or it leaves the node closed or without an
endpoint; or the next endpoint is installed, the old one is closed, and the connections are
carried. -/
theorem dial_cases (h : t.WellFormed) {sessionKey : BrowserSessionKey} {env : DialSurroundings E}
    {result : BrowserRuntimeResult (BrowserAcceptedConnection E × Option AcceptWaiter)}
    (hdial : t.dialWebrtcApplicationConnection sessionKey env = some (result, u)) :
    u.WellFormed ∧
      (¬ t.Dialable sessionKey ∧ u = t ∨
        t.Dialable sessionKey ∧ (u.node.closed = false →
          env.bound ≠ .ok () ∧ u.webrtcEndpoint = none ∨
          env.bound = .ok () ∧ u.webrtcEndpoint = some t.nextEndpoint ∧
            (∀ e < t.nextEndpoint, u.isOpen e = (t.isOpen e && some e ≠ t.webrtcEndpoint)) ∧
            Carries (Closes (t.during env)) t u)) := by
  unfold dialWebrtcApplicationConnection at hdial
  rcases dialWebrtcStart_cases t.node sessionKey with
    ⟨⟨err, hstart⟩, hrefused⟩ | ⟨session, hstart, hdialable⟩
  · rw [hstart] at hdial
    obtain ⟨-, rfl⟩ := Prod.mk.inj (Option.some.inj hdial)
    exact ⟨h, Or.inl ⟨hrefused, rfl⟩⟩
  · rw [hstart] at hdial
    obtain ⟨⟨restarted, v⟩, hrestart, hdial⟩ := Option.bind_eq_some_iff.mp hdial
    obtain ⟨hwf, ⟨⟨err, rfl⟩, hfailed⟩ | ⟨rfl, hbound, hinstalled, hnext, hisOpen, hcarries⟩⟩ :=
      restart_cases h hrestart
    · obtain ⟨-, rfl⟩ := Prod.mk.inj (Option.some.inj hdial)
      exact ⟨hwf, Or.inr ⟨⟨session, hdialable⟩, fun hopen => Or.inl (hfailed hopen)⟩⟩
    · obtain ⟨w, hw, hdial⟩ := Option.bind_eq_some_iff.mp hdial
      have hwf' : w.WellFormed := hwf.run hw
      -- whatever the end of the dial does to the node
      have hend : u.WellFormed ∧ (u.node.closed = false → SameEndpoint w u ∧
          Carries (fun _ => False) w u) := by
        cases hconnected : env.connected with
        | error err =>
          rw [hconnected] at hdial
          dsimp only at hdial
          have hsame : w = u := by
            split_ifs at hdial
            · exact (Prod.mk.inj (Option.some.inj hdial)).2
            · exact (Prod.mk.inj (Option.some.inj hdial)).2
          subst hsame
          exact ⟨hwf', fun hopen => ⟨.refl w, .of_node hopen rfl rfl⟩⟩
        | ok connection =>
          rw [hconnected] at hdial
          obtain ⟨⟨admitted, node⟩, hnode, hdial⟩ := Option.bind_eq_some_iff.mp hdial
          obtain ⟨-, rfl⟩ := Prod.mk.inj (Option.some.inj hdial)
          have hstep : w.node.step (.dialWebrtcConnected sessionKey session connection) =
              some node := Option.map_eq_some_iff.mpr ⟨_, hnode, rfl⟩
          refine ⟨hwf'.withNode (hwf'.wellRegistered.step hstep)
            (hwf'.keysBelow.step hwf'.wellRegistered hstep) ?_, fun hopen => ⟨⟨rfl, rfl, rfl, rfl⟩,
              (hwf'.carries_withNode hstep hopen _).congr fun key => by simp⟩⟩
          rintro e he
          obtain rfl := Option.some.inj he
          rw [nextEndpoint_run hw, hnext]
          exact Nat.lt_succ_self _
      refine ⟨hend.1, Or.inr ⟨⟨session, hdialable⟩, fun hopen => Or.inr ?_⟩⟩
      obtain ⟨hsame', hcarries'⟩ := hend.2 hopen
      obtain ⟨hsame, hcarries''⟩ := hwf.carries_run hw hcarries'.live
      refine ⟨hbound, ?_, fun e he => ?_, ?_⟩
      · rw [hsame'.webrtcEndpoint, hsame.webrtcEndpoint, hinstalled]
      · rw [hsame'.isOpen, hsame.isOpen, hisOpen e he]
      · refine ((hcarries.trans hcarries'').trans hcarries').congr fun key => ?_
        simp [Closes, during, or_and_right, exists_or, or_assoc]

end

/-! ## What a dial leaves -/

/-- The connection is open: it is not closed itself, and neither is its endpoint. -/
def Open (t : EndpointNode E) (key : BrowserConnectionKey) : Prop :=
  ∃ c, t.node.connections.lookup key = some c ∧ c.closed = false ∧
    ∀ endpoint, t.endpointOf key = some endpoint → t.isOpen endpoint = true

/-- The connection is open, and is not one of the session. -/
def OpenOther (t : EndpointNode E) (sessionKey : BrowserSessionKey) (key : BrowserConnectionKey) :
    Prop :=
  t.Open key ∧ ∀ c, t.node.connections.lookup key = some c → c.sessionKey ≠ some sessionKey

/-- The connection runs over the WebRTC endpoint of the node. -/
def OnEndpoint (t : EndpointNode E) (key : BrowserConnectionKey) : Prop :=
  ∃ endpoint, t.endpointOf key = some endpoint ∧ t.webrtcEndpoint = some endpoint

/-- The node has a WebRTC endpoint, which is open, and a router on it. -/
def Usable (t : EndpointNode E) : Prop :=
  ∃ endpoint router, t.webrtcEndpoint = some endpoint ∧ t.isOpen endpoint = true ∧
    t.webrtcRouter = some router ∧ router.endpoint = endpoint

/-- A node in order that has an endpoint can use it. -/
theorem WellFormed.usable_iff (h : t.WellFormed) : t.Usable ↔ t.webrtcEndpoint ≠ none := by
  constructor
  · rintro ⟨endpoint, -, hsome, -⟩ hnone
    exact absurd (hnone.symm.trans hsome) (by simp)
  · intro hne
    obtain ⟨endpoint, hsome⟩ := Option.ne_none_iff_exists'.mp hne
    obtain ⟨router, hrouter, hendpoint⟩ := Option.map_eq_some_iff.mp (h.router.trans hsome)
    exact ⟨endpoint, router, hsome, (h.installed endpoint hsome).1, hrouter, hendpoint⟩

/-- Where the connections are carried and the old endpoint was closed, a connection that was open
is open still if it was not closed and does not run over the old endpoint. -/
theorem open_iff_of_carries (h : t.WellFormed) {closes : BrowserConnectionKey → Prop}
    (hcarries : Carries closes t u)
    (hisOpen : ∀ e < t.nextEndpoint, u.isOpen e = (t.isOpen e && some e ≠ t.webrtcEndpoint))
    {key : BrowserConnectionKey} (hopen : t.Open key) :
    u.Open key ↔ ¬ closes key ∧ ¬ t.OnEndpoint key := by
  obtain ⟨c, hc, hcopen, hendpoint⟩ := hopen
  obtain ⟨hsame, c', hc', hclosed⟩ := hcarries.entry key c hc
  have hends : (∀ e, u.endpointOf key = some e → u.isOpen e = true) ↔ ¬ t.OnEndpoint key := by
    rw [hsame]
    constructor
    · rintro hall ⟨e, he, hinstalled⟩
      have hopen' := hall e he
      rw [hisOpen e (h.bound key e he), hinstalled] at hopen'
      simp at hopen'
    · intro hnot e he
      rw [hisOpen e (h.bound key e he), hendpoint e he, Bool.true_and, decide_eq_true_eq]
      exact fun heq => hnot ⟨e, he, heq.symm⟩
  constructor
  · rintro ⟨c'', hc'', hopen', hall⟩
    obtain rfl := Option.some.inj (hc'.symm.trans hc'')
    exact ⟨(hclosed.mp hopen').2, hends.mp hall⟩
  · rintro ⟨hkept, hnot⟩
    exact ⟨c', hc', hclosed.mpr ⟨hcopen, hkept⟩, hends.mpr hnot⟩

section

variable [DecidableEq E] [EndpointKey E] [Blake3]

/-- What a node goes through: operations, and WebRTC dials that run to their end. -/
inductive Event (E : Type*) where
  | op (o : EndpointOp E)
  | dial (sessionKey : BrowserSessionKey) (env : DialSurroundings E)

def step (t : EndpointNode E) : Event E → Option (EndpointNode E)
  | .op o => t.perform o
  | .dial sessionKey env => (t.dialWebrtcApplicationConnection sessionKey env).map (·.2)

theorem WellFormed.step (h : t.WellFormed) {event : Event E} (hstep : t.step event = some u) :
    u.WellFormed := by
  cases event with
  | op o => exact h.perform hstep
  | dial sessionKey env =>
    obtain ⟨⟨result, v⟩, hdial, rfl⟩ := Option.map_eq_some_iff.mp hstep
    exact (dial_cases h hdial).1

/-- What a dial does, in a node that is in order. -/
theorem WellFormed.frame_iff (h : t.WellFormed) {sessionKey : BrowserSessionKey}
    {env : DialSurroundings E}
    {result : BrowserRuntimeResult (BrowserAcceptedConnection E × Option AcceptWaiter)}
    (hdial : t.dialWebrtcApplicationConnection sessionKey env = some (result, u))
    (hopen : u.node.closed = false) :
    ((∀ key, t.OpenOther sessionKey key → ¬ Closes (t.during env) key → u.Open key) ∧
        u.Usable) ↔
      t.Dialable sessionKey ∧ env.bound = .ok () ∧
          (∀ key, t.OpenOther sessionKey key → t.OnEndpoint key → Closes (t.during env) key) ∨
        ¬ t.Dialable sessionKey ∧ t.webrtcEndpoint ≠ none := by
  obtain ⟨hwf, ⟨hrefused, rfl⟩ | ⟨hdialable, hcases⟩⟩ := dial_cases h hdial
  · have hkept : ∀ key, u.OpenOther sessionKey key → ¬ Closes (u.during env) key → u.Open key :=
      fun key hother _ => hother.1
    rw [and_iff_right hkept, hwf.usable_iff]
    simp [hrefused]
  · rcases hcases hopen with ⟨hbound, hnone⟩ | ⟨hbound, hinstalled, hisOpen, hcarries⟩
    · rw [hwf.usable_iff]
      simp [hdialable, hbound, hnone]
    · have husable : u.Usable := hwf.usable_iff.mpr (by simp [hinstalled])
      have hkept : ∀ key, t.OpenOther sessionKey key →
          ((¬ Closes (t.during env) key → u.Open key) ↔
            (t.OnEndpoint key → Closes (t.during env) key)) := by
        intro key hother
        rw [open_iff_of_carries h hcarries hisOpen hother.1]
        tauto
      simp only [hdialable, hbound, husable, and_true, true_and, not_true_eq_false, false_and,
        or_false]
      exact forall₂_congr hkept

/-- **What a WebRTC dial does to the rest of the node.**  In every reachable state: a dial that runs
to its end and does not find the node closed leaves every other connection open that nobody else
closes, and leaves an endpoint and a router that can be used, if and only if

* the session may be dialed, a new endpoint can be bound, and every other open connection over the
  endpoint of the node is closed by somebody else while the dial runs; or
* the dial is refused because of its session, and the node had an endpoint before. -/
theorem dial_frame_iff {endpointId : E} {epoch : FixedBytes 16} {config : BrowserRuntimeNodeConfig}
    {browserProtocols : List String} {node : BrowserRuntimeNode E}
    (hspawn : spawn endpointId epoch config browserProtocols = .ok node)
    {protocolTransportIntent : BootstrapTransportIntent} {events : List (Event E)}
    (hrun : Runs.run step (new node protocolTransportIntent) events = some t)
    {sessionKey : BrowserSessionKey} {env : DialSurroundings E}
    {result : BrowserRuntimeResult (BrowserAcceptedConnection E × Option AcceptWaiter)}
    (hdial : t.dialWebrtcApplicationConnection sessionKey env = some (result, u))
    (hopen : u.node.closed = false) :
    ((∀ key, t.OpenOther sessionKey key → ¬ Closes (t.during env) key → u.Open key) ∧
        u.Usable) ↔
      t.Dialable sessionKey ∧ env.bound = .ok () ∧
          (∀ key, t.OpenOther sessionKey key → t.OnEndpoint key → Closes (t.during env) key) ∨
        ¬ t.Dialable sessionKey ∧ t.webrtcEndpoint ≠ none := by
  have hnew := wellFormed_new hspawn protocolTransportIntent
  have hwf : t.WellFormed := Runs.run_invariant (fun _ _ _ h hstep => h.step hstep) hnew hrun
  exact hwf.frame_iff hdial hopen

end

section Sample

open scoped Sample
open Sample

/-- The id of the second dial to `bob`. -/
def sampleSecondDialId : DialId := hashHead secondHash

/-- A session of `alice` and `bob` is negotiated, up to its open channel. -/
def sampleNegotiation (dialId : DialId) : List (Event Key) :=
  [.allocateDial bob "chat" .webRtcOnly, .attachTransferredChannel (.ofDialId dialId),
    .rtcLifecycle ⟨.ofDialId dialId, .dataChannelOpen, none⟩].map fun op => .op ⟨op, 0⟩

/-- Surroundings in which nothing else happens and the endpoint connects. -/
def sampleSurroundings (dialId : DialId) : DialSurroundings Key where
  duringShutdown := []
  duringBind := []
  bound := .ok ()
  duringConnect := []
  connected := .ok
    { remoteId := bob
      alpn := utf8Bytes "chat"
      paths := [⟨.custom (WebRtcAddr.session bob dialId).toCustomAddr, true⟩] }

/-- The first session is dialed, and the second one is ready to be. -/
def sampleEvents : List (Event Key) :=
  sampleNegotiation sampleDialId ++
    [.dial (.ofDialId sampleDialId) (sampleSurroundings sampleDialId)] ++
    sampleNegotiation sampleSecondDialId

/-- A connection over the relay is dialed besides. -/
def sampleRelayDial : Event Key :=
  .op ⟨.dialIrohConnected { remoteId := bob, alpn := utf8Bytes "chat", paths := [] } none, 0⟩

/-- Surroundings in which the connection of the first session is closed by its owner while the dial
of the second one connects. -/
def sampleClosing : DialSurroundings Key :=
  { sampleSurroundings sampleSecondDialId with duringConnect := [⟨.connectionClose ⟨1⟩, 0⟩] }

/-- A dial in a node with two other connections.  The one over the endpoint of the node is closed by
its owner while the dial waits, so nothing is lost; the one over the relay stays open. -/
theorem dial_frame_iff_sample :
    ∃ t u result,
      Runs.run step (new sampleNode .irohRelay) (sampleEvents ++ [sampleRelayDial]) = some t ∧
        t.OpenOther (.ofDialId sampleSecondDialId) ⟨1⟩ ∧ t.OnEndpoint ⟨1⟩ ∧
        t.OpenOther (.ofDialId sampleSecondDialId) ⟨2⟩ ∧
        t.dialWebrtcApplicationConnection (.ofDialId sampleSecondDialId) sampleClosing =
          some (result, u) ∧
        u.Open ⟨2⟩ ∧ u.Usable := by
  have hspawn : spawn alice epoch ⟨8, ["chat"], []⟩ [] = .ok sampleNode := rfl
  have hrun : ∃ t u result c d,
      Runs.run step (new sampleNode .irohRelay) (sampleEvents ++ [sampleRelayDial]) = some t ∧
        t.dialWebrtcApplicationConnection (.ofDialId sampleSecondDialId) sampleClosing =
          some (result, u) ∧
        u.node.closed = false ∧ t.Dialable (.ofDialId sampleSecondDialId) ∧
        t.node.connections.keys = [⟨2⟩, ⟨1⟩] ∧
        (t.node.connections.lookup ⟨1⟩ = some c ∧ c.closed = false ∧
          c.sessionKey ≠ some (.ofDialId sampleSecondDialId) ∧ t.endpointOf ⟨1⟩ = some 1) ∧
        (t.node.connections.lookup ⟨2⟩ = some d ∧ d.closed = false ∧
          d.sessionKey ≠ some (.ofDialId sampleSecondDialId) ∧ t.endpointOf ⟨2⟩ = none) ∧
        t.webrtcEndpoint = some 1 ∧ t.isOpen 1 = true ∧
        t.during sampleClosing = [⟨.connectionClose ⟨1⟩, 0⟩] :=
    ⟨_, _, _, _, _, rfl, rfl, rfl, ⟨_, rfl, rfl, rfl⟩, rfl, ⟨rfl, rfl, by decide +kernel, rfl⟩,
      ⟨rfl, rfl, by decide +kernel, rfl⟩, rfl, rfl, rfl⟩
  obtain ⟨t, u, result, c, d, hrun, hdial, hlive, hdialable, hkeys, ⟨hc, hcopen, hcother, hover⟩,
    ⟨hd, hdopen, hdother, hrelay⟩, hinstalled, hopen, hduring⟩ := hrun
  -- the first session's connection runs over the endpoint that the dial closes
  have hfirst : t.OpenOther (.ofDialId sampleSecondDialId) ⟨1⟩ := by
    refine ⟨⟨c, hc, hcopen, fun e he => ?_⟩, fun c' hc' => ?_⟩
    · obtain rfl := Option.some.inj (hover.symm.trans he)
      exact hopen
    · obtain rfl := Option.some.inj (hc.symm.trans hc')
      exact hcother
  have hsecond : t.OpenOther (.ofDialId sampleSecondDialId) ⟨2⟩ := by
    refine ⟨⟨d, hd, hdopen, fun e he => ?_⟩, fun d' hd' => ?_⟩
    · exact absurd (hrelay.symm.trans he) (by simp)
    · obtain rfl := Option.some.inj (hd.symm.trans hd')
      exact hdother
  have hclosed : ∀ key, t.OpenOther (.ofDialId sampleSecondDialId) key → t.OnEndpoint key →
      Closes (t.during sampleClosing) key := by
    rintro key ⟨⟨c', hc', -⟩, -⟩ ⟨e, he, -⟩
    have hkey : key ∈ t.node.connections.keys :=
      AList.mem_keys.mp (AList.lookup_isSome.mp (by rw [hc']; rfl))
    rw [hkeys] at hkey
    rcases List.mem_pair.mp hkey with rfl | rfl
    · exact absurd (hrelay.symm.trans he) (by simp)
    · rw [hduring]
      exact ⟨_, List.mem_singleton_self _, rfl⟩
  obtain ⟨hframe, husable⟩ :=
    (dial_frame_iff hspawn hrun hdial hlive).mpr (Or.inl ⟨hdialable, rfl, hclosed⟩)
  refine ⟨t, u, result, hrun, hfirst, ⟨1, hover, hinstalled⟩, hsecond, hdial,
    hframe ⟨2⟩ hsecond ?_, husable⟩
  rw [hduring]
  rintro ⟨o, ho, hop⟩
  obtain rfl := List.mem_singleton.mp ho
  exact absurd hop (by simp)

/-- **The second dial closes the connection of the first session.**  It succeeds, and the table says
that the connection is open.  Where no new endpoint can be bound, the node has none afterwards. -/
theorem second_dial_closes_first :
    ∃ t u v accepted err, Runs.run step (new sampleNode .irohRelay) sampleEvents = some t ∧
      t.OpenOther (.ofDialId sampleSecondDialId) ⟨1⟩ ∧ t.Usable ∧
      t.dialWebrtcApplicationConnection (.ofDialId sampleSecondDialId)
        (sampleSurroundings sampleSecondDialId) = some (.ok accepted, u) ∧
      u.node.closed = false ∧ u.node.connections.lookup ⟨1⟩ = t.node.connections.lookup ⟨1⟩ ∧
      ¬ u.Open ⟨1⟩ ∧
      t.dialWebrtcApplicationConnection (.ofDialId sampleSecondDialId)
        { sampleSurroundings sampleSecondDialId with bound := .error "no sockets" } =
          some (.error err, v) ∧
      v.node.closed = false ∧ ¬ v.Open ⟨1⟩ ∧ ¬ v.Usable := by
  have hrun : ∃ t u v accepted err c,
      Runs.run step (new sampleNode .irohRelay) sampleEvents = some t ∧
      (t.node.connections.lookup ⟨1⟩ = some c ∧ c.closed = false ∧
        c.sessionKey ≠ some (.ofDialId sampleSecondDialId) ∧ t.endpointOf ⟨1⟩ = some 1) ∧
      (∃ router, t.webrtcEndpoint = some 1 ∧ t.isOpen 1 = true ∧ t.webrtcRouter = some router ∧
        router.endpoint = 1) ∧
      t.dialWebrtcApplicationConnection (.ofDialId sampleSecondDialId)
        (sampleSurroundings sampleSecondDialId) = some (.ok accepted, u) ∧
      (u.node.closed = false ∧ u.node.connections.lookup ⟨1⟩ = some c ∧
        u.endpointOf ⟨1⟩ = some 1 ∧ u.isOpen 1 = false) ∧
      t.dialWebrtcApplicationConnection (.ofDialId sampleSecondDialId)
        { sampleSurroundings sampleSecondDialId with bound := .error "no sockets" } =
          some (.error err, v) ∧
      v.node.closed = false ∧ v.endpointOf ⟨1⟩ = some 1 ∧ v.isOpen 1 = false ∧
      v.webrtcEndpoint = none :=
    ⟨_, _, _, _, _, _, rfl, ⟨rfl, rfl, by decide +kernel, rfl⟩, ⟨_, rfl, rfl, rfl, rfl⟩, rfl,
      ⟨rfl, rfl, rfl, rfl⟩, rfl, rfl, rfl, rfl, rfl⟩
  obtain ⟨t, u, v, accepted, err, c, hrun, ⟨hc, hcopen, hother, hover⟩, ⟨router, hinstalled, hopen,
    hrouter, hendpoint⟩, hdial, ⟨hlive, hc', hover', hclosed⟩, hfail, hlive', hover'', hclosed',
    hnone⟩ := hrun
  have hshut : ∀ w : EndpointNode Key, w.endpointOf ⟨1⟩ = some 1 → w.isOpen 1 = false →
      ¬ w.Open ⟨1⟩ := by
    rintro w hw hwclosed ⟨-, -, -, hall⟩
    exact absurd (hwclosed.symm.trans (hall 1 hw)) (by simp)
  refine ⟨t, u, v, accepted, err, hrun, ⟨⟨c, hc, hcopen, ?_⟩, ?_⟩, ⟨1, router, hinstalled, hopen,
    hrouter, hendpoint⟩, hdial, hlive, hc'.trans hc.symm, hshut u hover' hclosed, hfail, hlive',
    hshut v hover'' hclosed', ?_⟩
  · intro e he
    obtain rfl := Option.some.inj (hover.symm.trans he)
    exact hopen
  · intro c' hc'
    obtain rfl := Option.some.inj (hc.symm.trans hc')
    exact hother
  · rintro ⟨e, -, hsome, -⟩
    exact absurd (hnone.symm.trans hsome) (by simp)

end Sample

end EndpointNode

end IrohWebRtc
