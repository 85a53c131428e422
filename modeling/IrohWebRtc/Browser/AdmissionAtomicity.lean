import IrohWebRtc.Browser.AcceptorRuns
import IrohWebRtc.Browser.Admission

/-!
# A failed admission

`browser_runtime/node/core.rs`, `BrowserWebRtcFacadeHandler::accept`: an inbound connection first
resolves its session and is then admitted.  The admission checks everything before it changes
anything, and resolves the session last; but the handler has resolved it already, so an admission
that fails leaves a session that is resolved and has no connection.

Such a session cannot be used again.  The dialer may retry, and its connection comes in over the
same path, but the session is not eligible any more and the connection is refused.  It stays in
the table, advertised as a WebRTC session, until something else ends it.

* `admit_error_iff`: once the session is resolved, the admission fails exactly when its ALPN has
  no registration with room.
* `admission_atomic_iff`: a failed admission leaves everything as it was, unless it fails there.
* `admission_not_atomic`: a full queue, and the retry that is refused.
-/

namespace IrohWebRtc

open Bytes Utf8

namespace BrowserRuntimeNode

variable {E : Type*} [DecidableEq E] [EndpointKey E]

/-- When the handler returns an error, the sessions, the connections and the accept queues are as
they were. -/
def AdmitsAtomically (node : BrowserRuntimeNode E) (order : List BrowserSessionKey)
    (connection : Connection E) : Prop :=
  ∀ err node', node.handleWebrtcConnection order connection true = some (.error err, node') →
    node'.session = node.session ∧ node'.connections = node.connections ∧
      ∀ alpn, node'.queueOf alpn = node.queueOf alpn

omit [DecidableEq E] [EndpointKey E] in
/-- A connection of the ALPN has nowhere to go: there is no registration, or its queue is full and
nobody waits.  The keys of connections are not used up; where they are, the node panics before it
gets to the queue. -/
def NoRoom (node : BrowserRuntimeNode E) (alpn : String) : Prop :=
  match node.accepts.lookup alpn with
  | none => True
  | some registration =>
    node.nextConnectionKey < u64Max ∧ registration.capacity ≤ registration.queue.length ∧
      ∀ waiter ∈ registration.waiters, waiter.receiverAlive = false

omit [EndpointKey E] in
/-- The connection gets a session and then has nowhere to go. -/
def FailsLate (node : BrowserRuntimeNode E) (order : List BrowserSessionKey)
    (connection : Connection E) : Prop :=
  node.closed = false ∧
    (∃ s, node.eligibleSession order connection = some s ∧
      requireWebrtcSelectedPath connection (.session s.remote s.dialId) = .ok ()) ∧
    node.NoRoom (fromUtf8Lossy connection.alpn)

variable {node : BrowserRuntimeNode E}

/-! ## The admission of a resolved session -/

/-- The checks of an admission pass for a session that was just resolved. -/
theorem checkAdmission_of_resolved (hopen : node.closed = false) {connection : Connection E}
    {key : BrowserSessionKey} {s : BrowserSessionState E} (hs : node.session key = some s)
    (hresolve : s.CanResolve .webRtc)
    (hpath : requireWebrtcSelectedPath connection (.session s.remote s.dialId) = .ok ()) :
    node.checkAdmission connection .webRtc (some key) true =
      if (node.accepts.lookup (fromUtf8Lossy connection.alpn)).isNone then
        .error ⟨.unsupportedAlpn, "no active accept registration for ALPN " ++
          debugText (fromUtf8Lossy connection.alpn)⟩
      else .ok () := by
  have hlookup : node.sessions.lookup key = some s := hs
  have hvalid := BrowserSessionState.validateTransportResolution_eq_ok.mpr hresolve
  rw [checkAdmission, if_neg (by rw [hopen]; exact Bool.false_ne_true), Bool.true_and,
    Option.bind_some, hlookup]
  simp only [hvalid, hpath]

/-- The admission of a session that was just resolved fails when it has nowhere to go, and only
then. -/
theorem admit_error_iff (hopen : node.closed = false) {connection : Connection E}
    {key : BrowserSessionKey} {s : BrowserSessionState E} (hs : node.session key = some s)
    (hresolve : s.CanResolve .webRtc)
    (hpath : requireWebrtcSelectedPath connection (.session s.remote s.dialId) = .ok ()) :
    (∃ err node', node.admitIrohApplicationConnection connection .webRtc (some key) true =
        some (.error err, node')) ↔ node.NoRoom (fromUtf8Lossy connection.alpn) := by
  rw [admitIrohApplicationConnection, checkAdmission_of_resolved hopen hs hresolve hpath, NoRoom]
  cases hlookup : node.accepts.lookup (fromUtf8Lossy connection.alpn) with
  | none => exact ⟨fun _ => trivial, fun _ => ⟨_, _, rfl⟩⟩
  | some registration =>
    simp only [Option.isNone_some, Bool.false_eq_true, if_false, if_true, allocateConnectionKey]
    by_cases hkeys : u64Max < node.nextConnectionKey + 1
    · rw [if_pos hkeys]
      constructor
      · rintro ⟨err, node', h⟩
        cases h
      · rintro ⟨hlt, -⟩
        omega
    · have hlt : node.nextConnectionKey < u64Max := by omega
      rw [if_neg hkeys]
      -- what the queue answers decides the admission: recording the connection never fails
      have hrecord : ∀ (m : BrowserRuntimeNode E) (accepted : BrowserAcceptedConnection E)
          (waiter : Option AcceptWaiter) (err : BrowserRuntimeError), m.session = node.session →
            accepted.sessionKey = some key → accepted.transport = .webRtc →
              (m.recordConnection connection accepted).1.map (·, waiter) ≠ .error err := by
        intro m accepted waiter err hm haccepted htransport
        have hok : (m.recordConnection connection accepted).1 = .ok accepted := by
          refine recordConnection_ok fun key' s' hkey' hs' => ?_
          obtain rfl := Option.some.inj (haccepted.symm.trans hkey')
          obtain rfl := Option.some.inj (hs.symm.trans ((congrFun hm key).symm.trans hs'))
          rw [htransport]
          exact hresolve
        rw [hok]
        intro herr
        cases herr
      simp only [Option.map_some, pushAccepted, hlookup, AcceptRegistrationState.pushOrWake]
      cases hpop : AcceptRegistrationState.popLiveWaiter registration.waiters with
      | some found =>
        obtain ⟨waiter, rest⟩ := found
        obtain ⟨halive, gone, hwaiters, -⟩ := AcceptRegistrationState.popLiveWaiter_eq_some hpop
        constructor
        · rintro ⟨err, node', h⟩
          exact absurd (Prod.mk.inj (Option.some.inj h)).1 (hrecord _ _ _ _ rfl rfl rfl)
        · rintro ⟨-, -, hgone⟩
          have hmem : waiter ∈ registration.waiters := by
            rw [hwaiters]
            exact List.mem_append_right _ List.mem_cons_self
          exact absurd ((hgone waiter hmem).symm.trans halive) Bool.false_ne_true
      | none =>
        have hgone := AcceptRegistrationState.popLiveWaiter_eq_none.mp hpop
        by_cases hfull : registration.capacity ≤ registration.queue.length
        · simp only [if_pos hfull]
          exact ⟨fun _ => ⟨hlt, hfull, hgone⟩, fun _ => ⟨_, _, rfl⟩⟩
        · simp only [if_neg hfull]
          constructor
          · rintro ⟨err, node', h⟩
            exact absurd (Prod.mk.inj (Option.some.inj h)).1 (hrecord _ _ _ _ rfl rfl rfl)
          · rintro ⟨-, hfull', -⟩
            exact absurd hfull' hfull

/-! ## The handler -/

/-- The first call of the handler fails and changes nothing, or it resolves a session, and then the
second call fails exactly when there is no room. -/
theorem acceptWebrtcConnection_resolves (node : BrowserRuntimeNode E)
    (order : List BrowserSessionKey) (connection : Connection E) :
    (∃ err, node.acceptWebrtcConnection order connection = (.error err, node) ∧
        ¬ node.FailsLate order connection) ∨
      ∃ s m, node.eligibleSession order connection = some s ∧
        node.acceptWebrtcConnection order connection = (.ok (some s.sessionKey), m) ∧
        m.session = write node.session (some (s.sessionKey, s.resolved .webRtc)) ∧
        SameRegistry node m ∧
        ((∃ err node', m.admitIrohApplicationConnection connection .webRtc (some s.sessionKey)
            true = some (.error err, node')) ↔ node.FailsLate order connection) := by
  have hregistry := node.registry_acceptWebrtcConnection order connection
  rcases node.acceptWebrtcConnection_cases order connection with
    ⟨err, heq, hentry⟩ | ⟨s, hopen, hfirst, hpath, -, heq⟩
  · refine Or.inl ⟨err, heq, ?_⟩
    rintro ⟨hopen, ⟨s, hfirst, hpath⟩, -⟩
    rw [boundEntry, if_neg (by rw [hopen]; exact Bool.false_ne_true), hfirst, Option.bind_some,
      hpath] at hentry
    cases hentry
  · rw [heq] at hregistry
    generalize hm : ({ node with
      sessions := node.sessions.insert s.sessionKey (s.resolved .webRtc)
      } : BrowserRuntimeNode E).refreshWebrtcTransportAddrs = m at heq hregistry
    have hsessions : m.session = write node.session (some (s.sessionKey, s.resolved .webRtc)) := by
      rw [← hm]
      exact node.session_insert _ _
    have hms : m.session s.sessionKey = some (s.resolved .webRtc) := by
      rw [hsessions, write, Function.update_self]
    have hmopen : m.closed = false := by
      rw [← hm]
      exact hopen
    have hresolve : (s.resolved .webRtc).CanResolve .webRtc :=
      BrowserSessionState.canResolve_resolved.mpr
        (canResolve_of_isEligible (List.find?_some hfirst))
    refine Or.inr ⟨s, m, hfirst, heq, hsessions, hregistry, ?_⟩
    rw [admit_error_iff hmopen hms hresolve hpath, NoRoom, hregistry.accepts,
      hregistry.nextConnectionKey]
    exact ⟨fun hroom => ⟨hopen, ⟨s, hfirst, hpath⟩, hroom⟩, fun h => h.2.2⟩

/-- **What a late failure leaves.**  The handler returns an error, the connections and the queues
are as before, and the session that the connection was compared with is resolved. -/
theorem handle_of_failsLate (hwf : node.WellKeyed) (hregistered : node.WellRegistered)
    {order : List BrowserSessionKey} {connection : Connection E}
    (h : node.FailsLate order connection) :
    ∃ s err node', node.session s.sessionKey = some s ∧ s.resolvedTransport = none ∧
      node.handleWebrtcConnection order connection true = some (.error err, node') ∧
      node'.session = write node.session (some (s.sessionKey, s.resolved .webRtc)) ∧
      node'.connections = node.connections ∧ ∀ alpn, node'.queueOf alpn = node.queueOf alpn := by
  rcases node.acceptWebrtcConnection_resolves order connection with
    ⟨err, -, hlate⟩ | ⟨s, m, hfirst, heq, hsessions, hregistry, hfails⟩
  · exact absurd h hlate
  · obtain ⟨-, hs⟩ := session_of_eligibleSession hwf hfirst
    obtain ⟨-, -, -, -, hunresolved, -, -⟩ := isEligible_iff.mp (List.find?_some hfirst)
    obtain ⟨err, node', hadmit⟩ := hfails.mpr h
    have hms : m.session s.sessionKey = some (s.resolved .webRtc) := by
      rw [hsessions, write, Function.update_self]
    have hsame := admit_of_completeDial_ok hms BrowserSessionState.resolved_resolved hadmit
    have hkeeps := hregistry.keepsQueues hregistered
    refine ⟨s, err, node', hs, hunresolved, ?_, hsame.session.trans hsessions, ?_⟩
    · rw [handleWebrtcConnection, heq]
      exact hadmit
    · rcases admit_registry hkeeps.wellRegistered hadmit with
        ⟨-, hqueues, hconnections, -⟩ | ⟨accepted, waiter, hok, -⟩
      · exact ⟨hconnections.trans hregistry.connections,
          fun alpn => (hqueues.queueOf alpn).trans (hkeeps.queueOf alpn)⟩
      · cases hok

/-- An error that is not a late failure leaves the node as it was. -/
theorem handle_of_not_failsLate {order : List BrowserSessionKey} {connection : Connection E}
    (h : ¬ node.FailsLate order connection) {err : BrowserRuntimeError}
    {node' : BrowserRuntimeNode E}
    (hhandle : node.handleWebrtcConnection order connection true = some (.error err, node')) :
    node' = node := by
  rw [handleWebrtcConnection] at hhandle
  rcases node.acceptWebrtcConnection_resolves order connection with
    ⟨err', heq, -⟩ | ⟨s, m, -, heq, -, -, hfails⟩
  · rw [heq] at hhandle
    exact (Prod.mk.inj (Option.some.inj hhandle)).2.symm
  · rw [heq] at hhandle
    exact absurd (hfails.mp ⟨err, node', hhandle⟩) h

/-- **Atomic admission.**  Take a reachable node and any inbound connection.  If the handler returns
an error, the sessions, the connections and the accept queues are as before, unless the connection
gets a session and then finds no registration with room. -/
theorem admission_atomic_iff [Blake3] {endpointId : E} {epoch : FixedBytes 16}
    {config : BrowserRuntimeNodeConfig} {browserProtocols : List String}
    {node₀ : BrowserRuntimeNode E}
    (hspawn : spawn endpointId epoch config browserProtocols = .ok node₀)
    {ops : List (NodeOp E)} (hrun : Runs.run step node₀ ops = some node)
    (order : List BrowserSessionKey) (connection : Connection E) :
    node.AdmitsAtomically order connection ↔ ¬ node.FailsLate order connection := by
  constructor
  · intro hatomic hlate
    have hwf := (spawned hspawn).wellKeyed.run hrun
    have hregistered : node.WellRegistered :=
      Runs.run_invariant (fun _ _ _ h hstep => WellRegistered.step h hstep)
        (registered_of_spawn hspawn).1 hrun
    obtain ⟨s, err, node', hs, hunresolved, hhandle, hsessions, -⟩ :=
      handle_of_failsLate hwf hregistered hlate
    have hafter := congrFun (hsessions.symm.trans (hatomic err node' hhandle).1) s.sessionKey
    rw [write, Function.update_self, hs] at hafter
    have htransport := congrArg BrowserSessionState.resolvedTransport (Option.some.inj hafter)
    rw [hunresolved] at htransport
    cases htransport
  · intro hlate err node' hhandle
    rw [handle_of_not_failsLate hlate hhandle]
    exact ⟨rfl, rfl, fun _ => rfl⟩

section Sample

open scoped Sample
open Sample

/-- Both sessions of `sampleAccepts` wait for their connections, and the first one comes. -/
def sampleFill : List (NodeOp Key) :=
  sampleAccepts ++ [.webrtcConnection [.ofDialId sampleSession, .ofDialId sampleSecondSession]
    (sampleConnection sampleSession) true]

/-- `sampleNode` with room for one connection. -/
def sampleSmallNode : BrowserRuntimeNode Key :=
  { sampleNode with accepts := initialAcceptRegistrations 1 1 ["chat"] }

theorem admission_atomic_iff_sample :
    ∃ node, Runs.run step sampleSmallNode sampleAccepts = some node ∧
      (node.AdmitsAtomically [.ofDialId sampleSession, .ofDialId sampleSecondSession]
          (sampleConnection sampleSession) ↔
        ¬ node.FailsLate [.ofDialId sampleSession, .ofDialId sampleSecondSession]
          (sampleConnection sampleSession)) := by
  have hspawn : spawn alice epoch ⟨1, ["chat"], []⟩ [] = .ok sampleSmallNode := rfl
  have hrun : ∃ node, Runs.run step sampleSmallNode sampleAccepts = some node := ⟨_, rfl⟩
  obtain ⟨node, hrun⟩ := hrun
  exact ⟨node, hrun, admission_atomic_iff hspawn hrun _ _⟩

/-- **A full queue costs the session.**  The queue has room for one connection and holds it.  The
connection on the path of the other session is refused, and that session is resolved now without a
connection: when the queue has room again, the retry matches no session. -/
theorem admission_not_atomic :
    ∃ node err node' s, spawn alice epoch ⟨1, ["chat"], []⟩ [] = .ok sampleSmallNode ∧
      Runs.run step sampleSmallNode sampleFill = some node ∧
      [BrowserSessionKey.ofDialId sampleSession, .ofDialId sampleSecondSession].Perm
        node.sessions.keys ∧
      node.handleWebrtcConnection [.ofDialId sampleSession, .ofDialId sampleSecondSession]
          (sampleConnection sampleSecondSession) true = some (.error err, node') ∧
      err.message = "accept queue is full for ALPN \"chat\"" ∧
      ¬ node.AdmitsAtomically [.ofDialId sampleSession, .ofDialId sampleSecondSession]
          (sampleConnection sampleSecondSession) ∧
      node'.session (.ofDialId sampleSecondSession) = some s ∧
      s.resolvedTransport = some .webRtc ∧ s.lifecycle = .applicationReady ∧
      (node'.acceptNext ⟨1⟩).2.queueOf "chat" = [] ∧
      ((node'.acceptNext ⟨1⟩).2.handleWebrtcConnection
          [.ofDialId sampleSession, .ofDialId sampleSecondSession]
          (sampleConnection sampleSecondSession) true).map (·.1) =
        some (.error ⟨.webRtcFailed, "custom app connection did not match WebRTC session"⟩) := by
  have hspawn : spawn alice epoch ⟨1, ["chat"], []⟩ [] = .ok sampleSmallNode := rfl
  refine ⟨_, _, _, _, hspawn, rfl, by decide, rfl, rfl, fun hatomic => ?_, rfl, rfl, rfl, rfl, rfl⟩
  have hsession := congrFun (hatomic _ _ rfl).1 (.ofDialId sampleSecondSession)
  exact absurd hsession (by decide)

end Sample

end BrowserRuntimeNode

end IrohWebRtc
