import IrohWebRtc.Core.Connection
import IrohWebRtc.Core.Coordinator
import IrohWebRtc.Lib.Runs
import IrohWebRtc.Lib.Utf8

/-!
# The native node and its inbound gate

`facade/native.rs`, as far as session routes go.  A node registers a route, that is a remote, a dial
id and an ALPN, for every WebRTC session it sets up, as the initiator of a dial or as the responder
of a bootstrap request.  Routes stay until the node closes.  When an application connection comes in
over WebRTC, `WebRtcSessionGate::on_accepting` looks a route up by remote and ALPN, and admits the
connection when its selected path is the address of that route.

Setting up a session is asynchronous: the dial id is allocated under the lock of the node, the peer
connection is created outside of it, and the session and its route are tracked under the lock again,
each time with a look at whether the node has closed.  A call that is under way is an entry of
`inFlight`, and the steps of different calls may interleave with each other and with `close` in any
order.

## Main results

* `onAccepting_admits_iff`: for a connection whose path is the address of the session `d`, the
  gate is right, that is it admits the connection exactly when `d` is registered for it, if and only
  if the route of `d` is not hidden behind an earlier one for the same remote and ALPN.
* `onAccepting_refuses_second_session`: two bootstrap requests suffice to hide a route.
-/

namespace IrohWebRtc

open Bytes Utf8

/-- `NativeSessionRoute`. -/
structure NativeSessionRoute (E : Type*) where
  remote : E
  dialId : DialId
  alpn : String
  deriving DecidableEq

/-- How far a call has come with the session it sets up. -/
inductive SetupStage where
  /-- The peer connection is being created. -/
  | creating
  /-- The session is tracked, its route is not. -/
  | tracked
  deriving DecidableEq, Repr

/-- A dial or a bootstrap handler that is setting up a session. -/
structure SessionSetup (E : Type*) where
  route : NativeSessionRoute E
  stage : SetupStage
  deriving DecidableEq

/-- The part of a native node that decides about session routes. -/
structure NativeNode (E : Type*) where
  endpointId : E
  closed : Bool
  dialIds : DialIdGenerator E
  /-- The keys of the accept queues. -/
  acceptQueues : List (List UInt8)
  protocolAlpns : List (List UInt8)
  sessionRoutes : List (NativeSessionRoute E)
  inFlight : List (SessionSetup E)

/-- Why the gate refuses a connection. -/
inductive GateError (E : Type*) where
  /-- `custom app connection did not match WebRTC session` -/
  | noMatchingSession
  | selectedPath (err : PathError E)
  deriving DecidableEq

/-- What happens on a native node. -/
inductive NativeEvent (E : Type*) where
  /-- A local `dial`, up to the creation of its session. -/
  | dial (remote : E) (alpn : List UInt8) (transportIntent : BootstrapTransportIntent)
  /-- The first signal of a bootstrap connection that iroh authenticated as `peer`, up to the
  creation of the session. -/
  | bootstrap (peer : E) (request : WebRtcSignal E)
  /-- The peer connection of the call at `index` was created; the session is tracked. -/
  | sessionCreated (index : ℕ)
  /-- It could not be created; the call returns an error. -/
  | sessionFailed (index : ℕ)
  /-- The route of the call at `index` is tracked. -/
  | trackRoute (index : ℕ)
  | close

namespace NativeNode

variable {E : Type*}

/-- A node that has just been spawned. -/
def spawn (endpointId : E) (epoch : FixedBytes 16)
    (acceptQueues protocolAlpns : List (List UInt8)) : NativeNode E where
  endpointId := endpointId
  closed := false
  dialIds := .withEpoch endpointId epoch
  acceptQueues := acceptQueues
  protocolAlpns := protocolAlpns
  sessionRoutes := []
  inFlight := []

/-- `ensure_accepting_alpn`. -/
def ensureAcceptingAlpn (node : NativeNode E) (alpn : List UInt8) : Bool :=
  node.acceptQueues.contains alpn || node.protocolAlpns.contains alpn

/-- A new call, whose session is being created. -/
def begin (node : NativeNode E) (route : NativeSessionRoute E) : NativeNode E :=
  { node with inFlight := node.inFlight ++ [⟨route, .creating⟩] }

section Steps

variable [DecidableEq E]

/-- The start of `dial` and `dial_webrtc`.  A relay-only dial, an ALPN that is not a text and a
closed node set up no session.  `none` is the panic of an exhausted dial id counter. -/
def startDial [EndpointKey E] [Blake3] (node : NativeNode E) (remote : E) (alpn : List UInt8)
    (transportIntent : BootstrapTransportIntent) : Option (NativeNode E) :=
  if !transportIntent.usesWebrtc then some node
  else
    match fromUtf8 alpn with
    | none => some node
    | some alpnString =>
      if node.closed then some node
      else
        (DialCoordinator.initiateWithTransportIntent node.dialIds remote transportIntent).map
          fun (coordinator, dialIds) =>
            { node with dialIds := dialIds }.begin ⟨remote, coordinator.dialId, alpnString⟩

/-- `handle_bootstrap_connection`, up to the creation of the session. -/
def handleBootstrap (node : NativeNode E) (request : WebRtcSignal E) : NativeNode E :=
  match request with
  | .dialRequest dialId fromId toId _ alpn transportIntent =>
    if toId ≠ node.endpointId then node
    else if !transportIntent.usesWebrtc then node
    else if !node.ensureAcceptingAlpn (utf8Bytes alpn) then node
    else node.begin ⟨fromId, dialId, alpn⟩
  | _ => node

end Steps

/-- `track_session` for the call at `index`: it fails on a closed node, and the call ends. -/
def trackSession (node : NativeNode E) (index : ℕ) : NativeNode E :=
  match node.inFlight[index]? with
  | some ⟨route, .creating⟩ =>
    if node.closed then { node with inFlight := node.inFlight.eraseIdx index }
    else { node with inFlight := node.inFlight.set index ⟨route, .tracked⟩ }
  | _ => node

/-- The session of the call at `index` could not be created, and the call ends. -/
def failSession (node : NativeNode E) (index : ℕ) : NativeNode E :=
  match node.inFlight[index]? with
  | some ⟨_, .creating⟩ => { node with inFlight := node.inFlight.eraseIdx index }
  | _ => node

/-- `track_session_route` for the call at `index`.  What the call does after it has no effect on
the routes. -/
def trackSessionRoute (node : NativeNode E) (index : ℕ) : NativeNode E :=
  match node.inFlight[index]? with
  | some ⟨route, .tracked⟩ =>
    if node.closed then { node with inFlight := node.inFlight.eraseIdx index }
    else
      { node with
        sessionRoutes := node.sessionRoutes ++ [route]
        inFlight := node.inFlight.eraseIdx index }
  | _ => node

/-- `close`, under the lock. -/
def close (node : NativeNode E) : NativeNode E :=
  if node.closed then node
  else { node with closed := true, acceptQueues := [], sessionRoutes := [] }

/-! ## Routes -/

/-- The route is that of session `dialId` with `remote`, for the ALPN bytes `alpn`. -/
def IsRouteOf (remote : E) (dialId : DialId) (alpn : List UInt8) (route : NativeSessionRoute E) :
    Prop :=
  route.remote = remote ∧ route.dialId = dialId ∧ utf8Bytes route.alpn = alpn

/-- The first route for the remote and the ALPN is that of session `dialId`. -/
def Leads (routes : List (NativeSessionRoute E)) (remote : E) (dialId : DialId) (alpn : String) :
    Prop :=
  ∃ pre route post, routes = pre ++ route :: post ∧ IsRouteOf remote dialId (utf8Bytes alpn) route ∧
    ∀ r ∈ pre, ¬ (r.remote = remote ∧ r.alpn = alpn)

/-- A route of session `dialId` is registered, and before the first of its kind there is a route of
another session with the same remote and ALPN. -/
def Hidden (routes : List (NativeSessionRoute E)) (remote : E) (dialId : DialId) (alpn : String) :
    Prop :=
  ∃ pre other post, routes = pre ++ other :: post ∧
    (other.remote = remote ∧ other.alpn = alpn ∧ other.dialId ≠ dialId) ∧
    (∀ r ∈ pre, ¬ IsRouteOf remote dialId (utf8Bytes alpn) r) ∧
    ∃ route ∈ post, IsRouteOf remote dialId (utf8Bytes alpn) route

/-- **When the gate is right.**  If the ALPN is a text, the route of the session is not hidden
behind one of another session.  If it is not, no route of the session leads for the text that the
ALPN is read as. -/
def GateExact (routes : List (NativeSessionRoute E)) (remote : E) (dialId : DialId)
    (alpn : List UInt8) : Prop :=
  match fromUtf8 alpn with
  | some text => ¬ Hidden routes remote dialId text
  | none => ¬ Leads routes remote dialId (fromUtf8Lossy alpn)

section

variable {routes : List (NativeSessionRoute E)} {remote : E} {dialId : DialId} {alpn : String}

theorem isRouteOf_text {route : NativeSessionRoute E} :
    IsRouteOf remote dialId (utf8Bytes alpn) route ↔
      route.remote = remote ∧ route.dialId = dialId ∧ route.alpn = alpn :=
  and_congr_right fun _ => and_congr_right fun _ => utf8Bytes_injective.eq_iff

theorem Leads.registered (h : Leads routes remote dialId alpn) :
    ∃ route ∈ routes, IsRouteOf remote dialId (utf8Bytes alpn) route := by
  obtain ⟨pre, route, post, rfl, hroute, -⟩ := h
  exact ⟨route, by simp, hroute⟩

variable [DecidableEq E]

/-- The route `matching_acceptor_session` finds: the first one for the remote and the ALPN. -/
def matchingRoute (routes : List (NativeSessionRoute E)) (remote : E) (alpn : String) :
    Option (NativeSessionRoute E) :=
  routes.find? fun route => route.remote = remote && route.alpn = alpn

theorem not_key_iff {route : NativeSessionRoute E} :
    (!(decide (route.remote = remote) && decide (route.alpn = alpn))) = true ↔
      ¬ (route.remote = remote ∧ route.alpn = alpn) := by
  simp only [Bool.not_eq_true', Bool.and_eq_false_iff, decide_eq_false_iff_not, not_and_or]

theorem leads_iff :
    Leads routes remote dialId alpn ↔
      ∃ route, matchingRoute routes remote alpn = some route ∧ route.dialId = dialId := by
  constructor
  · rintro ⟨pre, route, post, rfl, hroute, hpre⟩
    obtain ⟨hr, hd, ha⟩ := isRouteOf_text.mp hroute
    refine ⟨route, List.find?_eq_some_iff_append.mpr ⟨by simp [hr, ha], pre, post, rfl, ?_⟩, hd⟩
    exact fun x hx => not_key_iff.mpr (hpre x hx)
  · rintro ⟨route, hfind, hd⟩
    obtain ⟨hp, pre, post, rfl, hpre⟩ := List.find?_eq_some_iff_append.mp hfind
    simp only [Bool.and_eq_true, decide_eq_true_eq] at hp
    exact ⟨pre, route, post, rfl, isRouteOf_text.mpr ⟨hp.1, hd, hp.2⟩,
      fun x hx => not_key_iff.mp (hpre x hx)⟩

/-- A hidden route is registered, and another one is found in its place. -/
theorem hidden_iff :
    Hidden routes remote dialId alpn ↔
      (∃ route ∈ routes, IsRouteOf remote dialId (utf8Bytes alpn) route) ∧
        ¬ Leads routes remote dialId alpn := by
  constructor
  · rintro ⟨pre, other, post, rfl, ⟨hr, ha, hd⟩, hpre, route, hmem, hroute⟩
    refine ⟨⟨route, by simp [hmem], hroute⟩, fun hleads => ?_⟩
    obtain ⟨found, hfind, hfound⟩ := leads_iff.mp hleads
    rw [matchingRoute, List.find?_append, Option.or_eq_some_iff] at hfind
    rcases hfind with hfind | ⟨-, hfind⟩
    · have hkey := List.find?_some hfind
      simp only [Bool.and_eq_true, decide_eq_true_eq] at hkey
      exact hpre found (List.mem_of_find?_eq_some hfind)
        (isRouteOf_text.mpr ⟨hkey.1, hfound, hkey.2⟩)
    · rw [List.find?_cons_of_pos (by simp [hr, ha]), Option.some.injEq] at hfind
      exact hd (by rw [hfind, hfound])
  · rintro ⟨⟨route, hmem, hroute⟩, hnot⟩
    obtain ⟨hr, hd, ha⟩ := isRouteOf_text.mp hroute
    cases hfind : matchingRoute routes remote alpn with
    | none =>
      have hnone := List.find?_eq_none.mp hfind route hmem
      exact absurd (by simp [hr, ha]) hnone
    | some first =>
      have hfirst : first.dialId ≠ dialId := fun h => hnot (leads_iff.mpr ⟨first, hfind, h⟩)
      obtain ⟨hp, pre, post, rfl, hpre⟩ := List.find?_eq_some_iff_append.mp hfind
      simp only [Bool.and_eq_true, decide_eq_true_eq] at hp
      have hnotpre : ∀ x ∈ pre, ¬ (x.remote = remote ∧ x.alpn = alpn) := fun x hx =>
        not_key_iff.mp (hpre x hx)
      refine ⟨pre, first, post, rfl, ⟨hp.1, hp.2, hfirst⟩, fun x hx hx' => ?_, route, ?_, hroute⟩
      · obtain ⟨hxr, -, hxa⟩ := isRouteOf_text.mp hx'
        exact hnotpre x hx ⟨hxr, hxa⟩
      · rw [List.mem_append, List.mem_cons] at hmem
        rcases hmem with hmem | rfl | hmem
        · exact absurd ⟨hr, ha⟩ (hnotpre route hmem)
        · exact absurd hd hfirst
        · exact hmem

end

variable [DecidableEq E] [EndpointKey E]

def step [Blake3] (node : NativeNode E) : NativeEvent E → Option (NativeNode E)
  | .dial remote alpn transportIntent => node.startDial remote alpn transportIntent
  | .bootstrap _ request => some (node.handleBootstrap request)
  | .sessionCreated index => some (node.trackSession index)
  | .sessionFailed index => some (node.failSession index)
  | .trackRoute index => some (node.trackSessionRoute index)
  | .close => some node.close

/-- `matching_acceptor_session`. -/
def matchingAcceptorSession (node : NativeNode E) (remote : E) (alpn : String) :
    Option (WebRtcAddr E) :=
  (matchingRoute node.sessionRoutes remote alpn).map fun route => .session remote route.dialId

/-- `WebRtcSessionGate::on_accepting`, with the connection that the wrapped handler let through. -/
def onAccepting (node : NativeNode E) (connection : Connection E) :
    Except (GateError E) (Connection E) :=
  match node.matchingAcceptorSession connection.remoteId (fromUtf8Lossy connection.alpn) with
  | none => .error .noMatchingSession
  | some expected =>
    match requireWebrtcSelectedPath connection expected with
    | .error err => .error (.selectedPath err)
    | .ok () => .ok connection

/-! ## The gate -/

/-- The gate admits a connection on the path of session `dialId` when the route it finds is that
of the session. -/
theorem onAccepting_eq_ok {node : NativeNode E} {connection : Connection E} {dialId : DialId}
    (hpath : connection.selectedPath =
      some (.custom (WebRtcAddr.session connection.remoteId dialId).toCustomAddr)) :
    node.onAccepting connection = .ok connection ↔
      Leads node.sessionRoutes connection.remoteId dialId (fromUtf8Lossy connection.alpn) := by
  rw [leads_iff, onAccepting, matchingAcceptorSession]
  cases hfind : matchingRoute node.sessionRoutes connection.remoteId
      (fromUtf8Lossy connection.alpn) with
  | none => simp
  | some route =>
    simp only [Option.map_some, requireWebrtcSelectedPath_eq hpath, Option.some.injEq,
      exists_eq_left']
    by_cases hd : route.dialId = dialId
    · simp [hd]
    · have hne : WebRtcAddr.session connection.remoteId dialId ≠
          WebRtcAddr.session connection.remoteId route.dialId := by
        simp [WebRtcAddr.session, Ne.symm hd]
      simp [hd, hne]

/-- **The inbound gate.**  Take a connection whose selected path is the address of session
`dialId` of its remote.  The gate admits it exactly when the session is registered for the remote
and the ALPN, if and only if the route of the session is exact: not hidden behind that of another
session with the same remote and ALPN, and not found by a lossy reading of an ALPN that is not a
text. -/
theorem onAccepting_admits_iff (node : NativeNode E) (connection : Connection E) (dialId : DialId)
    (hpath : connection.selectedPath =
      some (.custom (WebRtcAddr.session connection.remoteId dialId).toCustomAddr)) :
    (node.onAccepting connection = .ok connection ↔
        ∃ route ∈ node.sessionRoutes,
          IsRouteOf connection.remoteId dialId connection.alpn route) ↔
      GateExact node.sessionRoutes connection.remoteId dialId connection.alpn := by
  rw [onAccepting_eq_ok hpath, GateExact]
  cases htext : fromUtf8 connection.alpn with
  | some text =>
    have halpn := fromUtf8_eq_some.mp htext
    rw [halpn, fromUtf8Lossy_utf8Bytes]
    simp only
    rw [hidden_iff]
    constructor
    · intro h hhidden
      exact hhidden.2 (h.mpr hhidden.1)
    · intro h
      exact ⟨Leads.registered, fun hreg => by_contra fun hnot => h ⟨hreg, hnot⟩⟩
  | none =>
    have hnone : ¬ ∃ route ∈ node.sessionRoutes,
        IsRouteOf connection.remoteId dialId connection.alpn route := by
      rintro ⟨route, -, -, -, halpn⟩
      rw [← halpn, fromUtf8_utf8Bytes] at htext
      exact absurd htext (by simp)
    simp only
    exact iff_false_right hnone

section Sample

open scoped Sample
open Sample

def sampleSession : DialId := .replicate 16 1

def sampleSecondSession : DialId := .replicate 16 2

/-- Two bootstrap requests of one peer for one ALPN, each carried to its route. -/
def sampleEvents : List (NativeEvent Key) :=
  [.bootstrap bob (.dialRequest sampleSession bob alice 0 "chat" .webRtcPreferred),
    .sessionCreated 0, .trackRoute 0,
    .bootstrap bob (.dialRequest sampleSecondSession bob alice 1 "chat" .webRtcPreferred),
    .sessionCreated 0, .trackRoute 0]

/-- A connection of that peer on the path of session `dialId`. -/
def sampleConnection (dialId : DialId) : Connection Key where
  remoteId := bob
  alpn := utf8Bytes "chat"
  paths := [⟨.custom (WebRtcAddr.session bob dialId).toCustomAddr, true⟩]

/-- The node after the two requests. -/
def sampleNode : NativeNode Key where
  endpointId := alice
  closed := false
  dialIds := .withEpoch alice epoch
  acceptQueues := [utf8Bytes "chat"]
  protocolAlpns := []
  sessionRoutes := [⟨bob, sampleSession, "chat"⟩, ⟨bob, sampleSecondSession, "chat"⟩]
  inFlight := []

theorem onAccepting_admits_iff_sample :
    ((sampleNode.onAccepting (sampleConnection sampleSession) =
          .ok (sampleConnection sampleSession) ↔
        ∃ route ∈ sampleNode.sessionRoutes,
          IsRouteOf bob sampleSession (utf8Bytes "chat") route) ↔
      GateExact sampleNode.sessionRoutes bob sampleSession (utf8Bytes "chat")) :=
  onAccepting_admits_iff sampleNode (sampleConnection sampleSession) sampleSession rfl

/-- **The second session is refused.**  After the two requests the route of the second session is
registered, and a connection on its path is compared with the path of the first. -/
theorem onAccepting_refuses_second_session :
    Runs.run step (spawn alice epoch [utf8Bytes "chat"] []) sampleEvents = some sampleNode ∧
      (sampleConnection sampleSecondSession).selectedPath =
        some (.custom (WebRtcAddr.session bob sampleSecondSession).toCustomAddr) ∧
      (∃ route ∈ sampleNode.sessionRoutes,
        IsRouteOf bob sampleSecondSession (utf8Bytes "chat") route) ∧
      sampleNode.onAccepting (sampleConnection sampleSecondSession) =
        .error (.selectedPath
          (.mismatch (.session bob sampleSession) (.session bob sampleSecondSession))) ∧
      ¬ (sampleNode.onAccepting (sampleConnection sampleSecondSession) =
            .ok (sampleConnection sampleSecondSession) ↔
          ∃ route ∈ sampleNode.sessionRoutes,
            IsRouteOf bob sampleSecondSession (utf8Bytes "chat") route) := by
  have hroute : ∃ route ∈ sampleNode.sessionRoutes,
      IsRouteOf bob sampleSecondSession (utf8Bytes "chat") route :=
    ⟨⟨bob, sampleSecondSession, "chat"⟩, by simp [sampleNode], rfl, rfl, rfl⟩
  have hpath : (sampleConnection sampleSecondSession).selectedPath =
      some (.custom (WebRtcAddr.session bob sampleSecondSession).toCustomAddr) := rfl
  have hgate : sampleNode.onAccepting (sampleConnection sampleSecondSession) =
      .error (.selectedPath
        (.mismatch (.session bob sampleSession) (.session bob sampleSecondSession))) := by
    decide
  refine ⟨rfl, hpath, hroute, hgate, fun h => ?_⟩
  have hok := h.mpr hroute
  rw [hgate] at hok
  exact absurd hok (by simp)

end Sample

end NativeNode

end IrohWebRtc
