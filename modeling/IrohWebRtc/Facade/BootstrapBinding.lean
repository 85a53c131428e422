import IrohWebRtc.Facade.Native
import Mathlib.Data.List.InsertIdx

/-!
# Whom a bootstrap connection speaks for

iroh authenticates the peer of a bootstrap connection, and the dial request on it names its sender
once more.  `handle_bootstrap_connection` checks that the request is addressed to this endpoint;
the session and the route it sets up are those of the sender the request names.

The route is what the gate of an application connection goes by, and it goes by the remote that
iroh has authenticated there.  So a peer that names somebody else does not get in itself.  What it
does is to occupy the place of the other: the gate takes the first route of a remote and an ALPN,
and that is now one whose session the other has never heard of.

A node is followed together with the origin of its calls and routes, that is the peer of the
connection, or nothing for a local dial.  The signals after the request go to
`receive_answerer_signals`, which has no access to the node.

* `TracedNode.Bound`: sessions and routes that came in over a connection are those of its peer.
* `bound_iff`: they are in every state of a run, exactly when every request that sets a session up
  names the peer of its connection; and then what the gate finds for an endpoint does not depend
  on the connections of others.
* `forged_request_binds`: a peer registers a route of another endpoint, which hides the route of
  that endpoint from the gate.
-/

namespace IrohWebRtc

open Bytes Utf8

/-- A node with the origin of its calls and routes: the authenticated peer of a bootstrap
connection, or `none` for a local dial. -/
structure TracedNode (E : Type*) where
  node : NativeNode E
  calls : List (Option E × NativeSessionRoute E)
  routes : List (Option E × NativeSessionRoute E)

namespace NativeNode

variable {E : Type*} [DecidableEq E]

/-! ## What the steps of a node do to its calls -/

/-- A dial begins at most one call. -/
theorem startDial_cases [EndpointKey E] [Blake3] {node node' : NativeNode E} {remote : E}
    {alpn : List UInt8} {transportIntent : BootstrapTransportIntent}
    (h : node.startDial remote alpn transportIntent = some node') :
    node'.sessionRoutes = node.sessionRoutes ∧
      (node'.inFlight = node.inFlight ∨ ∃ call, node'.inFlight = node.inFlight ++ [call]) := by
  unfold startDial at h
  split at h
  · obtain rfl := Option.some.inj h
    exact ⟨rfl, Or.inl rfl⟩
  · split at h
    · obtain rfl := Option.some.inj h
      exact ⟨rfl, Or.inl rfl⟩
    · split_ifs at h with hclosed
      · obtain rfl := Option.some.inj h
        exact ⟨rfl, Or.inl rfl⟩
      · obtain ⟨⟨coordinator, dialIds⟩, -, rfl⟩ := Option.map_eq_some_iff.mp h
        exact ⟨rfl, Or.inr ⟨_, rfl⟩⟩

/-- A request is refused, or it begins a call for the sender it names. -/
theorem handleBootstrap_cases (node : NativeNode E) (request : WebRtcSignal E) :
    (node.handleBootstrap request = node ∧
        ∀ dialId fromId generation alpn transportIntent,
          request = .dialRequest dialId fromId node.endpointId generation alpn transportIntent →
            transportIntent.usesWebrtc = true →
              node.ensureAcceptingAlpn (utf8Bytes alpn) = true → False) ∨
      ∃ dialId fromId generation alpn transportIntent,
        request = .dialRequest dialId fromId node.endpointId generation alpn transportIntent ∧
          transportIntent.usesWebrtc = true ∧ node.ensureAcceptingAlpn (utf8Bytes alpn) = true ∧
            node.handleBootstrap request = node.begin ⟨fromId, dialId, alpn⟩ := by
  cases request with
  | dialRequest dialId fromId toId generation alpn transportIntent =>
    unfold handleBootstrap
    by_cases hto : toId = node.endpointId
    · subst hto
      cases hintent : transportIntent.usesWebrtc with
      | false =>
        refine Or.inl ⟨by simp [hintent], fun _ _ _ _ _ heq huses _ => ?_⟩
        obtain ⟨-, -, -, -, -, rfl⟩ := WebRtcSignal.dialRequest.inj heq
        exact absurd (hintent.symm.trans huses) (by simp)
      | true =>
        cases halpn : node.ensureAcceptingAlpn (utf8Bytes alpn) with
        | false =>
          refine Or.inl ⟨by simp [hintent, halpn], fun _ _ _ _ _ heq _ haccepts => ?_⟩
          obtain ⟨-, -, -, -, rfl, -⟩ := WebRtcSignal.dialRequest.inj heq
          exact absurd (halpn.symm.trans haccepts) (by simp)
        | true =>
          exact Or.inr ⟨_, _, _, _, _, rfl, hintent, halpn, by simp [hintent, halpn]⟩
    · refine Or.inl ⟨by simp [hto], fun _ _ _ _ _ heq _ _ => ?_⟩
      exact hto (WebRtcSignal.dialRequest.inj heq).2.2.1
  | _ => exact Or.inl ⟨rfl, fun _ _ _ _ _ heq => absurd heq (by simp)⟩

/-- The call at `index` ends, or every call goes on with its route. -/
def CallEnds (node node' : NativeNode E) (index : ℕ) : Prop :=
  (index < node.inFlight.length ∧ node'.inFlight = node.inFlight.eraseIdx index) ∨
    node'.inFlight.map SessionSetup.route = node.inFlight.map SessionSetup.route

omit [DecidableEq E] in
theorem trackSession_cases (node : NativeNode E) (index : ℕ) :
    (node.trackSession index).sessionRoutes = node.sessionRoutes ∧
      CallEnds node (node.trackSession index) index := by
  unfold trackSession
  split
  · rename_i route hget
    obtain ⟨hlt, hcall⟩ := List.getElem?_eq_some_iff.mp hget
    split_ifs with hclosed
    · exact ⟨rfl, Or.inl ⟨hlt, rfl⟩⟩
    · refine ⟨rfl, Or.inr ?_⟩
      have hlength : index < (node.inFlight.map SessionSetup.route).length := by simpa using hlt
      have hroute : (node.inFlight.map SessionSetup.route)[index] = route := by
        rw [List.getElem_map, hcall]
      rw [List.map_set, ← hroute, List.set_getElem_self]
  · exact ⟨rfl, Or.inr rfl⟩

omit [DecidableEq E] in
theorem failSession_cases (node : NativeNode E) (index : ℕ) :
    (node.failSession index).sessionRoutes = node.sessionRoutes ∧
      CallEnds node (node.failSession index) index := by
  unfold failSession
  split
  · rename_i route hget
    obtain ⟨hlt, -⟩ := List.getElem?_eq_some_iff.mp hget
    exact ⟨rfl, Or.inl ⟨hlt, rfl⟩⟩
  · exact ⟨rfl, Or.inr rfl⟩

omit [DecidableEq E] in
/-- A route that is tracked is that of its call. -/
theorem trackSessionRoute_cases (node : NativeNode E) (index : ℕ) :
    CallEnds node (node.trackSessionRoute index) index ∧
      ((node.trackSessionRoute index).sessionRoutes = node.sessionRoutes ∨
        ∃ call, node.inFlight[index]? = some call ∧
          (node.trackSessionRoute index).sessionRoutes = node.sessionRoutes ++ [call.route]) := by
  unfold trackSessionRoute
  split
  · rename_i route hget
    obtain ⟨hlt, -⟩ := List.getElem?_eq_some_iff.mp hget
    split_ifs with hclosed
    · exact ⟨Or.inl ⟨hlt, rfl⟩, Or.inl rfl⟩
    · exact ⟨Or.inl ⟨hlt, rfl⟩, Or.inr ⟨_, hget, rfl⟩⟩
  · exact ⟨Or.inr rfl, Or.inl rfl⟩

end NativeNode

namespace TracedNode

variable {E : Type*}

/-- A node that has just been spawned. -/
def spawn (endpointId : E) (epoch : FixedBytes 16)
    (acceptQueues protocolAlpns : List (List UInt8)) : TracedNode E :=
  ⟨.spawn endpointId epoch acceptQueues protocolAlpns, [], []⟩

/-- The calls that were begun between two states. -/
def begun (origin : Option E) (before after : NativeNode E) :
    List (Option E × NativeSessionRoute E) :=
  (after.inFlight.drop before.inFlight.length).map fun call => (origin, call.route)

/-- The calls that are left after a step of the call at `index`. -/
def remaining (t : TracedNode E) (index : ℕ) (after : NativeNode E) :
    List (Option E × NativeSessionRoute E) :=
  if after.inFlight.length = t.node.inFlight.length then t.calls else t.calls.eraseIdx index

/-- The route that the call at `index` has tracked. -/
def tracked (t : TracedNode E) (index : ℕ) (after : NativeNode E) :
    List (Option E × NativeSessionRoute E) :=
  if after.sessionRoutes.length = t.node.sessionRoutes.length then []
  else t.calls[index]?.toList

/-- The lists of origins are those of the calls and routes of the node. -/
structure Traces (t : TracedNode E) : Prop where
  calls : t.calls.map Prod.snd = t.node.inFlight.map SessionSetup.route
  routes : t.routes.map Prod.snd = t.node.sessionRoutes

/-- What came in over a connection is a session of its peer. -/
structure Bound (t : TracedNode E) : Prop where
  calls : ∀ peer route, (some peer, route) ∈ t.calls → route.remote = peer
  routes : ∀ peer route, (some peer, route) ∈ t.routes → route.remote = peer

section Steps

variable [DecidableEq E] [EndpointKey E] [Blake3]

def step (t : TracedNode E) (ev : NativeEvent E) : Option (TracedNode E) :=
  (t.node.step ev).map fun node =>
    match ev with
    | .dial _ _ _ => ⟨node, t.calls ++ begun none t.node node, t.routes⟩
    | .bootstrap peer _ => ⟨node, t.calls ++ begun (some peer) t.node node, t.routes⟩
    | .sessionCreated index | .sessionFailed index => ⟨node, t.remaining index node, t.routes⟩
    | .trackRoute index => ⟨node, t.remaining index node, t.routes ++ t.tracked index node⟩
    | .close => ⟨node, t.calls, if t.node.closed then t.routes else []⟩

/-- A request that sets a session up names the peer of its connection. -/
def Authenticated (t : TracedNode E) : NativeEvent E → Prop
  | .bootstrap peer (.dialRequest _ fromId toId _ alpn transportIntent) =>
    toId = t.node.endpointId → transportIntent.usesWebrtc = true →
      t.node.ensureAcceptingAlpn (utf8Bytes alpn) = true → fromId = peer
  | _ => True

/-- The routes of local dials and of the connections of `peer`. -/
def ownRoutes (t : TracedNode E) (peer : E) : List (NativeSessionRoute E) :=
  (t.routes.filter fun entry => entry.1 = none || entry.1 = some peer).map Prod.snd

variable {t t' : TracedNode E}

/-- The origins do not change what the node does. -/
theorem node_step (t : TracedNode E) (ev : NativeEvent E) :
    (t.step ev).map TracedNode.node = t.node.step ev := by
  unfold step
  rw [Option.map_map]
  cases t.node.step ev with
  | none => rfl
  | some node => cases ev <;> rfl

/-! ## The lists of origins -/

omit [DecidableEq E] [EndpointKey E] [Blake3] in
theorem begun_of_eq {origin : Option E} {before after : NativeNode E}
    (h : after.inFlight = before.inFlight) : begun origin before after = [] := by
  simp [begun, h]

omit [DecidableEq E] [EndpointKey E] [Blake3] in
theorem begun_of_append {origin : Option E} {before after : NativeNode E} {call : SessionSetup E}
    (h : after.inFlight = before.inFlight ++ [call]) :
    begun origin before after = [(origin, call.route)] := by
  simp [begun, h]

omit [DecidableEq E] [EndpointKey E] [Blake3] in
/-- The calls that remain are those of the node. -/
theorem Traces.remaining (h : t.Traces) {index : ℕ} {after : NativeNode E}
    (hends : t.node.CallEnds after index) :
    (t.remaining index after).map Prod.snd = after.inFlight.map SessionSetup.route := by
  unfold TracedNode.remaining
  rcases hends with ⟨hlt, hafter⟩ | hafter
  · have hlength : after.inFlight.length ≠ t.node.inFlight.length := by
      rw [hafter, List.length_eraseIdx_of_lt hlt]
      omega
    rw [if_neg hlength, hafter, ← List.eraseIdx_map, ← List.eraseIdx_map, h.calls]
  · have hlength : after.inFlight.length = t.node.inFlight.length := by
      simpa using congrArg List.length hafter
    rw [if_pos hlength, h.calls, hafter]

omit [DecidableEq E] [EndpointKey E] [Blake3] in
theorem mem_of_mem_remaining {index : ℕ} {after : NativeNode E}
    {entry : Option E × NativeSessionRoute E} (h : entry ∈ t.remaining index after) :
    entry ∈ t.calls := by
  unfold TracedNode.remaining at h
  split_ifs at h
  · exact h
  · exact List.mem_of_mem_eraseIdx h

omit [DecidableEq E] [EndpointKey E] [Blake3] in
/-- The route that is tracked is that of a call. -/
theorem mem_of_mem_tracked {index : ℕ} {after : NativeNode E}
    {entry : Option E × NativeSessionRoute E} (h : entry ∈ t.tracked index after) :
    entry ∈ t.calls := by
  unfold tracked at h
  split_ifs at h
  · exact absurd h (by simp)
  · exact List.mem_of_getElem? (Option.mem_toList.mp h)

/-- The lists of origins stay those of the node. -/
theorem Traces.step (h : t.Traces) {ev : NativeEvent E} (hstep : t.step ev = some t') :
    t'.Traces := by
  obtain ⟨node, hnode, rfl⟩ := Option.map_eq_some_iff.mp hstep
  cases ev with
  | dial remote alpn transportIntent =>
    obtain ⟨hroutes, hcalls | ⟨call, hcalls⟩⟩ := NativeNode.startDial_cases hnode
    · refine ⟨?_, h.routes.trans hroutes.symm⟩
      simp only [begun_of_eq hcalls, List.append_nil]
      rw [h.calls, hcalls]
    · refine ⟨?_, h.routes.trans hroutes.symm⟩
      simp only [begun_of_append hcalls]
      rw [List.map_append, h.calls, hcalls, List.map_append]
      rfl
  | bootstrap peer request =>
    obtain rfl := Option.some.inj hnode
    rcases t.node.handleBootstrap_cases request with ⟨heq, -⟩ | ⟨_, _, _, _, _, -, -, -, heq⟩
    · refine ⟨?_, h.routes.trans (by rw [heq])⟩
      simp only [begun_of_eq (congrArg NativeNode.inFlight heq), List.append_nil]
      rw [h.calls, heq]
    · refine ⟨?_, h.routes.trans (by rw [heq]; rfl)⟩
      simp only [begun_of_append (congrArg NativeNode.inFlight heq)]
      rw [List.map_append, h.calls, heq]
      simp [NativeNode.begin]
  | sessionCreated index =>
    obtain rfl := Option.some.inj hnode
    obtain ⟨hroutes, hends⟩ := t.node.trackSession_cases index
    exact ⟨h.remaining hends, h.routes.trans hroutes.symm⟩
  | sessionFailed index =>
    obtain rfl := Option.some.inj hnode
    obtain ⟨hroutes, hends⟩ := t.node.failSession_cases index
    exact ⟨h.remaining hends, h.routes.trans hroutes.symm⟩
  | trackRoute index =>
    obtain rfl := Option.some.inj hnode
    obtain ⟨hends, hroutes⟩ := t.node.trackSessionRoute_cases index
    refine ⟨h.remaining hends, ?_⟩
    show (t.routes ++ t.tracked index (t.node.trackSessionRoute index)).map Prod.snd = _
    unfold tracked
    rcases hroutes with hroutes | ⟨call, hget, hroutes⟩
    · rw [if_pos (by rw [hroutes]), List.append_nil, h.routes, hroutes]
    · rw [if_neg (by rw [hroutes]; simp), List.map_append, h.routes, hroutes]
      have hentry : (t.calls[index]?).map Prod.snd = some call.route := by
        rw [← List.getElem?_map, h.calls, List.getElem?_map, hget]
        rfl
      obtain ⟨entry, hentry, hroute⟩ := Option.map_eq_some_iff.mp hentry
      rw [hentry, ← hroute]
      rfl
  | close =>
    obtain rfl := Option.some.inj hnode
    unfold NativeNode.close
    split_ifs with hclosed
    · exact h
    · exact ⟨h.calls, rfl⟩

/-! ## Requests that speak for their peer -/

/-- **A step keeps sessions and routes those of their peers exactly when** its request is of the
peer of its connection. -/
theorem Bound.step_iff (h : t.Bound) {ev : NativeEvent E} (hstep : t.step ev = some t') :
    t'.Bound ↔ t.Authenticated ev := by
  obtain ⟨node, hnode, rfl⟩ := Option.map_eq_some_iff.mp hstep
  cases ev with
  | dial remote alpn transportIntent =>
    refine iff_of_true ⟨fun peer route hmem => ?_, h.routes⟩ trivial
    rcases List.mem_append.mp hmem with hmem | hmem
    · exact h.calls peer route hmem
    · obtain ⟨call, -, heq⟩ := List.mem_map.mp hmem
      exact absurd (Prod.mk.inj heq).1 (by simp)
  | bootstrap peer request =>
    obtain rfl := Option.some.inj hnode
    rcases t.node.handleBootstrap_cases request with ⟨heq, hrefused⟩ |
      ⟨dialId, fromId, generation, alpn, transportIntent, rfl, huses, haccepts, heq⟩
    · have hbegun : begun (some peer) t.node (t.node.handleBootstrap request) = [] :=
        begun_of_eq (congrArg NativeNode.inFlight heq)
      refine iff_of_true ⟨?_, h.routes⟩ ?_
      · simp only [hbegun, List.append_nil]
        exact h.calls
      · cases request with
        | dialRequest dialId fromId toId generation alpn transportIntent =>
          rintro rfl huses haccepts
          exact (hrefused _ _ _ _ _ rfl huses haccepts).elim
        | _ => trivial
    · have hbegun : begun (some peer) t.node (t.node.handleBootstrap _) =
          [(some peer, ⟨fromId, dialId, alpn⟩)] :=
        begun_of_append (congrArg NativeNode.inFlight heq)
      constructor
      · rintro ⟨hcalls, -⟩ - - -
        exact hcalls peer ⟨fromId, dialId, alpn⟩ (List.mem_append_right _ (by rw [hbegun]; simp))
      · intro hauth
        have hfrom : fromId = peer := hauth rfl huses haccepts
        refine ⟨fun peer' route hmem => ?_, h.routes⟩
        rcases List.mem_append.mp hmem with hmem | hmem
        · exact h.calls peer' route hmem
        · rw [hbegun, List.mem_singleton, Prod.mk.injEq, Option.some.injEq] at hmem
          rw [hmem.2, hmem.1]
          exact hfrom
  | sessionCreated index | sessionFailed index =>
    exact iff_of_true
      ⟨fun peer route hmem => h.calls peer route (mem_of_mem_remaining hmem), h.routes⟩ trivial
  | trackRoute index =>
    refine iff_of_true
      ⟨fun peer route hmem => h.calls peer route (mem_of_mem_remaining hmem),
        fun peer route hmem => ?_⟩ trivial
    rcases List.mem_append.mp hmem with hmem | hmem
    · exact h.routes peer route hmem
    · exact h.calls peer route (mem_of_mem_tracked hmem)
  | close =>
    refine iff_of_true ⟨h.calls, fun peer route hmem => ?_⟩ trivial
    by_cases hclosed : t.node.closed = true
    · exact h.routes peer route (by simpa [hclosed] using hmem)
    · exact absurd hmem (by simp [hclosed])

/-! ## What the gate finds -/

omit [EndpointKey E] [Blake3] in
/-- **Others do not interfere.**  What the gate finds for an endpoint is what it finds among the
routes of local dials and of that endpoint's own connections. -/
theorem Bound.matchingRoute (h : t.Bound) (htraces : t.Traces) (remote : E) (alpn : String) :
    NativeNode.matchingRoute t.node.sessionRoutes remote alpn =
      NativeNode.matchingRoute (t.ownRoutes remote) remote alpn := by
  rw [← htraces.routes]
  have hroutes : ∀ entry ∈ t.routes, ∀ peer, entry.1 = some peer → entry.2.remote = peer := by
    rintro ⟨origin, route⟩ hmem peer rfl
    exact h.routes peer route hmem
  unfold ownRoutes NativeNode.matchingRoute
  generalize t.routes = routes at hroutes
  induction routes with
  | nil => rfl
  | cons entry routes ih =>
    have ih := ih fun entry' hmem => hroutes entry' (List.mem_cons_of_mem _ hmem)
    by_cases hown : entry.1 = none ∨ entry.1 = some remote
    · rw [List.filter_cons_of_pos (by simpa using hown), List.map_cons, List.map_cons,
        List.find?_cons, List.find?_cons, ih]
    · have hother : entry.2.remote ≠ remote := by
        rintro rfl
        cases horigin : entry.1 with
        | none => exact hown (Or.inl horigin)
        | some peer =>
          have hpeer := hroutes entry List.mem_cons_self peer horigin
          exact hown (Or.inr (by rw [horigin, hpeer]))
      rw [List.filter_cons_of_neg (by simpa using hown), List.map_cons,
        List.find?_cons_of_neg (by simp [hother]), ih]

/-! ## Runs -/

omit [DecidableEq E] [EndpointKey E] [Blake3] in
theorem bound_spawn (endpointId : E) (epoch : FixedBytes 16)
    (acceptQueues protocolAlpns : List (List UInt8)) :
    (spawn endpointId epoch acceptQueues protocolAlpns).Bound :=
  ⟨fun _ _ hmem => absurd hmem List.not_mem_nil, fun _ _ hmem => absurd hmem List.not_mem_nil⟩

/-- **Bootstrap connections speak for their peers.**  In every state of a run the sessions and
routes that came in over a connection are those of its peer, if and only if every request of the run
that sets a session up names the peer of its connection.  Then, in every state, the route that the
gate finds for an endpoint does not depend on the connections of other peers. -/
theorem bound_iff (endpointId : E) (epoch : FixedBytes 16)
    (acceptQueues protocolAlpns : List (List UInt8)) {events : List (NativeEvent E)}
    (hrun : Runs.run step (spawn endpointId epoch acceptQueues protocolAlpns) events = some t) :
    ((∀ pre post u, events = pre ++ post →
        Runs.run step (spawn endpointId epoch acceptQueues protocolAlpns) pre = some u →
          u.Bound) ↔
      Runs.Guarded step Authenticated (spawn endpointId epoch acceptQueues protocolAlpns)
        events) ∧
    (∀ pre post u, events = pre ++ post →
        Runs.run step (spawn endpointId epoch acceptQueues protocolAlpns) pre = some u →
          u.Traces ∧
            (Runs.Guarded step Authenticated (spawn endpointId epoch acceptQueues protocolAlpns)
                events →
              ∀ remote alpn, NativeNode.matchingRoute u.node.sessionRoutes remote alpn =
                NativeNode.matchingRoute (u.ownRoutes remote) remote alpn)) := by
  have hnew : (spawn endpointId epoch acceptQueues protocolAlpns).Traces := ⟨rfl, rfl⟩
  have hiff := Runs.forall_prefix_iff_guarded (I := Traces) (P := Bound) (g := Authenticated)
    (fun u ev v hu hstep => hu.step hstep) (fun u ev v _ hbound hstep => hbound.step_iff hstep)
    hnew hrun
  rw [and_iff_right (bound_spawn endpointId epoch acceptQueues protocolAlpns)] at hiff
  refine ⟨hiff, fun pre post u hevents hpre => ?_⟩
  have htraces : u.Traces := Runs.run_invariant (fun u ev v hu hstep => hu.step hstep) hnew hpre
  exact ⟨htraces, fun hguard => (hiff.mpr hguard pre post u hevents hpre).matchingRoute htraces⟩

end Steps

/-! ## Concrete runs -/

section Sample

open scoped Sample
open Sample

/-- Another endpoint; the id is twice the base point. -/
def mallory : Key :=
  ⟨[0xc9, 0xa3, 0xf8, 0x6a, 0xae, 0x46, 0x5f, 0x0e, 0x56, 0x51, 0x38, 0x64, 0x51, 0x0f, 0x39, 0x97,
      0x56, 0x1f, 0xa2, 0xc9, 0xe8, 0x5e, 0xa2, 0x1d, 0xc2, 0x29, 0x23, 0x09, 0xf3, 0xcd, 0x60,
      0x22], rfl⟩

def sampleSpawn : TracedNode Key := spawn alice epoch [utf8Bytes "chat"] []

/-- A dial request that `bob` sends himself. -/
def honestRequest : List (NativeEvent Key) :=
  [.bootstrap bob (.dialRequest (.replicate 16 1) bob alice 0 "chat" .webRtcPreferred),
    .sessionCreated 0, .trackRoute 0]

/-- A dial request in the name of `bob`, on a connection of `mallory`. -/
def forgedRequest : List (NativeEvent Key) :=
  [.bootstrap mallory (.dialRequest (.replicate 16 2) bob alice 0 "chat" .webRtcPreferred),
    .sessionCreated 0, .trackRoute 0]

theorem honestRequest_authenticated :
    Runs.Guarded step Authenticated sampleSpawn honestRequest :=
  .cons (fun _ _ _ => rfl) rfl (.cons trivial rfl (.cons trivial rfl (.nil _ _)))

theorem bound_iff_sample :
    ∃ t, Runs.run step sampleSpawn honestRequest = some t ∧ t.Bound ∧
      NativeNode.matchingRoute t.node.sessionRoutes bob "chat" =
        NativeNode.matchingRoute (t.ownRoutes bob) bob "chat" := by
  have hrun : ∃ t, Runs.run step sampleSpawn honestRequest = some t := ⟨_, rfl⟩
  obtain ⟨t, hrun⟩ := hrun
  obtain ⟨hiff, hgate⟩ := bound_iff alice epoch [utf8Bytes "chat"] [] hrun
  exact ⟨t, hrun, hiff.mpr honestRequest_authenticated honestRequest [] t (by simp) hrun,
    (hgate honestRequest [] t (by simp) hrun).2 honestRequest_authenticated bob "chat"⟩

/-- **A forged request binds.**  The connection of `mallory` leaves a route of `bob`, and when `bob`
dials afterwards the gate finds the forged route in the place of his. -/
theorem forged_request_binds :
    ∃ t, Runs.run step sampleSpawn (forgedRequest ++ honestRequest) = some t ∧
      (some mallory, ⟨bob, .replicate 16 2, "chat"⟩) ∈ t.routes ∧ ¬ t.Bound ∧
      NativeNode.matchingRoute t.node.sessionRoutes bob "chat" =
        some ⟨bob, .replicate 16 2, "chat"⟩ ∧
      NativeNode.matchingRoute (t.ownRoutes bob) bob "chat" =
        some ⟨bob, .replicate 16 1, "chat"⟩ := by
  have hrun : ∃ t, Runs.run step sampleSpawn (forgedRequest ++ honestRequest) = some t ∧
      (some mallory, ⟨bob, .replicate 16 2, "chat"⟩) ∈ t.routes ∧
      NativeNode.matchingRoute t.node.sessionRoutes bob "chat" =
        some ⟨bob, .replicate 16 2, "chat"⟩ ∧
      NativeNode.matchingRoute (t.ownRoutes bob) bob "chat" =
        some ⟨bob, .replicate 16 1, "chat"⟩ :=
    ⟨_, rfl, List.mem_cons_self, rfl, rfl⟩
  obtain ⟨t, hrun, hmem, hfound, hown⟩ := hrun
  refine ⟨t, hrun, hmem, fun h => ?_, hfound, hown⟩
  exact absurd (h.routes _ _ hmem) (by decide)

end Sample

end TracedNode

end IrohWebRtc
