import IrohWebRtc.Browser.DialSteps
import IrohWebRtc.Browser.IntentSafety

/-!
# The fallback of a dial that prefers WebRTC

A dial with the intent `WebRtcPreferred` is to attempt WebRTC first and to fall back to the relay
when WebRTC cannot be promoted.  The runtime does so when the decision of the pending dial is the
relay; before the dial is pending, and after it was decided for WebRTC, an error is returned as it
is.

The condition is one on the steps of a run.  The steps at which a dial gives up without the relay
are listed from the code (`MissesFallback`): the bootstrap connection that fails, a channel that
cannot be opened, the WebRTC dial that fails after the session was decided for it, and so on.  In
a run without them the decision of the dial is the relay whenever it is not WebRTC; to see this
one has to know that a session which prefers WebRTC never reaches a state that decides its dial to
fail.  That is `Recoverable`, an invariant of these sessions.

* `Recoverable`: a session that does not decide its dial to fail.
* `MissesFallback`: the steps at which a dial that prefers WebRTC gives up without the relay.
* `fallback_of_guarded`: in a run without them every such dial that returns an error while the
  node is open has attempted the relay.

A node that is closed fails all its dials, and no fallback is expected of it.
-/

namespace IrohWebRtc

/-- A dial of the application that prefers WebRTC. -/
def DialRequest.PrefersWebRtc {E : Type*} (request : DialRequest E) : Prop :=
  request.kind = .application ∧ request.transportIntent = .webRtcPreferred

namespace DialPhase

variable {E : Type*}

/-- The call has a session, and was not decided yet. -/
def Undecided (phase : DialPhase E) : Prop :=
  phase.Bootstrapping ∨ phase = .waiting

/-- A dial that fails has attempted the relay, or its node is closed. -/
def Attempted (relayDialed closed : Bool) : DialPhase E → Prop
  | .dialingRelay | .relayDialing => relayDialed = true
  | .completed (.error _) => relayDialed = true ∨ closed = true
  | _ => True

end DialPhase

/-! ## Recoverable sessions -/

/-- The session does not decide its dial to fail. -/
def Recoverable {E : Type*} (s : BrowserSessionState E) : Prop :=
  pendingAction s ≠ some .fail ∧ pendingAction s ≠ some .closed

namespace Recoverable

variable {E : Type*} {s t : BrowserSessionState E}

theorem of_open (h : s.channelAttachment = .open) : Recoverable s := by
  rw [Recoverable, pendingAction_eq_webRtc.mpr h]
  simp

theorem of_relay (h : s.resolvedTransport = some .irohRelay ∨ s.lifecycle = .relaySelected) :
    Recoverable s := by
  by_cases hopen : s.channelAttachment = .open
  · exact of_open hopen
  · rw [Recoverable, pendingAction, if_neg hopen, if_pos h]
    simp

theorem of_running (hlifecycle : s.lifecycle ≠ .failed ∧ s.lifecycle ≠ .closed)
    (hchannel : s.channelAttachment ≠ .failed ∧ s.channelAttachment ≠ .closed) :
    Recoverable s := by
  rw [Recoverable, pendingAction]
  split_ifs <;> simp_all

/-- Why a session is recoverable. -/
theorem cases (h : Recoverable s) :
    s.channelAttachment = .open ∨
      (s.resolvedTransport = some .irohRelay ∨ s.lifecycle = .relaySelected) ∨
      (s.lifecycle ≠ .failed ∧ s.lifecycle ≠ .closed) ∧
        s.channelAttachment ≠ .failed ∧ s.channelAttachment ≠ .closed := by
  rw [Recoverable, pendingAction] at h
  split_ifs at h with hopen hrelay hfail hclosed
  · exact Or.inl hopen
  · exact Or.inr (Or.inl hrelay)
  · exact absurd rfl h.1
  · exact absurd rfl h.2
  · rw [not_or] at hfail hclosed
    exact Or.inr (Or.inr ⟨⟨hfail.1, hclosed.1⟩, hfail.2, hclosed.2⟩)

theorem new (sessionKey : BrowserSessionKey) (dialId : DialId) (generation : ℕ)
    (localId remote : E) (alpn : String) (role : BrowserSessionRole)
    (transportIntent : BootstrapTransportIntent) :
    Recoverable (.new sessionKey dialId generation localId remote alpn role transportIntent) := by
  refine of_running ⟨?_, ?_⟩ ⟨?_, ?_⟩ <;> (rw [BrowserSessionState.new]; dsimp only; split_ifs) <;>
    simp

theorem attached (h : Recoverable s) (hchannel : s.channelAttachment = .awaitingTransfer) :
    Recoverable { s with channelAttachment := .transferred } := by
  rcases h.cases with hopen | hrelay | ⟨hlifecycle, -⟩
  · exact absurd (hchannel.symm.trans hopen) (by simp)
  · exact of_relay hrelay
  · exact of_running hlifecycle (by simp)

theorem resolved {transport : BrowserResolvedTransport}
    (hresolve : s.CanResolve transport) : Recoverable (s.resolved transport) := by
  cases transport with
  | webRtc => exact of_open hresolve.2
  | irohRelay => exact of_relay (Or.inl rfl)

/-- A session that prefers WebRTC is left to the relay. -/
theorem fellBack (hintent : s.transportIntent = .webRtcPreferred) :
    Recoverable (s.applyTerminalReason .fallbackSelected).2 := by
  rw [BrowserSessionState.applyTerminalReason, if_pos (by rw [hintent]; rfl)]
  exact of_relay (Or.inl rfl)

end Recoverable

namespace BrowserRuntimeNode

variable {E : Type*} [DecidableEq E] [EndpointKey E] [Blake3] {node node' : BrowserRuntimeNode E}

/-- An operation leaves a session that prefers WebRTC recoverable, unless it ends it for another
reason than the fallback. -/
theorem Origin.recoverable {op : NodeOp E} {key : BrowserSessionKey} {t : BrowserSessionState E}
    (h : Origin node op key t)
    (hrec : ∀ s, node.session key = some s →
      s.transportIntent = .webRtcPreferred ∧ Recoverable s)
    (hends : ∀ s reason, node.session key = some s → node.Ends op key s reason →
      reason = .fallbackSelected)
    (hconnection : ∀ connectionKey c, op = .connectionClose connectionKey →
      node.connections.lookup connectionKey = some c → c.transport = .webRtc →
      c.sessionKey ≠ some key)
    (hclose : ∀ reason, op ≠ .closeNode reason) : Recoverable t := by
  cases h with
  | attached hs hchannel => exact (hrec _ hs).2.attached hchannel
  | opened hs hop hchannel => exact .of_open rfl
  | completed hs hop hclosed hrole hresolve => exact .resolved hresolve
  | bound hs helig => exact .resolved (canResolve_of_isEligible helig)
  | @decided s reason hs hop hclosed =>
    have hreason := hends s _ hs (.decided hop)
    rw [hreason]
    exact .fellBack (hrec s hs).1
  | @terminated s dialId fromId toId generation reason message alpn hs hop hkey hclosed hto hremote
      hgeneration =>
    subst hto hremote hgeneration
    obtain rfl := hends s reason hs (.terminated hop hkey)
    exact .fellBack (s := { s with terminalReceived := some .fallbackSelected }) (hrec s hs).1
  | closed hs hop hconnection' htransport hkey =>
    exact absurd hkey (hconnection _ _ hop hconnection' htransport)
  | closedForNode hs hop => exact absurd hop (hclose _)
  | dialed | accepted => exact .new _ _ _ _ _ _ _ _

/-- A node that is open was open before. -/
theorem open_of_step {op : NodeOp E} (hstep : node.step op = some node')
    (hopen : node'.closed = false) :
    node.closed = false ∧ ∀ reason, op ≠ .closeNode reason := by
  by_cases hop : ∃ reason, op = .closeNode reason
  · obtain ⟨reason, rfl⟩ := hop
    obtain rfl := Option.some.inj hstep
    rw [closeInner] at hopen
    split_ifs at hopen with hclosed
    exact absurd (hclosed.symm.trans hopen) (by simp)
  · rw [not_exists] at hop
    exact ⟨(step_effect hop hstep).wrote.closed.symm.trans hopen, hop⟩

omit [DecidableEq E] [Blake3] in
theorem completeDial_ok (hclosed : node.closed = false) {key : BrowserSessionKey}
    {s : BrowserSessionState E} (hs : node.session key = some s) (hrole : s.role = .dialer)
    {transport : BrowserResolvedTransport} (hresolve : s.CanResolve transport) :
    ∃ m, node.completeDial key transport = (.ok (s.resolved transport), m) ∧ m.closed = false ∧
      m.session key = some (s.resolved transport) := by
  have hlookup : node.sessions.lookup key = some s := hs
  have hcomplete : s.completeDial transport = .ok (s.resolved transport) :=
    BrowserSessionState.completeDial_eq_ok.mpr ⟨hrole, hresolve, rfl⟩
  rw [completeDial, updateSession, if_neg (by simp [hclosed]), hlookup]
  dsimp only
  rw [hcomplete]
  exact ⟨_, rfl, hclosed, AList.lookup_insert _⟩

omit [Blake3] in
/-- A session that can be resolved to WebRTC admits a connection on its own path. -/
theorem admit_webRtc_ok (hclosed : node.closed = false) {key : BrowserSessionKey}
    {s : BrowserSessionState E} (hs : node.session key = some s) (hresolve : s.CanResolve .webRtc)
    {connection : Connection E}
    (hpath : requireWebrtcSelectedPath connection (.session s.remote s.dialId) = .ok ())
    {result : BrowserRuntimeResult (BrowserAcceptedConnection E × Option AcceptWaiter)}
    (h : node.admitIrohApplicationConnection connection .webRtc (some key) false =
      some (result, node')) : ∃ accepted, result = .ok accepted := by
  have hlookup : node.sessions.lookup key = some s := hs
  have hvalid := BrowserSessionState.validateTransportResolution_eq_ok.mpr hresolve
  have hrecord := BrowserSessionState.resolveTransport_eq_ok.mpr ⟨hresolve, rfl⟩
  have hcheck : node.checkAdmission connection .webRtc (some key) false = .ok () := by
    rw [checkAdmission, if_neg (by simp [hclosed]), if_neg (by simp), Option.bind_some, hlookup]
    dsimp only
    rw [hvalid]
    dsimp only
    rw [hpath]
  rw [admitIrohApplicationConnection, hcheck] at h
  obtain ⟨⟨connectionKey, m⟩, hkey, heq⟩ := Option.map_eq_some_iff.mp h
  have hm : m.sessions = node.sessions := by
    rw [allocateConnectionKey] at hkey
    split_ifs at hkey
    obtain ⟨-, rfl⟩ := Prod.mk.inj (Option.some.inj hkey)
    rfl
  dsimp only at heq
  rw [if_neg (by simp)] at heq
  dsimp only [recordConnection] at heq
  rw [hm, hlookup] at heq
  dsimp only at heq
  rw [hrecord] at heq
  obtain ⟨rfl, -⟩ := Prod.mk.inj heq
  exact ⟨_, rfl⟩

omit [Blake3] in
/-- The dial succeeds when the selected path is that of the session and its channel is open. -/
theorem dialWebrtcConnected_ok (hclosed : node.closed = false) {key : BrowserSessionKey}
    {s t : BrowserSessionState E} (ht : node.session key = some t) (hst : s.SameSession t)
    (hrole : t.role = .dialer) (hresolve : t.CanResolve .webRtc) {connection : Connection E}
    (hpath : requireWebrtcSelectedPath connection (.session s.remote s.dialId) = .ok ())
    {result : BrowserRuntimeResult (BrowserAcceptedConnection E × Option AcceptWaiter)}
    (h : node.dialWebrtcConnected key s connection = some (result, node')) :
    ∃ accepted, result = .ok accepted := by
  obtain ⟨m, hm, hmclosed, hmsession⟩ := completeDial_ok hclosed ht hrole hresolve
  rw [dialWebrtcConnected, hpath] at h
  dsimp only at h
  rw [hm] at h
  refine admit_webRtc_ok hmclosed hmsession
    (BrowserSessionState.canResolve_resolved.mpr hresolve) ?_ h
  show requireWebrtcSelectedPath connection (.session t.remote t.dialId) = .ok ()
  rw [hst.remote, hst.dialId]
  exact hpath

end BrowserRuntimeNode

namespace BrowserRuntime

section

variable {E : Type*} {rt rt' : BrowserRuntime E}

/-! ## Giving up without the relay -/

/-- The call is a dial that prefers WebRTC, and was not decided yet. -/
structure AwaitsDecision (rt : BrowserRuntime E) (i : ℕ) (call : DialCall E) : Prop where
  started : rt.calls i = some call
  prefers : call.PrefersWebRtc
  undecided : (rt.bodies i).Undecided

/-- The call is a dial that prefers WebRTC, and dials over it. -/
structure DialsWebRtc (rt : BrowserRuntime E) (i : ℕ) (call : DialCall E)
    (s : BrowserSessionState E) : Prop where
  started : rt.calls i = some call
  prefers : call.PrefersWebRtc
  body : rt.bodies i = .webRtcDialing s

variable [DecidableEq E] [EndpointKey E]

/-- A dial that prefers WebRTC gives up: its ALPN is empty, a step of its bootstrap fails, its
session is ended for another reason than the fallback before it is decided, or WebRTC fails after it
was decided. -/
inductive MissesFallback (rt : BrowserRuntime E) : RuntimeEvent E → Prop where
  | emptyAlpn {remote : E} {alpn : String} (halpn : alpn.isEmpty = true) :
    MissesFallback rt (.dial remote alpn .webRtcPreferred)
  | bootstrapFails {i : ℕ} {call : DialCall E} (hcall : rt.AwaitsDecision i call)
      (hbody : (rt.bodies i).Bootstrapping) : MissesFallback rt (.bootstrapStep i false)
  | sessionEnds {ev : RuntimeEvent E} {op : NodeOp E} {i : ℕ} {call : DialCall E}
      {s : BrowserSessionState E} {reason : WebRtcTerminalReason} (hcall : rt.AwaitsDecision i call)
      (hop : rt.Issues ev op) (hs : rt.node.session call.sessionKey = some s)
      (hends : rt.node.Ends op call.sessionKey s reason) (hreason : reason ≠ .fallbackSelected) :
      MissesFallback rt ev
  | channelNotOpen {i : ℕ} {call : DialCall E} {s : BrowserSessionState E}
      (hcall : rt.calls i = some call) (hprefers : call.PrefersWebRtc)
      (hbody : rt.bodies i = .webRtcSpawned) (hs : rt.node.session call.sessionKey = some s)
      (hchannel : s.channelAttachment ≠ .open) : MissesFallback rt (.taskStarts i)
  | endpointFails {i : ℕ} {call : DialCall E} {s : BrowserSessionState E}
      {err : BrowserRuntimeError} (hcall : rt.DialsWebRtc i call s) :
      MissesFallback rt (.webrtcDialed i (.error err))
  | otherPath {i : ℕ} {call : DialCall E} {s : BrowserSessionState E} {connection : Connection E}
      (hcall : rt.DialsWebRtc i call s)
      (hpath : requireWebrtcSelectedPath connection (.session s.remote s.dialId) ≠ .ok ()) :
      MissesFallback rt (.webrtcDialed i (.ok connection))
  | channelLost {i : ℕ} {call : DialCall E} {s t : BrowserSessionState E}
      {connection : Connection E} (hcall : rt.DialsWebRtc i call s)
      (ht : rt.node.session call.sessionKey = some t) (hchannel : t.channelAttachment ≠ .open) :
      MissesFallback rt (.webrtcDialed i (.ok connection))

variable [Blake3]

/-! ## The sessions of the calls -/

/-- A session goes on under its key. -/
theorem sameSession_of_step (hwf : rt.node.WellKeyed) {ev : RuntimeEvent E}
    (hfresh : rt.FreshDial ev) (h : rt.Move ev rt') {key : BrowserSessionKey}
    {s : BrowserSessionState E} (hs : rt.node.session key = some s) :
    ∃ t, rt'.node.session key = some t ∧ s.SameSession t := by
  rcases step_node h with hnode | ⟨op, hissues, hop⟩
  · exact ⟨s, by rw [hnode, hs], .refl s⟩
  · exact BrowserRuntimeNode.sameSession_step hwf (hfresh op hissues) hop hs

theorem open_of_step {ev : RuntimeEvent E} (h : rt.Move ev rt') (hopen : rt'.node.closed = false) :
    rt.node.closed = false := by
  rcases step_node h with hnode | ⟨op, -, hop⟩
  · rw [← hnode]
    exact hopen
  · exact (BrowserRuntimeNode.open_of_step hop hopen).1

theorem closed_of_step {ev : RuntimeEvent E} (h : rt.Move ev rt')
    (hclosed : rt.node.closed = true) : rt'.node.closed = true := by
  by_contra hopen
  have hbefore := open_of_step h (by simpa using hopen)
  exact absurd (hclosed.symm.trans hbefore) (by simp)

omit [DecidableEq E] [EndpointKey E] [Blake3] in
/-- A call that is decided dials, or is completed. -/
theorem Decides.phase {i : ℕ} {call : DialCall E} (h : rt.Decides rt' i call) :
    rt'.bodies i = .webRtcSpawned ∨ rt'.bodies i = .relaySpawned ∨
      ∃ outcome, rt'.bodies i = .completed outcome := by
  obtain ⟨-, -, -, hbody, -⟩ := h
  rename_i s action diagnostic
  rw [hbody, decided]
  cases hkind : call.kind <;> cases action <;> simp [decidedDial, decidedPrepare]

/-- A call that is undecided was so before. -/
theorem undecided_before (hreg : rt.Registered) {ev : RuntimeEvent E} (h : rt.Move ev rt') {i : ℕ}
    {call : DialCall E} (hcall : rt.calls i = some call) (hundecided : (rt'.bodies i).Undecided) :
    (rt.bodies i).Undecided := by
  rcases (step_body hreg h hcall).1 with hsame | hbodyMove
  · exact hsame ▸ hundecided
  · cases hbodyMove with
    | advanced h =>
      generalize rt.bodies i = p, rt'.bodies i = q at h ⊢
      cases h <;> exact Or.inl trivial
    | registered h h' =>
      rw [h]
      exact Or.inl trivial
    | decided hdecides =>
      rcases hdecides.phase with h' | h' | ⟨outcome, h'⟩
      all_goals
        rw [h'] at hundecided
        exact absurd hundecided (by simp [DialPhase.Undecided, DialPhase.Bootstrapping])
    | bootstrapFailed _ _ h' | delegated _ h' | resumed _ h' | dropped _ _ _ _ h'
    | taskFailed _ _ _ h' | relayClosed _ _ h' | webRtcDialFailed _ _ h' | webRtcStarted _ _ h'
    | relayStarted _ _ h' | webRtcDialed _ _ _ h' | relayDialed _ h' =>
      rw [h'] at hundecided
      exact absurd hundecided (by simp [DialPhase.Undecided, DialPhase.Bootstrapping])

/-- Every call has a session of its own, and only calls that were decided have connections. -/
structure OwnSessions (rt : BrowserRuntime E) : Prop where
  distinct : ∀ i j call other, rt.calls i = some call → rt.calls j = some other →
    call.sessionKey = other.sessionKey → i = j
  session : ∀ i call, rt.calls i = some call → ∃ s, rt.node.session call.sessionKey = some s ∧
    s.role = .dialer ∧ s.transportIntent = call.transportIntent
  snapshot : ∀ i call s, rt.calls i = some call → rt.bodies i = .webRtcDialing s →
    ∃ t, rt.node.session call.sessionKey = some t ∧ s.SameSession t
  connected : ∀ connectionKey c key, rt.node.connections.lookup connectionKey = some c →
    c.transport = .webRtc → c.sessionKey = some key → ∃ s, rt.node.session key = some s
  connection : ∀ connectionKey c i call, rt.node.connections.lookup connectionKey = some c →
    c.transport = .webRtc → rt.calls i = some call → c.sessionKey = some call.sessionKey →
    ¬ (rt.bodies i).Undecided

omit [DecidableEq E] [EndpointKey E] [Blake3] in
theorem session_of_dialWebrtcStart {node : BrowserRuntimeNode E} {key : BrowserSessionKey}
    {s : BrowserSessionState E} (h : node.dialWebrtcStart key = .ok s) :
    node.session key = some s := by
  rw [BrowserRuntimeNode.dialWebrtcStart, BrowserRuntimeNode.sessionSnapshot] at h
  cases hs : node.sessions.lookup key with
  | none =>
    rw [hs] at h
    exact absurd h (by simp)
  | some t =>
    rw [hs] at h
    dsimp only at h
    split_ifs at h
    obtain rfl := Except.ok.inj h
    exact hs

/-- A WebRTC endpoint that has connected completes the call that dials over it. -/
theorem completed_of_webrtcDialed {i : ℕ} {outcome : BrowserRuntimeResult (Connection E)}
    (h : rt.Move (.webrtcDialed i outcome) rt') : ∃ result, rt'.bodies i = .completed result := by
  cases h with
  | refused hev hcause | started hev => exact absurd hev (by simp [RuntimeEvent.request])
  | setupFailed hcall hfails => cases hfails
  | loopEnded hends hnode => cases hends
  | webRtcDialFailed hcall hbody | webRtcDialed hcall hbody hdial => exact ⟨_, setBody_self ..⟩

omit [EndpointKey E] [Blake3] in
/-- An acceptor's session is not the one of a call. -/
theorem OwnSessions.not_eligible (hwf : rt.node.WellKeyed) (hown : rt.OwnSessions)
    {order : List BrowserSessionKey} {connection : Connection E} {s : BrowserSessionState E}
    (helig : rt.node.eligibleSession order connection = some s) {i : ℕ} {call : DialCall E}
    (hcall : rt.calls i = some call) : s.sessionKey ≠ call.sessionKey := by
  intro hkey
  obtain ⟨-, hs⟩ := BrowserRuntimeNode.session_of_eligibleSession hwf helig
  obtain ⟨t, ht, hrole, -⟩ := hown.session i call hcall
  obtain rfl := Option.some.inj (hs.symm.trans (hkey ▸ ht))
  have hacceptor := List.find?_some helig
  simp [BrowserRuntimeNode.isEligible, hrole] at hacceptor

/-- The session that a WebRTC dial works with is the one the call had before the step. -/
theorem OwnSessions.dialing_before (hreg : rt.Registered) (hown : rt.OwnSessions)
    {ev : RuntimeEvent E} (hmove : rt.Move ev rt') {i : ℕ} {call : DialCall E}
    {s : BrowserSessionState E} (hcall : rt.calls i = some call)
    (hbody : rt'.bodies i = .webRtcDialing s) :
    ∃ t, rt.node.session call.sessionKey = some t ∧ s.SameSession t := by
  rcases (step_body hreg hmove hcall).1 with hsame | hbodyMove
  · exact hown.snapshot i call s hcall (hsame ▸ hbody)
  · cases hbodyMove with
    | webRtcStarted hstart h h' =>
      obtain rfl := DialPhase.webRtcDialing.inj (h'.symm.trans hbody)
      exact ⟨_, session_of_dialWebrtcStart hstart, .refl _⟩
    | advanced h =>
      generalize rt.bodies i = p, rt'.bodies i = q at h hbody
      cases h <;> exact absurd hbody (by simp)
    | decided hdecides =>
      rcases hdecides.phase with h' | h' | ⟨outcome, h'⟩
      all_goals exact absurd (h'.symm.trans hbody) (by simp)
    | registered _ h' | bootstrapFailed _ _ h' | delegated _ h' | resumed _ h'
    | dropped _ _ _ _ h' | taskFailed _ _ _ h' | relayClosed _ _ h'
    | webRtcDialFailed _ _ h' | relayStarted _ _ h' | webRtcDialed _ _ _ h'
    | relayDialed _ h' => exact absurd (h'.symm.trans hbody) (by simp)

/-- No step admits a WebRTC connection of a session whose call is undecided after it. -/
theorem OwnSessions.not_admitted (hwf : rt.WellFormed) (hown : rt.OwnSessions)
    {ev : RuntimeEvent E} (hfresh : rt.FreshDial ev) (hmove : rt.Move ev rt') {op : NodeOp E}
    (hissues : rt.Issues ev op) {i : ℕ} {call : DialCall E} (hcall : rt'.calls i = some call)
    (hundecided : (rt'.bodies i).Undecided) :
    ¬ rt.node.Admits op .webRtc (some call.sessionKey) := by
  intro hadmits
  generalize hsome : some call.sessionKey = sessionKey at hadmits
  cases hadmits with
  | accepted helig =>
    have hsessionKey := Option.some.inj hsome
    rcases step_call hmove hcall with hcall | hstarts
    · exact hown.not_eligible hwf.wellKeyed helig hcall hsessionKey.symm
    · obtain ⟨-, hs⟩ := BrowserRuntimeNode.session_of_eligibleSession hwf.wellKeyed helig
      rw [← hsessionKey, hstarts.unused hfresh] at hs
      exact absurd hs (by simp)
  | webRtcDialed =>
    cases hissues with
    | @webRtcDialed j other s connection hother =>
      rcases step_call hmove hcall with hcall | hstarts
      · obtain rfl := hown.distinct i j call other hcall hother (Option.some.inj hsome)
        obtain ⟨result, hbody⟩ := completed_of_webrtcDialed hmove
        rw [hbody] at hundecided
        exact absurd hundecided (by simp [DialPhase.Undecided, DialPhase.Bootstrapping])
      · exact absurd hstarts.request (by simp [RuntimeEvent.request])
    | direct hdirect => exact absurd hdirect (by simp [NodeOp.isDirect])

theorem OwnSessions.step (hwf : rt.WellFormed) (hown : rt.OwnSessions) {ev : RuntimeEvent E}
    (hfresh : rt.FreshDial ev) (hmove : rt.Move ev rt') : rt'.OwnSessions := by
  have hnew : ∀ {i call}, rt.Starts ev rt' i call →
      ∀ {s}, rt.node.session call.sessionKey ≠ some s :=
    fun hstarts _ hs => absurd ((hstarts.unused hfresh).symm.trans hs) (by simp)
  refine ⟨?_, ?_, ?_, ?_, ?_⟩
  · intro i j call other hcall hother hkey
    rcases step_call hmove hcall with hcall | hstarts
    · rcases step_call hmove hother with hother | hstarts
      · exact hown.distinct i j call other hcall hother hkey
      · obtain ⟨s, hs⟩ := hwf.session i call hcall
        exact absurd (hkey ▸ hs) (hnew hstarts)
    · rcases step_call hmove hother with hother | hstarts'
      · obtain ⟨s, hs⟩ := hwf.session j other hother
        exact absurd (hkey ▸ hs) (hnew hstarts)
      · exact hstarts.index.trans hstarts'.index.symm
  · intro i call hcall
    rcases step_call hmove hcall with hcall | hstarts
    · obtain ⟨s, hs, hrole, hintent⟩ := hown.session i call hcall
      obtain ⟨t, ht, hst⟩ := sameSession_of_step hwf.wellKeyed hfresh hmove hs
      exact ⟨t, ht, hst.role.trans hrole, hst.transportIntent.trans hintent⟩
    · obtain ⟨dialId, generation, hs⟩ := hstarts.session
      exact ⟨_, hs, rfl, rfl⟩
  · intro i call s hcall hbody
    rcases step_call hmove hcall with hcall | hstarts
    · obtain ⟨t, ht, hst⟩ := hown.dialing_before hwf.registered hmove hcall hbody
      obtain ⟨t', ht', hst'⟩ := sameSession_of_step hwf.wellKeyed hfresh hmove ht
      exact ⟨t', ht', hst.trans hst'⟩
    · rcases hstarts.phase with ⟨h, -⟩ | h | h
      all_goals exact absurd (h.symm.trans hbody) (by simp)
  · intro connectionKey c key hc htransport hkey
    rcases step_node hmove with hnode | ⟨op, -, hop⟩
    · rw [hnode] at hc ⊢
      exact hown.connected connectionKey c key hc htransport hkey
    · rcases BrowserRuntimeNode.step_connection hop hc with ⟨c₀, hc₀, hsame⟩ | ⟨hfits, -⟩
      · obtain ⟨s, hs⟩ := hown.connected connectionKey c₀ key hc₀
          (hsame.transport.symm.trans htransport) (hsame.sessionKey.symm.trans hkey)
        exact session_of_step hwf.wellKeyed hmove hs
      · obtain ⟨key', s, hkey', hs, -⟩ := hfits.webRtc htransport
        obtain rfl := Option.some.inj (hkey'.symm.trans hkey)
        exact ⟨s, hs⟩
  · intro connectionKey c i call hc htransport hcall hkey hundecided
    -- a connection that was there is for a call that was decided
    have hold : ∀ c₀, rt.node.connections.lookup connectionKey = some c₀ →
        c₀.transport = .webRtc → c₀.sessionKey = some call.sessionKey → False := by
      intro c₀ hc₀ htransport₀ hkey₀
      rcases step_call hmove hcall with hcall | hstarts
      · exact hown.connection connectionKey c₀ i call hc₀ htransport₀ hcall hkey₀
          (undecided_before hwf.registered hmove hcall hundecided)
      · obtain ⟨s, hs⟩ := hown.connected connectionKey c₀ _ hc₀ htransport₀ hkey₀
        exact hnew hstarts hs
    rcases step_node hmove with hnode | ⟨op, hissues, hop⟩
    · exact hold c (hnode ▸ hc) htransport hkey
    · rcases BrowserRuntimeNode.step_connection hop hc with ⟨c₀, hc₀, hsame⟩ | ⟨-, hadmits⟩
      · exact hold c₀ hc₀ (hsame.transport.symm.trans htransport)
          (hsame.sessionKey.symm.trans hkey)
      · rw [htransport, hkey] at hadmits
        exact hown.not_admitted hwf hfresh hmove hissues hcall hundecided hadmits

/-! ## Dials that prefer WebRTC -/

/-- The dials that prefer WebRTC fall back: as long as one is not decided the session it waits for
is recoverable, and those that fail have attempted the relay. -/
structure KeepsFallback (rt : BrowserRuntime E) : Prop where
  recoverable : rt.node.closed = false → ∀ i call s, rt.AwaitsDecision i call →
    rt.node.session call.sessionKey = some s → Recoverable s
  kept : rt.node.closed = false → ∀ loop signal result s i call,
    rt.loops loop = .applying signal result → result.sessionKey = some call.sessionKey →
    result.session = some s → rt.AwaitsDecision i call → Recoverable s
  attempted : ∀ i call, rt.calls i = some call → call.PrefersWebRtc →
    (rt.bodies i).Attempted (rt.relayDialed i) rt.node.closed
  returned : ∀ r ∈ rt.returns, r.request.PrefersWebRtc → (∃ err, r.outcome = .error err) →
    r.nodeOpen = true → r.relayDialed = true

/-- The session of an undecided call stays recoverable. -/
theorem recoverable_of_step (hwf : rt.WellFormed) (hown : rt.OwnSessions)
    (hkeeps : rt.KeepsFallback) {ev : RuntimeEvent E}
    (hguard : rt.node.closed = false → ¬ rt.MissesFallback ev) (hmove : rt.Move ev rt')
    (hopen : rt'.node.closed = false) {i : ℕ} {call : DialCall E} (hcall : rt.AwaitsDecision i call)
    {t : BrowserSessionState E} (ht : rt'.node.session call.sessionKey = some t) :
    Recoverable t := by
  have hbefore := open_of_step hmove hopen
  have hsession : ∀ s, rt.node.session call.sessionKey = some s →
      s.transportIntent = .webRtcPreferred ∧ Recoverable s := by
    intro s hs
    obtain ⟨s', hs', -, hintent⟩ := hown.session i call hcall.started
    obtain rfl := Option.some.inj (hs'.symm.trans hs)
    exact ⟨hintent.trans hcall.prefers.2, hkeeps.recoverable hbefore i call s' hcall hs⟩
  rcases step_node hmove with hnode | ⟨op, hissues, hop⟩
  · exact (hsession t (hnode ▸ ht)).2
  · rcases BrowserRuntimeNode.step_session hwf.wellKeyed hop call.sessionKey with
      hsame | ⟨t', ht', horigin⟩
    · exact (hsession t (hsame.symm.trans ht)).2
    · obtain rfl := Option.some.inj (ht'.symm.trans ht)
      refine horigin.recoverable hsession ?_ ?_ (BrowserRuntimeNode.open_of_step hop hopen).2
      · intro s reason hs hends
        by_contra hreason
        exact hguard hbefore (.sessionEnds hcall hissues hs hends hreason)
      · intro connectionKey c hclose hc htransport hkey
        exact hown.connection connectionKey c i call hc htransport hcall.started hkey
          hcall.undecided

/-- A call that is decided goes on to a transport while the node is open. -/
theorem Decides.attempted (hwf : rt.WellFormed) (hown : rt.OwnSessions)
    (hkeeps : rt.KeepsFallback) {ev : RuntimeEvent E}
    (hguard : rt.node.closed = false → ¬ rt.MissesFallback ev) (hmove : rt.Move ev rt') {i : ℕ}
    {call : DialCall E} (hcall : rt.calls i = some call) (hprefers : call.PrefersWebRtc)
    (h : rt.Decides rt' i call) (relayDialed : Bool) :
    (rt'.bodies i).Attempted relayDialed rt'.node.closed := by
  cases h with
  | @intro s action diagnostic hshows haction hwaits hbody hdecision =>
    have hawaits : rt.AwaitsDecision i call := ⟨hcall, hprefers, Or.inr hwaits⟩
    have hrecoverable : rt'.node.closed = false → Recoverable s := by
      intro hopen
      cases hshows with
      | current hs => exact recoverable_of_step hwf hown hkeeps hguard hmove hopen hawaits hs
      | kept hloop hkey hs =>
        exact hkeeps.kept (open_of_step hmove hopen) _ _ _ _ i call hloop hkey hs hawaits
    rw [hbody, decided, hprefers.1]
    cases action with
    | webRtc | relay => trivial
    | fail =>
      refine Or.inr ?_
      by_contra hopen
      exact (hrecoverable (by simpa using hopen)).1 haction
    | closed =>
      refine Or.inr ?_
      by_contra hopen
      exact (hrecoverable (by simpa using hopen)).2 haction

/-- A WebRTC dial that starts while the channel is open, and ends on the path of its session while
the channel is still open, succeeds. -/
theorem attempted_of_step (hwf : rt.WellFormed) (hown : rt.OwnSessions)
    (hkeeps : rt.KeepsFallback) {ev : RuntimeEvent E}
    (hguard : rt.node.closed = false → ¬ rt.MissesFallback ev) (hmove : rt.Move ev rt') {i : ℕ}
    {call : DialCall E} (hcall : rt.calls i = some call) (hprefers : call.PrefersWebRtc) :
    (rt'.bodies i).Attempted (rt'.relayDialed i) rt'.node.closed := by
  have hold := hkeeps.attempted i call hcall hprefers
  have hrelay := step_relayDialed hwf.registered hmove hcall
  have hclosed := closed_of_step hmove
  -- what is impossible while the node is open happens to a closed node
  have hfails : ∀ {err : BrowserRuntimeError}, rt'.bodies i = .completed (.error err) →
      (rt.node.closed = false → False) →
      (rt'.bodies i).Attempted (rt'.relayDialed i) rt'.node.closed := by
    intro err hbody himpossible
    rw [hbody]
    refine Or.inr (hclosed ?_)
    by_contra hopen
    exact himpossible (by simpa using hopen)
  obtain ⟨s, hs, hrole, hintent⟩ := hown.session i call hcall
  rcases (step_body hwf.registered hmove hcall).1 with hsame | hbodyMove
  · rw [hsame]
    generalize rt.bodies i = phase at hold
    cases phase with
    | dialingRelay | relayDialing => exact hrelay hold
    | completed outcome =>
      cases outcome with
      | error err => exact hold.imp hrelay hclosed
      | ok connection => trivial
    | _ => trivial
  · cases hbodyMove with
    | decided hdecides => exact hdecides.attempted hwf hown hkeeps hguard hmove hcall hprefers _
    | advanced h =>
      generalize rt.bodies i = p, rt'.bodies i = q at h
      cases h <;> trivial
    | registered _ h' | bootstrapFailed _ _ h' | delegated _ h' | resumed _ h'
    | webRtcStarted _ _ h' =>
      rw [h']
      trivial
    | relayStarted hdialed _ h' =>
      rw [h']
      exact hdialed
    | dropped hj hother hkey h h' =>
      exact absurd (hown.distinct _ _ _ _ hother hcall hkey) hj
    | relayClosed hclosed' _ h' =>
      rw [h']
      exact Or.inr (hclosed hclosed')
    | taskFailed hev hcause h h' =>
      subst hev
      refine hfails h' fun hopen => ?_
      rcases hcause with hcause | hcause
      · exact absurd (hopen.symm.trans hcause) (by simp)
      · refine hguard hopen (.channelNotOpen hcall hprefers h hs fun hchannel => ?_)
        have hlookup : rt.node.sessions.lookup call.sessionKey = some s := hs
        rw [BrowserRuntimeNode.dialWebrtcStart, BrowserRuntimeNode.sessionSnapshot, hlookup]
          at hcause
        simp [hrole, hchannel] at hcause
    | webRtcDialFailed hev h h' =>
      subst hev
      exact hfails h' fun hopen => hguard hopen (.endpointFails ⟨hcall, hprefers, h⟩)
    | @webRtcDialed snapshot connection result hev h hdial h' =>
      subst hev
      have hdials : rt.DialsWebRtc i call snapshot := ⟨hcall, hprefers, h⟩
      cases result with
      | ok accepted =>
        rw [h']
        trivial
      | error err =>
        refine hfails h' fun hopen => ?_
        have hpath : requireWebrtcSelectedPath connection
            (.session snapshot.remote snapshot.dialId) = .ok () := by
          by_contra hpath
          exact hguard hopen (.otherPath hdials hpath)
        have hchannel : s.channelAttachment = .open := by
          by_contra hchannel
          exact hguard hopen (.channelLost hdials hs hchannel)
        obtain ⟨t, ht, hst⟩ := hown.snapshot i call snapshot hcall h
        obtain rfl := Option.some.inj (ht.symm.trans hs)
        have hresolve : t.CanResolve .webRtc := by
          refine ⟨?_, hchannel⟩
          rw [hintent, hprefers.2]
          simp
        obtain ⟨accepted, haccepted⟩ := BrowserRuntimeNode.dialWebrtcConnected_ok hopen hs hst hrole
          hresolve hpath hdial
        exact absurd haccepted (by simp)
    | relayDialed h h' =>
      rw [h] at hold
      rw [h']
      rename_i result
      cases result with
      | ok connection => trivial
      | error err => exact Or.inl (hrelay hold)

omit [Blake3] in
/-- A dial that returns an error has attempted the relay. -/
theorem relayDialed_of_returns (hkeeps : rt.KeepsFallback) {ev : RuntimeEvent E}
    (hguard : rt.node.closed = false → ¬ rt.MissesFallback ev) {r : DialReturn E}
    (h : rt.Returns ev r) (hprefers : r.request.PrefersWebRtc)
    (herr : ∃ err, r.outcome = .error err) (hnodeOpen : r.nodeOpen = true) :
    r.relayDialed = true := by
  obtain ⟨err, herr⟩ := herr
  cases h with
  | refused hev hcause hopen =>
    have hopen : rt.node.closed = false := by simpa [hopen] using hnodeOpen
    rcases hcause with hclosed | halpn
    · exact absurd (hclosed.symm.trans hopen) (by simp)
    · cases ev with
      | dial remote alpn transportIntent =>
        obtain hrequest := Option.some.inj hev
        rw [← hrequest] at hprefers halpn
        obtain ⟨-, rfl⟩ := hprefers
        exact absurd (.emptyAlpn halpn) (hguard hopen)
      | prepare remote alpn transportIntent =>
        obtain hrequest := Option.some.inj hev
        rw [← hrequest] at hprefers
        exact absurd hprefers.1 (by simp)
      | _ => exact absurd hev (by simp [RuntimeEvent.request])
  | finished hcall hrequest hrelay hcause =>
    rw [hrequest] at hprefers
    rw [hrelay]
    have hattempted := hkeeps.attempted _ _ hcall hprefers
    rcases hcause with ⟨rfl, hbody, hopen⟩ | hbody | ⟨hbody, hopen⟩
    · have hopen : rt.node.closed = false := by simpa [hopen] using hnodeOpen
      exact absurd (.bootstrapFails ⟨hcall, hprefers, Or.inl hbody⟩ hbody) (hguard hopen)
    · rw [hbody] at hattempted
      exact hattempted
    · have hopen : rt.node.closed = false := by simpa [hopen] using hnodeOpen
      rw [hbody, herr] at hattempted
      exact hattempted.resolve_right (by simp [hopen])

theorem KeepsFallback.step (hwf : rt.WellFormed) (hown : rt.OwnSessions)
    (hkeeps : rt.KeepsFallback) {ev : RuntimeEvent E} (hfresh : rt.FreshDial ev)
    (hguard : rt.node.closed = false → ¬ rt.MissesFallback ev) (hmove : rt.Move ev rt') :
    rt'.KeepsFallback := by
  have hawaits : ∀ {i call}, rt.calls i = some call → rt'.AwaitsDecision i call →
      rt.AwaitsDecision i call := fun hcall h =>
    ⟨hcall, h.prefers, undecided_before hwf.registered hmove hcall h.undecided⟩
  have hrecoverable : rt'.node.closed = false → ∀ i call s, rt'.AwaitsDecision i call →
      rt'.node.session call.sessionKey = some s → Recoverable s := by
    intro hopen i call s hcall hs
    rcases step_call hmove hcall.started with hold | hstarts
    · exact recoverable_of_step hwf hown hkeeps hguard hmove hopen (hawaits hold hcall) hs
    · obtain ⟨dialId, generation, hnew⟩ := hstarts.session
      obtain rfl := Option.some.inj (hnew.symm.trans hs)
      exact .new _ _ _ _ _ _ _ _
  refine ⟨hrecoverable, ?_, ?_, ?_⟩
  · intro hopen loop signal result s i call hloop hkey hs hcall
    rcases step_loop hmove loop with hsame | hloopMove
    · rw [hsame] at hloop
      rcases step_call hmove hcall.started with hold | hstarts
      · exact hkeeps.kept (open_of_step hmove hopen) loop signal result s i call hloop hkey hs
          (hawaits hold hcall)
      · obtain ⟨t, ht⟩ := hwf.kept loop signal result _ hloop hkey
        exact absurd ((hstarts.unused hfresh).symm.trans ht) (by simp)
    · cases hloopMove with
      | receiving h => exact absurd (h.symm.trans hloop) (by simp)
      | ended hends h => exact absurd (h.symm.trans hloop) (by simp)
      | applying hkey' hresult hsession h =>
        obtain ⟨rfl, rfl⟩ := LoopPhase.applying.inj (h.symm.trans hloop)
        obtain rfl := Option.some.inj (hkey'.symm.trans hkey)
        obtain rfl := Option.some.inj (hresult.symm.trans hs)
        exact hrecoverable hopen i call _ hcall hsession
  · intro i call hcall hprefers
    rcases step_call hmove hcall with hold | hstarts
    · exact attempted_of_step hwf hown hkeeps hguard hmove hold hprefers
    · rcases hstarts.phase with ⟨hphase, hrelay⟩ | hphase | hphase
      · rw [hphase]
        exact hrelay
      all_goals
        rw [hphase]
        trivial
  · intro r hr hprefers herr hnodeOpen
    rcases step_returns hmove hr with hold | hreturns
    · exact hkeeps.returned r hold hprefers herr hnodeOpen
    · exact relayDialed_of_returns hkeeps hguard hreturns hprefers herr hnodeOpen

/-! ## Runs -/

omit [DecidableEq E] [Blake3] in
theorem ownSessions_new {node : BrowserRuntimeNode E} (hspawned : node.Spawned) :
    (new node).OwnSessions := by
  refine ⟨fun i j call other hcall => ?_, fun i call hcall => ?_, fun i call s hcall => ?_,
    fun connectionKey c key hc => ?_, fun connectionKey c i call hc => ?_⟩
  · exact absurd hcall (by simp [new])
  · exact absurd hcall (by simp [new])
  · exact absurd hcall (by simp [new])
  · exact absurd ((hspawned.connections connectionKey).symm.trans hc) (by simp)
  · exact absurd ((hspawned.connections connectionKey).symm.trans hc) (by simp)

omit [DecidableEq E] [EndpointKey E] [Blake3] in
theorem keepsFallback_new (node : BrowserRuntimeNode E) : (new node).KeepsFallback := by
  refine ⟨fun _ i call s hcall => ?_, fun _ loop signal result s i call hloop => ?_,
    fun i call hcall => ?_, fun r hr => ?_⟩
  · exact absurd hcall.started (by simp [new])
  · exact absurd hloop (by simp [new])
  · exact absurd hcall (by simp [new])
  · exact absurd hr (by simp [new])

/-- **Dials that prefer WebRTC fall back to the relay.**  As long as no step of the run makes one
give up, and dials get new ids, every such dial that returns an error while the node is open has
attempted a relay dial to its remote before. -/
theorem fallback_of_guarded {node : BrowserRuntimeNode E} (hspawned : node.Spawned)
    {events : List (RuntimeEvent E)} (hrun : Runs.run step (new node) events = some rt)
    (hfresh : Runs.Guarded step FreshDial (new node) events)
    (hguarded : Runs.Guarded step (fun u ev => u.node.closed = false → ¬ u.MissesFallback ev)
      (new node) events) :
    ∀ r ∈ rt.returns, r.request.kind = .application →
      r.request.transportIntent = .webRtcPreferred → (∃ err, r.outcome = .error err) →
      r.nodeOpen = true → r.relayDialed = true := by
  have hall : rt.WellFormed ∧ rt.OwnSessions ∧ rt.KeepsFallback := by
    refine Runs.run_invariant_of_guarded
      (I := fun u => u.WellFormed ∧ u.OwnSessions ∧ u.KeepsFallback)
      (fun u ev v hu hguard hstep => ?_)
      ⟨wellFormed_new hspawned, ownSessions_new hspawned, keepsFallback_new node⟩
      (hfresh.and hguarded) hrun
    obtain ⟨hwf, hown, hkeeps⟩ := hu
    have hmove := step_move hstep
    exact ⟨hwf.step hstep, hown.step hwf hguard.1 hmove,
      hkeeps.step hwf hown hguard.1 hguard.2 hmove⟩
  exact fun r hr hkind hintent => hall.2.2.returned r hr ⟨hkind, hintent⟩

end

/-! ## Concrete runs -/

section Sample

open scoped Sample
open Sample BrowserRuntimeNode

/-- **A dial that prefers WebRTC and gives up.**  The bootstrap connection fails, and the error is
returned while the node is open, with no relay dial before. -/
theorem bootstrapFailure_returns :
    ∃ rt r, Runs.run step (new sampleNode)
        [.dial bob "chat" .webRtcPreferred, .bootstrapStep 0 false] = some rt ∧
      r ∈ rt.returns ∧ r.request = ⟨.application, bob, "chat", .webRtcPreferred⟩ ∧
      (∃ err, r.outcome = .error err) ∧ r.nodeOpen = true ∧ r.relayDialed = false :=
  ⟨_, _, rfl, List.mem_singleton.mpr rfl, rfl, ⟨_, rfl⟩, rfl, rfl⟩

/-- A dial to `bob` whose setup fails, and then the relay dial fails as well. -/
def relayFailureRun : List (RuntimeEvent Key) :=
  [.dial bob "chat" .webRtcPreferred, .bootstrapStep 0 true, .bootstrapStep 0 true,
    .bootstrapStep 0 true, .setupStarts 0 (.error "no channel"), .taskStarts 0,
    .relayDialed 0 (.error ⟨.webRtcFailed, "no relay"⟩), .resume 0]

theorem relayFailureRun_fresh : Runs.Guarded step FreshDial (new sampleNode) relayFailureRun := by
  refine ⟨?_, fun t _ => Runs.Guarded.of_forall fun ev hev u => freshDial_of_request ?_⟩
  · rintro op hissues remote alpn transportIntent session dialIds rfl -
    rfl
  · simp at hev
    rcases hev with rfl | rfl | rfl | rfl | rfl | rfl | rfl <;> rfl

/-- The only step of this run that tells the node of a failure leaves the session to the relay. -/
theorem relayFailureRun_guarded :
    Runs.Guarded step (fun u ev => u.node.closed = false → ¬ u.MissesFallback ev)
      (new sampleNode) relayFailureRun := by
  have hidle : ∀ {u : BrowserRuntime Key} {ev : RuntimeEvent Key} {op : NodeOp Key},
      ev ∈ [.bootstrapStep 0 true, .taskStarts 0,
        .relayDialed 0 (.error ⟨.webRtcFailed, "no relay"⟩), .resume 0] → ¬ u.Issues ev op := by
    intro u ev op hev hissues
    simp only [List.mem_cons, List.not_mem_nil, or_false] at hev
    rcases hev with rfl | rfl | rfl | rfl
    all_goals
      cases hissues with
      | dial hrequest => exact absurd hrequest (by simp [RuntimeEvent.request])
      | setupFails hcall hfails => cases hfails
  refine .cons ?_ rfl (.cons ?_ rfl (.cons ?_ rfl (.cons ?_ rfl (.cons ?_ rfl (.cons ?_ rfl
    (.cons ?_ rfl (.cons ?_ rfl (.nil _ _))))))))
  · rintro - (halpn | - | ⟨hcall, -, -, -, -⟩)
    · exact absurd halpn (by decide)
    · exact absurd hcall.started (by simp [new])
  · rintro - (- | - | ⟨-, hop, -, -, -⟩)
    exact hidle (by simp) hop
  · rintro - (- | - | ⟨-, hop, -, -, -⟩)
    exact hidle (by simp) hop
  · rintro - (- | - | ⟨-, hop, -, -, -⟩)
    exact hidle (by simp) hop
  · rintro - (- | - | ⟨-, hop, hs, hends, hreason⟩)
    cases hends with
    | terminated hsignal => cases hop with
      | dial hrequest => exact absurd hrequest (by simp [RuntimeEvent.request])
      | attach | setupFails => exact absurd hsignal (by simp)
    | decided hdecides => cases hop with
      | dial hrequest => exact absurd hrequest (by simp [RuntimeEvent.request])
      | attach => exact absurd hdecides (by simp [NodeOp.decides])
      | setupFails hcall hfails =>
        cases hfails
        obtain ⟨hkey, rfl⟩ := Prod.mk.inj (Option.some.inj hdecides)
        obtain hcall := Option.some.inj (hcall.symm.trans
          (rfl : _ = some (⟨⟨.application, bob, "chat", .webRtcPreferred⟩,
            .ofDialId sampleDialId⟩ : DialCall Key)))
        rw [← hkey, hcall] at hs
        obtain rfl := Option.some.inj hs
        exact hreason rfl
  · rintro - (- | - | ⟨-, hop, -, -, -⟩ | ⟨-, -, hbody, -, -⟩)
    · exact hidle (by simp) hop
    · exact absurd (hbody.symm.trans (rfl : _ = DialPhase.relaySpawned)) (by simp)
  · rintro - (- | - | ⟨-, hop, -, -, -⟩)
    exact hidle (by simp) hop
  · rintro - (- | - | ⟨-, hop, -, -, -⟩)
    exact hidle (by simp) hop

/-- The dial of this run returns an error, after it has attempted the relay. -/
theorem relayFailureRun_returns :
    ∃ rt r, Runs.run step (new sampleNode) relayFailureRun = some rt ∧ r ∈ rt.returns ∧
      (∃ err, r.outcome = .error err) ∧ r.relayDialed = true := by
  have hrun : ∃ rt r, Runs.run step (new sampleNode) relayFailureRun = some rt ∧ r ∈ rt.returns ∧
      r.request = ⟨.application, bob, "chat", .webRtcPreferred⟩ ∧
      (∃ err, r.outcome = .error err) ∧ r.nodeOpen = true :=
    ⟨_, _, rfl, List.mem_singleton.mpr rfl, rfl, ⟨_, rfl⟩, rfl⟩
  obtain ⟨rt, r, hrun, hr, hrequest, herr, hopen⟩ := hrun
  have hfallback := fallback_of_guarded sampleNode_spawned hrun relayFailureRun_fresh
    relayFailureRun_guarded r hr
  exact ⟨rt, r, hrun, hr, herr, hfallback (by rw [hrequest]) (by rw [hrequest]) herr hopen⟩

end Sample

end BrowserRuntime

end IrohWebRtc
