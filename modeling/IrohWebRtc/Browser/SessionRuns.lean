import IrohWebRtc.Browser.NodeSteps

/-!
# The sessions of a browser node over a run

The session of a key appears when a dial allocates it or a request of a peer does, and from then
on it changes by the functions of `BrowserSessionState` alone.  `step_session` says this of one
step.  `session_invariant` is the rule for what holds of every session in every run, and
`wellKeyed_of_run` the first instance of a node invariant: a session is stored under the key of
its own dial id.

The rule asks two things of a predicate: that new sessions have it, and that each way in which an
operation changes a session keeps it, the closing of the node among them.  A proof by it never
mentions the table of sessions, so an operation that is added to the node has to be entered in
`Browser.NodeSteps` and nowhere else.

Sessions are never removed from the table.  What is said of the session of a key in one state may
therefore be compared with the session of the same key in any later one.
-/

namespace IrohWebRtc

open Bytes

/-- The ways in which a session changes. -/
inductive SessionChange {E : Type*} (s : BrowserSessionState E) : BrowserSessionState E → Prop where
  | attached (h : s.channelAttachment = .awaitingTransfer) :
    SessionChange s { s with channelAttachment := .transferred }
  | opened (h : s.channelAttachment = .transferred) :
    SessionChange s { s with channelAttachment := .open }
  | resolved (transport : BrowserResolvedTransport) (h : s.CanResolve transport) :
    SessionChange s (s.resolved transport)
  | terminalReceived (reason : WebRtcTerminalReason) :
    SessionChange s (s.recordTerminalReceived reason)
  | terminalSent (reason : WebRtcTerminalReason) : SessionChange s (s.recordTerminalSent reason).2
  | closed : SessionChange s s.close
  | closedForNode (reason : Option String) : SessionChange s (s.closeForNode reason).2

namespace SessionChange

variable {E : Type*} {s t : BrowserSessionState E}

/-- A session keeps its identity. -/
theorem sameSession (h : SessionChange s t) : s.SameSession t := by
  cases h with
  | attached | opened | resolved | closed => exact ⟨rfl, rfl, rfl, rfl, rfl, rfl, rfl, rfl⟩
  | terminalReceived reason =>
    have hsame : BrowserSessionState.SameSession _ (s.recordTerminalReceived reason) :=
      BrowserSessionState.sameSession_applyTerminalReason
    obtain ⟨h₁, h₂, h₃, h₄, h₅, h₆, h₇, h₈⟩ := hsame
    exact ⟨h₁, h₂, h₃, h₄, h₅, h₆, h₇, h₈⟩
  | terminalSent reason =>
    have hsame : BrowserSessionState.SameSession _ (s.recordTerminalSent reason).2 :=
      BrowserSessionState.sameSession_applyTerminalReason
    obtain ⟨h₁, h₂, h₃, h₄, h₅, h₆, h₇, h₈⟩ := hsame
    exact ⟨h₁, h₂, h₃, h₄, h₅, h₆, h₇, h₈⟩
  | closedForNode reason =>
    rw [BrowserSessionState.closeForNode]
    split_ifs <;> exact ⟨rfl, rfl, rfl, rfl, rfl, rfl, rfl, rfl⟩

end SessionChange

namespace BrowserRuntimeNode

variable {E : Type*} {node node' : BrowserRuntimeNode E}

/-- Where the session that an operation writes comes from, and what the operation checked. -/
inductive Origin [DecidableEq E] [EndpointKey E] [Blake3] (node : BrowserRuntimeNode E)
    (op : NodeOp E) (key : BrowserSessionKey) : BrowserSessionState E → Prop where
  | attached {s : BrowserSessionState E} (hs : node.session key = some s)
      (hchannel : s.channelAttachment = .awaitingTransfer) :
      Origin node op key { s with channelAttachment := .transferred }
  | opened {s : BrowserSessionState E} (hs : node.session key = some s)
      (hop : op = .rtcLifecycle ⟨key, .dataChannelOpen, none⟩)
      (hchannel : s.channelAttachment = .transferred) :
      Origin node op key { s with channelAttachment := .open }
  | completed {s : BrowserSessionState E} {transport : BrowserResolvedTransport}
      (hs : node.session key = some s) (hop : op.completes = some (key, transport))
      (hclosed : node.closed = false) (hrole : s.role = .dialer)
      (hresolve : s.CanResolve transport) : Origin node op key (s.resolved transport)
  | bound {s : BrowserSessionState E} {remote : E} {alpn : String}
      (hs : node.session key = some s) (helig : isEligible remote alpn s = true) :
      Origin node op key (s.resolved .webRtc)
  | decided {s : BrowserSessionState E} {reason : Option WebRtcTerminalReason}
      (hs : node.session key = some s) (hop : op.decides = some (key, reason))
      (hclosed : node.closed = false) :
      Origin node op key (s.recordTerminalSent (reason.getD s.failureReason)).2
  | terminated {s : BrowserSessionState E} {dialId : DialId} {fromId toId : E} {generation : ℕ}
      {reason : WebRtcTerminalReason} {message alpn : Option String}
      (hs : node.session key = some s)
      (hop : op =
        .bootstrapSignal ⟨.terminal dialId fromId toId generation reason message, alpn⟩)
      (hkey : key = .ofDialId dialId) (hclosed : node.closed = false)
      (hto : toId = node.endpointId) (hremote : s.remote = fromId)
      (hgeneration : s.generation = generation) :
      Origin node op key (s.recordTerminalReceived reason)
  | closed {s : BrowserSessionState E} {connectionKey : BrowserConnectionKey}
      {c : BrowserConnectionState E} (hs : node.session key = some s)
      (hop : op = .connectionClose connectionKey)
      (hconnection : node.connections.lookup connectionKey = some c)
      (htransport : c.transport = .webRtc) (hkey : c.sessionKey = some key) :
      Origin node op key s.close
  | closedForNode {s : BrowserSessionState E} {reason : Option String}
      (hs : node.session key = some s) (hop : op = .closeNode reason) :
      Origin node op key (s.closeForNode reason).2
  | dialed {remote : E} {alpn : String} {transportIntent : BootstrapTransportIntent}
      {dialId : DialId} {generation : ℕ} {dialIds : DialIdGenerator E}
      (hop : op = .allocateDial remote alpn transportIntent) (hclosed : node.closed = false)
      (halpn : alpn.isEmpty = false)
      (hnext : node.dialIds.next remote = some (⟨dialId, generation⟩, dialIds))
      (hkey : key = .ofDialId dialId) :
      Origin node op key (.new key dialId generation node.endpointId remote alpn .dialer
        transportIntent)
  | accepted {remote : E} {alpn : String} {transportIntent : BootstrapTransportIntent}
      {dialId : DialId} {generation : ℕ} (hkey : key = .ofDialId dialId)
      (hnew : node.session key = none) :
      Origin node op key (.new key dialId generation node.endpointId remote alpn .acceptor
        transportIntent)

/-- A written session is a changed one or a new one; only a dial replaces a session. -/
theorem Origin.change_or_new [DecidableEq E] [EndpointKey E] [Blake3] {op : NodeOp E}
    {key : BrowserSessionKey} {t : BrowserSessionState E} (h : Origin node op key t) :
    (∃ s, node.session key = some s ∧ SessionChange s t) ∨
      ∃ dialId generation remote alpn role transportIntent, key = .ofDialId dialId ∧
        (role = .dialer ∧ op = .allocateDial remote alpn transportIntent ∧
            (∃ dialIds, node.dialIds.next remote = some (⟨dialId, generation⟩, dialIds)) ∨
          node.session key = none) ∧
        t = .new key dialId generation node.endpointId remote alpn role transportIntent := by
  cases h with
  | attached hs hchannel => exact Or.inl ⟨_, hs, .attached hchannel⟩
  | opened hs hop hchannel => exact Or.inl ⟨_, hs, .opened hchannel⟩
  | completed hs hop hclosed hrole hresolve => exact Or.inl ⟨_, hs, .resolved _ hresolve⟩
  | bound hs helig => exact Or.inl ⟨_, hs, .resolved _ (canResolve_of_isEligible helig)⟩
  | decided hs => exact Or.inl ⟨_, hs, .terminalSent _⟩
  | terminated hs => exact Or.inl ⟨_, hs, .terminalReceived _⟩
  | closed hs => exact Or.inl ⟨_, hs, .closed⟩
  | closedForNode hs => exact Or.inl ⟨_, hs, .closedForNode _⟩
  | dialed hop hclosed halpn hnext hkey =>
    exact Or.inr ⟨_, _, _, _, _, _, hkey, Or.inl ⟨rfl, hop, _, hnext⟩, rfl⟩
  | accepted hkey hnew => exact Or.inr ⟨_, _, _, _, _, _, hkey, Or.inr hnew, rfl⟩

/-- Only the event of a channel that opens makes the channel of a session open. -/
theorem Origin.opens [DecidableEq E] [EndpointKey E] [Blake3] {op : NodeOp E}
    {key : BrowserSessionKey} {t : BrowserSessionState E} (h : Origin node op key t)
    (hopen : t.channelAttachment = .open) :
    op = .rtcLifecycle ⟨key, .dataChannelOpen, none⟩ ∨
      ∃ s, node.session key = some s ∧ s.channelAttachment = .open := by
  cases h with
  | opened hs hop hchannel => exact Or.inl hop
  | completed hs hop hclosed hrole hresolve => exact Or.inr ⟨_, hs, hopen⟩
  | bound hs helig => exact Or.inr ⟨_, hs, hopen⟩
  | attached hs hchannel => exact absurd hopen (by simp)
  | decided | terminated =>
    exact absurd hopen (BrowserSessionState.applyTerminalReason_ne_open _ _)
  | closed => exact absurd hopen (BrowserSessionState.close_ne_open _)
  | closedForNode => exact absurd hopen (BrowserSessionState.closeForNode_ne_open _ _)
  | dialed | accepted =>
    exact absurd hopen (BrowserSessionState.new_ne_open _ _ _ _ _ _ _ _)

/-- Every session is stored under the key of its dial id, and is a session of this endpoint. -/
structure WellKeyed (node : BrowserRuntimeNode E) : Prop where
  sessionKey : ∀ key s, node.session key = some s → s.sessionKey = key
  dialId : ∀ key s, node.session key = some s → key = .ofDialId s.dialId
  localId : ∀ key s, node.session key = some s → s.localId = node.endpointId

section

variable [DecidableEq E] [EndpointKey E]

omit [EndpointKey E] in
/-- The session that an inbound connection resolves is in the table. -/
theorem session_of_eligibleSession (hwf : node.WellKeyed) {order : List BrowserSessionKey}
    {connection : Connection E} {s : BrowserSessionState E}
    (h : node.eligibleSession order connection = some s) :
    s.sessionKey ∈ order ∧ node.session s.sessionKey = some s := by
  obtain ⟨key, hmem, hkey⟩ := List.mem_filterMap.mp (List.mem_of_find?_eq_some h)
  obtain rfl := hwf.sessionKey key s hkey
  exact ⟨hmem, hkey⟩

variable [Blake3]

theorem origin_of_boundEntry (hwf : node.WellKeyed) {order : List BrowserSessionKey}
    {connection : Connection E} {key : BrowserSessionKey} {t : BrowserSessionState E}
    {op : NodeOp E} (h : node.boundEntry order connection = some (key, t)) :
    Origin node op key t := by
  rcases node.acceptWebrtcConnection_cases order connection with
    ⟨err, -, hentry⟩ | ⟨s, -, helig, -, hentry, -⟩
  · exact absurd (hentry.symm.trans h) (by simp)
  · obtain ⟨rfl, rfl⟩ := Prod.mk.inj (Option.some.inj (hentry.symm.trans h))
    exact .bound (session_of_eligibleSession hwf helig).2 (List.find?_some helig)

omit [EndpointKey E] [Blake3] [DecidableEq E] in
theorem acceptedEntry_eq_some {remote : E} {alpn : String} {dialSession : DialSessionId}
    {transportIntent : BootstrapTransportIntent} {key : BrowserSessionKey}
    {t : BrowserSessionState E}
    (h : node.acceptedEntry remote alpn dialSession transportIntent = some (key, t)) :
    key = .ofDialId dialSession.dialId ∧ node.session key = none ∧
      t = .new key dialSession.dialId dialSession.generation node.endpointId remote alpn .acceptor
        transportIntent := by
  rw [acceptedEntry] at h
  split_ifs at h with hcond
  obtain ⟨rfl, rfl⟩ := Prod.mk.inj (Option.some.inj h)
  refine ⟨rfl, ?_, rfl⟩
  simpa using fun hsome => hcond (Or.inr (Or.inr hsome))

omit [EndpointKey E] [Blake3] in
/-- The entry of a dial request is that of a session it is accepted for. -/
theorem acceptedEntry_of_signalledEntry {dialId : DialId} {fromId toId : E} {generation : ℕ}
    {alpn : String} {transportIntent : BootstrapTransportIntent} {alpnOverride : Option String}
    {entry : BrowserSessionKey × BrowserSessionState E}
    (h : node.signalledEntry ⟨.dialRequest dialId fromId toId generation alpn transportIntent,
      alpnOverride⟩ = some entry) :
    ∃ alpn, node.acceptedEntry fromId alpn ⟨dialId, generation⟩ transportIntent = some entry := by
  rw [signalledEntry] at h
  dsimp only at h
  cases halpn : alpnOverride.or (if alpn.isEmpty then none else some alpn) with
  | none =>
    rw [halpn] at h
    exact absurd h (by simp)
  | some alpn =>
    rw [halpn] at h
    dsimp only at h
    split_ifs at h
    exact ⟨alpn, h⟩

omit [EndpointKey E] [Blake3] in
theorem terminatedEntry_eq_some {signal : WebRtcSignal E} {reason : WebRtcTerminalReason}
    {key : BrowserSessionKey} {t : BrowserSessionState E}
    (h : node.terminatedEntry signal reason = some (key, t)) :
    node.closed = false ∧ key = .ofDialId signal.dialId ∧ signal.toId = node.endpointId ∧
      ∃ s, node.session key = some s ∧ MatchesRoute s signal ∧
        t = s.recordTerminalReceived reason := by
  rw [terminatedEntry] at h
  split_ifs at h with hto
  obtain ⟨hclosed, hkey, s, hs, ht⟩ := entry_eq_some.mp h
  split_ifs at ht with hroute
  exact ⟨hclosed, hkey, hto, s, hkey ▸ hs, hroute, (Option.some.inj ht).symm⟩

theorem origin_of_signalledEntry {input : BrowserBootstrapSignalInput E}
    {key : BrowserSessionKey} {t : BrowserSessionState E}
    (h : node.signalledEntry input = some (key, t)) :
    Origin node (.bootstrapSignal input) key t := by
  obtain ⟨signal, alpnOverride⟩ := input
  cases signal with
  | dialRequest dialId fromId toId generation alpn transportIntent =>
    obtain ⟨alpn, haccepted⟩ := acceptedEntry_of_signalledEntry h
    obtain ⟨hkey, hnew, rfl⟩ := acceptedEntry_eq_some haccepted
    exact .accepted hkey hnew
  | terminal dialId fromId toId generation reason message =>
    obtain ⟨hclosed, hkey, hto, s, hs, hroute, rfl⟩ := terminatedEntry_eq_some h
    exact .terminated hs rfl hkey hclosed hto hroute.1 hroute.2
  | offer | answer | iceCandidate | endOfCandidates => exact absurd h (by simp [signalledEntry])

theorem origin_of_dialedEntry {remote : E} {alpn : String}
    {transportIntent : BootstrapTransportIntent} {key : BrowserSessionKey}
    {t : BrowserSessionState E}
    (h : node.dialedEntry remote alpn transportIntent = some (key, t)) :
    Origin node (.allocateDial remote alpn transportIntent) key t := by
  rw [dialedEntry] at h
  split_ifs at h with hcond
  rw [not_or] at hcond
  obtain ⟨⟨session, dialIds⟩, hnext, heq⟩ := Option.map_eq_some_iff.mp h
  obtain ⟨rfl, rfl⟩ := Prod.mk.inj heq
  exact .dialed rfl (by simpa using hcond.1) (by simpa using hcond.2) hnext rfl

theorem origin_of_written (hwf : node.WellKeyed) {op : NodeOp E} {key : BrowserSessionKey}
    {t : BrowserSessionState E} (h : node.written op = some (key, t)) :
    Origin node op key t := by
  cases hcompletes : op.completes with
  | some completed =>
    rw [written_of_completes hcompletes] at h
    obtain ⟨hclosed, rfl, s, hs, ht⟩ := entry_eq_some.mp h
    obtain ⟨hrole, hresolve, rfl⟩ :=
      BrowserSessionState.completeDial_eq_ok.mp (toOption_eq_some.mp ht)
    exact .completed hs hcompletes hclosed hrole hresolve
  | none =>
    cases hdecides : op.decides with
    | some decided =>
      rw [written_of_decides hdecides] at h
      obtain ⟨hclosed, rfl, s, hs, ht⟩ := entry_eq_some.mp h
      obtain rfl := Option.some.inj ht
      exact .decided hs hdecides hclosed
    | none =>
      cases op with
      | allocateDial remote alpn transportIntent => exact origin_of_dialedEntry h
      | attachTransferredChannel sessionKey =>
        obtain ⟨-, rfl, s, hs, ht⟩ := entry_eq_some.mp h
        obtain ⟨hchannel, rfl⟩ :=
          BrowserSessionState.attachTransferredChannel_eq_ok.mp (toOption_eq_some.mp ht)
        exact .attached hs hchannel
      | bootstrapSignal input => exact origin_of_signalledEntry h
      | rtcLifecycle input =>
        simp only [written, hcompletes, hdecides] at h
        obtain ⟨-, rfl, s, hs, ht⟩ := entry_eq_some.mp h
        obtain ⟨hchannel, rfl⟩ :=
          BrowserSessionState.markTransferredChannelOpen_eq_ok.mp (toOption_eq_some.mp ht)
        exact .opened hs (congrArg _ (NodeOp.opens_of_decides_none hdecides)) hchannel
      | webrtcConnection order connection queueAccept => exact origin_of_boundEntry hwf h
      | webrtcProtocolConnection order connection => exact origin_of_boundEntry hwf h
      | connectionClose connectionKey =>
        rw [written, closedEntry] at h
        split at h
        · rename_i hconnection
          obtain ⟨-, rfl, s, hs, ht⟩ := entry_eq_some.mp h
          obtain rfl := Option.some.inj ht
          exact .closed hs rfl hconnection rfl rfl
        · exact absurd h (by simp)
      | _ => exact absurd h (by simp [written, hcompletes, hdecides])

/-- The operation ends the session for `reason`: this node decides so, or the other side signals
it. -/
inductive Ends (node : BrowserRuntimeNode E) (op : NodeOp E) (key : BrowserSessionKey)
    (s : BrowserSessionState E) : WebRtcTerminalReason → Prop where
  | decided {reason : Option WebRtcTerminalReason} (hop : op.decides = some (key, reason)) :
      Ends node op key s (reason.getD s.failureReason)
  | terminated {dialId : DialId} {reason : WebRtcTerminalReason} {message alpn : Option String}
      (hop : op = .bootstrapSignal ⟨.terminal dialId s.remote node.endpointId s.generation reason
        message, alpn⟩)
      (hkey : key = .ofDialId dialId) : Ends node op key s reason

omit [DecidableEq E] [EndpointKey E] [Blake3] in
theorem Ends.ne_closeNode {op : NodeOp E} {key : BrowserSessionKey} {s : BrowserSessionState E}
    {reason : WebRtcTerminalReason} (h : node.Ends op key s reason) :
    ∀ message, op ≠ .closeNode message := by
  rintro message rfl
  cases h with
  | decided hop => exact absurd hop (by simp [NodeOp.decides])
  | terminated hop hkey => exact absurd hop (by simp)

/-- An open node applies the reason to the session, and to nothing else. -/
theorem written_of_ends (hclosed : node.closed = false) {op : NodeOp E} {key : BrowserSessionKey}
    {s : BrowserSessionState E} {reason : WebRtcTerminalReason} (hs : node.session key = some s)
    (h : node.Ends op key s reason) :
    ∃ s' : BrowserSessionState E, s'.transportIntent = s.transportIntent ∧
      s'.resolvedTransport = s.resolvedTransport ∧
      node.written op = some (key, (s'.applyTerminalReason reason).2) := by
  cases h with
  | @decided override hop =>
    refine ⟨{ s with terminalSent := some (override.getD s.failureReason) }, rfl, rfl, ?_⟩
    rw [written_of_decides hop]
    exact entry_eq_some.mpr ⟨hclosed, rfl, s, hs, rfl⟩
  | terminated hop hkey =>
    refine ⟨{ s with terminalReceived := some reason }, rfl, rfl, ?_⟩
    subst hop hkey
    show node.terminatedEntry _ _ = _
    refine (if_pos rfl).trans (entry_eq_some.mpr ⟨hclosed, rfl, s, hs, ?_⟩)
    exact if_pos ⟨rfl, rfl⟩

/-- **What a step does to the session of a key**: nothing, or one of the changes of `Origin`. -/
theorem step_session (hwf : node.WellKeyed) {op : NodeOp E} (hstep : node.step op = some node')
    (key : BrowserSessionKey) :
    node'.session key = node.session key ∨
      ∃ t, node'.session key = some t ∧ Origin node op key t := by
  by_cases hop : ∃ reason, op = .closeNode reason
  · obtain ⟨reason, rfl⟩ := hop
    obtain rfl := Option.some.inj hstep
    cases hclosed : node.closed with
    | true =>
      rw [closeInner, if_pos hclosed]
      exact Or.inl rfl
    | false =>
      rw [node.session_closeInner reason hclosed]
      cases hs : node.session key with
      | none => exact Or.inl rfl
      | some s => exact Or.inr ⟨_, rfl, .closedForNode hs rfl⟩
  · rw [not_exists] at hop
    have hwrote := (step_effect hop hstep).wrote.session
    rw [hwrote]
    cases hwritten : node.written op with
    | none => exact Or.inl rfl
    | some entry =>
      obtain ⟨written, t⟩ := entry
      rw [write, Function.update_apply]
      split_ifs with hkey
      · exact Or.inr ⟨t, rfl, hkey ▸ origin_of_written hwf hwritten⟩
      · exact Or.inl rfl

theorem step_endpointId {op : NodeOp E} (hstep : node.step op = some node') :
    node'.endpointId = node.endpointId := by
  by_cases hop : ∃ reason, op = .closeNode reason
  · obtain ⟨reason, rfl⟩ := hop
    obtain rfl := Option.some.inj hstep
    rw [closeInner]
    split_ifs <;> rfl
  · rw [not_exists] at hop
    exact (step_effect hop hstep).wrote.endpointId

theorem WellKeyed.step (hwf : node.WellKeyed) {op : NodeOp E}
    (hstep : node.step op = some node') : node'.WellKeyed := by
  have hkeyed : ∀ key t, node'.session key = some t →
      t.sessionKey = key ∧ key = .ofDialId t.dialId ∧ t.localId = node'.endpointId := by
    intro key t ht
    rw [step_endpointId hstep]
    rcases step_session hwf hstep key with hsame | ⟨t', ht', horigin⟩
    · rw [hsame] at ht
      exact ⟨hwf.sessionKey key t ht, hwf.dialId key t ht, hwf.localId key t ht⟩
    · obtain rfl := Option.some.inj (ht'.symm.trans ht)
      rcases horigin.change_or_new with ⟨s, hs, hchange⟩ | ⟨_, _, _, _, _, _, hkey, -, rfl⟩
      · have hsame := hchange.sameSession
        rw [hsame.sessionKey, hsame.dialId, hsame.localId]
        exact ⟨hwf.sessionKey key s hs, hwf.dialId key s hs, hwf.localId key s hs⟩
      · exact ⟨rfl, hkey, rfl⟩
  exact ⟨fun key t ht => (hkeyed key t ht).1, fun key t ht => (hkeyed key t ht).2.1,
    fun key t ht => (hkeyed key t ht).2.2⟩

/-- A node that is closed has closed its sessions. -/
def ClosedDown (node : BrowserRuntimeNode E) : Prop :=
  node.closed = true → ∀ key s, node.session key = some s → s.lifecycle = .closed

theorem ClosedDown.step (h : node.ClosedDown) {op : NodeOp E}
    (hstep : node.step op = some node') : node'.ClosedDown := by
  intro hclosed' key t ht
  by_cases hop : ∃ reason, op = .closeNode reason
  · obtain ⟨reason, rfl⟩ := hop
    obtain rfl := Option.some.inj hstep
    cases hclosed : node.closed with
    | true =>
      rw [closeInner, if_pos hclosed] at ht
      exact h hclosed key t ht
    | false =>
      rw [node.session_closeInner reason hclosed] at ht
      obtain ⟨s, -, rfl⟩ := Option.map_eq_some_iff.mp ht
      rw [BrowserSessionState.closeForNode]
      split_ifs <;> rfl
  · rw [not_exists] at hop
    have hwrote := (step_effect hop hstep).wrote
    have hclosed : node.closed = true := hwrote.closed.symm.trans hclosed'
    rw [hwrote.session, written_of_closed hclosed op] at ht
    exact h hclosed key t ht

end

/-! ## Runs -/

section Runs

variable [DecidableEq E] [EndpointKey E] [Blake3]

/-- A node as `spawn` returns it. -/
structure Spawned (node : BrowserRuntimeNode E) : Prop where
  session : ∀ key, node.session key = none
  connections : ∀ key, node.connections.lookup key = none
  localAddrs : node.localAddrs = [(WebRtcAddr.capability node.endpointId).toCustomAddr]
  closed : node.closed = false

omit [DecidableEq E] [Blake3] in
theorem spawned {endpointId : E} {epoch : FixedBytes 16} {config : BrowserRuntimeNodeConfig}
    {browserProtocols : List String}
    (h : spawn endpointId epoch config browserProtocols = .ok node) : node.Spawned := by
  rw [spawn] at h
  cases hcheck : checkConfig config browserProtocols with
  | error err =>
    rw [hcheck] at h
    exact absurd h (by simp)
  | ok value =>
    rw [hcheck] at h
    obtain rfl := Except.ok.inj h
    exact ⟨fun _ => rfl, fun _ => rfl, rfl, rfl⟩

omit [DecidableEq E] [Blake3] in
theorem Spawned.wellKeyed (h : node.Spawned) : node.WellKeyed := by
  have hnone : ∀ key s, node.session key ≠ some s := fun key s hs =>
    absurd ((h.session key).symm.trans hs) (by simp)
  exact ⟨fun key s hs => absurd hs (hnone key s), fun key s hs => absurd hs (hnone key s),
    fun key s hs => absurd hs (hnone key s)⟩

omit [DecidableEq E] [Blake3] in
theorem Spawned.closedDown (h : node.Spawned) : node.ClosedDown := fun _ key _ hs =>
  absurd ((h.session key).symm.trans hs) (by simp)

theorem ClosedDown.run (h : node.ClosedDown) {ops : List (NodeOp E)}
    (hrun : Runs.run BrowserRuntimeNode.step node ops = some node') : node'.ClosedDown :=
  Runs.run_invariant (fun _ _ _ h hstep => h.step hstep) h hrun

theorem WellKeyed.run (hwf : node.WellKeyed) {ops : List (NodeOp E)}
    (hrun : Runs.run BrowserRuntimeNode.step node ops = some node') : node'.WellKeyed :=
  Runs.run_invariant (fun _ _ _ hwf hstep => hwf.step hstep) hwf hrun

/-- **The rule for sessions.**  What holds of every new session and is kept by every change holds
of every session in every run. -/
theorem session_invariant {I : BrowserSessionState E → Prop}
    (hnew : ∀ sessionKey dialId generation localId remote alpn role transportIntent,
      I (.new sessionKey dialId generation localId remote alpn role transportIntent))
    (hchange : ∀ s t, SessionChange s t → I s → I t) (hspawned : node.Spawned)
    {ops : List (NodeOp E)} (hrun : Runs.run step node ops = some node')
    {key : BrowserSessionKey} {s : BrowserSessionState E} (hs : node'.session key = some s) :
    I s := by
  have hall : node'.WellKeyed ∧ ∀ key s, node'.session key = some s → I s := by
    refine Runs.run_invariant
      (I := fun node => node.WellKeyed ∧ ∀ key s, node.session key = some s → I s)
      (fun u op v hu hstep => ⟨hu.1.step hstep, fun key t ht => ?_⟩)
      ⟨hspawned.wellKeyed, fun key s hs => absurd ((hspawned.session key).symm.trans hs) (by simp)⟩
      hrun
    rcases step_session hu.1 hstep key with hsame | ⟨t', ht', horigin⟩
    · exact hu.2 key t (hsame ▸ ht)
    · obtain rfl := Option.some.inj (ht'.symm.trans ht)
      rcases horigin.change_or_new with ⟨s, hs, hst⟩ | ⟨_, _, _, _, _, _, -, -, rfl⟩
      · exact hchange s t' hst (hu.2 key s hs)
      · exact hnew _ _ _ _ _ _ _ _
  exact hall.2 key s hs

/-! ### Runs in which every dial gets a new id -/

/-- The id that a dial generates is not that of a session the node has. -/
def FreshDialId (node : BrowserRuntimeNode E) (op : NodeOp E) : Prop :=
  ∀ remote alpn transportIntent session dialIds,
    op = .allocateDial remote alpn transportIntent →
    node.dialIds.next remote = some (session, dialIds) →
    node.session (.ofDialId session.dialId) = none

theorem sameSession_step (hwf : node.WellKeyed) {op : NodeOp E} (hfresh : node.FreshDialId op)
    (hstep : node.step op = some node') {key : BrowserSessionKey} {s : BrowserSessionState E}
    (hs : node.session key = some s) : ∃ t, node'.session key = some t ∧ s.SameSession t := by
  rcases step_session hwf hstep key with hsame | ⟨t, ht, horigin⟩
  · exact ⟨s, hsame.trans hs, .refl s⟩
  · refine ⟨t, ht, ?_⟩
    have hused : node.session key ≠ none := by simp [hs]
    rcases horigin.change_or_new with ⟨s', hs', hchange⟩ | ⟨_, _, _, _, _, _, hkey, hnew, -⟩
    · obtain rfl := Option.some.inj (hs'.symm.trans hs)
      exact hchange.sameSession
    · rcases hnew with ⟨-, hop, dialIds, hnext⟩ | hnone
      · exact absurd (hkey ▸ hfresh _ _ _ _ _ hop hnext) hused
      · exact absurd hnone hused

theorem sameSession_run (hwf : node.WellKeyed) {ops : List (NodeOp E)}
    (hfresh : Runs.Guarded step FreshDialId node ops)
    (hrun : Runs.run step node ops = some node') {key : BrowserSessionKey}
    {s : BrowserSessionState E} (hs : node.session key = some s) :
    ∃ t, node'.session key = some t ∧ s.SameSession t := by
  have hall : node'.WellKeyed ∧ ∃ t, node'.session key = some t ∧ s.SameSession t := by
    refine Runs.run_invariant_of_guarded
      (I := fun v => v.WellKeyed ∧ ∃ t, v.session key = some t ∧ s.SameSession t)
      (fun u op v hu hop hstep => ?_) ⟨hwf, s, hs, .refl s⟩ hfresh hrun
    obtain ⟨hu, t, ht, hsame⟩ := hu
    obtain ⟨t', ht', hsame'⟩ := sameSession_step hu hop hstep ht
    exact ⟨hu.step hstep, t', ht', hsame.trans hsame'⟩
  exact hall.2

end Runs

/-! ## A concrete node -/

section Sample

open scoped Sample
open Sample

/-- A node of `alice` that accepts one ALPN. -/
def sampleNode : BrowserRuntimeNode Key where
  endpointId := alice
  localAddrs := [(WebRtcAddr.capability alice).toCustomAddr]
  browserProtocols := []
  benchmarkEchoAlpns := []
  dialIds := .withEpoch alice epoch
  sessions := ∅
  connections := ∅
  accepts := initialAcceptRegistrations 8 1 ["chat"]
  nextConnectionKey := 1
  nextWaiter := 0
  closed := false

/-- The id of its first dial to `bob`. -/
def sampleDialId : DialId := hashHead firstHash

theorem sampleNode_spawned : sampleNode.Spawned := by
  have hspawn : spawn alice epoch ⟨8, ["chat"], []⟩ [] = .ok sampleNode := rfl
  exact spawned hspawn

end Sample

end BrowserRuntimeNode

end IrohWebRtc
