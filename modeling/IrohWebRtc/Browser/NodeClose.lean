import IrohWebRtc.Browser.ConnectionSteps
import IrohWebRtc.Browser.SessionRuns

/-!
# Closing the browser node

`close_inner` ends every session, closes every connection and returns the signals that tell the
other sides.  A session whose terminal signal was sent before is passed over, so what is returned
depends on everything the node has sent.

That a session has told its peer is a field of the session (`terminal_sent`), which is set by the
functions that end it; that the signal was really handed out is a fact about the results of the
operations.  The two are brought together by a record of what was returned: a session has its flag
set exactly when one of the operations has returned its signal.

* `outboundSignals`: the signals that an operation returns to be sent.
* `SignalTrace`: a node with the terminal signals that each of its sessions has sent.
* `Accounted`: the invariant that ties the two together.
* `closeInner_final`: closing is final, and with it each WebRTC session has sent a terminal
  signal.

Final means that every operation on a closed node returns an error and changes neither its
sessions nor its connections.  Whether a signal that was handed out arrives is not said here;
where it goes is the matter of `Browser.SignalFanOut`.
-/

namespace IrohWebRtc

/-- The signal ends the session of `key`. -/
def WebRtcSignal.endsSession {E : Type*} (signal : WebRtcSignal E) (key : BrowserSessionKey) :
    Bool :=
  signal.terminalReason.isSome && BrowserSessionKey.ofDialId signal.dialId = key

namespace BrowserSessionState

variable {E : Type*}

theorem terminalSent_applyTerminalReason (s : BrowserSessionState E)
    (reason : WebRtcTerminalReason) :
    (s.applyTerminalReason reason).2.terminalSent = s.terminalSent := by
  cases reason with
  | fallbackSelected =>
    rw [applyTerminalReason]
    split_ifs <;> rfl
  | webRtcFailed | cancelled | closed => rfl

/-- Closing sends the terminal signal of a WebRTC session that has sent none. -/
theorem closeForNode_cases (s : BrowserSessionState E) (reason : Option String) :
    (s.terminalSent = none ∧ s.transportIntent.usesWebrtc = true ∧
        (s.closeForNode reason).1 = some (sessionTerminalSignal s .closed reason) ∧
        (s.closeForNode reason).2.terminalSent = some .closed) ∨
      (s.transportIntent.usesWebrtc = true → s.terminalSent ≠ none) ∧
        (s.closeForNode reason).1 = none ∧
        (s.closeForNode reason).2.terminalSent = s.terminalSent := by
  rw [closeForNode]
  split_ifs with h
  · rw [Bool.and_eq_true, Option.isNone_iff_eq_none] at h
    exact Or.inl ⟨h.1, h.2, rfl, rfl⟩
  · rw [Bool.and_eq_true, Option.isNone_iff_eq_none, not_and] at h
    exact Or.inr ⟨fun huses hnone => h hnone huses, rfl, rfl⟩

end BrowserSessionState

namespace BrowserRuntimeNode

variable {E : Type*} [DecidableEq E] [EndpointKey E]

/-! ## What an operation sends -/

/-- The signals that an operation returns to be sent. -/
def outboundSignals (node : BrowserRuntimeNode E) : NodeOp E → List (WebRtcSignal E)
  | .bootstrapSignal input =>
    match (node.handleBootstrapSignal input).1 with
    | .ok result => result.outboundSignals
    | .error _ => []
  | .rtcLifecycle input =>
    match (node.handleRtcLifecycleResult input).1 with
    | .ok result => result.outboundSignals
    | .error _ => []
  | .decideWebrtcFailure sessionKey message =>
    match (node.decideWebrtcFailure sessionKey message).1 with
    | .ok decision => decision.signal.toList
    | .error _ => []
  | .closeSession sessionKey message =>
    match (node.closeSession sessionKey message).1 with
    | .ok decision => decision.signal.toList
    | .error _ => []
  | .connectionClose connectionKey =>
    match (node.connectionClose connectionKey).1 with
    | .ok outcome => outcome.outboundSignals
    | .error _ => []
  | .closeNode reason => (node.closeInner reason).1.2
  | _ => []

/-- The key that a dial allocates. -/
def allocatedKey [Blake3] (node : BrowserRuntimeNode E) : NodeOp E → Option BrowserSessionKey
  | .allocateDial remote alpn transportIntent =>
    (node.allocateDial remote alpn transportIntent).bind fun allocated =>
      allocated.1.toOption.map fun allocation => allocation.sessionKey
  | _ => none

variable {node node' : BrowserRuntimeNode E}

omit [EndpointKey E] [DecidableEq E] in
/-- What `emit_terminal_decision` returns. -/
theorem emitTerminalDecision_fst (node : BrowserRuntimeNode E) (sessionKey : BrowserSessionKey)
    (reason : Option WebRtcTerminalReason) (message : String) :
    (match (node.emitTerminalDecision sessionKey reason message).1 with
      | .ok decision => decision.signal.toList
      | .error _ => []) =
      if node.closed then []
      else (node.session sessionKey).elim [] fun s =>
        if s.transportIntent.usesWebrtc then
          [sessionTerminalSignal s (reason.getD s.failureReason) (some message)]
        else [] := by
  rw [emitTerminalDecision]
  split_ifs with hclosed
  · rfl
  · rw [session]
    cases node.sessions.lookup sessionKey with
    | none => rfl
    | some s =>
      dsimp only [Option.elim_some]
      split_ifs <;> rfl

omit [EndpointKey E] [DecidableEq E] in
/-- `handle_rtc_lifecycle_result` returns the signal of the decision it makes. -/
theorem lifecycleResultOfDecision_fst (node : BrowserRuntimeNode E)
    (sessionKey : BrowserSessionKey) (reason : Option WebRtcTerminalReason) (message : String) :
    (match (lifecycleResultOfDecision sessionKey
        (node.emitTerminalDecision sessionKey reason message)).1 with
      | .ok result => result.outboundSignals
      | .error _ => []) =
      (match (node.emitTerminalDecision sessionKey reason message).1 with
      | .ok decision => decision.signal.toList
      | .error _ => []) := by
  rw [emitTerminalDecision]
  split_ifs with hclosed
  · rfl
  · cases node.sessions.lookup sessionKey with
    | none => rfl
    | some s =>
      dsimp only [lifecycleResultOfDecision]
      rw [sessionSnapshot, AList.lookup_insert]
      rfl

/-- An operation that decides to end a session of an open node sends the terminal signal of the
session, if the session uses WebRTC. -/
theorem outboundSignals_of_decides (node : BrowserRuntimeNode E) {op : NodeOp E}
    {key : BrowserSessionKey} {reason : Option WebRtcTerminalReason}
    (h : op.decides = some (key, reason)) :
    ∃ message, node.outboundSignals op =
      if node.closed then []
      else (node.session key).elim [] fun s =>
        if s.transportIntent.usesWebrtc then
          [sessionTerminalSignal s (reason.getD s.failureReason) (some message)]
        else [] := by
  cases op with
  | rtcLifecycle input =>
    obtain ⟨sessionKey, event, errorMessage⟩ := input
    cases errorMessage with
    | some message =>
      obtain ⟨rfl, rfl⟩ := Prod.mk.inj (Option.some.inj h)
      exact ⟨message, (node.lifecycleResultOfDecision_fst _ _ _).trans
        (node.emitTerminalDecision_fst _ _ _)⟩
    | none =>
      cases event with
      | webRtcFailed message | webRtcClosed message =>
        obtain ⟨rfl, rfl⟩ := Prod.mk.inj (Option.some.inj h)
        exact ⟨message, (node.lifecycleResultOfDecision_fst _ _ _).trans
          (node.emitTerminalDecision_fst _ _ _)⟩
      | dataChannelOpen => exact absurd h (by simp [NodeOp.decides])
  | decideWebrtcFailure sessionKey message | closeSession sessionKey message =>
    obtain ⟨rfl, rfl⟩ := Prod.mk.inj (Option.some.inj h)
    exact ⟨message, node.emitTerminalDecision_fst _ _ _⟩
  | _ => exact absurd h (by simp [NodeOp.decides])

/-- The result of a bootstrap signal has no signals to send. -/
theorem outboundSignals_handleBootstrapSignal (node : BrowserRuntimeNode E)
    (input : BrowserBootstrapSignalInput E) {result : BrowserBootstrapSignalResult E}
    (h : (node.handleBootstrapSignal input).1 = .ok result) : result.outboundSignals = [] := by
  obtain ⟨signal, alpnOverride⟩ := input
  cases signal with
  | dialRequest dialId fromId toId generation alpn transportIntent =>
    unfold handleBootstrapSignal at h
    dsimp only at h
    split at h
    · exact absurd h (by simp)
    · generalize alpnOverride.or (if alpn.isEmpty then none else some alpn) = application at h
      cases application with
      | none => exact absurd h (by simp)
      | some alpn =>
        dsimp only at h
        split at h
        · exact absurd h (by simp)
        · generalize node.allocateAcceptSession fromId alpn ⟨dialId, generation⟩
            transportIntent = accepted at h
          obtain ⟨accepted, m⟩ := accepted
          cases accepted with
          | error err => exact absurd h (by simp)
          | ok s =>
            obtain rfl := Except.ok.inj h
            rfl
  | terminal dialId fromId toId generation reason message =>
    replace h : (node.applyRemoteTerminalSignal _ reason).1 = .ok result := h
    unfold applyRemoteTerminalSignal at h
    split at h
    · exact absurd h (by simp)
    · split at h
      · exact absurd h (by simp)
      · dsimp only at h
        split at h
        · exact absurd h (by simp)
        · split at h
          · exact absurd h (by simp)
          · obtain rfl := Except.ok.inj h
            rfl
  | offer | answer | iceCandidate | endOfCandidates =>
    unfold handleBootstrapSignal at h
    dsimp only at h
    split at h
    · exact absurd h (by simp)
    · split at h
      · exact absurd h (by simp)
      · split at h
        · exact absurd h (by simp)
        · obtain rfl := Except.ok.inj h
          rfl

omit [DecidableEq E] in
theorem outboundSignals_connectionClose (node : BrowserRuntimeNode E)
    (connectionKey : BrowserConnectionKey) {outcome : BrowserCloseOutcome E}
    (h : (node.connectionClose connectionKey).1 = .ok outcome) : outcome.outboundSignals = [] := by
  unfold connectionClose at h
  split at h
  · exact absurd h (by simp)
  · split at h
    · exact absurd h (by simp)
    · dsimp only at h
      split at h <;> obtain rfl := Except.ok.inj h <;> rfl

/-- The opening of a channel sends nothing. -/
theorem outboundSignals_dataChannelOpen (node : BrowserRuntimeNode E)
    (sessionKey : BrowserSessionKey) :
    node.outboundSignals (.rtcLifecycle ⟨sessionKey, .dataChannelOpen, none⟩) = [] := by
  rw [outboundSignals, handleRtcLifecycleResult]
  dsimp only
  rcases node.markTransferredChannelOpen sessionKey with ⟨result, m⟩
  cases result with
  | error err => rfl
  | ok s =>
    dsimp only
    cases m.sessionSnapshot sessionKey <;> rfl

/-- The other operations, but for the closing of the node, send nothing. -/
theorem outboundSignals_eq_nil (node : BrowserRuntimeNode E) {op : NodeOp E}
    (hdecides : op.decides = none) (hop : ∀ reason, op ≠ .closeNode reason) :
    node.outboundSignals op = [] := by
  cases op with
  | bootstrapSignal input =>
    rw [outboundSignals]
    cases hresult : (node.handleBootstrapSignal input).1 with
    | error err => rfl
    | ok result => exact node.outboundSignals_handleBootstrapSignal input hresult
  | connectionClose connectionKey =>
    rw [outboundSignals]
    cases hresult : (node.connectionClose connectionKey).1 with
    | error err => rfl
    | ok outcome => exact node.outboundSignals_connectionClose connectionKey hresult
  | rtcLifecycle input =>
    rw [NodeOp.opens_of_decides_none hdecides]
    exact node.outboundSignals_dataChannelOpen _
  | decideWebrtcFailure | closeSession => exact absurd hdecides (by simp [NodeOp.decides])
  | closeNode reason => exact absurd rfl (hop reason)
  | _ => rfl

omit [DecidableEq E] [EndpointKey E] in
theorem endsSession_iff {signal : WebRtcSignal E} {key : BrowserSessionKey} :
    signal.endsSession key = true ↔
      signal.terminalReason.isSome = true ∧ .ofDialId signal.dialId = key := by
  simp [WebRtcSignal.endsSession]

omit [DecidableEq E] [EndpointKey E] in
/-- The terminal signal of a session ends the session of its key, and no other. -/
theorem endsSession_sessionTerminalSignal (hwf : node.WellKeyed) {key key' : BrowserSessionKey}
    {s : BrowserSessionState E} (hs : node.session key = some s) (reason : WebRtcTerminalReason)
    (message : Option String) :
    (sessionTerminalSignal s reason message).endsSession key' = true ↔ key = key' := by
  rw [hwf.dialId key s hs]
  exact endsSession_iff.trans (and_iff_right rfl)

omit [DecidableEq E] [EndpointKey E] in
/-- The signals that `close_inner` returns for the session of a key. -/
theorem filter_closeInner (hwf : node.WellKeyed) (hclosed : node.closed = false)
    (reason : Option String) {key : BrowserSessionKey} {s : BrowserSessionState E}
    (hs : node.session key = some s) :
    ((node.closeInner reason).1.2.filter fun signal => signal.endsSession key) =
      (s.closeForNode reason).1.toList := by
  rw [closeInner, if_neg (by simp [hclosed])]
  refine Table.filter_filterMap_values hs fun key' s' signal hs' hsignal => ?_
  rw [BrowserSessionState.closeForNode] at hsignal
  split_ifs at hsignal
  obtain rfl := Option.some.inj hsignal
  exact endsSession_sessionTerminalSignal hwf hs' _ _

omit [DecidableEq E] [EndpointKey E] in
/-- Every signal that `close_inner` returns is of a session of the node. -/
theorem session_of_mem_closeInner (hwf : node.WellKeyed) {reason : Option String}
    {signal : WebRtcSignal E} (h : signal ∈ (node.closeInner reason).1.2) :
    ∃ key s, node.session key = some s ∧ signal.endsSession key = true := by
  rw [closeInner] at h
  split_ifs at h with hclosed
  · exact absurd h (by simp)
  · obtain ⟨s, hs, hsignal⟩ := List.mem_filterMap.mp h
    obtain ⟨key, hs⟩ := Table.mem_values.mp hs
    rw [BrowserSessionState.closeForNode] at hsignal
    split_ifs at hsignal
    obtain rfl := Option.some.inj hsignal
    exact ⟨key, s, hs, (endsSession_sessionTerminalSignal hwf hs _ _).mpr rfl⟩

/-- A decision sends to the other side of the session it is about, and to no other. -/
theorem filter_of_decides (hwf : node.WellKeyed) {op : NodeOp E} {key key' : BrowserSessionKey}
    {reason : Option WebRtcTerminalReason} (h : op.decides = some (key, reason))
    (hne : key ≠ key') :
    ((node.outboundSignals op).filter fun signal => signal.endsSession key') = [] := by
  obtain ⟨message, hsignals⟩ := node.outboundSignals_of_decides h
  rw [hsignals]
  refine List.filter_eq_nil_iff.mpr fun signal hmem hends => ?_
  split_ifs at hmem
  · exact absurd hmem (by simp)
  · cases hs : node.session key with
    | none =>
      rw [hs] at hmem
      exact absurd hmem (by simp)
    | some s =>
      rw [hs, Option.elim_some] at hmem
      split_ifs at hmem
      · rw [List.mem_singleton.mp hmem, endsSession_sessionTerminalSignal hwf hs] at hends
        exact hne hends
      · exact absurd hmem (by simp)

/-! ## The keys that dials allocate -/

section Dials

variable [Blake3]

theorem allocatedKey_eq (node : BrowserRuntimeNode E) (remote : E) (alpn : String)
    (transportIntent : BootstrapTransportIntent) :
    node.allocatedKey (.allocateDial remote alpn transportIntent) =
      (node.dialedEntry remote alpn transportIntent).map Prod.fst := by
  rw [allocatedKey, allocateDial, validateAlpn, dialedEntry]
  by_cases halpn : alpn.isEmpty = true
  · rw [if_pos halpn, if_pos (Or.inr halpn)]
    rfl
  · rw [if_neg halpn]
    dsimp only
    by_cases hclosed : node.closed = true
    · rw [if_pos hclosed, if_pos (Or.inl hclosed)]
      rfl
    · rw [if_neg hclosed, if_neg (not_or.mpr ⟨hclosed, halpn⟩), Option.bind_map, Option.map_map]
      cases node.dialIds.next remote <;> rfl

/-- The session of an allocated key is new. -/
theorem session_of_allocatedKey {op : NodeOp E} {key : BrowserSessionKey}
    (h : node.allocatedKey op = some key) (hstep : node.step op = some node') :
    ∃ s, node'.session key = some s ∧ s.terminalSent = none := by
  cases op with
  | allocateDial remote alpn transportIntent =>
    rw [allocatedKey_eq] at h
    obtain ⟨⟨key', t⟩, hentry, rfl⟩ := Option.map_eq_some_iff.mp h
    have hwrote := (step_effect (by simp) hstep).wrote.session
    refine ⟨t, ?_, ?_⟩
    · rw [hwrote, written, hentry, write, Function.update_self]
    · rw [dialedEntry] at hentry
      split_ifs at hentry
      obtain ⟨⟨session, dialIds⟩, -, heq⟩ := Option.map_eq_some_iff.mp hentry
      obtain ⟨-, rfl⟩ := Prod.mk.inj heq
      rfl
  | _ => exact absurd h (by simp [allocatedKey])

theorem allocatedKey_of_next {op : NodeOp E} {remote : E} {alpn : String}
    {transportIntent : BootstrapTransportIntent} {dialId : DialId} {generation : ℕ}
    {dialIds : DialIdGenerator E} (hop : op = .allocateDial remote alpn transportIntent)
    (hclosed : node.closed = false) (halpn : alpn.isEmpty = false)
    (hnext : node.dialIds.next remote = some (⟨dialId, generation⟩, dialIds)) :
    node.allocatedKey op = some (.ofDialId dialId) := by
  rw [hop, allocatedKey_eq, dialedEntry, if_neg (by simp [hclosed, halpn]), hnext]
  rfl

/-- A session that is neither ended nor allocated by a step keeps what it has sent, or it is a new
one under a key that had none. -/
theorem terminalSent_of_step (hwf : node.WellKeyed) {op : NodeOp E} (hdecides : op.decides = none)
    (hop : ∀ reason, op ≠ .closeNode reason) {key : BrowserSessionKey}
    (hkey : node.allocatedKey op ≠ some key) (hstep : node.step op = some node')
    {t : BrowserSessionState E} (ht : node'.session key = some t) :
    (∃ s, node.session key = some s ∧ t.terminalSent = s.terminalSent ∧
        t.transportIntent = s.transportIntent) ∨
      node.session key = none ∧ t.terminalSent = none := by
  rcases step_session hwf hstep key with hsame | ⟨t', ht', horigin⟩
  · exact Or.inl ⟨t, hsame.symm.trans ht, rfl, rfl⟩
  · obtain rfl := Option.some.inj (ht'.symm.trans ht)
    cases horigin with
    | attached hs | opened hs | completed hs | bound hs | closed hs =>
      exact Or.inl ⟨_, hs, rfl, rfl⟩
    | decided hs hdecided => exact absurd (hdecided.symm.trans hdecides) (by simp)
    | @terminated s dialId fromId toId generation reason message alpn hs =>
      refine Or.inl ⟨s, hs, ?_, ?_⟩
      · exact BrowserSessionState.terminalSent_applyTerminalReason _ reason
      · exact BrowserSessionState.sameSession_applyTerminalReason.transportIntent
    | closedForNode hs hclose => exact absurd hclose (hop _)
    | dialed hdial hclosed halpn hnext hkey' =>
      exact absurd (hkey' ▸ allocatedKey_of_next hdial hclosed halpn hnext) hkey
    | accepted hkey' hnew => exact Or.inr ⟨hnew, rfl⟩

end Dials

end BrowserRuntimeNode

/-! ## What the sessions of a node have sent -/

/-- A node, with the terminal signals that the session of each key has sent. -/
structure SignalTrace (E : Type*) where
  node : BrowserRuntimeNode E
  sent : BrowserSessionKey → List (WebRtcSignal E)

namespace SignalTrace

open Bytes BrowserRuntimeNode

section

variable {E : Type*} [DecidableEq E] [EndpointKey E] [Blake3]

/-- A new node has sent nothing. -/
def new (node : BrowserRuntimeNode E) : SignalTrace E := ⟨node, fun _ => []⟩

/-- A step of the node.  A session that a dial creates under the key of an older one has sent
nothing. -/
def step (t : SignalTrace E) (op : NodeOp E) : Option (SignalTrace E) :=
  (t.node.step op).map fun node => ⟨node, fun key =>
    (if t.node.allocatedKey op = some key then [] else t.sent key) ++
      (t.node.outboundSignals op).filter fun signal => signal.endsSession key⟩

/-- The account of a key.  A session that uses WebRTC has recorded that its terminal signal was
sent exactly when one was. -/
structure AccountedAt (t : SignalTrace E) (key : BrowserSessionKey) : Prop where
  absent : t.node.session key = none → t.sent key = []
  sent : ∀ s, t.node.session key = some s → s.transportIntent.usesWebrtc = true →
    (s.terminalSent = none ↔ t.sent key = [])

/-- **The accounts of a node.**  Every key is accounted for, and once the node is closed every
WebRTC session has sent a terminal signal and every connection is closed. -/
structure Accounted (t : SignalTrace E) : Prop where
  wellKeyed : t.node.WellKeyed
  wellRegistered : t.node.WellRegistered
  closedDown : t.node.ClosedDown
  account : ∀ key, t.AccountedAt key
  ended : t.node.closed = true → ∀ key s, t.node.session key = some s →
    s.transportIntent.usesWebrtc = true → s.terminalSent ≠ none
  connections : t.node.closed = true → ∀ key c, t.node.connections.lookup key = some c →
    c.closed = true

variable {t t' : SignalTrace E}

theorem step_eq_some {op : NodeOp E} (hstep : t.step op = some t') :
    t.node.step op = some t'.node ∧ ∀ key, t'.sent key =
      (if t.node.allocatedKey op = some key then [] else t.sent key) ++
        (t.node.outboundSignals op).filter fun signal => signal.endsSession key := by
  obtain ⟨node, hnode, rfl⟩ := Option.map_eq_some_iff.mp hstep
  exact ⟨hnode, fun _ => rfl⟩

/-- Where nothing was allocated and nothing sent, the record is as before. -/
theorem sent_of_silent {op : NodeOp E} {key : BrowserSessionKey} (hstep : t.step op = some t')
    (hkey : t.node.allocatedKey op ≠ some key)
    (hsilent : ((t.node.outboundSignals op).filter fun signal => signal.endsSession key) = []) :
    t'.sent key = t.sent key := by
  rw [(step_eq_some hstep).2, if_neg hkey, hsilent, List.append_nil]

/-- Where moreover the session is as before, so is its account. -/
theorem AccountedAt.of_silent {op : NodeOp E} {key : BrowserSessionKey} (h : t.AccountedAt key)
    (hstep : t.step op = some t') (hkey : t.node.allocatedKey op ≠ some key)
    (hsilent : ((t.node.outboundSignals op).filter fun signal => signal.endsSession key) = [])
    (hsession : t'.node.session key = t.node.session key) : t'.AccountedAt key := by
  constructor
  · rw [hsession, sent_of_silent hstep hkey hsilent]
    exact h.absent
  · rw [hsession, sent_of_silent hstep hkey hsilent]
    exact h.sent

/-- The closing of the node keeps the account of a key. -/
theorem AccountedAt.closeNode {key : BrowserSessionKey} (h : t.AccountedAt key)
    (hwf : t.node.WellKeyed) {reason : Option String}
    (hstep : t.step (.closeNode reason) = some t') : t'.AccountedAt key := by
  obtain ⟨hnode, hsent⟩ := step_eq_some hstep
  replace hnode : t'.node = (t.node.closeInner reason).2 := (Option.some.inj hnode).symm
  cases hclosed : t.node.closed with
  | true =>
    have hsame : t.node.closeInner reason = ((false, []), t.node) := by
      rw [closeInner, if_pos hclosed]
    refine h.of_silent hstep (by simp [allocatedKey]) ?_ (by rw [hnode, hsame])
    rw [outboundSignals, hsame]
    rfl
  | false =>
    have hsession := t.node.session_closeInner reason hclosed key
    cases hs : t.node.session key with
    | none =>
      have hsilent : ((t.node.outboundSignals (.closeNode reason)).filter fun signal =>
          signal.endsSession key) = [] := by
        refine List.filter_eq_nil_iff.mpr fun signal hmem hends => ?_
        obtain ⟨key', s', hs', hends'⟩ := session_of_mem_closeInner hwf hmem
        obtain rfl : key' = key :=
          (endsSession_iff.mp hends').2.symm.trans (endsSession_iff.mp hends).2
        exact absurd (hs.symm.trans hs') (by simp)
      refine h.of_silent hstep (by simp [allocatedKey]) hsilent ?_
      rw [hnode, hsession, hs]
      rfl
    | some s =>
      rw [hs] at hsession
      have hsignals := filter_closeInner hwf hclosed reason hs
      have hsent' := hsent key
      rw [if_neg (by simp [allocatedKey]), outboundSignals, hsignals] at hsent'
      refine ⟨fun hnone => ?_, fun s' hs' huses => ?_⟩
      · rw [hnode, hsession] at hnone
        exact absurd hnone (by simp)
      · rw [hnode, hsession] at hs'
        obtain rfl := Option.some.inj hs'
        rcases s.closeForNode_cases reason with ⟨-, -, hsignal, hterminal⟩ |
          ⟨-, hsignal, hterminal⟩
        · rw [hsent', hsignal, hterminal]
          simp
        · rw [hsent', hsignal, hterminal, Option.toList_none, List.append_nil]
          refine h.sent s hs ?_
          have hsame : (s.closeForNode reason).2.transportIntent = s.transportIntent :=
            (SessionChange.closedForNode reason).sameSession.transportIntent
          rw [← hsame]
          exact huses

theorem allocatedKey_of_decides {op : NodeOp E}
    {decided : BrowserSessionKey × Option WebRtcTerminalReason} (h : op.decides = some decided)
    (node : BrowserRuntimeNode E) : node.allocatedKey op = none := by
  cases op with
  | allocateDial => exact absurd h (by simp [NodeOp.decides])
  | _ => rfl

/-- A decision to end a session keeps the account of every key. -/
theorem AccountedAt.decided {key : BrowserSessionKey} (h : t.AccountedAt key)
    (hwf : t.node.WellKeyed) {op : NodeOp E} {key' : BrowserSessionKey}
    {reason : Option WebRtcTerminalReason} (hdecides : op.decides = some (key', reason))
    (hstep : t.step op = some t') : t'.AccountedAt key := by
  have hkey : ∀ key, t.node.allocatedKey op ≠ some key := fun key => by
    simp [allocatedKey_of_decides hdecides]
  obtain ⟨hnode, hsent⟩ := step_eq_some hstep
  have hop : ∀ reason, op ≠ .closeNode reason := by
    rintro reason rfl
    exact absurd hdecides (by simp [NodeOp.decides])
  have hwrote := (step_effect hop hnode).wrote.session
  rw [written_of_decides hdecides] at hwrote
  obtain ⟨message, hsignals⟩ := t.node.outboundSignals_of_decides hdecides
  by_cases hne : key' = key
  · subst hne
    cases hclosed : t.node.closed with
    | true =>
      rw [decidedEntry, entry, if_pos hclosed] at hwrote
      rw [if_pos hclosed] at hsignals
      exact h.of_silent hstep (hkey _) (by rw [hsignals]; rfl) (by rw [hwrote]; rfl)
    | false =>
      rw [if_neg (by simp [hclosed])] at hsignals
      cases hs : t.node.session key' with
      | none =>
        rw [decidedEntry, entry, if_neg (by simp [hclosed]), hs] at hwrote
        rw [hs] at hsignals
        exact h.of_silent hstep (hkey _) (by rw [hsignals]; rfl) (by rw [hwrote]; rfl)
      | some s =>
        rw [decidedEntry, entry, if_neg (by simp [hclosed]), hs] at hwrote
        rw [hs, Option.elim_some] at hsignals
        have hs' : t'.node.session key' =
            some (s.recordTerminalSent (reason.getD s.failureReason)).2 := by
          rw [hwrote]
          exact Function.update_self _ _ _
        have hsame : BrowserSessionState.SameSession _
            (s.recordTerminalSent (reason.getD s.failureReason)).2 :=
          BrowserSessionState.sameSession_applyTerminalReason
        refine ⟨fun hnone => absurd (hnone.symm.trans hs') (by simp), fun u hu huses => ?_⟩
        obtain rfl := Option.some.inj (hs'.symm.trans hu)
        have huses' : s.transportIntent.usesWebrtc = true := by
          rw [hsame.transportIntent] at huses
          exact huses
        have hterminal : (s.recordTerminalSent (reason.getD s.failureReason)).2.terminalSent =
            some (reason.getD s.failureReason) :=
          BrowserSessionState.terminalSent_applyTerminalReason _ _
        rw [hsent, if_neg (hkey _), hsignals, if_pos huses', hterminal, List.filter_cons_of_pos]
        · simp
        · exact (endsSession_sessionTerminalSignal hwf hs _ _).mpr rfl
  · refine h.of_silent hstep (hkey key) (filter_of_decides hwf hdecides hne) ?_
    rw [hwrote, decidedEntry]
    cases hentry : t.node.entry key' fun s =>
      some (s.recordTerminalSent (reason.getD s.failureReason)).2 with
    | none => rfl
    | some written =>
      obtain ⟨key'', u⟩ := written
      obtain ⟨-, rfl, -⟩ := entry_eq_some.mp hentry
      exact Function.update_of_ne (Ne.symm hne) _ _

/-- The other operations keep the account of every key. -/
theorem AccountedAt.other {key : BrowserSessionKey} (h : t.AccountedAt key)
    (hwf : t.node.WellKeyed) {op : NodeOp E} (hdecides : op.decides = none)
    (hop : ∀ reason, op ≠ .closeNode reason) (hstep : t.step op = some t') :
    t'.AccountedAt key := by
  obtain ⟨hnode, hsent⟩ := step_eq_some hstep
  have hsilent := t.node.outboundSignals_eq_nil hdecides hop
  by_cases hkey : t.node.allocatedKey op = some key
  · obtain ⟨s, hs, hnone⟩ := session_of_allocatedKey hkey hnode
    have hsent' : t'.sent key = [] := by
      rw [hsent, if_pos hkey, hsilent]
      rfl
    refine ⟨fun _ => hsent', fun u hu _ => ?_⟩
    obtain rfl := Option.some.inj (hs.symm.trans hu)
    rw [hnone, hsent']
    simp
  · have hsent' : t'.sent key = t.sent key := sent_of_silent hstep hkey (by rw [hsilent]; rfl)
    refine ⟨fun hnone => ?_, fun u hu huses => ?_⟩
    · rw [hsent']
      refine h.absent ?_
      rcases step_session hwf hnode key with hsame | ⟨u, hu, -⟩
      · exact hsame.symm.trans hnone
      · exact absurd (hnone.symm.trans hu) (by simp)
    · rw [hsent']
      rcases terminalSent_of_step hwf hdecides hop hkey hnode hu with
        ⟨s, hs, hterminal, hintent⟩ | ⟨hnew, hnone⟩
      · rw [hterminal]
        exact h.sent s hs (hintent ▸ huses)
      · rw [hnone, h.absent hnew]
        simp

/-- A closed node does not change. -/
theorem step_of_closed {node node' : BrowserRuntimeNode E} (hwf : node.WellRegistered)
    (hclosed : node.closed = true) {op : NodeOp E} (hstep : node.step op = some node') :
    node'.session = node.session ∧ node'.connections = node.connections ∧
      node'.closed = true := by
  have hconnections : node'.connections = node.connections := by
    have hopen : node.closed ≠ false := by simp [hclosed]
    cases connectionEffect_of_step hwf hstep with
    | idle _ hconnections | acceptorClosed _ _ _ _ hconnections => exact hconnections
    | recorded h | handedOver h | queued h | taken h | connectionClosed h | nodeClosed h =>
      exact absurd h hopen
  by_cases hop : ∃ reason, op = .closeNode reason
  · obtain ⟨reason, rfl⟩ := hop
    obtain rfl := Option.some.inj hstep
    rw [closeInner, if_pos hclosed]
    exact ⟨rfl, rfl, hclosed⟩
  · have hwrote := (step_effect (not_exists.mp hop) hstep).wrote
    rw [written_of_closed hclosed] at hwrote
    exact ⟨hwrote.session, hconnections, hwrote.closed.trans hclosed⟩

/-- A node that is open after a step was open before it. -/
theorem open_of_step {node node' : BrowserRuntimeNode E} (hwf : node.WellRegistered)
    (hopen : node'.closed = false) {op : NodeOp E} (hstep : node.step op = some node') :
    node.closed = false := by
  by_contra hclosed
  rw [Bool.not_eq_false] at hclosed
  have hstays : node'.closed = true := (step_of_closed hwf hclosed hstep).2.2
  exact absurd (hopen.symm.trans hstays) (by simp)

/-- A node that is closed by a step is closed by `close_inner`. -/
theorem closeNode_of_step {node node' : BrowserRuntimeNode E} (hopen : node.closed = false)
    (hclosed : node'.closed = true) {op : NodeOp E} (hstep : node.step op = some node') :
    ∃ reason, op = .closeNode reason := by
  by_contra hop
  have hwrote := (step_effect (not_exists.mp hop) hstep).wrote
  exact absurd (hclosed.symm.trans (hwrote.closed.trans hopen)) (by simp)

theorem Accounted.step (h : t.Accounted) {op : NodeOp E} (hstep : t.step op = some t') :
    t'.Accounted := by
  have hnode := (step_eq_some hstep).1
  refine ⟨h.wellKeyed.step hnode, h.wellRegistered.step hnode, h.closedDown.step hnode,
    fun key => ?_, fun hclosed' key s hs huses => ?_, fun hclosed' key c hc => ?_⟩
  · by_cases hop : ∃ reason, op = .closeNode reason
    · obtain ⟨reason, rfl⟩ := hop
      exact (h.account key).closeNode h.wellKeyed hstep
    · cases hdecides : op.decides with
      | some decided => exact (h.account key).decided h.wellKeyed hdecides hstep
      | none => exact (h.account key).other h.wellKeyed hdecides (not_exists.mp hop) hstep
  · cases hclosed : t.node.closed with
    | true =>
      rw [(step_of_closed h.wellRegistered hclosed hnode).1] at hs
      exact h.ended hclosed key s hs huses
    | false =>
      obtain ⟨reason, rfl⟩ := closeNode_of_step hclosed hclosed' hnode
      obtain hnode' : (t.node.closeInner reason).2 = t'.node := Option.some.inj hnode
      rw [← hnode', t.node.session_closeInner reason hclosed] at hs
      obtain ⟨u, hu, rfl⟩ := Option.map_eq_some_iff.mp hs
      rcases u.closeForNode_cases reason with ⟨-, -, -, hterminal⟩ | ⟨hsent, -, hterminal⟩
      · simp [hterminal]
      · rw [hterminal]
        have hsame : (u.closeForNode reason).2.transportIntent = u.transportIntent :=
          (SessionChange.closedForNode reason).sameSession.transportIntent
        exact hsent (hsame ▸ huses)
  · cases hclosed : t.node.closed with
    | true =>
      rw [(step_of_closed h.wellRegistered hclosed hnode).2.1] at hc
      exact h.connections hclosed key c hc
    | false =>
      obtain ⟨reason, rfl⟩ := closeNode_of_step hclosed hclosed' hnode
      obtain hnode' : (t.node.closeInner reason).2 = t'.node := Option.some.inj hnode
      rw [← hnode', closeInner, if_neg (by simp [hclosed]), Table.lookup_mapValues] at hc
      obtain ⟨c', -, rfl⟩ := Option.map_eq_some_iff.mp hc
      rfl

omit [DecidableEq E] [Blake3] in
/-- A new node is in order. -/
theorem accounted_new {endpointId : E} {epoch : FixedBytes 16} {config : BrowserRuntimeNodeConfig}
    {browserProtocols : List String} {node : BrowserRuntimeNode E}
    (h : spawn endpointId epoch config browserProtocols = .ok node) : (new node).Accounted := by
  have hspawned := spawned h
  have hnone : ∀ key s, node.session key ≠ some s := fun key s hs =>
    absurd ((hspawned.session key).symm.trans hs) (by simp)
  have hopen : node.closed ≠ true := by simp [hspawned.closed]
  exact ⟨hspawned.wellKeyed, (registered_of_spawn h).1, hspawned.closedDown,
    fun key => ⟨fun _ => rfl, fun s hs => absurd hs (hnone key s)⟩,
    fun hclosed => absurd hclosed hopen, fun hclosed => absurd hclosed hopen⟩

/-- Nothing that is done to a closed node changes it. -/
theorem run_of_closed {node node' : BrowserRuntimeNode E} (hwf : node.WellRegistered)
    (hclosed : node.closed = true) {ops : List (NodeOp E)}
    (hrun : Runs.run BrowserRuntimeNode.step node ops = some node') :
    node'.session = node.session ∧ node'.connections = node.connections ∧
      node'.closed = true := by
  have hall : node'.WellRegistered ∧ node'.session = node.session ∧
      node'.connections = node.connections ∧ node'.closed = true := by
    refine Runs.run_invariant
      (I := fun v => v.WellRegistered ∧ v.session = node.session ∧
        v.connections = node.connections ∧ v.closed = true)
      (fun u op v hu hstep => ?_) ⟨hwf, rfl, rfl, hclosed⟩ hrun
    obtain ⟨hu, hsession, hconnections, hclosed⟩ := hu
    obtain ⟨hsession', hconnections', hclosed'⟩ := step_of_closed hu hclosed hstep
    exact ⟨hu.step hstep, hsession'.trans hsession, hconnections'.trans hconnections, hclosed'⟩
  exact hall.2

omit [DecidableEq E] [EndpointKey E] [Blake3] in
/-- What `close_inner` sends for the session of a key. -/
theorem Accounted.filter_closeInner (h : t.Accounted) (reason : Option String)
    {key : BrowserSessionKey} {s : BrowserSessionState E} (hs : t.node.session key = some s) :
    ((t.node.closeInner reason).1.2.filter fun signal => signal.endsSession key) =
      if s.transportIntent.usesWebrtc = true ∧ t.sent key = [] then
        [sessionTerminalSignal s .closed reason]
      else [] := by
  cases hclosed : t.node.closed with
  | true =>
    rw [if_neg]
    · rw [closeInner, if_pos hclosed]
      rfl
    · rintro ⟨huses, hsent⟩
      exact h.ended hclosed key s hs huses (((h.account key).sent s hs huses).mpr hsent)
  | false =>
    rw [BrowserRuntimeNode.filter_closeInner h.wellKeyed hclosed reason hs]
    rcases s.closeForNode_cases reason with ⟨hnone, huses, hsignal, -⟩ | ⟨hsent, hsignal, -⟩
    · rw [hsignal, if_pos ⟨huses, ((h.account key).sent s hs huses).mp hnone⟩]
      rfl
    · rw [hsignal, if_neg]
      · rfl
      · rintro ⟨huses, hempty⟩
        exact hsent huses (((h.account key).sent s hs huses).mpr hempty)

/-- **Closing the node is final.**  In every state that a new node can reach, `close_inner` leaves
every session and every connection closed, and no operation changes either table afterwards.  It
returns one signal for each WebRTC session that has not sent a terminal signal, and no other; a
second call returns none. -/
theorem closeInner_final {endpointId : E} {epoch : FixedBytes 16}
    {config : BrowserRuntimeNodeConfig} {browserProtocols : List String}
    {node : BrowserRuntimeNode E}
    (hspawn : spawn endpointId epoch config browserProtocols = .ok node) {ops : List (NodeOp E)}
    (hrun : Runs.run step (new node) ops = some t) (reason : Option String) :
    (∀ key s, (t.node.closeInner reason).2.session key = some s → s.lifecycle = .closed) ∧
      (∀ key c, (t.node.closeInner reason).2.connections.lookup key = some c →
        c.closed = true) ∧
      (∀ later v, Runs.run BrowserRuntimeNode.step (t.node.closeInner reason).2 later = some v →
        v.session = (t.node.closeInner reason).2.session ∧
          v.connections = (t.node.closeInner reason).2.connections ∧
          ∀ reason', (v.closeInner reason').1 = (false, [])) ∧
      (∀ key s, t.node.session key = some s →
        ((t.node.closeInner reason).1.2.filter fun signal => signal.endsSession key) =
          if s.transportIntent.usesWebrtc = true ∧ t.sent key = [] then
            [sessionTerminalSignal s .closed reason]
          else []) ∧
      ∀ signal ∈ (t.node.closeInner reason).1.2, ∃ key s, t.node.session key = some s ∧
        signal.endsSession key = true := by
  have haccounted : t.Accounted :=
    Runs.run_invariant (fun _ _ _ h hstep => h.step hstep) (accounted_new hspawn) hrun
  obtain ⟨t', hstep⟩ : ∃ t', t.step (.closeNode reason) = some t' := ⟨_, rfl⟩
  have haccounted' := haccounted.step hstep
  have hnode : (t.node.closeInner reason).2 = t'.node :=
    Option.some.inj (step_eq_some hstep).1
  have hclosed : t'.node.closed = true := by
    rw [← hnode, closeInner]
    split_ifs with hclosed
    · exact hclosed
    · rfl
  rw [hnode]
  refine ⟨haccounted'.closedDown hclosed, haccounted'.connections hclosed,
    fun later v hlater => ?_, fun key s hs => haccounted.filter_closeInner reason hs,
    fun signal hmem => session_of_mem_closeInner haccounted.wellKeyed hmem⟩
  obtain ⟨hsession, hconnections, hclosed'⟩ :=
    run_of_closed haccounted'.wellRegistered hclosed hlater
  refine ⟨hsession, hconnections, fun reason' => ?_⟩
  rw [closeInner, if_pos hclosed']

end

section Sample

open scoped Sample
open Sample

/-- A dial that has failed, and one that is under way. -/
def sampleDials : List (NodeOp Key) :=
  [.allocateDial bob "chat" .webRtcPreferred, .allocateDial bob "chat" .webRtcOnly,
    .decideWebrtcFailure (.ofDialId sampleDialId) "no route"]

theorem closeInner_final_sample :
    ∃ t : SignalTrace Key, Runs.run step (new sampleNode) sampleDials = some t ∧
      (t.node.closeInner none).1.2.length = 1 ∧
      ∀ key s, (t.node.closeInner none).2.session key = some s → s.lifecycle = .closed := by
  have hspawn : spawn alice epoch ⟨8, ["chat"], []⟩ [] = .ok sampleNode := rfl
  have hrun : (Runs.run step (new sampleNode) sampleDials).map
      (fun t => (t.node.closeInner none).1.2.length) = some 1 := by decide +kernel
  obtain ⟨t, hrun, hlength⟩ := Option.map_eq_some_iff.mp hrun
  exact ⟨t, hrun, hlength, (closeInner_final hspawn hrun none).1⟩

end Sample

end SignalTrace

end IrohWebRtc
