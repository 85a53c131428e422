import IrohWebRtc.Browser.SessionRuns

/-!
# Terminal sessions of the browser node

A session that has failed or closed should stay so, and a session that is resolved should keep its
transport.  The inbound admission checks both before it resolves a session; the end of a dial, the
fallback to the relay and the allocation of a dial check neither.

Two things can therefore happen late.  A `FallbackSelected` that arrives for a session which has
closed turns it back into one that has chosen the relay; and a dial that ends after its session
has failed resolves it.  Each needs two tasks that overtake one another, so neither shows in a run
in which every call is alone.

* `Selects` lists these operations, with what each of them does check.
* `terminalSessions_iff`: over a run, sessions stay terminal and resolved if and only if each of
  these operations meets a session that is neither terminal nor resolved to something else.

The statement compares any two states of a run, not neighbours only: that a session is terminal in
one and not in the other may be the work of many steps, but one of them is the first that undoes
it.
-/

namespace IrohWebRtc

/-- The session is over. -/
def BrowserSessionLifecycle.IsTerminal (lifecycle : BrowserSessionLifecycle) : Prop :=
  lifecycle = .failed ∨ lifecycle = .closed

/-- The session is under way, on either transport. -/
def BrowserSessionLifecycle.IsRunning (lifecycle : BrowserSessionLifecycle) : Prop :=
  lifecycle = .applicationReady ∨ lifecycle = .relaySelected ∨ lifecycle = .webRtcNegotiating

theorem BrowserSessionLifecycle.IsTerminal.not_isRunning {lifecycle : BrowserSessionLifecycle}
    (h : lifecycle.IsTerminal) : ¬ lifecycle.IsRunning := by
  rcases h with rfl | rfl <;> simp [IsRunning]

namespace BrowserSessionState

variable {E : Type*}

/-- From `s` to `t` the session did not come back, and was not resolved to something else. -/
structure Absorbs (s t : BrowserSessionState E) : Prop where
  lifecycle : s.lifecycle.IsTerminal → ¬ t.lifecycle.IsRunning
  resolvedTransport : ∀ transport, s.resolvedTransport = some transport →
    t.resolvedTransport = some transport

/-- From `s` to `t` a terminal session stays terminal and a resolved one resolved. -/
structure Keeps (s t : BrowserSessionState E) : Prop where
  lifecycle : s.lifecycle.IsTerminal → t.lifecycle.IsTerminal
  resolvedTransport : ∀ transport, s.resolvedTransport = some transport →
    t.resolvedTransport = some transport

/-- The session can be brought to a running state that is resolved to `transport`. -/
structure Settles (s : BrowserSessionState E) (transport : Option BrowserResolvedTransport) :
    Prop where
  lifecycle : ¬ s.lifecycle.IsTerminal
  resolvedTransport : s.resolvedTransport = none ∨ s.resolvedTransport = transport

variable {s t u : BrowserSessionState E} {transport : Option BrowserResolvedTransport}

theorem Keeps.refl (s : BrowserSessionState E) : s.Keeps s := ⟨id, fun _ => id⟩

theorem Keeps.trans (h : s.Keeps t) (h' : t.Keeps u) : s.Keeps u :=
  ⟨fun hs => h'.lifecycle (h.lifecycle hs),
    fun transport hs => h'.resolvedTransport transport (h.resolvedTransport transport hs)⟩

theorem Keeps.absorbs (h : s.Keeps t) : s.Absorbs t :=
  ⟨fun hs => (h.lifecycle hs).not_isRunning, h.resolvedTransport⟩

/-- An ended session is terminal, and its transport is what it was. -/
theorem keeps_of_terminal (hlifecycle : t.lifecycle.IsTerminal)
    (hresolved : t.resolvedTransport = s.resolvedTransport) : s.Keeps t :=
  ⟨fun _ => hlifecycle, fun _ hs => hresolved.trans hs⟩

/-- Bringing a session to a running state is right exactly when it can be. -/
theorem keeps_of_settles (hsettles : s.Settles transport) (ht : t.resolvedTransport = transport) :
    s.Keeps t := by
  refine ⟨fun hs => absurd hs hsettles.lifecycle, fun transport' hs => ?_⟩
  rcases hsettles.resolvedTransport with hnone | hsame
  · exact absurd (hnone.symm.trans hs) (by simp)
  · rw [ht, ← hsame, hs]

theorem Absorbs.settles (h : s.Absorbs t) (hrunning : t.lifecycle.IsRunning)
    (ht : t.resolvedTransport = transport) : s.Settles transport := by
  constructor
  · intro hs
    exact h.lifecycle hs hrunning
  · cases hs : s.resolvedTransport with
    | none => exact Or.inl rfl
    | some transport' => exact Or.inr ((h.resolvedTransport transport' hs).symm.trans ht)

/-- What a terminal reason makes of a session: the relay by fallback, or a terminal session with
the transport it had. -/
theorem applyTerminalReason_cases (s : BrowserSessionState E) (reason : WebRtcTerminalReason) :
    (reason = .fallbackSelected ∧ s.transportIntent.allowsIrohRelayFallback = true ∧
        (s.applyTerminalReason reason).2.resolvedTransport = some .irohRelay ∧
        (s.applyTerminalReason reason).2.lifecycle = .relaySelected) ∨
      (s.applyTerminalReason reason).2.lifecycle.IsTerminal ∧
        (s.applyTerminalReason reason).2.resolvedTransport = s.resolvedTransport := by
  cases reason with
  | fallbackSelected =>
    rw [applyTerminalReason]
    split_ifs with hallows
    · exact Or.inl ⟨rfl, hallows, rfl, rfl⟩
    · exact Or.inr ⟨Or.inl rfl, rfl⟩
  | webRtcFailed => exact Or.inr ⟨Or.inl rfl, rfl⟩
  | cancelled | closed => exact Or.inr ⟨Or.inr rfl, rfl⟩

theorem closeForNode_terminal (s : BrowserSessionState E) (message : Option String) :
    (s.closeForNode message).2.lifecycle.IsTerminal ∧
      (s.closeForNode message).2.resolvedTransport = s.resolvedTransport := by
  rw [closeForNode]
  split_ifs <;> exact ⟨Or.inr rfl, rfl⟩

end BrowserSessionState

namespace BrowserRuntimeNode

section

variable {E : Type*} [DecidableEq E] [EndpointKey E] [Blake3] {node node' : BrowserRuntimeNode E}

/-- The operations that bring the session of `key` to a running state without regard to the state it
is in: the end of a dial, the two ways to fall back to the relay, and a dial whose generated key is
taken.  The last argument is the transport that the session is then resolved to. -/
inductive Selects (node : BrowserRuntimeNode E) (op : NodeOp E) (key : BrowserSessionKey)
    (s : BrowserSessionState E) : Option BrowserResolvedTransport → Prop where
  | completed {transport : BrowserResolvedTransport} (hop : op.completes = some (key, transport))
      (hrole : s.role = .dialer) (hresolve : s.CanResolve transport) :
      Selects node op key s (some transport)
  | fellBack (hends : node.Ends op key s .fallbackSelected)
      (hallows : s.transportIntent.allowsIrohRelayFallback = true) :
      Selects node op key s (some .irohRelay)
  | dialed {remote : E} {alpn : String} {transportIntent : BootstrapTransportIntent}
      {session : DialSessionId} {dialIds : DialIdGenerator E}
      (hop : op = .allocateDial remote alpn transportIntent) (halpn : alpn.isEmpty = false)
      (hnext : node.dialIds.next remote = some (session, dialIds))
      (hkey : key = .ofDialId session.dialId) : Selects node op key s none

/-- The operation brings to a running state only a session that is neither terminal nor resolved to
another transport. -/
def RespectsTerminal (node : BrowserRuntimeNode E) (op : NodeOp E) : Prop :=
  node.closed = false → ∀ key s transport, node.session key = some s →
    node.Selects op key s transport → s.Settles transport

theorem keeps_or_fellBack {op : NodeOp E} {key : BrowserSessionKey} {s : BrowserSessionState E}
    (s' : BrowserSessionState E) {reason : WebRtcTerminalReason} (hends : node.Ends op key s reason)
    (hintent : s'.transportIntent = s.transportIntent)
    (hresolved : s'.resolvedTransport = s.resolvedTransport) :
    s.Keeps (s'.applyTerminalReason reason).2 ∨
      ∃ transport, node.Selects op key s transport ∧
        (s'.applyTerminalReason reason).2.resolvedTransport = transport := by
  rcases s'.applyTerminalReason_cases reason with
    ⟨rfl, hallows, hrelay, -⟩ | ⟨hterminal, hsame⟩
  · exact Or.inr ⟨_, .fellBack hends (hintent ▸ hallows), hrelay⟩
  · exact Or.inl (BrowserSessionState.keeps_of_terminal hterminal (hsame.trans hresolved))

/-- A session that an operation writes is kept, or the operation selects a transport for it. -/
theorem keeps_or_selects {op : NodeOp E} {key : BrowserSessionKey} {s t : BrowserSessionState E}
    (hs : node.session key = some s) (h : Origin node op key t) :
    s.Keeps t ∨
      node.closed = false ∧ ∃ transport, node.Selects op key s transport ∧
        t.resolvedTransport = transport := by
  have hsame : ∀ {s'}, node.session key = some s' → s' = s := fun hs' =>
    Option.some.inj (hs'.symm.trans hs)
  cases h with
  | attached hs' | opened hs' =>
    obtain rfl := hsame hs'
    exact Or.inl ⟨id, fun _ => id⟩
  | completed hs' hop hclosed hrole hresolve =>
    obtain rfl := hsame hs'
    exact Or.inr ⟨hclosed, _, .completed hop hrole hresolve, rfl⟩
  | @bound s' remote alpn hs' helig =>
    obtain rfl := hsame hs'
    obtain ⟨-, -, -, -, hnone, -, hlifecycle⟩ := isEligible_iff.mp helig
    have hsettles : s'.Settles (some .webRtc) := by
      refine ⟨fun hterminal => ?_, Or.inl hnone⟩
      rcases hterminal with h | h <;> rw [h] at hlifecycle <;> simp at hlifecycle
    exact Or.inl (BrowserSessionState.keeps_of_settles hsettles rfl)
  | @decided s' reason hs' hop hclosed =>
    obtain rfl := hsame hs'
    have hends : node.Ends op key s' (reason.getD s'.failureReason) := .decided hop
    rcases keeps_or_fellBack { s' with terminalSent := some (reason.getD s'.failureReason) }
      hends rfl rfl with hkeeps | hselects
    · exact Or.inl hkeeps
    · exact Or.inr ⟨hclosed, hselects⟩
  | @terminated s' dialId fromId toId generation reason message alpn hs' hop hkey hclosed hto
      hremote hgeneration =>
    obtain rfl := hsame hs'
    subst hto hremote hgeneration
    have hends : node.Ends op key s' reason := .terminated hop hkey
    rcases keeps_or_fellBack { s' with terminalReceived := some reason } hends rfl rfl with
      hkeeps | hselects
    · exact Or.inl hkeeps
    · exact Or.inr ⟨hclosed, hselects⟩
  | closed hs' =>
    obtain rfl := hsame hs'
    exact Or.inl (BrowserSessionState.keeps_of_terminal (Or.inr rfl) rfl)
  | @closedForNode s' reason hs' =>
    obtain rfl := hsame hs'
    obtain ⟨hterminal, hresolved⟩ := s'.closeForNode_terminal reason
    exact Or.inl (BrowserSessionState.keeps_of_terminal hterminal hresolved)
  | dialed hop hclosed halpn hnext hkey =>
    exact Or.inr ⟨hclosed, none, .dialed hop halpn hnext hkey, rfl⟩
  | accepted hkey hnew => exact absurd (hnew.symm.trans hs) (by simp)

/-- An operation that selects a transport for a session carries it out. -/
theorem session_of_selects (hclosed : node.closed = false) {op : NodeOp E}
    {key : BrowserSessionKey} {s : BrowserSessionState E}
    {transport : Option BrowserResolvedTransport} (hs : node.session key = some s)
    (h : node.Selects op key s transport) (hstep : node.step op = some node') :
    ∃ t, node'.session key = some t ∧ t.resolvedTransport = transport ∧
      t.lifecycle.IsRunning := by
  have hentry : ∀ update t, update s = some t → node.entry key update = some (key, t) :=
    fun update t ht => entry_eq_some.mpr ⟨hclosed, rfl, s, hs, ht⟩
  have hwritten : (∀ reason, op ≠ .closeNode reason) ∧ ∃ t, node.written op = some (key, t) ∧
      t.resolvedTransport = transport ∧ t.lifecycle.IsRunning := by
    cases h with
    | @completed transport hop hrole hresolve =>
      refine ⟨?_, s.resolved transport, ?_, rfl, Or.inl rfl⟩
      · rintro reason rfl
        exact absurd hop (by simp [NodeOp.completes])
      · rw [written_of_completes hop]
        exact hentry _ _ (toOption_eq_some.mpr
          (BrowserSessionState.completeDial_eq_ok.mpr ⟨hrole, hresolve, rfl⟩))
    | fellBack hends hallows =>
      obtain ⟨s', hintent, -, hwritten⟩ := written_of_ends hclosed hs hends
      rw [BrowserSessionState.applyTerminalReason, if_pos (hintent ▸ hallows)] at hwritten
      exact ⟨hends.ne_closeNode, _, hwritten, rfl, Or.inr (Or.inl rfl)⟩
    | @dialed remote alpn transportIntent session dialIds hop halpn hnext hkey =>
      subst hop hkey
      refine ⟨by simp, .new (.ofDialId session.dialId) session.dialId session.generation
        node.endpointId remote alpn .dialer transportIntent, ?_, rfl, ?_⟩
      · rw [written, dialedEntry, if_neg (by simp [hclosed, halpn]), hnext]
        rfl
      · cases transportIntent with
        | irohRelay => exact Or.inr (Or.inl rfl)
        | webRtcPreferred | webRtcOnly => exact Or.inr (Or.inr rfl)
  obtain ⟨hop, t, hwritten, ht⟩ := hwritten
  refine ⟨t, ?_, ht⟩
  rw [(step_effect hop hstep).wrote.session, hwritten, write, Function.update_self]

/-! ## Runs -/

/-- Every session of the one node is absorbed in what it is in the other. -/
def KeepsTerminal (u v : BrowserRuntimeNode E) : Prop :=
  ∀ key s t, u.session key = some s → v.session key = some t → s.Absorbs t

/-- A step that respects terminal sessions keeps every session. -/
theorem step_keeps (hwf : node.WellKeyed) {op : NodeOp E} (hop : node.RespectsTerminal op)
    (hstep : node.step op = some node') {key : BrowserSessionKey} {s : BrowserSessionState E}
    (hs : node.session key = some s) : ∃ t, node'.session key = some t ∧ s.Keeps t := by
  rcases step_session hwf hstep key with hsame | ⟨t, ht, horigin⟩
  · exact ⟨s, hsame.trans hs, .refl s⟩
  · refine ⟨t, ht, ?_⟩
    rcases keeps_or_selects hs horigin with hkeeps | ⟨hclosed, transport, hselects, hresolved⟩
    · exact hkeeps
    · exact BrowserSessionState.keeps_of_settles (hop hclosed key s transport hs hselects) hresolved

theorem run_keeps (hwf : node.WellKeyed) {ops : List (NodeOp E)}
    (hguard : Runs.Guarded step RespectsTerminal node ops)
    (hrun : Runs.run step node ops = some node') {key : BrowserSessionKey}
    {s : BrowserSessionState E} (hs : node.session key = some s) :
    ∃ t, node'.session key = some t ∧ s.Keeps t := by
  have hall : node'.WellKeyed ∧ ∃ t, node'.session key = some t ∧ s.Keeps t := by
    refine Runs.run_invariant_of_guarded
      (I := fun v => v.WellKeyed ∧ ∃ t, v.session key = some t ∧ s.Keeps t)
      (fun u op v hu hop hstep => ?_) ⟨hwf, s, hs, .refl s⟩ hguard hrun
    obtain ⟨hu, t, ht, hkeeps⟩ := hu
    obtain ⟨t', ht', hkeeps'⟩ := step_keeps hu hop hstep ht
    exact ⟨hu.step hstep, t', ht', hkeeps.trans hkeeps'⟩
  exact hall.2

/-- A step over which sessions stay terminal and resolved respects them. -/
theorem respectsTerminal_of_keepsTerminal {op : NodeOp E} (hstep : node.step op = some node')
    (h : node.KeepsTerminal node') : node.RespectsTerminal op := by
  intro hclosed key s transport hs hselects
  obtain ⟨t, ht, hresolved, hrunning⟩ := session_of_selects hclosed hs hselects hstep
  exact (h key s t hs ht).settles hrunning hresolved

/-- **Terminal sessions.**  Between any two nodes of a run every session stays terminal once it is,
and resolved to the transport it is resolved to, if and only if each operation of the run that
brings a session to a running state finds it neither terminal nor resolved to another transport. -/
theorem terminalSessions_iff {final : BrowserRuntimeNode E} (hspawned : node.Spawned)
    {ops : List (NodeOp E)} (hrun : Runs.run step node ops = some final) :
    (∀ pre mid post u v, ops = pre ++ mid ++ post → Runs.run step node pre = some u →
        Runs.run step u mid = some v → u.KeepsTerminal v) ↔
      Runs.Guarded step RespectsTerminal node ops := by
  constructor
  · intro h
    refine Runs.guarded_iff_forall_split.mpr fun pre op post u hops hu => ?_
    subst hops
    obtain ⟨u', hu', hpost⟩ := Runs.run_append.mp hrun
    obtain rfl := Option.some.inj (hu.symm.trans hu')
    obtain ⟨v, hv, -⟩ := Runs.run_cons.mp hpost
    refine respectsTerminal_of_keepsTerminal hv (h pre [op] post u v (by simp) hu ?_)
    exact Runs.run_cons.mpr ⟨v, hv, rfl⟩
  · rintro hguard pre mid post u v rfl hu hv key s t hs ht
    obtain ⟨t', ht', hkeeps⟩ := run_keeps (hspawned.wellKeyed.run hu)
      (hguard.append_left.append_right hu) hv hs
    obtain rfl := Option.some.inj (ht.symm.trans ht')
    exact hkeeps.absorbs

end

section Sample

open scoped Sample
open Sample

/-- A dial that gets its channel, is completed over WebRTC, and is closed. -/
def sampleDial : List (NodeOp Key) :=
  [.allocateDial bob "chat" .webRtcPreferred,
    .attachTransferredChannel (.ofDialId sampleDialId),
    .rtcLifecycle ⟨.ofDialId sampleDialId, .dataChannelOpen, none⟩,
    .completeDial (.ofDialId sampleDialId) .webRtc,
    .rtcLifecycle ⟨.ofDialId sampleDialId, .webRtcClosed "data channel closed", none⟩]

/-- The signal by which `bob` falls back to the relay. -/
def sampleFallback : NodeOp Key :=
  .bootstrapSignal ⟨.terminal sampleDialId bob alice 0 .fallbackSelected none, none⟩

theorem terminalSessions_iff_sample :
    (∀ pre mid post u v, sampleDial = pre ++ mid ++ post →
        Runs.run step sampleNode pre = some u → Runs.run step u mid = some v →
        u.KeepsTerminal v) ↔
      Runs.Guarded step RespectsTerminal sampleNode sampleDial :=
  terminalSessions_iff sampleNode_spawned rfl

/-- **A closed session comes back.**  The signal of the other side that it falls back to the relay
arrives after the session was resolved to WebRTC and closed, and selects the relay for it. -/
theorem fallback_reopens_closed_session :
    ∃ u v s t, Runs.run step sampleNode sampleDial = some u ∧
      Runs.run step u [sampleFallback] = some v ∧
      u.session (.ofDialId sampleDialId) = some s ∧ v.session (.ofDialId sampleDialId) = some t ∧
      s.lifecycle = .closed ∧ s.resolvedTransport = some .webRtc ∧
      t.lifecycle = .relaySelected ∧ t.resolvedTransport = some .irohRelay ∧
      ¬ u.KeepsTerminal v := by
  refine ⟨_, _, _, _, rfl, rfl, rfl, rfl, rfl, rfl, rfl, rfl, fun h => ?_⟩
  have habsorbs := h (.ofDialId sampleDialId) _ _ rfl rfl
  exact habsorbs.lifecycle (Or.inr rfl) (Or.inr (Or.inl rfl))

end Sample

end BrowserRuntimeNode

end IrohWebRtc
