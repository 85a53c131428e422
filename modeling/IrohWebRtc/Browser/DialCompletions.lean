import IrohWebRtc.Browser.DialRuntime
import IrohWebRtc.Browser.SessionRuns

/-!
# The completion of a call

A call of the runtime waits until its session is decided.  Every task that has changed a session
calls the completions with the session as the node has left it, and they take the entry of the
call that waits for it, if there is one.

There are two tables of pending calls, one for dials and one for preparations, and two
completions, which look into one table each.  A session belongs to one call, so at most one of
them finds something.  The entry is taken out before the call is answered, which is why a call is
answered once, however many tasks find that its session is decided.

* `session_of_handleBootstrapSignal_ok`, `session_of_handleRtcLifecycleResult_ok`: the node
  answers with the session that it leaves.
* `Registered`: the calls that wait are the ones that are registered as pending; the operations on
  the tables of pending calls keep it.
* `completeFromSession_body`, `lookup_completeFromSession`: what a completion does to a call and
  to the tables.
-/

namespace IrohWebRtc

namespace BrowserRuntimeNode

/-! ## What the node answers -/

section Answers

variable {E : Type*} [EndpointKey E] {node node' : BrowserRuntimeNode E}

/-- An update that is refused leaves the node as it is. -/
theorem updateSession_error {sessionKey : BrowserSessionKey}
    {update : BrowserSessionState E → BrowserRuntimeResult (BrowserSessionState E)}
    {err : BrowserRuntimeError}
    (h : node.updateSession sessionKey update = (.error err, node')) : node' = node := by
  unfold updateSession at h
  split at h
  · exact (Prod.mk.inj h).2.symm
  · split at h
    · exact (Prod.mk.inj h).2.symm
    · split at h
      · exact (Prod.mk.inj h).2.symm
      · exact absurd (Prod.mk.inj h).1 (by simp)

omit [EndpointKey E] in
theorem lifecycleResultOfDecision_ok {sessionKey : BrowserSessionKey}
    {decision : BrowserRuntimeResult (BrowserTerminalDecision E) × BrowserRuntimeNode E}
    {result : RtcLifecycleResult E}
    (h : lifecycleResultOfDecision sessionKey decision = (.ok result, node')) :
    result.sessionKey = sessionKey ∧
      ∃ s, result.session = some s ∧ node'.session sessionKey = some s := by
  obtain ⟨decided, m⟩ := decision
  cases decided with
  | error err => exact absurd (Prod.mk.inj h).1 (by simp)
  | ok decided =>
    obtain ⟨hresult, rfl⟩ := Prod.mk.inj h
    unfold sessionSnapshot at hresult
    split at hresult
    · exact absurd hresult (by simp [Except.map])
    · obtain rfl := Except.ok.inj hresult
      exact ⟨rfl, _, rfl, ‹_›⟩

/-- A lifecycle event is answered with the session that it leaves. -/
theorem session_of_handleRtcLifecycleResult_ok {input : RtcLifecycleInput}
    {result : RtcLifecycleResult E}
    (h : node.handleRtcLifecycleResult input = (.ok result, node')) :
    result.sessionKey = input.sessionKey ∧
      ∃ s, result.session = some s ∧ node'.session input.sessionKey = some s := by
  unfold handleRtcLifecycleResult at h
  split at h
  · exact lifecycleResultOfDecision_ok h
  · exact lifecycleResultOfDecision_ok h
  · exact lifecycleResultOfDecision_ok h
  · split at h
    · exact absurd (Prod.mk.inj h).1 (by simp)
    · obtain ⟨hresult, rfl⟩ := Prod.mk.inj h
      unfold sessionSnapshot at hresult
      split at hresult
      · exact absurd hresult (by simp [Except.map])
      · obtain rfl := Except.ok.inj hresult
        exact ⟨rfl, _, rfl, ‹_›⟩

theorem session_of_allocateAcceptSession_ok {remote : E} {alpn : String}
    {dialSession : DialSessionId} {transportIntent : BootstrapTransportIntent}
    {s : BrowserSessionSnapshot E}
    (h : node.allocateAcceptSession remote alpn dialSession transportIntent = (.ok s, node')) :
    node'.session s.sessionKey = some s := by
  unfold allocateAcceptSession at h
  split at h
  · exact absurd (Prod.mk.inj h).1 (by simp)
  · split at h
    · exact absurd (Prod.mk.inj h).1 (by simp)
    · dsimp only at h
      split at h
      · exact absurd (Prod.mk.inj h).1 (by simp)
      · obtain ⟨hresult, rfl⟩ := Prod.mk.inj h
        obtain rfl := Except.ok.inj hresult
        split <;> exact AList.lookup_insert _

/-- A bootstrap signal is answered with the session that it leaves. -/
theorem session_of_handleBootstrapSignal_ok [DecidableEq E]
    {input : BrowserBootstrapSignalInput E} {result : BrowserBootstrapSignalResult E}
    (h : node.handleBootstrapSignal input = (.ok result, node')) :
    ∃ key s, result.sessionKey = some key ∧ result.session = some s ∧
      node'.session key = some s := by
  obtain ⟨signal, alpnOverride⟩ := input
  cases signal with
  | dialRequest dialId fromId toId generation alpn transportIntent =>
    unfold handleBootstrapSignal at h
    dsimp only at h
    split at h
    · exact absurd (Prod.mk.inj h).1 (by simp)
    · split at h
      · exact absurd (Prod.mk.inj h).1 (by simp)
      · split at h
        · exact absurd (Prod.mk.inj h).1 (by simp)
        · split at h
          · exact absurd (Prod.mk.inj h).1 (by simp)
          · rename_i haccept
            obtain ⟨hresult, rfl⟩ := Prod.mk.inj h
            obtain rfl := Except.ok.inj hresult
            exact ⟨_, _, rfl, rfl, session_of_allocateAcceptSession_ok haccept⟩
  | terminal dialId fromId toId generation reason message =>
    change node.applyRemoteTerminalSignal _ reason = _ at h
    unfold applyRemoteTerminalSignal at h
    split at h
    · exact absurd (Prod.mk.inj h).1 (by simp)
    · split at h
      · exact absurd (Prod.mk.inj h).1 (by simp)
      · dsimp only at h
        split at h
        · exact absurd (Prod.mk.inj h).1 (by simp)
        · split at h
          · exact absurd (Prod.mk.inj h).1 (by simp)
          · obtain ⟨hresult, rfl⟩ := Prod.mk.inj h
            obtain rfl := Except.ok.inj hresult
            exact ⟨_, _, rfl, rfl, AList.lookup_insert _⟩
  | offer | answer | iceCandidate | endOfCandidates =>
    unfold handleBootstrapSignal at h
    dsimp only at h
    split at h
    · exact absurd (Prod.mk.inj h).1 (by simp)
    · split at h
      · exact absurd (Prod.mk.inj h).1 (by simp)
      · rename_i hsnapshot
        split at h
        · exact absurd (Prod.mk.inj h).1 (by simp)
        · obtain ⟨hresult, rfl⟩ := Prod.mk.inj h
          obtain rfl := Except.ok.inj hresult
          unfold sessionSnapshot at hsnapshot
          split at hsnapshot
          · exact absurd hsnapshot (by simp)
          · obtain rfl := Except.ok.inj hsnapshot
            exact ⟨_, _, rfl, rfl, ‹_›⟩

/-- A dial is refused by a closed node or for an empty ALPN, and then nothing changes. -/
theorem allocateDialStart_error [DecidableEq E] [Blake3] {remote : E} {alpn : String}
    {transportIntent : BootstrapTransportIntent} {err : BrowserRuntimeError}
    (h : node.allocateDialStart remote alpn transportIntent = some (.error err, node')) :
    node' = node ∧ (node.closed = true ∨ alpn.isEmpty = true) := by
  obtain ⟨⟨result, m⟩, hallocate, heq⟩ := Option.map_eq_some_iff.mp h
  obtain ⟨hresult, rfl⟩ := Prod.mk.inj heq
  rw [allocateDial, validateAlpn] at hallocate
  by_cases halpn : alpn.isEmpty = true
  · rw [if_pos halpn] at hallocate
    exact ⟨(Prod.mk.inj (Option.some.inj hallocate)).2.symm, Or.inr halpn⟩
  · rw [if_neg halpn] at hallocate
    dsimp only at hallocate
    by_cases hclosed : node.closed = true
    · rw [if_pos hclosed] at hallocate
      exact ⟨(Prod.mk.inj (Option.some.inj hallocate)).2.symm, Or.inl hclosed⟩
    · rw [if_neg hclosed] at hallocate
      obtain ⟨session, -, heq⟩ := Option.map_eq_some_iff.mp hallocate
      obtain ⟨rfl, -⟩ := Prod.mk.inj heq
      exact absurd hresult (by simp [Except.map])

/-- A dial that is allocated has a new session under its key. -/
theorem allocateDialStart_ok [DecidableEq E] [Blake3] {remote : E} {alpn : String}
    {transportIntent : BootstrapTransportIntent} {dialStart : BrowserDialStart E}
    (h : node.allocateDialStart remote alpn transportIntent = some (.ok dialStart, node')) :
    node.step (.allocateDial remote alpn transportIntent) = some node' ∧
      node.closed = false ∧
      (∃ session dialIds, node.dialIds.next remote = some (session, dialIds) ∧
        dialStart.sessionKey = .ofDialId session.dialId) ∧
      ∃ dialId generation, node'.session dialStart.sessionKey =
        some (.new dialStart.sessionKey dialId generation node.endpointId remote alpn .dialer
          transportIntent) := by
  obtain ⟨⟨result, m⟩, hallocate, heq⟩ := Option.map_eq_some_iff.mp h
  obtain ⟨hresult, rfl⟩ := Prod.mk.inj heq
  have hstep : node.step (.allocateDial remote alpn transportIntent) = some m :=
    Option.map_eq_some_iff.mpr ⟨_, hallocate, rfl⟩
  refine ⟨hstep, ?_⟩
  rw [allocateDial, validateAlpn] at hallocate
  by_cases halpn : alpn.isEmpty = true
  · rw [if_pos halpn] at hallocate
    obtain ⟨rfl, -⟩ := Prod.mk.inj (Option.some.inj hallocate)
    exact absurd hresult (by simp [Except.map])
  · rw [if_neg halpn] at hallocate
    dsimp only at hallocate
    by_cases hclosed : node.closed = true
    · rw [if_pos hclosed] at hallocate
      obtain ⟨rfl, -⟩ := Prod.mk.inj (Option.some.inj hallocate)
      exact absurd hresult (by simp [Except.map])
    · rw [if_neg hclosed] at hallocate
      obtain ⟨⟨session, dialIds⟩, hnext, heq⟩ := Option.map_eq_some_iff.mp hallocate
      obtain ⟨rfl, rfl⟩ := Prod.mk.inj heq
      obtain rfl := Except.ok.inj hresult
      refine ⟨by simpa using hclosed, ⟨session, dialIds, hnext, rfl⟩, session.dialId,
        session.generation, ?_⟩
      split_ifs <;> exact AList.lookup_insert _

end Answers

end BrowserRuntimeNode

namespace BrowserRuntime

/-! ## Completions -/

section Completions

variable {E : Type*} {rt : BrowserRuntime E}

/-- The two runtimes have the same tasks, up to the bodies of their calls. -/
structure SameTasks (u v : BrowserRuntime E) : Prop where
  calls : v.calls = u.calls
  nextCall : v.nextCall = u.nextCall
  setups : v.setups = u.setups
  loops : v.loops = u.loops
  answered : v.answered = u.answered
  relayDialed : v.relayDialed = u.relayDialed
  returns : v.returns = u.returns

theorem SameTasks.refl (rt : BrowserRuntime E) : SameTasks rt rt :=
  ⟨rfl, rfl, rfl, rfl, rfl, rfl, rfl⟩

theorem SameTasks.trans {u v w : BrowserRuntime E} (h : SameTasks u v) (h' : SameTasks v w) :
    SameTasks u w :=
  ⟨h'.calls.trans h.calls, h'.nextCall.trans h.nextCall, h'.setups.trans h.setups,
    h'.loops.trans h.loops, h'.answered.trans h.answered, h'.relayDialed.trans h.relayDialed,
    h'.returns.trans h.returns⟩

@[simp] theorem setBody_self (rt : BrowserRuntime E) (i : ℕ) (phase : DialPhase E) :
    (rt.setBody i phase).bodies i = phase :=
  Function.update_self ..

theorem setBody_ne (rt : BrowserRuntime E) {i j : ℕ} (h : j ≠ i) (phase : DialPhase E) :
    (rt.setBody i phase).bodies j = rt.bodies j :=
  Function.update_of_ne h ..

theorem dropSender_none {kind : DialKind} {key : BrowserSessionKey}
    (h : (rt.pending kind).lookup key = none) : rt.dropSender kind key = rt := by
  unfold dropSender
  rw [h]

theorem dropSender_some {kind : DialKind} {key : BrowserSessionKey} {entry : PendingEntry E}
    (h : (rt.pending kind).lookup key = some entry) :
    rt.dropSender kind key =
      (rt.setBody entry.sender (.completed (.error kind.channelClosed))).setPending kind
        ((rt.pending kind).erase key) := by
  unfold dropSender
  rw [h]

theorem dropSender_sameTasks (rt : BrowserRuntime E) (kind : DialKind) (key : BrowserSessionKey) :
    SameTasks rt (rt.dropSender kind key) := by
  unfold dropSender
  split <;> exact ⟨rfl, rfl, rfl, rfl, rfl, rfl, rfl⟩

theorem dropSender_node (rt : BrowserRuntime E) (kind : DialKind) (key : BrowserSessionKey) :
    (rt.dropSender kind key).node = rt.node := by
  unfold dropSender
  split <;> rfl

theorem dropSender_decisions (rt : BrowserRuntime E) (kind : DialKind) (key : BrowserSessionKey) :
    (rt.dropSender kind key).decisions = rt.decisions := by
  unfold dropSender
  split <;> rfl

/-- The completion of a kind either finds nothing to do or takes the entry of the session. -/
theorem completePending_cases (rt : BrowserRuntime E) (kind : DialKind)
    (next : PendingAction → DialCall E → DialPhase E) (key : BrowserSessionKey)
    (action : Option PendingAction) :
    (rt.completePending kind next key action = rt ∧
        (action = none ∨ (rt.pending kind).lookup key = none)) ∨
      ∃ decided entry, action = some decided ∧ (rt.pending kind).lookup key = some entry ∧
        rt.completePending kind next key action =
          { (rt.setBody entry.sender (next decided entry.call)).setPending kind
              ((rt.pending kind).erase key) with
            decisions := Function.update rt.decisions entry.sender (some decided) } := by
  unfold completePending
  cases action with
  | none => exact Or.inl ⟨rfl, Or.inl rfl⟩
  | some decided =>
    cases hentry : (rt.pending kind).lookup key with
    | none => exact Or.inl ⟨rfl, Or.inr rfl⟩
    | some entry => exact Or.inr ⟨decided, entry, rfl, rfl, rfl⟩

theorem completePending_sameTasks (rt : BrowserRuntime E) (kind : DialKind)
    (next : PendingAction → DialCall E → DialPhase E) (key : BrowserSessionKey)
    (action : Option PendingAction) : SameTasks rt (rt.completePending kind next key action) := by
  rcases rt.completePending_cases kind next key action with ⟨heq, -⟩ | ⟨decided, entry, -, -, heq⟩
  · rw [heq]
    exact .refl rt
  · rw [heq]
    exact ⟨rfl, rfl, rfl, rfl, rfl, rfl, rfl⟩

theorem completePending_node (rt : BrowserRuntime E) (kind : DialKind)
    (next : PendingAction → DialCall E → DialPhase E) (key : BrowserSessionKey)
    (action : Option PendingAction) : (rt.completePending kind next key action).node = rt.node := by
  rcases rt.completePending_cases kind next key action with ⟨heq, -⟩ | ⟨decided, entry, -, -, heq⟩
  · rw [heq]
  · rw [heq]
    rfl

/-- The two completions of a session, as one. -/
theorem completeFromSession_some (rt : BrowserRuntime E) (key : BrowserSessionKey)
    (session : BrowserSessionSnapshot E) (diagnostic : Option String) :
    rt.completeFromSession (some key) (some session) diagnostic =
      (rt.completePending .application (decidedDial diagnostic) key
        (pendingAction session)).completePending .prepare (decidedPrepare rt.node.closed) key
          (pendingAction session) := by
  show (rt.completePending .application _ key _).completePending .prepare
    (decidedPrepare (rt.completePending .application _ key _).node.closed) key _ = _
  rw [completePending_node]
  rfl

theorem completeFromSession_sameTasks (rt : BrowserRuntime E) (key : Option BrowserSessionKey)
    (session : Option (BrowserSessionSnapshot E)) (diagnostic : Option String) :
    SameTasks rt (rt.completeFromSession key session diagnostic) := by
  cases key with
  | none => exact .refl rt
  | some key =>
    cases session with
    | none => exact .refl rt
    | some session =>
      rw [completeFromSession_some]
      exact (completePending_sameTasks rt _ _ _ _).trans (completePending_sameTasks _ _ _ _ _)

theorem completeFromSession_node (rt : BrowserRuntime E) (key : Option BrowserSessionKey)
    (session : Option (BrowserSessionSnapshot E)) (diagnostic : Option String) :
    (rt.completeFromSession key session diagnostic).node = rt.node := by
  cases key with
  | none => rfl
  | some key =>
    cases session with
    | none => rfl
    | some session => rw [completeFromSession_some, completePending_node, completePending_node]

/-! ## Registered calls -/

theorem setPending_pending (rt : BrowserRuntime E) (kind kind' : DialKind)
    (entries : Table BrowserSessionKey (PendingEntry E)) :
    (rt.setPending kind entries).pending kind' =
      if kind' = kind then entries else rt.pending kind' :=
  Function.update_apply ..

/-- Erasing an entry leaves the other ones. -/
theorem lookup_erase_pending {kind kind' : DialKind} {key key' : BrowserSessionKey}
    {entry : PendingEntry E} :
    ((rt.setPending kind ((rt.pending kind).erase key)).pending kind').lookup key' = some entry ↔
      ¬ (kind' = kind ∧ key' = key) ∧ (rt.pending kind').lookup key' = some entry := by
  rw [setPending_pending]
  by_cases hkind : kind' = kind
  · subst hkind
    rw [if_pos rfl]
    by_cases hkey : key' = key
    · subst hkey
      rw [AList.lookup_erase]
      simp
    · rw [AList.lookup_erase_ne hkey]
      simp [hkey]
  · rw [if_neg hkind]
    simp [hkind]

/-- The calls that wait are those that are registered as pending. -/
structure Registered (rt : BrowserRuntime E) : Prop where
  entry : ∀ kind key entry, (rt.pending kind).lookup key = some entry →
    rt.calls entry.sender = some entry.call ∧ entry.call.kind = kind ∧
      entry.call.sessionKey = key ∧ rt.bodies entry.sender = .waiting
  waiting : ∀ i call, rt.calls i = some call → rt.bodies i = .waiting →
    (rt.pending call.kind).lookup call.sessionKey = some ⟨i, call⟩
  fresh : ∀ i, rt.nextCall ≤ i → rt.calls i = none

/-- The two runtimes have the same calls, with the same bodies and entries. -/
structure SameCalls (u v : BrowserRuntime E) : Prop where
  calls : v.calls = u.calls
  nextCall : v.nextCall = u.nextCall
  bodies : v.bodies = u.bodies
  pending : v.pending = u.pending

namespace Registered

theorem congr {u v : BrowserRuntime E} (h : u.Registered) (hsame : SameCalls u v) :
    v.Registered := by
  refine ⟨?_, ?_, ?_⟩
  · rw [hsame.calls, hsame.bodies, hsame.pending]
    exact h.entry
  · rw [hsame.calls, hsame.bodies, hsame.pending]
    exact h.waiting
  · rw [hsame.calls, hsame.nextCall]
    exact h.fresh

/-- An entry is taken, and its call goes on. -/
theorem take (h : rt.Registered) {kind : DialKind} {key : BrowserSessionKey}
    {entry : PendingEntry E} (hentry : (rt.pending kind).lookup key = some entry)
    {phase : DialPhase E} (hphase : phase ≠ .waiting) :
    ((rt.setBody entry.sender phase).setPending kind ((rt.pending kind).erase key)).Registered := by
  obtain ⟨hcall, hkind, hkey, hbody⟩ := h.entry kind key entry hentry
  refine ⟨fun kind' key' entry' hlookup => ?_, fun i call hcalls hwaits => ?_, h.fresh⟩
  · obtain ⟨hne, hlookup⟩ := lookup_erase_pending.mp hlookup
    obtain ⟨hcall', hkind', hkey', hbody'⟩ := h.entry kind' key' entry' hlookup
    refine ⟨hcall', hkind', hkey', ?_⟩
    have hsender : entry'.sender ≠ entry.sender := by
      intro heq
      rw [heq, hcall] at hcall'
      obtain heq' := Option.some.inj hcall'
      exact hne ⟨by rw [← hkind', ← heq', hkind], by rw [← hkey', ← heq', hkey]⟩
    exact (Function.update_of_ne hsender _ _).trans hbody'
  · have hi : i ≠ entry.sender := by
      rintro rfl
      exact hphase ((setBody_self ..).symm.trans hwaits)
    have hwaits' : rt.bodies i = .waiting := (Function.update_of_ne hi _ _).symm.trans hwaits
    have hlookup := h.waiting i call hcalls hwaits'
    refine lookup_erase_pending.mpr ⟨?_, hlookup⟩
    rintro ⟨rfl, rfl⟩
    exact hi (congrArg PendingEntry.sender (Option.some.inj (hlookup.symm.trans hentry)))

theorem dropSender (h : rt.Registered) (kind : DialKind) (key : BrowserSessionKey) :
    (rt.dropSender kind key).Registered := by
  cases hentry : (rt.pending kind).lookup key with
  | none =>
    rw [dropSender_none hentry]
    exact h
  | some entry =>
    rw [dropSender_some hentry]
    exact h.take hentry (by simp)

theorem completePending (h : rt.Registered) {kind : DialKind}
    {next : PendingAction → DialCall E → DialPhase E}
    (hnext : ∀ action call, next action call ≠ .waiting) (key : BrowserSessionKey)
    (action : Option PendingAction) :
    (rt.completePending kind next key action).Registered := by
  rcases rt.completePending_cases kind next key action with
    ⟨heq, -⟩ | ⟨decided, entry, -, hentry, heq⟩
  · rw [heq]
    exact h
  · rw [heq]
    exact (h.take hentry (hnext decided entry.call)).congr ⟨rfl, rfl, rfl, rfl⟩

theorem completeFromSession (h : rt.Registered) (key : Option BrowserSessionKey)
    (session : Option (BrowserSessionSnapshot E)) (diagnostic : Option String) :
    (rt.completeFromSession key session diagnostic).Registered := by
  cases key with
  | none => exact h
  | some key =>
    cases session with
    | none => exact h
    | some session =>
      rw [completeFromSession_some]
      refine (h.completePending (fun action call => ?_) key _).completePending
        (fun action call => ?_) key _
      · cases action <;> simp [decidedDial]
      · cases action <;> simp [decidedPrepare]

/-- The body of a call goes on, without waiting. -/
theorem setBody (h : rt.Registered) {i : ℕ} {phase : DialPhase E} (hbody : rt.bodies i ≠ .waiting)
    (hphase : phase ≠ .waiting) : (rt.setBody i phase).Registered := by
  refine ⟨fun kind key entry hlookup => ?_, fun j call hcall hwaits => ?_, h.fresh⟩
  · obtain ⟨hcall, hkind, hkey, hwaits⟩ := h.entry kind key entry hlookup
    refine ⟨hcall, hkind, hkey, (Function.update_of_ne ?_ _ _).trans hwaits⟩
    rintro rfl
    exact hbody hwaits
  · have hj : j ≠ i := by
      rintro rfl
      exact hphase ((setBody_self ..).symm.trans hwaits)
    exact h.waiting j call hcall ((Function.update_of_ne hj _ _).symm.trans hwaits)

theorem start (h : rt.Registered) {call : DialCall E} {phase : DialPhase E}
    (hphase : phase ≠ .waiting) {relayDialed : Bool} :
    (rt.start call phase relayDialed).Registered := by
  refine ⟨fun kind key entry hlookup => ?_, fun j call' hcall hwaits => ?_, fun j hj => ?_⟩
  · obtain ⟨hcall, hkind, hkey, hwaits⟩ := h.entry kind key entry hlookup
    have hne : entry.sender ≠ rt.nextCall := by
      intro heq
      rw [heq, h.fresh _ le_rfl] at hcall
      exact absurd hcall (by simp)
    exact ⟨(Function.update_of_ne hne _ _).trans hcall, hkind, hkey,
      (Function.update_of_ne hne _ _).trans hwaits⟩
  · have hne : j ≠ rt.nextCall := by
      rintro rfl
      exact hphase ((setBody_self ..).symm.trans hwaits)
    exact h.waiting j call' ((Function.update_of_ne hne _ _).symm.trans hcall)
      ((Function.update_of_ne hne _ _).symm.trans hwaits)
  · have hne : j ≠ rt.nextCall := by
      rintro rfl
      exact absurd hj (Nat.not_succ_le_self _)
    exact (Function.update_of_ne hne _ _).trans (h.fresh j (Nat.le_of_succ_le hj))

theorem insert (h : rt.Registered) {i : ℕ} {call : DialCall E} (hcall : rt.calls i = some call)
    (hbody : rt.bodies i ≠ .waiting)
    (hnone : (rt.pending call.kind).lookup call.sessionKey = none) :
    ((rt.setPending call.kind ((rt.pending call.kind).insert call.sessionKey ⟨i, call⟩)).setBody i
      .waiting).Registered := by
  have hpending : ∀ kind key, ((rt.setPending call.kind ((rt.pending call.kind).insert
      call.sessionKey ⟨i, call⟩)).pending kind).lookup key =
        if kind = call.kind ∧ key = call.sessionKey then some ⟨i, call⟩
        else (rt.pending kind).lookup key := by
    intro kind key
    rw [setPending_pending]
    by_cases hkind : kind = call.kind
    · rw [if_pos hkind, Table.lookup_insert_eq, hkind]
      simp
    · rw [if_neg hkind, if_neg (fun h => hkind h.1)]
  refine ⟨fun kind key entry hlookup => ?_, fun j call' hcall' hwaits => ?_, h.fresh⟩
  · have hlookup' := (hpending kind key).symm.trans hlookup
    split_ifs at hlookup' with hentry
    · obtain rfl := Option.some.inj hlookup'
      exact ⟨hcall, hentry.1.symm, hentry.2.symm, setBody_self ..⟩
    · obtain ⟨hcalls, hkind, hkey, hwaits⟩ := h.entry kind key entry hlookup'
      refine ⟨hcalls, hkind, hkey, (Function.update_of_ne ?_ _ _).trans hwaits⟩
      rintro rfl
      exact hbody hwaits
  · refine (hpending call'.kind call'.sessionKey).trans ?_
    by_cases hj : j = i
    · subst hj
      obtain rfl := Option.some.inj (hcall.symm.trans hcall')
      exact if_pos ⟨rfl, rfl⟩
    · have hwaits' : rt.bodies j = .waiting := (setBody_ne _ hj _).symm.trans hwaits
      have hlookup := h.waiting j call' hcall' hwaits'
      refine (if_neg ?_).trans hlookup
      rintro ⟨hkind, hkey⟩
      rw [hkind, hkey, hnone] at hlookup
      exact absurd hlookup (by simp)

end Registered

/-- What dropping a sender does to the body of a call. -/
theorem dropSender_body (hreg : rt.Registered) (kind : DialKind) (key : BrowserSessionKey) (i : ℕ) :
    (rt.dropSender kind key).bodies i = rt.bodies i ∨
      rt.bodies i = .waiting ∧ (∃ call, rt.calls i = some call ∧ call.sessionKey = key) ∧
        (rt.dropSender kind key).bodies i = .completed (.error kind.channelClosed) := by
  cases hentry : (rt.pending kind).lookup key with
  | none =>
    rw [dropSender_none hentry]
    exact Or.inl rfl
  | some entry =>
    rw [dropSender_some hentry]
    obtain ⟨hcall, -, hkey, hwaits⟩ := hreg.entry kind key entry hentry
    by_cases hi : i = entry.sender
    · subst hi
      exact Or.inr ⟨hwaits, ⟨_, hcall, hkey⟩, setBody_self ..⟩
    · exact Or.inl (setBody_ne _ hi _)

theorem dropSender_lookup (rt : BrowserRuntime E) (kind : DialKind) (key : BrowserSessionKey) :
    ((rt.dropSender kind key).pending kind).lookup key = none := by
  cases hentry : (rt.pending kind).lookup key with
  | none =>
    rw [dropSender_none hentry]
    exact hentry
  | some entry =>
    rw [dropSender_some hentry, setPending_pending, if_pos rfl]
    exact AList.lookup_erase ..

theorem Registered.register (h : rt.Registered) {i : ℕ} {call : DialCall E}
    (hcall : rt.calls i = some call) (hbody : rt.bodies i ≠ .waiting) :
    (rt.register i call).Registered := by
  have hsame := rt.dropSender_sameTasks call.kind call.sessionKey
  have hbody' : (rt.dropSender call.kind call.sessionKey).bodies i ≠ .waiting := by
    rcases dropSender_body h call.kind call.sessionKey i with heq | ⟨hwaits, -⟩
    · rw [heq]
      exact hbody
    · exact absurd hwaits hbody
  have hinsert := (h.dropSender call.kind call.sessionKey).insert
    ((congrFun hsame.calls i).trans hcall) hbody' (rt.dropSender_lookup call.kind call.sessionKey)
  exact hinsert.congr ⟨rfl, rfl, rfl, rfl⟩

/-- What becomes of a call whose session is decided. -/
def decided (diagnostic : Option String) (nodeClosed : Bool) (action : PendingAction)
    (call : DialCall E) : DialPhase E :=
  match call.kind with
  | .application => decidedDial diagnostic action call
  | .prepare => decidedPrepare nodeClosed action call

theorem completePending_body (hreg : rt.Registered) (kind : DialKind)
    (next : PendingAction → DialCall E → DialPhase E) (key : BrowserSessionKey)
    (action : Option PendingAction) (i : ℕ) :
    ((rt.completePending kind next key action).bodies i = rt.bodies i ∧
        (rt.completePending kind next key action).decisions i = rt.decisions i) ∨
      ∃ call decided, rt.calls i = some call ∧ call.kind = kind ∧ call.sessionKey = key ∧
        action = some decided ∧ rt.bodies i = .waiting ∧
        (rt.completePending kind next key action).bodies i = next decided call ∧
        (rt.completePending kind next key action).decisions i = some decided := by
  rcases rt.completePending_cases kind next key action with
    ⟨heq, -⟩ | ⟨decided, entry, haction, hentry, heq⟩
  · rw [heq]
    exact Or.inl ⟨rfl, rfl⟩
  · rw [heq]
    obtain ⟨hcall, hkind, hkey, hwaits⟩ := hreg.entry kind key entry hentry
    by_cases hi : i = entry.sender
    · subst hi
      exact Or.inr ⟨_, decided, hcall, hkind, hkey, haction, hwaits, setBody_self ..,
        Function.update_self ..⟩
    · exact Or.inl ⟨setBody_ne _ hi _, Function.update_of_ne hi ..⟩

/-- **A completion and a call**: it leaves the call alone, or decides the call that waits for the
session. -/
theorem completeFromSession_body (hreg : rt.Registered) (key : Option BrowserSessionKey)
    (session : Option (BrowserSessionSnapshot E)) (diagnostic : Option String) (i : ℕ) :
    ((rt.completeFromSession key session diagnostic).bodies i = rt.bodies i ∧
        (rt.completeFromSession key session diagnostic).decisions i = rt.decisions i) ∨
      ∃ call s action, rt.calls i = some call ∧ key = some call.sessionKey ∧ session = some s ∧
        pendingAction s = some action ∧ rt.bodies i = .waiting ∧
        (rt.completeFromSession key session diagnostic).bodies i =
          decided diagnostic rt.node.closed action call ∧
        (rt.completeFromSession key session diagnostic).decisions i = some action := by
  cases key with
  | none => exact Or.inl ⟨rfl, rfl⟩
  | some key =>
    cases session with
    | none => exact Or.inl ⟨rfl, rfl⟩
    | some s =>
      rw [completeFromSession_some]
      have hreg' : (rt.completePending .application (decidedDial diagnostic) key
          (pendingAction s)).Registered := by
        refine hreg.completePending (fun action call => ?_) key _
        cases action <;> simp [decidedDial]
      have hsame := rt.completePending_sameTasks .application (decidedDial diagnostic) key
        (pendingAction s)
      rcases completePending_body hreg .application (decidedDial diagnostic) key (pendingAction s) i
        with ⟨hbody, hdecision⟩ |
          ⟨call, action, hcall, hkind, rfl, haction, hwaits, hbody, hdecision⟩
      · rcases completePending_body hreg' .prepare (decidedPrepare rt.node.closed) key
          (pendingAction s) i with
          ⟨hbody', hdecision'⟩ |
            ⟨call, action, hcall, hkind, rfl, haction, hwaits, hbody', hdecision'⟩
        · exact Or.inl ⟨hbody'.trans hbody, hdecision'.trans hdecision⟩
        · refine Or.inr ⟨call, s, action, (congrFun hsame.calls i).symm.trans hcall, rfl, rfl,
            haction, hbody.symm.trans hwaits, ?_, hdecision'⟩
          rw [hbody', decided, hkind]
      · have hdone : (rt.completePending .application (decidedDial diagnostic) call.sessionKey
            (pendingAction s)).bodies i ≠ .waiting := by
          rw [hbody]
          cases action <;> simp [decidedDial]
        rcases completePending_body hreg' .prepare (decidedPrepare rt.node.closed) call.sessionKey
          (pendingAction s) i with ⟨hbody', hdecision'⟩ | ⟨-, -, -, -, -, -, hwaits', -⟩
        · refine Or.inr ⟨call, s, action, hcall, rfl, rfl, haction, hwaits, ?_,
            hdecision'.trans hdecision⟩
          rw [hbody', hbody, decided, hkind]
        · exact absurd hwaits' hdone

/-- A completion registers no call. -/
theorem lookup_completePending {kind kind' : DialKind}
    {next : PendingAction → DialCall E → DialPhase E} {key key' : BrowserSessionKey}
    {action : Option PendingAction} {entry : PendingEntry E}
    (h : ((rt.completePending kind next key action).pending kind').lookup key' = some entry) :
    (rt.pending kind').lookup key' = some entry ∧
      (kind' = kind → key' = key → action = none) := by
  rcases rt.completePending_cases kind next key action with
    ⟨heq, hnone⟩ | ⟨decided, taken, -, -, heq⟩
  · rw [heq] at h
    refine ⟨h, ?_⟩
    rintro rfl rfl
    rcases hnone with hnone | hnone
    · exact hnone
    · exact absurd (hnone.symm.trans h) (by simp)
  · rw [heq] at h
    obtain ⟨hne, hlookup⟩ := lookup_erase_pending.mp h
    exact ⟨hlookup, fun hkind hkey => absurd ⟨hkind, hkey⟩ hne⟩

/-- A completion registers no call, and leaves none pending for a session that is decided. -/
theorem lookup_completeFromSession {kind : DialKind} {key : Option BrowserSessionKey}
    {session : Option (BrowserSessionSnapshot E)} {diagnostic : Option String}
    {key' : BrowserSessionKey} {entry : PendingEntry E}
    (h : ((rt.completeFromSession key session diagnostic).pending kind).lookup key' = some entry) :
    (rt.pending kind).lookup key' = some entry ∧
      ∀ s, key = some key' → session = some s → pendingAction s = none := by
  cases key with
  | none => exact ⟨h, fun s hkey => absurd hkey (by simp)⟩
  | some key =>
    cases session with
    | none => exact ⟨h, fun s _ hs => absurd hs (by simp)⟩
    | some s =>
      rw [completeFromSession_some] at h
      obtain ⟨h', hprepare⟩ := lookup_completePending h
      obtain ⟨h'', happlication⟩ := lookup_completePending h'
      refine ⟨h'', fun t hkey ht => ?_⟩
      obtain rfl := Option.some.inj hkey
      obtain rfl := Option.some.inj ht
      cases kind with
      | application => exact happlication rfl rfl
      | prepare => exact hprepare rfl rfl

end Completions

end BrowserRuntime

end IrohWebRtc
