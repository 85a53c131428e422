import IrohWebRtc.Browser.DialSteps

/-!
# Calls that wait for ever

A call of the runtime waits on a oneshot channel, and what sends on it are the tasks that change
its session.  The receiver loop of the call is one of them, until it returns without a word; the
RTC setup is another, until its last candidate is sent.  When both have gone and the other side
has never answered, no channel opens and nothing is left that could complete the call.

A call that waits is not yet stranded, and no finite run shows that it waits for ever.  `Stranded`
is therefore a condition on one state: the call waits, and none of the tasks that work for it is
left.  Nothing in the runtime limits how long a call waits, so what could still complete it has to
come from outside, as the closing of the node does.

* `Stranded`: the call is pending, its loop has returned, its setup has finished and no answer was
  applied.
* `Strands`: the steps that bring a pending call there.
* `noStrandedCalls_iff`: a run strands no call exactly when none of its steps does; and as long as
  channels open after answers only, the calls whose loop has returned early are then completed by
  the fallback or by an error.

The second part is what can be relied on: a call whose loop was lost, but whose setup has failed
or whose session was ended for it, has been answered.
-/

namespace IrohWebRtc

namespace DialPhase

variable {E : Type*}

/-- The call was registered as pending. -/
def PastBootstrap : DialPhase E → Prop
  | .waiting | .webRtcSpawned | .webRtcDialing _ | .relaySpawned | .relayDialing | .completed _
  | .returned => True
  | _ => False

/-- Where a call can be that was decided by `decision`. -/
def Follows (decision : Option PendingAction) : DialPhase E → Prop
  | .webRtcSpawned | .webRtcDialing _ => decision = some .webRtc
  | .relaySpawned | .relayDialing => decision = some .relay
  | .completed outcome =>
    decision = some .webRtc ∨ decision = some .relay ∨ ∃ err, outcome = .error err
  | _ => True

end DialPhase

namespace BrowserRuntime

section

variable {E : Type*} {rt rt' : BrowserRuntime E}

/-- The call is registered as pending, and the answer of the other side was not applied. -/
structure Unanswered (rt : BrowserRuntime E) (i : ℕ) (call : DialCall E) : Prop where
  started : rt.calls i = some call
  pending : (rt.pending call.kind).lookup call.sessionKey = some ⟨i, call⟩
  answered : call.sessionKey ∉ rt.answered

/-- The call waits, and the tasks that could complete it have gone. -/
def Stranded (rt : BrowserRuntime E) (i : ℕ) : Prop :=
  ∃ call, rt.Unanswered i call ∧ rt.loops (.dialer i) = .ended ∧ rt.setups i = .finished

variable [DecidableEq E] [EndpointKey E]

/-- The setup ends without completing its call: the last candidate is sent, or it fails when the
node is closed. -/
inductive EndsSetup (rt : BrowserRuntime E) (i : ℕ) (call : DialCall E) (ev : RuntimeEvent E) :
    Prop where
  | drained (hev : ev = .localIce i (.ok true)) (hsetup : rt.setups i = .drainingIce) :
      EndsSetup rt i call ev
  | failed (hfails : rt.FailsSetup i call ev) (hclosed : rt.node.closed = true) :
      EndsSetup rt i call ev

/-- The event takes the last task from a pending call that was not answered. -/
inductive Strands (rt : BrowserRuntime E) (ev : RuntimeEvent E) (i : ℕ) : Prop where
  | loop {call : DialCall E} (hcall : rt.Unanswered i call) (hends : rt.EndsLoop (.dialer i) ev)
      (hsetup : rt.setups i = .finished) : Strands rt ev i
  | setup {call : DialCall E} (hcall : rt.Unanswered i call) (hends : rt.EndsSetup i call ev)
      (hloop : rt.loops (.dialer i) = .ended) : Strands rt ev i

/-! ## A step that strands a call -/

variable [Blake3]

/-- A loop that returns completes nothing. -/
theorem step_of_endsLoop {loop : LoopId} {ev : RuntimeEvent E} (hends : rt.EndsLoop loop ev)
    (h : rt.step ev = some rt') :
    ∃ node, rt' = { rt with node := node }.setLoop loop .ended := by
  cases hends with
  | streamError hloop =>
    rw [step, streamError, hloop] at h
    exact ⟨rt.node, (Option.some.inj h).symm⟩
  | closed hloop hclosed =>
    rw [step, receiveSignal, hloop] at h
    dsimp only at h
    rw [if_pos hclosed] at h
    exact ⟨rt.node, (Option.some.inj h).symm⟩
  | @rejected signal created err hloop hclosed hrejected =>
    rw [step, receiveSignal, hloop] at h
    dsimp only at h
    rw [if_neg (by simp [hclosed])] at h
    rcases hhandle : rt.node.handleBootstrapSignal ⟨signal, none⟩ with ⟨result, node⟩
    rw [hhandle] at h hrejected
    obtain rfl : result = .error err := hrejected
    exact ⟨node, (Option.some.inj h).symm⟩
  | @refused signal created result hloop hclosed haccepted hrefused =>
    rw [step, receiveSignal, hloop] at h
    dsimp only at h
    rw [if_neg (by simp [hclosed])] at h
    rcases hhandle : rt.node.handleBootstrapSignal ⟨signal, none⟩ with ⟨result', node⟩
    rw [hhandle] at h haccepted hrefused
    obtain rfl : result' = .ok result := haccepted
    dsimp only at h hrefused
    rw [hrefused] at h
    exact ⟨node, (Option.some.inj h).symm⟩
  | notApplied hloop =>
    rw [step, signalApplied, hloop] at h
    exact ⟨rt.node, (Option.some.inj h).symm⟩

/-- A setup that ends in one of these ways completes nothing either. -/
theorem step_of_endsSetup {i : ℕ} {call : DialCall E} (hcall : rt.calls i = some call)
    {ev : RuntimeEvent E} (hends : rt.EndsSetup i call ev) (h : rt.step ev = some rt') :
    rt' = rt.setSetup i .finished := by
  have hsetupFails : ∀ message, rt.node.closed = true →
      rt.setupFails i call message = rt.setSetup i .finished := by
    intro message hclosed
    rw [setupFails, applyRtcLifecycleResult]
    exact if_pos hclosed
  cases hends with
  | drained hev hsetup =>
    subst hev
    rw [step, localIce, hcall, hsetup] at h
    exact (Option.some.inj h).symm
  | failed hfails hclosed =>
    cases hfails with
    | starts hsetup hfails =>
      rw [step, setupStarts, hcall, hsetup] at h
      dsimp only at h
      split_ifs at h
      · exact (Option.some.inj h).symm.trans (hsetupFails _ hclosed)
      · exact (Option.some.inj h).symm.trans (hsetupFails _ hclosed)
    | offer hsetup =>
      rw [step, offerCreated, hcall, hsetup] at h
      exact (Option.some.inj h).symm.trans (hsetupFails _ hclosed)
    | ice hsetup =>
      rw [step, localIce, hcall, hsetup] at h
      exact (Option.some.inj h).symm.trans (hsetupFails _ hclosed)

theorem stranded_of_strands {ev : RuntimeEvent E} {i : ℕ} (hstrands : rt.Strands ev i)
    (h : rt.step ev = some rt') : rt'.Stranded i := by
  cases hstrands with
  | @loop call hcall hends hsetup =>
    obtain ⟨node, rfl⟩ := step_of_endsLoop hends h
    exact ⟨call, ⟨hcall.started, hcall.pending, hcall.answered⟩, Function.update_self .., hsetup⟩
  | @setup call hcall hends hloop =>
    obtain rfl := step_of_endsSetup hcall.started hends h
    exact ⟨call, ⟨hcall.started, hcall.pending, hcall.answered⟩, hloop, Function.update_self ..⟩

/-! ## A step that leaves a call stranded -/

omit [DecidableEq E] [Blake3] in
/-- A failure of WebRTC that an open node is told of ends the session. -/
theorem handleRtcLifecycleResult_webRtcFailed {node : BrowserRuntimeNode E}
    (hclosed : node.closed = false) {key : BrowserSessionKey} {s : BrowserSessionState E}
    (hs : node.session key = some s) (message : String) :
    ∃ result node', node.handleRtcLifecycleResult ⟨key, .webRtcFailed message, none⟩ =
        (.ok result, node') ∧
      result.sessionKey = key ∧
      result.session = some (s.recordTerminalSent s.failureReason).2 := by
  have hlookup : node.sessions.lookup key = some s := hs
  unfold BrowserRuntimeNode.handleRtcLifecycleResult
  simp only [BrowserRuntimeNode.decideWebrtcFailure, BrowserRuntimeNode.emitTerminalDecision,
    hclosed, hlookup, Bool.false_eq_true, if_false, Option.getD_none,
    BrowserRuntimeNode.lifecycleResultOfDecision, BrowserRuntimeNode.sessionSnapshot,
    AList.lookup_insert]
  exact ⟨_, _, rfl, rfl, rfl⟩

omit [DecidableEq E] [Blake3] in
/-- A setup that fails on an open node leaves no call pending for its session. -/
theorem lookup_setupFails (hclosed : rt.node.closed = false) {i : ℕ} {call : DialCall E}
    {s : BrowserSessionState E} (hs : rt.node.session call.sessionKey = some s) {message : String}
    (kind : DialKind) :
    ((rt.setupFails i call message).pending kind).lookup call.sessionKey = none := by
  obtain ⟨result, node', hhandle, hkey, hsession⟩ :=
    handleRtcLifecycleResult_webRtcFailed hclosed hs message
  cases hentry : ((rt.setupFails i call message).pending kind).lookup call.sessionKey with
  | none => rfl
  | some entry =>
    rw [setupFails, applyRtcLifecycleResult, if_neg (by simp [setSetup, hclosed])] at hentry
    have hhandle' : (rt.setSetup i .finished).node.handleRtcLifecycleResult
        ⟨call.sessionKey, .webRtcFailed message, none⟩ = (.ok result, node') := hhandle
    rw [hhandle'] at hentry
    have hnone := (lookup_completeFromSession hentry).2 _ (congrArg some hkey) hsession
    exact absurd hnone (pendingAction_applyTerminalReason _ _)

omit [Blake3] in
/-- The events of a setup leave the receiver loops alone. -/
theorem FailsSetup.not_endsLoop {i : ℕ} {call : DialCall E} {ev : RuntimeEvent E}
    (hfails : rt.FailsSetup i call ev) (loop : LoopId) : ¬ rt.EndsLoop loop ev := by
  intro hends
  cases hfails <;> cases hends

theorem loop_ended_before {ev : RuntimeEvent E} (hmove : rt.Move ev rt') {loop : LoopId}
    (hends : ¬ rt.EndsLoop loop ev) (hended : rt'.loops loop = .ended) :
    rt.loops loop = .ended := by
  rcases step_loop hmove loop with hsame | hloopMove
  · exact hsame.symm.trans hended
  · cases hloopMove with
    | ended hends' => exact absurd hends' hends
    | receiving h | applying _ _ _ h => exact absurd (h.symm.trans hended) (by simp)

/-- A call that is stranded after a step was stranded before it, or the step has stranded it. -/
theorem strands_of_stranded (hwf : rt.WellFormed) {ev : RuntimeEvent E}
    (h : rt.step ev = some rt') {i : ℕ} (hstranded : rt'.Stranded i) :
    rt.Stranded i ∨ rt.Strands ev i := by
  have hmove := step_move h
  obtain ⟨call, ⟨hcall', hpending', hanswered'⟩, hloop', hsetup'⟩ := hstranded
  have hpending : (rt.pending call.kind).lookup call.sessionKey = some ⟨i, call⟩ := by
    rcases step_lookup hmove hpending' with hpending | hspawned
    · exact hpending
    · exact absurd (hspawned.symm.trans hsetup') (by simp)
  have hcall : rt.calls i = some call := (hwf.registered.entry _ _ _ hpending).1
  have hunanswered : rt.Unanswered i call :=
    ⟨hcall, hpending, fun hmem => hanswered' (step_answered hmove hmem)⟩
  rcases step_setup hmove i with hsetup | hsetupMove
  · have hsetup : rt.setups i = .finished := hsetup.symm.trans hsetup'
    by_cases hends : rt.EndsLoop (.dialer i) ev
    · exact Or.inr (.loop hunanswered hends hsetup)
    · exact Or.inl ⟨call, hunanswered, loop_ended_before hmove hends hloop', hsetup⟩
  · cases hsetupMove with
    | spawned _ _ _ _ h | started _ h | offered _ h => exact absurd (h.symm.trans hsetup') (by simp)
    | drained hev hdraining =>
      subst hev
      have hloop := loop_ended_before hmove (by rintro ⟨⟩) hloop'
      exact Or.inr (.setup hunanswered (.drained rfl hdraining) hloop)
    | @failed call' message hcallFails hfails heq =>
      obtain rfl := Option.some.inj (hcallFails.symm.trans hcall)
      cases hclosed : rt.node.closed with
      | true =>
        have hloop := loop_ended_before hmove (hfails.not_endsLoop _) hloop'
        exact Or.inr (.setup hunanswered (.failed hfails hclosed) hloop)
      | false =>
        -- the failure has completed the call
        obtain ⟨s, hs⟩ := hwf.session i call' hcall
        rw [heq, lookup_setupFails hclosed hs] at hpending'
        exact absurd hpending' (by simp)

/-! ## Runs -/

/-- **No call is stranded in a run exactly when no step strands one.** -/
theorem not_stranded_iff_guarded (hwf : rt.WellFormed) {events : List (RuntimeEvent E)}
    (hrun : Runs.run step rt events = some rt') :
    (∀ pre post u, events = pre ++ post → Runs.run step rt pre = some u → ∀ i, ¬ u.Stranded i) ↔
      (∀ i, ¬ rt.Stranded i) ∧
        Runs.Guarded step (fun u ev => ∀ i, ¬ u.Strands ev i) rt events := by
  refine Runs.forall_prefix_iff_guarded (I := WellFormed) (P := fun u => ∀ i, ¬ u.Stranded i)
    (fun u ev v hu hstep => hu.step hstep) (fun u ev v hu hnone hstep => ?_) hwf hrun
  constructor
  · intro hnone' i hstrands
    exact hnone' i (stranded_of_strands hstrands hstep)
  · intro hguard i hstranded
    rcases strands_of_stranded hu hstep hstranded with hold | hstrands
    · exact hnone i hold
    · exact hguard i hstrands

/-! ## Calls that were not answered are completed without WebRTC -/

/-- A data channel has no events before the answer of the other side was applied. -/
def ChannelAfterAnswer (rt : BrowserRuntime E) (ev : RuntimeEvent E) : Prop :=
  ∀ key event, ev = .dataChannel key event →
    ∀ i call, rt.calls i = some call → call.sessionKey = key → key ∈ rt.answered

/-- Whatever shows an open channel for a call shows it after the answer. -/
structure OpenAfterAnswer (rt : BrowserRuntime E) : Prop where
  session : ∀ i call s, rt.calls i = some call → rt.node.session call.sessionKey = some s →
    s.channelAttachment = .open → call.sessionKey ∈ rt.answered
  kept : ∀ loop signal result s i call, rt.loops loop = .applying signal result →
    result.sessionKey = some call.sessionKey → result.session = some s →
    s.channelAttachment = .open → rt.calls i = some call → call.sessionKey ∈ rt.answered
  decision : ∀ i call, rt.calls i = some call → rt.decisions i = some .webRtc →
    call.sessionKey ∈ rt.answered

omit [DecidableEq E] [Blake3] in
/-- The runtime tells the node of an open channel when a channel says so. -/
theorem Issues.channelOpens {ev : RuntimeEvent E} {key : BrowserSessionKey}
    (h : rt.Issues ev (.rtcLifecycle ⟨key, .dataChannelOpen, none⟩)) :
    ev = .dataChannel key .dataChannelOpen := by
  cases h with
  | channel => rfl
  | direct hdirect => exact absurd hdirect (by simp [NodeOp.isDirect])

theorem OpenAfterAnswer.step (hwf : rt.WellFormed) (hopen : rt.OpenAfterAnswer)
    {ev : RuntimeEvent E} (hchannel : rt.ChannelAfterAnswer ev) (hfresh : rt.FreshDial ev)
    (h : rt.step ev = some rt') : rt'.OpenAfterAnswer := by
  have hmove := step_move h
  have hsession : ∀ i call s, rt'.calls i = some call → rt'.node.session call.sessionKey = some s →
      s.channelAttachment = .open → call.sessionKey ∈ rt'.answered := by
    intro i call s hcall hs hsopen
    rcases step_call hmove hcall with hcall | hstarts
    · refine step_answered hmove ?_
      rcases step_node hmove with hnode | ⟨op, hissues, hop⟩
      · rw [hnode] at hs
        exact hopen.session i call s hcall hs hsopen
      · rcases BrowserRuntimeNode.step_session hwf.wellKeyed hop call.sessionKey with
          hsame | ⟨t, ht, horigin⟩
        · exact hopen.session i call s hcall (hsame.symm.trans hs) hsopen
        · obtain rfl := Option.some.inj (ht.symm.trans hs)
          rcases horigin.opens hsopen with rfl | ⟨s, hs, hsopen⟩
          · exact hchannel _ _ hissues.channelOpens i call hcall rfl
          · exact hopen.session i call s hcall hs hsopen
    · obtain ⟨dialId, generation, hnew⟩ := hstarts.session
      obtain rfl := Option.some.inj (hs.symm.trans hnew)
      exact absurd hsopen (BrowserSessionState.new_ne_open _ _ _ _ _ _ _ _)
  refine ⟨hsession, ?_, ?_⟩
  · intro loop signal result s i call hloop hkey hs hsopen hcall
    rcases step_loop hmove loop with hsame | hloopMove
    · rw [hsame] at hloop
      rcases step_call hmove hcall with hcall | hstarts
      · refine step_answered hmove ?_
        exact hopen.kept loop signal result s i call hloop hkey hs hsopen hcall
      · -- the signal would be for a session that the new call has the key of
        obtain ⟨t, ht⟩ := hwf.kept loop signal result _ hloop hkey
        exact absurd (ht.symm.trans (hstarts.unused hfresh)) (by simp)
    · cases hloopMove with
      | receiving h => exact absurd (h.symm.trans hloop) (by simp)
      | ended hends h => exact absurd (h.symm.trans hloop) (by simp)
      | applying hkey' hresult hsession' h =>
        obtain ⟨rfl, rfl⟩ := LoopPhase.applying.inj (h.symm.trans hloop)
        obtain rfl := Option.some.inj (hkey'.symm.trans hkey)
        obtain rfl := Option.some.inj (hresult.symm.trans hs)
        exact hsession i call _ hcall hsession' hsopen
  · intro i call hcall hdecision
    rcases step_call hmove hcall with hcall | hstarts
    · rcases (step_body hwf.registered hmove hcall).2 with hsame | hdecides
      · exact step_answered hmove (hopen.decision i call hcall (hsame ▸ hdecision))
      · cases hdecides with
        | intro hshows haction hwaits hbody hdecision' =>
          obtain rfl := Option.some.inj (hdecision'.symm.trans hdecision)
          have hsopen := pendingAction_eq_webRtc.mp haction
          cases hshows with
          | current hs =>
            exact hsession i call _ (call_of_step hwf.registered hmove hcall) hs hsopen
          | kept hloop hkey hs =>
            exact step_answered hmove (hopen.kept _ _ _ _ i call hloop hkey hs hsopen hcall)
    · exact absurd (hstarts.undecided.symm.trans hdecision) (by simp)

/-- The registered calls are past their bootstrap, and go on as they were decided. -/
structure FollowsDecisions (rt : BrowserRuntime E) : Prop where
  registered : ∀ i, rt.setups i ≠ .notSpawned →
    ∃ call, rt.calls i = some call ∧ (rt.bodies i).PastBootstrap
  follows : ∀ i call, rt.calls i = some call → (rt.bodies i).Follows (rt.decisions i)

omit [DecidableEq E] [EndpointKey E] [Blake3] in
/-- What a call is decided by says how it goes on. -/
theorem Decides.follows {i : ℕ} {call : DialCall E} (h : rt.Decides rt' i call) :
    (rt'.bodies i).PastBootstrap ∧ (rt'.bodies i).Follows (rt'.decisions i) := by
  obtain ⟨-, -, -, hbody, hdecision⟩ := h
  rw [hbody, hdecision, decided]
  rename_i s action diagnostic
  cases hkind : call.kind with
  | application =>
    cases action <;> simp [decidedDial, DialPhase.PastBootstrap, DialPhase.Follows]
  | prepare =>
    cases action <;> simp [decidedPrepare, DialPhase.PastBootstrap, DialPhase.Follows]

theorem FollowsDecisions.step (hreg : rt.Registered) (hfollows : rt.FollowsDecisions)
    {ev : RuntimeEvent E} (hmove : rt.Move ev rt') : rt'.FollowsDecisions := by
  have hbody : ∀ i call, rt.calls i = some call →
      ((rt.bodies i).PastBootstrap → (rt'.bodies i).PastBootstrap) ∧
        (rt'.bodies i).Follows (rt'.decisions i) := by
    intro i call hcall
    have hold := hfollows.follows i call hcall
    obtain ⟨hbody, hdecision⟩ := step_body hreg hmove hcall
    rcases hdecision with hdecision | hdecides
    · rw [hdecision]
      rcases hbody with hsame | hbodyMove
      · rw [hsame]
        exact ⟨id, hold⟩
      · cases hbodyMove with
        | advanced h =>
          generalize rt.bodies i = p, rt'.bodies i = q at h ⊢
          cases h <;> exact ⟨id, trivial⟩
        | decided hdecides => exact ⟨fun _ => hdecides.follows.1, hdecision ▸ hdecides.follows.2⟩
        | registered _ h' | bootstrapFailed _ _ h' | delegated _ h' | resumed _ h' =>
          rw [h']
          exact ⟨fun _ => trivial, trivial⟩
        | dropped _ _ _ _ h' | taskFailed _ _ _ h' | relayClosed _ _ h'
        | webRtcDialFailed _ _ h' =>
          rw [h']
          exact ⟨fun _ => trivial, Or.inr (Or.inr ⟨_, rfl⟩)⟩
        | webRtcStarted _ h h' | relayStarted _ h h' =>
          rw [h] at hold
          rw [h']
          exact ⟨fun _ => trivial, hold⟩
        | webRtcDialed _ h _ h' =>
          rw [h] at hold
          rw [h']
          exact ⟨fun _ => trivial, Or.inl hold⟩
        | relayDialed h h' =>
          rw [h] at hold
          rw [h']
          exact ⟨fun _ => trivial, Or.inr (Or.inl hold)⟩
    · exact ⟨fun _ => hdecides.follows.1, hdecides.follows.2⟩
  have hregistered : ∀ i, rt.setups i ≠ .notSpawned →
      ∃ call, rt'.calls i = some call ∧ (rt'.bodies i).PastBootstrap := by
    intro i hsetup
    obtain ⟨call, hcall, hpast⟩ := hfollows.registered i hsetup
    exact ⟨call, call_of_step hreg hmove hcall, (hbody i call hcall).1 hpast⟩
  refine ⟨fun i hsetup => ?_, fun i call hcall => ?_⟩
  · rcases step_setup hmove i with hsame | hsetupMove
    · exact hregistered i (hsame ▸ hsetup)
    · cases hsetupMove with
      | spawned hcall hev hsending hwaits h =>
        refine ⟨_, call_of_step hreg hmove hcall, ?_⟩
        rw [hwaits]
        trivial
      | started h h' | offered h h' | drained _ h h' => exact hregistered i (by simp [h])
      | failed hcall hfails heq =>
        refine hregistered i ?_
        cases hfails with
        | starts h | offer h | ice h => simp [h]
  · rcases step_call hmove hcall with hcall | hstarts
    · exact (hbody i call hcall).2
    · rcases hstarts.phase with ⟨h, -⟩ | h | h
      all_goals
        rw [h]
        trivial

/-- The call was completed without WebRTC: it falls back to the relay, or it fails. -/
def CompletedWithoutWebRtc (rt : BrowserRuntime E) (i : ℕ) : Prop :=
  rt.decisions i ≠ some .webRtc ∧
    (rt.decisions i = some .relay ∨ (∃ err, rt.bodies i = .completed (.error err)) ∨
      rt.bodies i = .returned)

omit [DecidableEq E] [EndpointKey E] [Blake3] in
/-- A call that is neither pending nor answered has been completed without WebRTC. -/
theorem completedWithoutWebRtc (hwf : rt.WellFormed) (hopen : rt.OpenAfterAnswer)
    (hfollows : rt.FollowsDecisions) {i : ℕ} {call : DialCall E} (hcall : rt.calls i = some call)
    (hanswered : call.sessionKey ∉ rt.answered) (hsetup : rt.setups i = .finished)
    (hpending : (rt.pending call.kind).lookup call.sessionKey ≠ some ⟨i, call⟩) :
    rt.CompletedWithoutWebRtc i := by
  have hdecision : rt.decisions i ≠ some .webRtc :=
    fun h => hanswered (hopen.decision i call hcall h)
  refine ⟨hdecision, ?_⟩
  obtain ⟨-, -, hpast⟩ := hfollows.registered i (by simp [hsetup])
  have hphase := hfollows.follows i call hcall
  cases hbody : rt.bodies i with
  | waiting => exact absurd (hwf.registered.waiting i call hcall hbody) hpending
  | webRtcSpawned | webRtcDialing =>
    rw [hbody] at hphase
    exact absurd hphase hdecision
  | relaySpawned | relayDialing =>
    rw [hbody] at hphase
    exact Or.inl hphase
  | completed outcome =>
    rw [hbody] at hphase
    rcases hphase with h | h | ⟨err, rfl⟩
    · exact absurd h hdecision
    · exact Or.inl h
    · exact Or.inr (Or.inl ⟨err, rfl⟩)
  | returned => exact Or.inr (Or.inr rfl)
  | notStarted | dialingRelay | bindingEndpoint | connecting | openingChannel | sendingRequest =>
    rw [hbody] at hpast
    exact hpast.elim

omit [DecidableEq E] [EndpointKey E] [Blake3] in
theorem openAfterAnswer_new (node : BrowserRuntimeNode E) : (new node).OpenAfterAnswer := by
  refine ⟨fun i call s hcall => ?_, fun loop signal result s i call hloop => ?_,
    fun i call hcall => ?_⟩
  · exact absurd hcall (by simp [new])
  · exact absurd hloop (by simp [new])
  · exact absurd hcall (by simp [new])

omit [DecidableEq E] [EndpointKey E] [Blake3] in
theorem followsDecisions_new (node : BrowserRuntimeNode E) : (new node).FollowsDecisions := by
  refine ⟨fun i hsetup => ?_, fun i call hcall => ?_⟩
  · exact absurd rfl hsetup
  · exact absurd hcall (by simp [new])

/-- **No call waits for ever, as long as no step takes the last task from one.**  A run of a new
runtime has no stranded call exactly when none of its steps strands one.  Then, where channels open
after answers and dials get new ids, a call whose receiver loop has returned before the answer, and
whose setup has finished, was completed by the fallback or by an error. -/
theorem noStrandedCalls_iff {node : BrowserRuntimeNode E} (hspawned : node.Spawned)
    {events : List (RuntimeEvent E)} (hrun : Runs.run step (new node) events = some rt) :
    ((∀ pre post u, events = pre ++ post → Runs.run step (new node) pre = some u →
        ∀ i, ¬ u.Stranded i) ↔
      Runs.Guarded step (fun u ev => ∀ i, ¬ u.Strands ev i) (new node) events) ∧
    (Runs.Guarded step (fun u ev => ∀ i, ¬ u.Strands ev i) (new node) events →
      Runs.Guarded step (fun u ev => u.ChannelAfterAnswer ev ∧ u.FreshDial ev) (new node) events →
      ∀ i call, rt.calls i = some call → rt.loops (.dialer i) = .ended →
        call.sessionKey ∉ rt.answered → rt.setups i = .finished → rt.CompletedWithoutWebRtc i) := by
  have hwf : (new node).WellFormed := wellFormed_new hspawned
  have hiff := not_stranded_iff_guarded hwf hrun
  have hnone : ∀ i, ¬ (new node).Stranded i := by
    rintro i ⟨call, hunanswered, -⟩
    exact absurd hunanswered.started (by simp [new])
  refine ⟨hiff.trans (and_iff_right hnone), fun hstrands hguarded => ?_⟩
  have hall : rt.WellFormed ∧ rt.OpenAfterAnswer ∧ rt.FollowsDecisions := by
    refine Runs.run_invariant_of_guarded
      (I := fun u => u.WellFormed ∧ u.OpenAfterAnswer ∧ u.FollowsDecisions)
      (fun u ev v hu hguard hstep => ?_)
      ⟨hwf, openAfterAnswer_new node, followsDecisions_new node⟩ hguarded hrun
    obtain ⟨hwf, hopen, hfollows⟩ := hu
    exact ⟨hwf.step hstep, hopen.step hwf hguard.1 hguard.2 hstep,
      hfollows.step hwf.registered (step_move hstep)⟩
  obtain ⟨hwf', hopen, hfollows⟩ := hall
  intro i call hcall hloop hanswered hsetup
  refine completedWithoutWebRtc hwf' hopen hfollows hcall hanswered hsetup fun hpending => ?_
  have hstranded : rt.Stranded i := ⟨call, ⟨hcall, hpending, hanswered⟩, hloop, hsetup⟩
  exact hiff.mpr ⟨hnone, hstrands⟩ events [] rt (by simp) hrun i hstranded

end

/-! ## Concrete runs -/

section Sample

open scoped Sample
open Sample BrowserRuntimeNode

/-- A dial to `bob` up to the start of its setup. -/
def dialUpToSetup : List (RuntimeEvent Key) :=
  [.dial bob "chat" .webRtcPreferred, .bootstrapStep 0 true, .bootstrapStep 0 true,
    .bootstrapStep 0 true, .setupStarts 0 (.ok ())]

/-- The setup sends its candidates, and then the stream of the bootstrap channel fails. -/
def strandingRun : List (RuntimeEvent Key) :=
  dialUpToSetup ++ [.offerCreated 0 (.ok ()), .localIce 0 (.ok true), .streamError (.dialer 0)]

/-- The stream fails while the setup still creates the offer, which fails as well. -/
def fallbackRun : List (RuntimeEvent Key) :=
  dialUpToSetup ++ [.streamError (.dialer 0), .offerCreated 0 (.error "no offer")]

/-- **A dial that waits for ever.**  The node is open, no channel has had an event, and the call is
still pending when both of its tasks have gone. -/
theorem strandingRun_strands :
    Runs.Guarded step ChannelAfterAnswer (new sampleNode) strandingRun ∧
      ∃ rt, Runs.run step (new sampleNode) strandingRun = some rt ∧ rt.node.closed = false ∧
        rt.Stranded 0 := by
  refine ⟨Runs.Guarded.of_forall fun ev hev u key event heq => ?_, _, rfl, rfl,
    ⟨⟨.application, bob, "chat", .webRtcPreferred⟩, .ofDialId sampleDialId⟩,
    ⟨rfl, rfl, by decide⟩, rfl, rfl⟩
  subst heq
  exact absurd hev (by simp [strandingRun, dialUpToSetup])

theorem fallbackRun_channelAfterAnswer :
    Runs.Guarded step (fun u ev => u.ChannelAfterAnswer ev ∧ u.FreshDial ev) (new sampleNode)
      fallbackRun := by
  have hchannel : ∀ ev ∈ fallbackRun, ∀ u : BrowserRuntime Key, u.ChannelAfterAnswer ev := by
    intro ev hev u key event heq
    subst heq
    exact absurd hev (by simp [fallbackRun, dialUpToSetup])
  refine ⟨⟨hchannel _ (by simp [fallbackRun, dialUpToSetup]) _, ?_⟩, fun t _ => ?_⟩
  · rintro op hissues remote alpn transportIntent session dialIds rfl -
    rfl
  · refine Runs.Guarded.of_forall fun ev hev u => ⟨hchannel ev (List.mem_cons_of_mem _ hev) u, ?_⟩
    refine freshDial_of_request ?_
    simp at hev
    rcases hev with rfl | rfl | rfl | rfl | rfl <;> rfl

/-- No step of this run strands the call: when its loop returns the setup goes on, and when the
setup fails it completes the call. -/
theorem fallbackRun_not_strands :
    Runs.Guarded step (fun u ev => ∀ i, ¬ u.Strands ev i) (new sampleNode) fallbackRun := by
  refine .cons ?_ rfl (.cons ?_ rfl (.cons ?_ rfl (.cons ?_ rfl (.cons ?_ rfl (.cons ?_ rfl
    (.cons ?_ rfl (.nil _ _)))))))
  · rintro i (⟨-, ⟨⟩, -⟩ | ⟨-, ⟨⟨⟩, -⟩ | ⟨⟨⟩, -⟩, -⟩)
  · rintro i (⟨-, ⟨⟩, -⟩ | ⟨-, ⟨⟨⟩, -⟩ | ⟨⟨⟩, -⟩, -⟩)
  · rintro i (⟨-, ⟨⟩, -⟩ | ⟨-, ⟨⟨⟩, -⟩ | ⟨⟨⟩, -⟩, -⟩)
  · rintro i (⟨-, ⟨⟩, -⟩ | ⟨-, ⟨⟨⟩, -⟩ | ⟨⟨⟩, -⟩, -⟩)
  · rintro i (⟨-, ⟨⟩, -⟩ | ⟨-, ⟨⟨⟩, -⟩ | ⟨-, hclosed⟩, -⟩)
    exact absurd hclosed (by decide)
  · rintro i (⟨-, ⟨-⟩, hsetup⟩ | ⟨-, ⟨⟨⟩, -⟩ | ⟨⟨⟩, -⟩, -⟩)
    exact absurd hsetup (by decide)
  · rintro i (⟨-, ⟨⟩, -⟩ | ⟨-, ⟨⟨⟩, -⟩ | ⟨-, hclosed⟩, -⟩)
    exact absurd hclosed (by decide)

/-- The dial of this run falls back to the relay. -/
theorem fallbackRun_completes :
    ∃ rt, Runs.run step (new sampleNode) fallbackRun = some rt ∧
      (∀ pre post u, fallbackRun = pre ++ post → Runs.run step (new sampleNode) pre = some u →
        ∀ i, ¬ u.Stranded i) ∧
      rt.CompletedWithoutWebRtc 0 := by
  have hrun : ∃ rt, Runs.run step (new sampleNode) fallbackRun = some rt ∧
      rt.calls 0 = some ⟨⟨.application, bob, "chat", .webRtcPreferred⟩, .ofDialId sampleDialId⟩ ∧
      rt.loops (.dialer 0) = .ended ∧ rt.answered = [] ∧ rt.setups 0 = .finished :=
    ⟨_, rfl, rfl, rfl, rfl, rfl⟩
  obtain ⟨rt, hrun, hcall, hloop, hanswered, hsetup⟩ := hrun
  obtain ⟨hiff, hcompleted⟩ := noStrandedCalls_iff sampleNode_spawned hrun
  refine ⟨rt, hrun, hiff.mpr fallbackRun_not_strands, ?_⟩
  exact hcompleted fallbackRun_not_strands fallbackRun_channelAfterAnswer 0 _ hcall hloop
    (by simp [hanswered]) hsetup

end Sample

end BrowserRuntime

end IrohWebRtc
